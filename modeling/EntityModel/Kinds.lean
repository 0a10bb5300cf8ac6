/-!
# EntityModel.Kinds

The closed vocabularies of an entity data model. Each is an `Enumeration`: its words in
declaration order (`Enumeration.all`) and the written form of each (`Enumeration.name`).

* `PrimitiveKind`: the primitive types, with `isIntegral` and `isSpatial`.
* `Multiplicity`, `DeleteAction`, `EndRole`: what an association end may say.
* `ParameterMode`: the direction of a function parameter.
* `NodeKind`: the kinds of node in a model.
* `sortByDeclaration`: a stable sort by declaration order.
-/

namespace EntityModel

/-- A closed vocabulary: its words in declaration order, and how each is written. -/
class Enumeration (α : Type) where
  all : List α
  name : α → String

namespace Enumeration

variable {α : Type} [Enumeration α]

/-- The word written as `text`. -/
def ofName? (text : String) : Option α :=
  (all : List α).find? fun word => name word == text

/-- The place of a word in declaration order. -/
def position [BEq α] (word : α) : Nat :=
  (all : List α).idxOf word

/-- Words in declaration order; equal words stay as they came. -/
def sortByDeclaration [BEq α] (words : List α) : List α :=
  words.mergeSort fun first second => position first ≤ position second

end Enumeration

/-! ## Types -/

/-- The primitive types, in alphabetical order. -/
inductive PrimitiveKind where
  | binary
  | boolean
  | byte
  | dateTime
  | dateTimeOffset
  | decimal
  | double
  | geography
  | geometry
  | guid
  | int16
  | int32
  | int64
  | sbyte
  | single
  | string
  | time
deriving DecidableEq

namespace PrimitiveKind

def name : PrimitiveKind → String
  | binary => "Binary"
  | boolean => "Boolean"
  | byte => "Byte"
  | dateTime => "DateTime"
  | dateTimeOffset => "DateTimeOffset"
  | decimal => "Decimal"
  | double => "Double"
  | geography => "Geography"
  | geometry => "Geometry"
  | guid => "Guid"
  | int16 => "Int16"
  | int32 => "Int32"
  | int64 => "Int64"
  | sbyte => "SByte"
  | single => "Single"
  | string => "String"
  | time => "Time"

instance : Enumeration PrimitiveKind where
  all := [binary, boolean, byte, dateTime, dateTimeOffset, decimal, double, geography, geometry,
    guid, int16, int32, int64, sbyte, single, string, time]
  name := name

instance : ToString PrimitiveKind := ⟨name⟩

/-- The kinds that an enum type may rest on. -/
def isIntegral : PrimitiveKind → Bool
  | byte | sbyte | int16 | int32 | int64 => true
  | _ => false

/-- The kinds that carry a spatial reference. -/
def isSpatial : PrimitiveKind → Bool
  | geography | geometry => true
  | _ => false

end PrimitiveKind

/-! ## Associations -/

/-- How many instances an association end admits. -/
inductive Multiplicity where
  | zeroOrOne
  | one
  | many
deriving DecidableEq

namespace Multiplicity

def name : Multiplicity → String
  | zeroOrOne => "ZeroOrOne"
  | one => "One"
  | many => "Many"

instance : Enumeration Multiplicity where
  all := [zeroOrOne, one, many]
  name := name

instance : Inhabited Multiplicity := ⟨one⟩

end Multiplicity

/-- What happens to the dependent end when the principal is deleted. -/
inductive DeleteAction where
  | none
  | cascade
  | restrict
deriving DecidableEq

namespace DeleteAction

def name : DeleteAction → String
  | none => "None"
  | cascade => "Cascade"
  | restrict => "Restrict"

instance : Enumeration DeleteAction where
  all := [none, cascade, restrict]
  name := name

instance : Inhabited DeleteAction := ⟨none⟩

end DeleteAction

/-- One of the two ends of an association type. -/
inductive EndRole where
  | source
  | target
deriving DecidableEq

namespace EndRole

def name : EndRole → String
  | source => "Source"
  | target => "Target"

instance : Enumeration EndRole where
  all := [source, target]
  name := name

def opposite : EndRole → EndRole
  | source => target
  | target => source

@[simp] theorem opposite_opposite (role : EndRole) : role.opposite.opposite = role := by
  cases role <;> rfl

end EndRole

/-! ## Functions -/

/-- The direction of a function parameter. -/
inductive ParameterMode where
  | inward
  | outward
  | both
deriving DecidableEq

namespace ParameterMode

def name : ParameterMode → String
  | inward => "In"
  | outward => "Out"
  | both => "InOut"

instance : Enumeration ParameterMode where
  all := [inward, outward, both]
  name := name

instance : Inhabited ParameterMode := ⟨inward⟩

end ParameterMode

/-! ## Nodes -/

/-- The kinds of node in a model. -/
inductive NodeKind where
  | model
  | ns
  | complexType
  | entityType
  | enumType
  | enumTypeMember
  | associationType
  | associationEnd
  | associationConstraint
  | entityContainer
  | entitySet
  | associationSet
  | property
  | navigationProperty
  | typeReference
  | primitiveTypeFacets
  | functionGroup
  | functionOverload
  | functionImport
  | functionParameter
deriving DecidableEq

namespace NodeKind

def name : NodeKind → String
  | model => "Model"
  | ns => "Namespace"
  | complexType => "ComplexType"
  | entityType => "EntityType"
  | enumType => "EnumType"
  | enumTypeMember => "EnumTypeMember"
  | associationType => "AssociationType"
  | associationEnd => "AssociationEnd"
  | associationConstraint => "AssociationConstraint"
  | entityContainer => "EntityContainer"
  | entitySet => "EntitySet"
  | associationSet => "AssociationSet"
  | property => "Property"
  | navigationProperty => "NavigationProperty"
  | typeReference => "TypeReference"
  | primitiveTypeFacets => "PrimitiveTypeFacets"
  | functionGroup => "FunctionGroup"
  | functionOverload => "FunctionOverload"
  | functionImport => "FunctionImport"
  | functionParameter => "FunctionParameter"

instance : Enumeration NodeKind where
  all := [model, ns, complexType, entityType, enumType, enumTypeMember, associationType,
    associationEnd, associationConstraint, entityContainer, entitySet, associationSet, property,
    navigationProperty, typeReference, primitiveTypeFacets, functionGroup, functionOverload,
    functionImport, functionParameter]
  name := name

instance : ToString NodeKind := ⟨name⟩

end NodeKind

end EntityModel
