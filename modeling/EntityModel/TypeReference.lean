import EntityModel.Item

/-!
# EntityModel.TypeReference

References to types. A `TypeReference` names a primitive kind or, by qualified name, a declared
type (`ReferencedType`), and may refine it by `Facets`.
-/

namespace EntityModel

/-- Constraints on a primitive type; each is given or absent. Facets carry no annotations. -/
structure Facets where
  maxLength : Option UInt32 := none
  isMaxLength : Option Bool := none
  isUnicode : Option Bool := none
  isFixedLength : Option Bool := none
  precision : Option UInt8 := none
  scale : Option UInt8 := none
  srid : Option Int32 := none
  isVariableSrid : Option Bool := none
deriving DecidableEq

namespace Facets

def ofMaxLength (length : UInt32) : Facets :=
  { maxLength := some length }

def ofDecimal (precision scale : UInt8) : Facets :=
  { precision := some precision, scale := some scale }

end Facets

/-- The type that is referred to; a declared type is given by its qualified name. -/
inductive ReferencedType where
  | primitive (kind : PrimitiveKind)
  | complex (name : String)
  | enum (name : String)
  | entity (name : String)
deriving DecidableEq

namespace ReferencedType

/-- How the referenced type is written. -/
def target : ReferencedType → String
  | primitive kind => kind.name
  | complex name => name
  | enum name => name
  | entity name => name

def isSpatial : ReferencedType → Bool
  | primitive kind => kind.isSpatial
  | _ => false

end ReferencedType

structure TypeReference where
  referenced : ReferencedType
  annotations : Annotations AnnotationValue := {}
  nullable : Option Bool := none
  facets : Option Facets := none

instance : MetadataNode TypeReference where
  kind := .typeReference
  annotations := TypeReference.annotations
  setAnnotations store node := { node with annotations := store }

end EntityModel
