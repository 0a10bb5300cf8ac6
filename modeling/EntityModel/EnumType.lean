import EntityModel.Item

/-!
# EntityModel.EnumType

Enum types and their members.
-/

namespace EntityModel

structure EnumTypeMember where
  name : String
  value : Int64
  annotations : Annotations AnnotationValue := {}

instance : NamedNode EnumTypeMember where
  kind := .enumTypeMember
  annotations := EnumTypeMember.annotations
  setAnnotations store node := { node with annotations := store }
  name := EnumTypeMember.name

structure EnumType where
  name : String
  annotations : Annotations AnnotationValue := {}
  underlyingType : PrimitiveKind := .int32
  isFlags : Bool := false
  members : List EnumTypeMember := []

instance : NamedNode EnumType where
  kind := .enumType
  annotations := EnumType.annotations
  setAnnotations store node := { node with annotations := store }
  name := EnumType.name

def EnumType.addMember (node : EnumType) (item : EnumTypeMember) : EnumType :=
  { node with members := node.members ++ [item] }

end EntityModel
