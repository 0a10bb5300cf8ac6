import EntityModel.TypeReference

/-!
# EntityModel.Function

Function nodes. A namespace declares function groups, whose overloads have no name and are told
apart by position; a container declares function imports. A traversal reaches both only for a
visitor that asks for them.
-/

namespace EntityModel

structure FunctionParameter where
  name : String
  type : TypeReference
  annotations : Annotations AnnotationValue := {}
  mode : ParameterMode := .inward

instance : NamedNode FunctionParameter where
  kind := .functionParameter
  annotations := FunctionParameter.annotations
  setAnnotations store node := { node with annotations := store }
  name := FunctionParameter.name

structure FunctionOverload where
  annotations : Annotations AnnotationValue := {}
  returnType : Option TypeReference := none
  parameters : List FunctionParameter := []

instance : MetadataNode FunctionOverload where
  kind := .functionOverload
  annotations := FunctionOverload.annotations
  setAnnotations store node := { node with annotations := store }

def FunctionOverload.addParameter (node : FunctionOverload) (parameter : FunctionParameter) :
    FunctionOverload :=
  { node with parameters := node.parameters ++ [parameter] }

structure FunctionGroup where
  name : String
  annotations : Annotations AnnotationValue := {}
  overloads : List FunctionOverload := []

instance : NamedNode FunctionGroup where
  kind := .functionGroup
  annotations := FunctionGroup.annotations
  setAnnotations store node := { node with annotations := store }
  name := FunctionGroup.name

def FunctionGroup.addOverload (node : FunctionGroup) (overload : FunctionOverload) :
    FunctionGroup :=
  { node with overloads := node.overloads ++ [overload] }

structure FunctionImport where
  name : String
  annotations : Annotations AnnotationValue := {}
  returnType : Option TypeReference := none
  parameters : List FunctionParameter := []

instance : NamedNode FunctionImport where
  kind := .functionImport
  annotations := FunctionImport.annotations
  setAnnotations store node := { node with annotations := store }
  name := FunctionImport.name

def FunctionImport.addParameter (node : FunctionImport) (parameter : FunctionParameter) :
    FunctionImport :=
  { node with parameters := node.parameters ++ [parameter] }

end EntityModel
