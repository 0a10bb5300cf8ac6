import EntityModel.Proofs.LogRun
import EntityModel.Model.Assembly

/-!
# EntityModel.Proofs.Trimming

Graphs with something left out.

* `Trim`: what is left out of a graph. The payload is all that says more about a node without naming
  another: versions, flags, multiplicities and the like. Of the facets it leaves only whether the
  spatial ones are there.
* `Model.trim`, `Namespace.trim` and so on: the graph without it.
* `Declaration.trim?`: a declaration without it, if anything is left.
* `Model.assemble_trim`: trimmed declarations describe the trimmed model.
* `findNamed?_map`: a look-up by name in trimmed nodes finds the trimmed node.
-/

namespace EntityModel

/-- Which parts of a graph are kept. -/
structure Trim where
  annotations : Bool := true
  payload : Bool := true
  functions : Bool := true

namespace Trim

/-- A piece of payload, or what stands for it if it is left out. -/
def value {α : Type} (t : Trim) (given absent : α) : α :=
  if t.payload then given else absent

def functionNodes {α : Type} (t : Trim) (nodes : List α) : List α :=
  if t.functions then nodes else []

end Trim

section Nodes

variable (t : Trim)

def Annotations.trim (store : Annotations AnnotationValue) : Annotations AnnotationValue :=
  if t.annotations then store else {}

def MetadataItem.trim (item : MetadataItem) : MetadataItem :=
  { item with annotations := item.annotations.trim t }

def NamedItem.trim (item : NamedItem) : NamedItem :=
  { item with annotations := item.annotations.trim t }

def Facets.trim (facets : Facets) : Facets :=
  t.value facets
    { srid := facets.srid.map fun _ => 0
      isVariableSrid := facets.isVariableSrid.map fun _ => false }

def TypeReference.trim (node : TypeReference) : TypeReference :=
  { node with
    annotations := node.annotations.trim t
    nullable := t.value node.nullable none
    facets := node.facets.map (Facets.trim t) }

def Property.trim (node : Property) : Property :=
  { node with annotations := node.annotations.trim t, type := node.type.trim t }

def NavigationProperty.trim (node : NavigationProperty) : NavigationProperty :=
  { node with annotations := node.annotations.trim t, origin := t.value node.origin .source }

def ComplexType.trim (node : ComplexType) : ComplexType :=
  { node with
    annotations := node.annotations.trim t
    isAbstract := t.value node.isAbstract false
    properties := node.properties.map (Property.trim t) }

def EntityType.trim (node : EntityType) : EntityType :=
  { node with
    annotations := node.annotations.trim t
    isAbstract := t.value node.isAbstract false
    properties := node.properties.map (Property.trim t)
    navigationProperties := node.navigationProperties.map (NavigationProperty.trim t) }

def EnumTypeMember.trim (node : EnumTypeMember) : EnumTypeMember :=
  { node with annotations := node.annotations.trim t, value := t.value node.value 0 }

def EnumType.trim (node : EnumType) : EnumType :=
  { node with
    annotations := node.annotations.trim t
    isFlags := t.value node.isFlags false
    members := node.members.map (EnumTypeMember.trim t) }

def AssociationEnd.trim (node : AssociationEnd) : AssociationEnd :=
  { node with
    annotations := node.annotations.trim t
    multiplicity := t.value node.multiplicity .one
    deleteAction := t.value node.deleteAction none }

def AssociationConstraint.trim (node : AssociationConstraint) : AssociationConstraint :=
  { node with annotations := node.annotations.trim t }

def AssociationType.trim (node : AssociationType) : AssociationType :=
  { node with
    annotations := node.annotations.trim t
    source := node.source.trim t
    target := node.target.trim t
    referentialConstraint := node.referentialConstraint.map (AssociationConstraint.trim t) }

def FunctionParameter.trim (node : FunctionParameter) : FunctionParameter :=
  { node with
    annotations := node.annotations.trim t
    type := node.type.trim t
    mode := t.value node.mode .inward }

def FunctionOverload.trim (node : FunctionOverload) : FunctionOverload where
  annotations := node.annotations.trim t
  returnType := node.returnType.map (TypeReference.trim t)
  parameters := node.parameters.map (FunctionParameter.trim t)

def FunctionGroup.trim (node : FunctionGroup) : FunctionGroup :=
  { node with
    annotations := node.annotations.trim t
    overloads := node.overloads.map (FunctionOverload.trim t) }

def FunctionImport.trim (node : FunctionImport) : FunctionImport :=
  { node with
    annotations := node.annotations.trim t
    returnType := node.returnType.map (TypeReference.trim t)
    parameters := node.parameters.map (FunctionParameter.trim t) }

def Namespace.trim (node : Namespace) : Namespace :=
  { node with
    annotations := node.annotations.trim t
    complexTypes := node.complexTypes.map (ComplexType.trim t)
    entityTypes := node.entityTypes.map (EntityType.trim t)
    enumTypes := node.enumTypes.map (EnumType.trim t)
    associationTypes := node.associationTypes.map (AssociationType.trim t)
    functionGroups := t.functionNodes (node.functionGroups.map (FunctionGroup.trim t)) }

def EntitySet.trim (node : EntitySet) : EntitySet :=
  { node with annotations := node.annotations.trim t }

def AssociationSet.trim (node : AssociationSet) : AssociationSet :=
  { node with annotations := node.annotations.trim t }

def EntityContainer.trim (node : EntityContainer) : EntityContainer :=
  { node with
    annotations := node.annotations.trim t
    entitySets := node.entitySets.map (EntitySet.trim t)
    associationSets := node.associationSets.map (AssociationSet.trim t)
    functionImports := t.functionNodes (node.functionImports.map (FunctionImport.trim t)) }

def Model.trim (node : Model) : Model :=
  { node with
    annotations := node.annotations.trim t
    version := t.value node.version defaultSchemaVersion
    namespaces := node.namespaces.map (Namespace.trim t)
    containers := node.containers.map (EntityContainer.trim t) }

/-! ## Declarations -/

/-- What is left of a declaration, if anything is. -/
def Declaration.trim? : Declaration → Option Declaration
  | .version given => some (.version (t.value given defaultSchemaVersion))
  | .annotate key value => if t.annotations then some (.annotate key value) else none
  | .ns item => some (.ns (item.trim t))
  | .container item => some (.container (item.trim t))

variable {t}

theorem Model.declare_trim (m : Model) (declaration : Declaration) :
    (m.declare declaration).trim t =
      (declaration.trim? t).elim (m.trim t) fun rest => (m.trim t).declare rest := by
  cases declaration with
  | version version => rfl
  | annotate key value =>
    cases ha : t.annotations <;>
      simp [declare, Declaration.trim?, trim, EntityModel.annotate, MetadataNode.setAnnotations,
        MetadataNode.annotations, Annotations.trim, ha]
  | ns item => simp [declare, addNamespace, trim, Declaration.trim?]
  | container item => simp [declare, addContainer, trim, Declaration.trim?]

theorem Model.foldl_declare_trim (declarations : List Declaration) (m : Model) :
    (declarations.foldl declare m).trim t =
      (declarations.filterMap (Declaration.trim? t)).foldl declare (m.trim t) := by
  induction declarations generalizing m with
  | nil => rfl
  | cons declaration rest ih =>
    rw [List.foldl_cons, ih, declare_trim]
    cases h : declaration.trim? t with
    | none => rw [List.filterMap_cons_none h, Option.elim_none]
    | some kept => rw [List.filterMap_cons_some h, Option.elim_some, List.foldl_cons]

theorem Model.assemble_trim (name : String) (declarations : List Declaration) :
    assemble name (declarations.filterMap (Declaration.trim? t)) =
      (assemble name declarations).trim t := by
  have hstart : ({ name := name } : Model).trim t = { name := name } := by
    simp [trim, Annotations.trim, Trim.value]
  rw [assemble, assemble, foldl_declare_trim, hstart]

end Nodes

/-! ## Look-up -/

theorem findNamed?_map {α : Type} [NamedNode α] {f : α → α}
    (hf : ∀ node, NamedNode.name (f node) = NamedNode.name node) (name : String) (nodes : List α) :
    findNamed? name (nodes.map f) = (findNamed? name nodes).map f := by
  rw [findNamed?, findNamed?, List.find?_map]
  congr 2
  funext node
  rw [Function.comp_apply, hf]

section LookUp

variable {t : Trim}

theorem EntityType.findProperty?_trim (item : EntityType) (name : String) :
    (item.trim t).findProperty? name = (item.findProperty? name).map (Property.trim t) :=
  findNamed?_map (f := Property.trim t) (fun _ => rfl) name item.properties

theorem Namespace.findEntityType?_trim (ns : Namespace) (name : String) :
    (ns.trim t).findEntityType? name = (ns.findEntityType? name).map (EntityType.trim t) :=
  findNamed?_map (f := EntityType.trim t) (fun _ => rfl) name ns.entityTypes

theorem Namespace.findAssociationType?_trim (ns : Namespace) (name : String) :
    (ns.trim t).findAssociationType? name =
      (ns.findAssociationType? name).map (AssociationType.trim t) :=
  findNamed?_map (f := AssociationType.trim t) (fun _ => rfl) name ns.associationTypes

theorem Namespace.findComplexType?_trim (ns : Namespace) (name : String) :
    (ns.trim t).findComplexType? name = (ns.findComplexType? name).map (ComplexType.trim t) :=
  findNamed?_map (f := ComplexType.trim t) (fun _ => rfl) name ns.complexTypes

theorem Namespace.findEnumType?_trim (ns : Namespace) (name : String) :
    (ns.trim t).findEnumType? name = (ns.findEnumType? name).map (EnumType.trim t) :=
  findNamed?_map (f := EnumType.trim t) (fun _ => rfl) name ns.enumTypes

theorem EntityContainer.findEntitySet?_trim (container : EntityContainer) (name : String) :
    (container.trim t).findEntitySet? name =
      (container.findEntitySet? name).map (EntitySet.trim t) :=
  findNamed?_map (f := EntitySet.trim t) (fun _ => rfl) name container.entitySets

theorem Annotations.trim_of_kept (ha : t.annotations = true) (store : Annotations AnnotationValue) :
    store.trim t = store := by
  simp [trim, ha]

theorem Annotations.trim_of_dropped (ha : t.annotations = false)
    (store : Annotations AnnotationValue) : store.trim t = {} := by
  simp [trim, ha]

theorem AssociationType.endOf_trim (item : AssociationType) (role : EndRole) :
    (item.trim t).endOf role = (item.endOf role).trim t := by
  cases role <;> rfl

end LookUp

end EntityModel
