import EntityModel.Model
import EntityModel.Visit.Point

/-!
# EntityModel.Visit.Call

Dispatches with their arguments. A `Call` is what a visitor is handed: the point, and the node,
collection or tier item that is visited there, with the owner where the point has one.

* `Call.point`: the dispatch point.
* `Call.name?`: the name that a log keeps of a call: the node's own name, the owner's for a
  collection, the key for an annotation.
* `Call.label?`: the name by which a script picks calls out; where a log keeps none it falls back on
  the kind of the item or on the referenced type.
-/

namespace EntityModel

inductive Call where
  | dataModelItem (kind : NodeKind)
  | metadataItem (item : MetadataItem)
  | namedItem (item : NamedItem)
  | namespaceItem (item : NamedItem)
  | annotations (item : MetadataItem) (store : Annotations AnnotationValue)
  | annotationEntry (item : MetadataItem) (entry : AnnotationEntry AnnotationValue)
  | model (item : Model)
  | namespaces (owner : Model) (items : List Namespace)
  | entityContainers (owner : Model) (items : List EntityContainer)
  | ns (item : Namespace)
  | complexTypes (owner : Namespace) (items : List ComplexType)
  | complexType (item : ComplexType)
  | complexTypeProperties (owner : ComplexType) (items : List Property)
  | entityTypes (owner : Namespace) (items : List EntityType)
  | entityType (item : EntityType)
  | declaredKeyProperties (owner : EntityType) (key : List String)
  | declaredProperties (owner : EntityType) (items : List Property)
  | declaredNavigationProperties (owner : EntityType) (items : List NavigationProperty)
  | enumTypes (owner : Namespace) (items : List EnumType)
  | enumType (item : EnumType)
  | enumMembers (owner : EnumType) (items : List EnumTypeMember)
  | enumMember (item : EnumTypeMember)
  | associationTypes (owner : Namespace) (items : List AssociationType)
  | associationType (owner : Namespace) (item : AssociationType)
  | associationEnd (item : AssociationEnd)
  | associationConstraint (owner : Namespace) (association : AssociationType)
      (item : AssociationConstraint)
  | entityContainer (item : EntityContainer)
  | entitySets (owner : EntityContainer) (items : List EntitySet)
  | entitySet (item : EntitySet)
  | associationSets (owner : EntityContainer) (items : List AssociationSet)
  | associationSet (owner : EntityContainer) (item : AssociationSet)
  | associationSetEnd (item : EntitySet)
  | property (item : Property)
  | navigationProperty (item : NavigationProperty)
  | typeReference (item : TypeReference)
  | primitiveTypeFacets (item : Facets)
  | functionGroups (owner : Namespace) (items : List FunctionGroup)
  | functionGroup (item : FunctionGroup)
  | functionOverloads (owner : FunctionGroup) (items : List FunctionOverload)
  | functionOverload (item : FunctionOverload)
  | functionOverloadParameters (owner : FunctionOverload) (items : List FunctionParameter)
  | functionImports (owner : EntityContainer) (items : List FunctionImport)
  | functionImport (item : FunctionImport)
  | functionImportParameters (owner : FunctionImport) (items : List FunctionParameter)
  | functionParameter (item : FunctionParameter)

namespace Call

def point : Call → Point
  | dataModelItem _ => .dataModelItem
  | metadataItem _ => .metadataItem
  | namedItem _ => .namedItem
  | namespaceItem _ => .namespaceItem
  | annotations _ _ => .annotations
  | annotationEntry _ _ => .annotationEntry
  | model _ => .model
  | namespaces _ _ => .namespaces
  | entityContainers _ _ => .entityContainers
  | ns _ => .ns
  | complexTypes _ _ => .complexTypes
  | complexType _ => .complexType
  | complexTypeProperties _ _ => .complexTypeProperties
  | entityTypes _ _ => .entityTypes
  | entityType _ => .entityType
  | declaredKeyProperties _ _ => .declaredKeyProperties
  | declaredProperties _ _ => .declaredProperties
  | declaredNavigationProperties _ _ => .declaredNavigationProperties
  | enumTypes _ _ => .enumTypes
  | enumType _ => .enumType
  | enumMembers _ _ => .enumMembers
  | enumMember _ => .enumMember
  | associationTypes _ _ => .associationTypes
  | associationType _ _ => .associationType
  | associationEnd _ => .associationEnd
  | associationConstraint _ _ _ => .associationConstraint
  | entityContainer _ => .entityContainer
  | entitySets _ _ => .entitySets
  | entitySet _ => .entitySet
  | associationSets _ _ => .associationSets
  | associationSet _ _ => .associationSet
  | associationSetEnd _ => .associationSetEnd
  | property _ => .property
  | navigationProperty _ => .navigationProperty
  | typeReference _ => .typeReference
  | primitiveTypeFacets _ => .primitiveTypeFacets
  | functionGroups _ _ => .functionGroups
  | functionGroup _ => .functionGroup
  | functionOverloads _ _ => .functionOverloads
  | functionOverload _ => .functionOverload
  | functionOverloadParameters _ _ => .functionOverloadParameters
  | functionImports _ _ => .functionImports
  | functionImport _ => .functionImport
  | functionImportParameters _ _ => .functionImportParameters
  | functionParameter _ => .functionParameter

def rank (c : Call) : Nat := c.point.rank

/-- The name that a log keeps of a call. -/
def name? : Call → Option String
  | dataModelItem _ => none
  | metadataItem _ => none
  | namedItem item => some item.name
  | namespaceItem item => some item.name
  | annotations _ _ => none
  | annotationEntry _ entry => some entry.key
  | model item => some item.name
  | namespaces owner _ => some owner.name
  | entityContainers owner _ => some owner.name
  | ns item => some item.name
  | complexTypes owner _ => some owner.name
  | complexType item => some item.name
  | complexTypeProperties owner _ => some owner.name
  | entityTypes owner _ => some owner.name
  | entityType item => some item.name
  | declaredKeyProperties owner _ => some owner.name
  | declaredProperties owner _ => some owner.name
  | declaredNavigationProperties owner _ => some owner.name
  | enumTypes owner _ => some owner.name
  | enumType item => some item.name
  | enumMembers owner _ => some owner.name
  | enumMember item => some item.name
  | associationTypes owner _ => some owner.name
  | associationType _ item => some item.name
  | associationEnd item => some item.name
  | associationConstraint _ association _ => some association.name
  | entityContainer item => some item.name
  | entitySets owner _ => some owner.name
  | entitySet item => some item.name
  | associationSets owner _ => some owner.name
  | associationSet _ item => some item.name
  | associationSetEnd item => some item.name
  | property item => some item.name
  | navigationProperty item => some item.name
  | typeReference _ => none
  | primitiveTypeFacets _ => none
  | functionGroups owner _ => some owner.name
  | functionGroup item => some item.name
  | functionOverloads owner _ => some owner.name
  | functionOverload _ => none
  | functionOverloadParameters _ _ => none
  | functionImports owner _ => some owner.name
  | functionImport item => some item.name
  | functionImportParameters owner _ => some owner.name
  | functionParameter item => some item.name

/-- The name by which a script picks a call out. -/
def label? : Call → Option String
  | dataModelItem kind => some kind.name
  | metadataItem item => some item.kind.name
  | annotations item _ => some item.kind.name
  | typeReference item => some item.referenced.target
  | c => c.name?

end Call

end EntityModel
