import EntityModel.Kinds

/-!
# EntityModel.Visit.Point

The dispatch points: every place at which a visitor may step in, tier by tier, collection by
collection and node by node. `Point.rank` bounds the depth below a point: what a point descends to
has a smaller rank.
-/

namespace EntityModel

inductive Point where
  | dataModelItem
  | metadataItem
  | namedItem
  | namespaceItem
  | annotations
  | annotationEntry
  | model
  | namespaces
  | entityContainers
  | ns
  | complexTypes
  | complexType
  | complexTypeProperties
  | entityTypes
  | entityType
  | declaredKeyProperties
  | declaredProperties
  | declaredNavigationProperties
  | enumTypes
  | enumType
  | enumMembers
  | enumMember
  | associationTypes
  | associationType
  | associationEnd
  | associationConstraint
  | entityContainer
  | entitySets
  | entitySet
  | associationSets
  | associationSet
  | associationSetEnd
  | property
  | navigationProperty
  | typeReference
  | primitiveTypeFacets
  | functionGroups
  | functionGroup
  | functionOverloads
  | functionOverload
  | functionOverloadParameters
  | functionImports
  | functionImport
  | functionImportParameters
  | functionParameter
deriving DecidableEq

namespace Point

def name : Point → String
  | dataModelItem => "DataModelItem"
  | metadataItem => "MetadataItem"
  | namedItem => "NamedItem"
  | namespaceItem => "NamespaceItem"
  | annotations => "Annotations"
  | annotationEntry => "Annotation"
  | model => "Model"
  | namespaces => "Namespaces"
  | entityContainers => "EntityContainers"
  | ns => "Namespace"
  | complexTypes => "ComplexTypes"
  | complexType => "ComplexType"
  | complexTypeProperties => "ComplexTypeProperties"
  | entityTypes => "EntityTypes"
  | entityType => "EntityType"
  | declaredKeyProperties => "DeclaredKeyProperties"
  | declaredProperties => "DeclaredProperties"
  | declaredNavigationProperties => "DeclaredNavigationProperties"
  | enumTypes => "EnumTypes"
  | enumType => "EnumType"
  | enumMembers => "EnumMembers"
  | enumMember => "EnumMember"
  | associationTypes => "AssociationTypes"
  | associationType => "AssociationType"
  | associationEnd => "AssociationEnd"
  | associationConstraint => "AssociationConstraint"
  | entityContainer => "EntityContainer"
  | entitySets => "EntitySets"
  | entitySet => "EntitySet"
  | associationSets => "AssociationSets"
  | associationSet => "AssociationSet"
  | associationSetEnd => "AssociationSetEnd"
  | property => "Property"
  | navigationProperty => "NavigationProperty"
  | typeReference => "TypeReference"
  | primitiveTypeFacets => "PrimitiveTypeFacets"
  | functionGroups => "FunctionGroups"
  | functionGroup => "FunctionGroup"
  | functionOverloads => "FunctionOverloads"
  | functionOverload => "FunctionOverload"
  | functionOverloadParameters => "FunctionOverloadParameters"
  | functionImports => "FunctionImports"
  | functionImport => "FunctionImport"
  | functionImportParameters => "FunctionImportParameters"
  | functionParameter => "FunctionParameter"

instance : Enumeration Point where
  all := [dataModelItem, metadataItem, namedItem, namespaceItem, annotations, annotationEntry,
    model,
    namespaces, entityContainers, ns, complexTypes, complexType, complexTypeProperties,
    entityTypes, entityType, declaredKeyProperties, declaredProperties,
    declaredNavigationProperties, enumTypes, enumType, enumMembers, enumMember, associationTypes,
    associationType, associationEnd, associationConstraint, entityContainer, entitySets,
    entitySet, associationSets, associationSet, associationSetEnd, property, navigationProperty,
    typeReference, primitiveTypeFacets, functionGroups, functionGroup, functionOverloads,
    functionOverload, functionOverloadParameters, functionImports, functionImport,
    functionImportParameters, functionParameter]
  name := name

/-- A bound on the depth of the descent below a point. -/
def rank : Point → Nat
  | dataModelItem => 0
  | annotationEntry => 0
  | annotations => 1
  | primitiveTypeFacets => 1
  | metadataItem => 2
  | namedItem => 3
  | typeReference => 3
  | namespaceItem => 4
  | property => 4
  | navigationProperty => 4
  | enumMember => 4
  | associationEnd => 4
  | entitySet => 4
  | associationSetEnd => 4
  | functionParameter => 4
  | complexTypeProperties => 5
  | declaredKeyProperties => 5
  | declaredProperties => 5
  | declaredNavigationProperties => 5
  | enumMembers => 5
  | associationConstraint => 5
  | entitySets => 5
  | associationSet => 5
  | functionOverloadParameters => 5
  | functionImportParameters => 5
  | complexType => 6
  | entityType => 6
  | enumType => 6
  | associationType => 6
  | associationSets => 6
  | functionOverload => 6
  | functionImport => 6
  | complexTypes => 7
  | entityTypes => 7
  | enumTypes => 7
  | associationTypes => 7
  | functionOverloads => 7
  | functionImports => 7
  | functionGroup => 8
  | functionGroups => 9
  | ns => 10
  | entityContainer => 10
  | namespaces => 11
  | entityContainers => 11
  | model => 12

end Point

end EntityModel
