import EntityModel.Proofs.LogRun

/-!
# EntityModel.Proofs.RecordedNames

The names that a traversal records, point by point, read off the graph.

* `Call.namesAt`: the names recorded at a point in the dispatch of a call.
* `Model.namesAt` and the like: the same for a node, by ownership and by reference, without the walk.
  An owner's name is recorded once for each of its collections that is not empty.
* `Call.namesAt_model`: both agree on traversable models.
* `Model.VisitsInOrder`: at each kind of node, the names of all nodes of the kind in declaration
  order, and where references are followed those that they name.
* `Model.build_visits_in_order`: so it is for every traversal of a built model.
-/

namespace EntityModel

/-! ## Names at a point -/

/-- The names, if they are recorded at the point that is asked for. -/
def Point.select (asked point : Point) (names : List String) : List String :=
  if point = asked then names else []

/-- The owner's name, if its collection is recorded at the point that is asked for. An empty
collection is not recorded. -/
def Point.selectOwner {α : Type} (asked point : Point) (items : List α) (owner : Option String) :
    List String :=
  if items.isEmpty then [] else asked.select point owner.toList

@[simp] theorem Point.select_nil (asked point : Point) : asked.select point [] = [] :=
  ite_self []

theorem Point.flatMap_select {α : Type} (asked point : Point) (items : List α) (f : α → String) :
    (items.flatMap fun item => asked.select point [f item]) = asked.select point (items.map f) := by
  unfold select
  split
  · exact List.map_eq_flatMap.symm
  · simp

def Call.nameAt? (asked : Point) (c : Call) : Option String :=
  if c.point = asked then c.name? else none

def Call.namesAt (route : Route) (asked : Point) (c : Call) : List String :=
  (c.opened route).filterMap (nameAt? asked)

def Step.namesAt (route : Route) (asked : Point) (step : Step) : List String :=
  (step.opened route).filterMap (Call.nameAt? asked)

section Names

variable {route : Route} {asked : Point}

theorem Call.toList_nameAt? (c : Call) :
    (c.nameAt? asked).toList = asked.select c.point c.name?.toList := by
  unfold nameAt? Point.select
  split <;> rfl

@[simp] theorem Step.namesAt_enter (kind : NodeKind) (name? : Option String) :
    (enter kind name?).namesAt route asked = [] := rfl

@[simp] theorem Step.namesAt_call (target : Call) :
    (call target).namesAt route asked = target.namesAt route asked := rfl

@[simp] theorem Step.namesAt_functions (target : Call) :
    (functions target).namesAt route asked =
      if route.functions then target.namesAt route asked else [] := by
  rw [namesAt, opened, events]
  split <;> rfl

theorem Step.flatMap_namesAt_collection {α : Type} (items : List α) (f : α → Call) :
    (items.map fun item => Step.call (f item)).flatMap (namesAt route asked) =
      items.flatMap fun item => (f item).namesAt route asked :=
  List.flatMap_map _ _ _

variable (hr : ∀ point, route.skips point = false)
include hr

theorem Call.namesAt_eq (c : Call) :
    c.namesAt route asked =
      asked.select c.point c.name?.toList ++ c.steps.flatMap (Step.namesAt route asked) := by
  rw [namesAt, opened_eq hr, ← toList_nameAt?, List.filterMap_cons, List.filterMap_flatMap]
  cases c.nameAt? asked <;> rfl

variable (ht : asked.isTier = false)
include ht

theorem Call.namesAt_tier {c : Call} (h : c.point.isTier = true) : c.namesAt route asked = [] := by
  rw [namesAt, List.filterMap_eq_nil_iff]
  intro d hd
  have hd' := isTier_of_mem_opened hr h d hd
  rw [nameAt?, if_neg]
  rintro rfl
  rw [ht] at hd'
  cases hd'

theorem Step.flatMap_namesAt_unnamed (item : MetadataItem) :
    (unnamed item).flatMap (namesAt route asked) = [] := by
  simp [unnamed, Call.namesAt_tier hr ht (c := .metadataItem item) rfl]

theorem Step.flatMap_namesAt_named (item : NamedItem) :
    (named item).flatMap (namesAt route asked) = [] := by
  simp [named, Call.namesAt_tier hr ht (c := .namedItem item) rfl]

theorem Step.flatMap_namesAt_namespaced (item : NamedItem) :
    (namespaced item).flatMap (namesAt route asked) = [] := by
  simp [namespaced, Call.namesAt_tier hr ht (c := .namespaceItem item) rfl]

omit ht in
/-- A collection that is not empty is recorded once under its owner, and then its items. -/
theorem Step.flatMap_namesAt_unlessEmpty {α : Type} {items : List α} {target : Call}
    {f : α → List String}
    (h : target.steps.flatMap (namesAt route asked) = items.flatMap f) :
    (unlessEmpty items (call target)).flatMap (namesAt route asked) =
      asked.selectOwner target.point items target.name? ++ items.flatMap f := by
  cases items with
  | nil => rfl
  | cons first rest =>
    rw [unlessEmpty, List.isEmpty_cons, if_neg Bool.false_ne_true, List.flatMap_singleton,
      namesAt_call, Call.namesAt_eq hr, h]
    rfl

omit ht in
theorem Step.flatMap_namesAt_unlessEmpty_functions {α : Type} {items : List α} {target : Call}
    {f : α → List String}
    (h : target.steps.flatMap (namesAt route asked) = items.flatMap f) :
    (unlessEmpty items (functions target)).flatMap (namesAt route asked) =
      if route.functions then
        asked.selectOwner target.point items target.name? ++ items.flatMap f
      else [] := by
  have hcall := flatMap_namesAt_unlessEmpty hr h
  cases items with
  | nil => exact (ite_self []).symm
  | cons first rest =>
    rw [unlessEmpty, List.isEmpty_cons, if_neg Bool.false_ne_true, List.flatMap_singleton] at hcall ⊢
    rw [namesAt_functions, ← hcall, namesAt_call]

/-! ## Members -/

theorem Call.namesAt_of_named {c : Call} {item : NamedItem} (h : c.steps = Step.named item) :
    c.namesAt route asked = asked.select c.point c.name?.toList := by
  rw [namesAt_eq hr, h, Step.flatMap_namesAt_named hr ht, List.append_nil]

theorem Call.namesAt_primitiveTypeFacets (item : Facets) :
    (primitiveTypeFacets item).namesAt route asked = [] := by
  rw [namesAt_eq hr]
  simp [steps, name?, namesAt_tier hr ht (c := .dataModelItem .primitiveTypeFacets) rfl]

/-- A type reference and what is below it have no names. -/
theorem Call.namesAt_typeReference (item : TypeReference) :
    (typeReference item).namesAt route asked = [] := by
  rw [namesAt_eq hr, steps, List.flatMap_append, Step.flatMap_namesAt_unnamed hr ht]
  cases item.facets with
  | none => simp [name?]
  | some facets => simp [name?, namesAt_primitiveTypeFacets hr ht]

theorem Step.flatMap_namesAt_returnType (reference? : Option TypeReference) :
    (returnType reference?).flatMap (namesAt route asked) = [] := by
  cases reference? with
  | none => rfl
  | some reference => simp [returnType, Call.namesAt_typeReference hr ht]

theorem Call.namesAt_property (item : Property) :
    (property item).namesAt route asked = asked.select .property [item.name] := by
  rw [namesAt_eq hr, steps, List.flatMap_append, Step.flatMap_namesAt_named hr ht]
  simp [namesAt_typeReference hr ht, point, name?]

theorem Call.namesAt_functionParameter (item : FunctionParameter) :
    (functionParameter item).namesAt route asked = asked.select .functionParameter [item.name] := by
  rw [namesAt_eq hr, steps, List.flatMap_append, Step.flatMap_namesAt_named hr ht]
  simp [namesAt_typeReference hr ht, point, name?]

end Names

/-! ## Names of a node -/

def ComplexType.namesAt (asked : Point) (item : ComplexType) : List String :=
  asked.select .complexType [item.name] ++
    asked.selectOwner .complexTypeProperties item.properties (some item.name) ++
    asked.select .property (item.properties.map (·.name))

/-- Every name of a key stands for a visit of the property that it names. -/
def EntityType.namesAt (asked : Point) (item : EntityType) : List String :=
  asked.select .entityType [item.name] ++
    asked.selectOwner .declaredKeyProperties item.key (some item.name) ++
    asked.select .property item.key ++
    asked.selectOwner .declaredProperties item.properties (some item.name) ++
    asked.select .property (item.properties.map (·.name)) ++
    asked.selectOwner .declaredNavigationProperties item.navigationProperties (some item.name) ++
    asked.select .navigationProperty (item.navigationProperties.map (·.name))

def EnumType.namesAt (asked : Point) (item : EnumType) : List String :=
  asked.select .enumType [item.name] ++
    asked.selectOwner .enumMembers item.members (some item.name) ++
    asked.select .enumMember (item.members.map (·.name))

/-- A constraint visits the dependent end once more, and each dependent property. -/
def AssociationType.constraintNamesAt (asked : Point) (item : AssociationType)
    (rule : AssociationConstraint) : List String :=
  asked.select .associationConstraint [item.name] ++
    asked.select .associationEnd [(item.endOf rule.dependentEnd).name] ++
    asked.select .property rule.dependentProperties

def AssociationType.namesAt (asked : Point) (item : AssociationType) : List String :=
  asked.select .associationType [item.name] ++
    asked.select .associationEnd [item.source.name, item.target.name] ++
    item.referentialConstraint.toList.flatMap (item.constraintNamesAt asked)

def FunctionOverload.namesAt (asked : Point) (item : FunctionOverload) : List String :=
  asked.select .functionParameter (item.parameters.map (·.name))

def FunctionGroup.namesAt (asked : Point) (item : FunctionGroup) : List String :=
  asked.select .functionGroup [item.name] ++
    asked.selectOwner .functionOverloads item.overloads (some item.name) ++
    item.overloads.flatMap (FunctionOverload.namesAt asked)

def Namespace.namesAt (functions : Bool) (asked : Point) (ns : Namespace) : List String :=
  asked.select .ns [ns.name] ++
    asked.selectOwner .complexTypes ns.complexTypes (some ns.name) ++
    ns.complexTypes.flatMap (ComplexType.namesAt asked) ++
    asked.selectOwner .entityTypes ns.entityTypes (some ns.name) ++
    ns.entityTypes.flatMap (EntityType.namesAt asked) ++
    asked.selectOwner .enumTypes ns.enumTypes (some ns.name) ++
    ns.enumTypes.flatMap (EnumType.namesAt asked) ++
    asked.selectOwner .associationTypes ns.associationTypes (some ns.name) ++
    ns.associationTypes.flatMap (AssociationType.namesAt asked) ++
    if functions then
      asked.selectOwner .functionGroups ns.functionGroups (some ns.name) ++
        ns.functionGroups.flatMap (FunctionGroup.namesAt asked)
    else []

/-- The ends of an association set visit the entity sets that they name. -/
def AssociationSet.namesAt (asked : Point) (item : AssociationSet) : List String :=
  asked.select .associationSet [item.name] ++
    asked.select .associationSetEnd [item.source, item.target]

def FunctionImport.namesAt (asked : Point) (item : FunctionImport) : List String :=
  asked.select .functionImport [item.name] ++
    asked.selectOwner .functionImportParameters item.parameters (some item.name) ++
    asked.select .functionParameter (item.parameters.map (·.name))

def EntityContainer.namesAt (functions : Bool) (asked : Point) (container : EntityContainer) :
    List String :=
  asked.select .entityContainer [container.name] ++
    asked.selectOwner .entitySets container.entitySets (some container.name) ++
    asked.select .entitySet (container.entitySets.map (·.name)) ++
    asked.selectOwner .associationSets container.associationSets (some container.name) ++
    container.associationSets.flatMap (AssociationSet.namesAt asked) ++
    if functions then
      asked.selectOwner .functionImports container.functionImports (some container.name) ++
        container.functionImports.flatMap (FunctionImport.namesAt asked)
    else []

def Model.namesAt (functions : Bool) (asked : Point) (m : Model) : List String :=
  asked.select .model [m.name] ++
    asked.selectOwner .namespaces m.namespaces (some m.name) ++
    m.namespaces.flatMap (Namespace.namesAt functions asked) ++
    asked.selectOwner .entityContainers m.containers (some m.name) ++
    m.containers.flatMap (EntityContainer.namesAt functions asked)

/-! ## Look-ups that succeed -/

theorem Descent.keyProperty_of_called {owner : EntityType} {name : String}
    (h : Called name owner.properties) :
    ∃ property : Property, property.name = name ∧
      keyProperty owner name = .call (.property property) := by
  obtain ⟨property, hp⟩ := Option.isSome_iff_exists.mp (findNamed?_isSome_iff.mpr h)
  refine ⟨property, (findNamed?_eq_some hp).2, ?_⟩
  rw [keyProperty, EntityType.findProperty?, hp]

theorem Descent.dependentProperty_of_called (association : AssociationType) {entity : EntityType}
    {name : String} (h : Called name entity.properties) :
    ∃ property : Property, property.name = name ∧
      dependentProperty association entity name = .call (.property property) := by
  obtain ⟨property, hp⟩ := Option.isSome_iff_exists.mp (findNamed?_isSome_iff.mpr h)
  refine ⟨property, (findNamed?_eq_some hp).2, ?_⟩
  rw [dependentProperty, EntityType.findProperty?, hp]

theorem Descent.setEnd_of_called {owner : EntityContainer} (item : AssociationSet)
    (field : ReferenceField) {target : String} (h : Called target owner.entitySets) :
    ∃ set : EntitySet, set.name = target ∧
      setEnd owner item field target = .call (.associationSetEnd set) := by
  obtain ⟨set, hs⟩ := Option.isSome_iff_exists.mp (findNamed?_isSome_iff.mpr h)
  refine ⟨set, (findNamed?_eq_some hs).2, ?_⟩
  rw [setEnd, EntityContainer.findEntitySet?, hs]

/-! ## Runs through a traversable model -/

section Runs

variable {route : Route} (hr : ∀ point, route.skips point = false) {asked : Point}
  (ht : asked.isTier = false)
include hr ht

theorem Call.namesAt_complexType (item : ComplexType) :
    (complexType item).namesAt route asked = item.namesAt asked := by
  have hproperties : (complexTypeProperties item item.properties).steps.flatMap
      (Step.namesAt route asked) =
      item.properties.flatMap fun property => asked.select .property [property.name] := by
    rw [steps, Step.flatMap_namesAt_collection]
    simp only [namesAt_property hr ht]
  rw [namesAt_eq hr, steps, List.flatMap_append, Step.flatMap_namesAt_namespaced hr ht,
    Step.flatMap_namesAt_unlessEmpty hr hproperties, Point.flatMap_select, List.nil_append,
    ← List.append_assoc]
  rfl

theorem Call.namesAt_entityType {item : EntityType}
    (h : ∀ key ∈ item.key, Called key item.properties) :
    (entityType item).namesAt route asked = item.namesAt asked := by
  have hkeys : (declaredKeyProperties item item.key).steps.flatMap (Step.namesAt route asked) =
      item.key.flatMap fun key => asked.select .property [key] := by
    rw [steps, List.flatMap_map]
    apply List.flatMap_congr
    intro key hkey
    obtain ⟨property, hname, hstep⟩ := Descent.keyProperty_of_called (h key hkey)
    rw [hstep, Step.namesAt_call, namesAt_property hr ht, hname]
  have hproperties : (declaredProperties item item.properties).steps.flatMap
      (Step.namesAt route asked) =
      item.properties.flatMap fun property => asked.select .property [property.name] := by
    rw [steps, Step.flatMap_namesAt_collection]
    simp only [namesAt_property hr ht]
  have hnavigation : (declaredNavigationProperties item item.navigationProperties).steps.flatMap
      (Step.namesAt route asked) =
      item.navigationProperties.flatMap fun property =>
        asked.select .navigationProperty [property.name] := by
    rw [steps, Step.flatMap_namesAt_collection]
    exact List.flatMap_congr fun property _ => namesAt_of_named hr ht rfl
  rw [namesAt_eq hr, steps]
  simp only [List.flatMap_append]
  rw [Step.flatMap_namesAt_namespaced hr ht, Step.flatMap_namesAt_unlessEmpty hr hkeys,
    Step.flatMap_namesAt_unlessEmpty hr hproperties, Step.flatMap_namesAt_unlessEmpty hr hnavigation]
  simp only [Point.flatMap_select, List.map_id', List.nil_append, ← List.append_assoc]
  rfl

theorem Call.namesAt_enumType (item : EnumType) :
    (enumType item).namesAt route asked = item.namesAt asked := by
  have hmembers : (enumMembers item item.members).steps.flatMap (Step.namesAt route asked) =
      item.members.flatMap fun entry => asked.select .enumMember [entry.name] := by
    rw [steps, Step.flatMap_namesAt_collection]
    exact List.flatMap_congr fun entry _ => namesAt_of_named hr ht rfl
  rw [namesAt_eq hr, steps, List.flatMap_append, Step.flatMap_namesAt_namespaced hr ht,
    Step.flatMap_namesAt_unlessEmpty hr hmembers, Point.flatMap_select, List.nil_append,
    ← List.append_assoc]
  rfl

theorem Step.flatMap_namesAt_dependentProperties {owner : Namespace}
    {association : AssociationType} {rule : AssociationConstraint}
    (h : ∀ property ∈ rule.dependentProperties,
      ∃ entity ∈ owner.findEntityType? (association.endOf rule.dependentEnd).entityType,
        Called property entity.properties) :
    (Descent.dependentProperties owner association rule).flatMap (namesAt route asked) =
      asked.select .property rule.dependentProperties := by
  unfold Descent.dependentProperties
  cases hp : rule.dependentProperties with
  | nil => simp
  | cons first rest =>
    rw [hp] at h
    obtain ⟨entity, he, -⟩ := h first List.mem_cons_self
    rw [Option.mem_def] at he
    have hstep : ∀ property ∈ first :: rest,
        (Descent.dependentProperty association entity property).namesAt route asked =
          asked.select .property [property] := by
      intro property hproperty
      obtain ⟨found, hfound, hcalled⟩ := h property hproperty
      rw [he, Option.mem_some_iff] at hfound
      subst hfound
      obtain ⟨declared, hname, hcall⟩ := Descent.dependentProperty_of_called association hcalled
      rw [hcall, namesAt_call, Call.namesAt_property hr ht, hname]
    simp only [List.isEmpty_cons, Bool.false_eq_true, if_false, he]
    rw [List.flatMap_map, List.flatMap_congr hstep, Point.flatMap_select, List.map_id']

theorem Call.namesAt_associationConstraint {owner : Namespace} {item : AssociationType}
    {rule : AssociationConstraint}
    (h : ∀ property ∈ rule.dependentProperties,
      ∃ entity ∈ owner.findEntityType? (item.endOf rule.dependentEnd).entityType,
        Called property entity.properties) :
    (associationConstraint owner item rule).namesAt route asked =
      item.constraintNamesAt asked rule := by
  have hend : (associationEnd (item.endOf rule.dependentEnd)).namesAt route asked =
      asked.select .associationEnd [(item.endOf rule.dependentEnd).name] :=
    namesAt_of_named hr ht rfl
  rw [namesAt_eq hr, steps, List.flatMap_append, List.flatMap_append,
    Step.flatMap_namesAt_unnamed hr ht, List.flatMap_singleton, Step.namesAt_call, hend,
    Step.flatMap_namesAt_dependentProperties hr ht h, List.nil_append, ← List.append_assoc]
  rfl

theorem Call.namesAt_associationType {owner : Namespace} {item : AssociationType}
    (h : ∀ rule ∈ item.referentialConstraint, ∀ property ∈ rule.dependentProperties,
      ∃ entity ∈ owner.findEntityType? (item.endOf rule.dependentEnd).entityType,
        Called property entity.properties) :
    (associationType owner item).namesAt route asked = item.namesAt asked := by
  have hend (place : AssociationEnd) : (associationEnd place).namesAt route asked =
      asked.select .associationEnd [place.name] := namesAt_of_named hr ht rfl
  have hends : [Step.call (associationEnd item.source), Step.call (associationEnd item.target)].flatMap
      (Step.namesAt route asked) =
      asked.select .associationEnd [item.source.name, item.target.name] :=
    calc
      _ = [item.source, item.target].flatMap fun place =>
          asked.select .associationEnd [place.name] := by simp [hend]
      _ = _ := Point.flatMap_select ..
  rw [namesAt_eq hr, steps, List.flatMap_append, List.flatMap_append,
    Step.flatMap_namesAt_namespaced hr ht, hends, List.nil_append, ← List.append_assoc,
    AssociationType.namesAt]
  congr 1
  cases hc : item.referentialConstraint with
  | none => rfl
  | some rule =>
    rw [hc] at h
    simp only [List.flatMap_singleton, Step.namesAt_call, Option.toList_some]
    exact namesAt_associationConstraint hr ht (h rule rfl)

theorem Call.namesAt_functionOverload (item : FunctionOverload) :
    (functionOverload item).namesAt route asked = item.namesAt asked := by
  have hparameters : (functionOverloadParameters item item.parameters).steps.flatMap
      (Step.namesAt route asked) =
      item.parameters.flatMap fun parameter =>
        asked.select .functionParameter [parameter.name] := by
    rw [steps, Step.flatMap_namesAt_collection]
    simp only [namesAt_functionParameter hr ht]
  rw [namesAt_eq hr, steps, List.flatMap_append, List.flatMap_append,
    Step.flatMap_namesAt_unnamed hr ht, Step.flatMap_namesAt_returnType hr ht,
    Step.flatMap_namesAt_unlessEmpty hr hparameters, Point.flatMap_select]
  simp [name?, Point.selectOwner, FunctionOverload.namesAt]

theorem Call.namesAt_functionGroup (item : FunctionGroup) :
    (functionGroup item).namesAt route asked = item.namesAt asked := by
  have hoverloads : (functionOverloads item item.overloads).steps.flatMap
      (Step.namesAt route asked) = item.overloads.flatMap (FunctionOverload.namesAt asked) := by
    rw [steps, Step.flatMap_namesAt_collection]
    simp only [namesAt_functionOverload hr ht]
  rw [namesAt_eq hr, steps, List.flatMap_append, Step.flatMap_namesAt_namespaced hr ht,
    Step.flatMap_namesAt_unlessEmpty hr hoverloads, List.nil_append, ← List.append_assoc]
  rfl

theorem Call.namesAt_ns {item : Namespace} (h : item.Traversable) :
    (ns item).namesAt route asked = item.namesAt route.functions asked := by
  have hcomplex : (complexTypes item item.complexTypes).steps.flatMap (Step.namesAt route asked) =
      item.complexTypes.flatMap (ComplexType.namesAt asked) := by
    rw [steps, Step.flatMap_namesAt_collection]
    simp only [namesAt_complexType hr ht]
  have hentity : (entityTypes item item.entityTypes).steps.flatMap (Step.namesAt route asked) =
      item.entityTypes.flatMap (EntityType.namesAt asked) := by
    rw [steps, Step.flatMap_namesAt_collection]
    exact List.flatMap_congr fun entity he => namesAt_entityType hr ht (h.keys entity he)
  have henum : (enumTypes item item.enumTypes).steps.flatMap (Step.namesAt route asked) =
      item.enumTypes.flatMap (EnumType.namesAt asked) := by
    rw [steps, Step.flatMap_namesAt_collection]
    simp only [namesAt_enumType hr ht]
  have hassociation : (associationTypes item item.associationTypes).steps.flatMap
      (Step.namesAt route asked) =
      item.associationTypes.flatMap (AssociationType.namesAt asked) := by
    rw [steps, Step.flatMap_namesAt_collection]
    exact List.flatMap_congr fun association ha =>
      namesAt_associationType hr ht (h.dependents association ha)
  have hgroup : (functionGroups item item.functionGroups).steps.flatMap
      (Step.namesAt route asked) = item.functionGroups.flatMap (FunctionGroup.namesAt asked) := by
    rw [steps, Step.flatMap_namesAt_collection]
    simp only [namesAt_functionGroup hr ht]
  rw [namesAt_eq hr, steps]
  simp only [List.flatMap_append]
  rw [Step.flatMap_namesAt_named hr ht, Step.flatMap_namesAt_unlessEmpty hr hcomplex,
    Step.flatMap_namesAt_unlessEmpty hr hentity, Step.flatMap_namesAt_unlessEmpty hr henum,
    Step.flatMap_namesAt_unlessEmpty hr hassociation,
    Step.flatMap_namesAt_unlessEmpty_functions hr hgroup]
  simp only [List.nil_append, ← List.append_assoc]
  rfl

theorem Call.namesAt_associationSet {owner : EntityContainer} {item : AssociationSet}
    (hs : Called item.source owner.entitySets) (hd : Called item.target owner.entitySets) :
    (associationSet owner item).namesAt route asked = item.namesAt asked := by
  obtain ⟨source, hsource, hsourceStep⟩ := Descent.setEnd_of_called item .sourceSet hs
  obtain ⟨target, htarget, htargetStep⟩ := Descent.setEnd_of_called item .targetSet hd
  have hend (set : EntitySet) : (associationSetEnd set).namesAt route asked =
      asked.select .associationSetEnd [set.name] := namesAt_of_named hr ht rfl
  have hends : [Step.call (associationSetEnd source), Step.call (associationSetEnd target)].flatMap
      (Step.namesAt route asked) =
      asked.select .associationSetEnd [item.source, item.target] :=
    calc
      _ = [item.source, item.target].flatMap fun name =>
          asked.select .associationSetEnd [name] := by simp [hend, hsource, htarget]
      _ = asked.select .associationSetEnd ([item.source, item.target].map id) :=
        Point.flatMap_select ..
      _ = _ := by rw [List.map_id]
  rw [namesAt_eq hr, steps, List.flatMap_append, Step.flatMap_namesAt_named hr ht, hsourceStep,
    htargetStep, hends, List.nil_append]
  rfl

theorem Call.namesAt_functionImport (item : FunctionImport) :
    (functionImport item).namesAt route asked = item.namesAt asked := by
  have hparameters : (functionImportParameters item item.parameters).steps.flatMap
      (Step.namesAt route asked) =
      item.parameters.flatMap fun parameter =>
        asked.select .functionParameter [parameter.name] := by
    rw [steps, Step.flatMap_namesAt_collection]
    simp only [namesAt_functionParameter hr ht]
  rw [namesAt_eq hr, steps, List.flatMap_append, List.flatMap_append,
    Step.flatMap_namesAt_named hr ht, Step.flatMap_namesAt_returnType hr ht,
    Step.flatMap_namesAt_unlessEmpty hr hparameters, Point.flatMap_select, List.nil_append,
    List.nil_append, ← List.append_assoc]
  rfl

theorem Call.namesAt_entityContainer {item : EntityContainer} (h : item.Traversable) :
    (entityContainer item).namesAt route asked = item.namesAt route.functions asked := by
  have hentity : (entitySets item item.entitySets).steps.flatMap (Step.namesAt route asked) =
      item.entitySets.flatMap fun set => asked.select .entitySet [set.name] := by
    rw [steps, Step.flatMap_namesAt_collection]
    exact List.flatMap_congr fun set _ => namesAt_of_named hr ht rfl
  have hassociation : (associationSets item item.associationSets).steps.flatMap
      (Step.namesAt route asked) =
      item.associationSets.flatMap (AssociationSet.namesAt asked) := by
    rw [steps, Step.flatMap_namesAt_collection]
    exact List.flatMap_congr fun set hset =>
      namesAt_associationSet hr ht (h.sources set hset) (h.targets set hset)
  have himport : (functionImports item item.functionImports).steps.flatMap
      (Step.namesAt route asked) =
      item.functionImports.flatMap (FunctionImport.namesAt asked) := by
    rw [steps, Step.flatMap_namesAt_collection]
    simp only [namesAt_functionImport hr ht]
  rw [namesAt_eq hr, steps]
  simp only [List.flatMap_append]
  rw [Step.flatMap_namesAt_named hr ht, Step.flatMap_namesAt_unlessEmpty hr hentity,
    Step.flatMap_namesAt_unlessEmpty hr hassociation,
    Step.flatMap_namesAt_unlessEmpty_functions hr himport]
  simp only [Point.flatMap_select, List.nil_append, ← List.append_assoc]
  rfl

theorem Call.namesAt_model {m : Model} (h : m.Traversable) :
    (model m).namesAt route asked = m.namesAt route.functions asked := by
  have hns : (namespaces m m.namespaces).steps.flatMap (Step.namesAt route asked) =
      m.namespaces.flatMap (Namespace.namesAt route.functions asked) := by
    rw [steps, Step.flatMap_namesAt_collection]
    exact List.flatMap_congr fun ns hmem => namesAt_ns hr ht (h.namespaces ns hmem)
  have hco : (entityContainers m m.containers).steps.flatMap (Step.namesAt route asked) =
      m.containers.flatMap (EntityContainer.namesAt route.functions asked) := by
    rw [steps, Step.flatMap_namesAt_collection]
    exact List.flatMap_congr fun container hmem =>
      namesAt_entityContainer hr ht (h.containers container hmem)
  rw [namesAt_eq hr, steps]
  simp only [List.flatMap_append]
  rw [Step.flatMap_namesAt_named hr ht, Step.flatMap_namesAt_unlessEmpty hr hns,
    Step.flatMap_namesAt_unlessEmpty hr hco]
  simp only [List.nil_append, ← List.append_assoc]
  rfl

end Runs

/-! ## Traversals -/

namespace DispatchLog

theorem names_append (log : DispatchLog) (calls : List Call) (asked : Point) :
    (log.append (calls.map Call.entry)).names asked =
      log.names asked ++ calls.filterMap (Call.nameAt? asked) := by
  have hcalls : ((calls.map Call.entry).filter fun entry => entry.point == asked).filterMap
      (·.name?) = calls.filterMap (Call.nameAt? asked) := by
    rw [List.filter_map, List.filterMap_map, ← List.filterMap_eq_filter, List.filterMap_filterMap]
    apply List.filterMap_congr
    intro c _
    by_cases hc : c.point = asked
    · simp [Call.nameAt?, Call.entry, hc]
    · simp [Call.nameAt?, Call.entry, hc]
  rw [names, names, append, Array.toList_append, List.filter_append, List.filterMap_append, hcalls]

/-- A traversal of a traversable model records at each point the names read off the graph. -/
theorem names_traverse {m : Model} (h : m.Traversable) (log : DispatchLog) {asked : Point}
    (ht : asked.isTier = false) :
    (traverse visitor m log).2.names asked =
      log.names asked ++ m.namesAt log.config.functionsEnabled asked := by
  rw [traverse_of_sound (Call.sound_model_iff.mpr h), Call.entries, names_append, ← Call.namesAt,
    Call.namesAt_model (fun _ => rfl) ht h]

end DispatchLog

/-! ## Node by node -/

/-- Each declared node is visited once, in declaration order. In addition a property is visited for
each key and each constraint that names it, an end for each constraint that depends on it, and an
entity set for each end of an association set. -/
structure Model.VisitsInOrder (m : Model) (functions : Bool) (names : Point → List String) :
    Prop where
  models : names .model = [m.name]
  namespaces : names .ns = m.namespaces.map (·.name)
  complexTypes : names .complexType = m.namespaces.flatMap fun ns => ns.complexTypes.map (·.name)
  entityTypes : names .entityType = m.namespaces.flatMap fun ns => ns.entityTypes.map (·.name)
  enumTypes : names .enumType = m.namespaces.flatMap fun ns => ns.enumTypes.map (·.name)
  enumMembers : names .enumMember =
    m.namespaces.flatMap fun ns => ns.enumTypes.flatMap fun item => item.members.map (·.name)
  navigationProperties : names .navigationProperty =
    m.namespaces.flatMap fun ns =>
      ns.entityTypes.flatMap fun item => item.navigationProperties.map (·.name)
  associationTypes : names .associationType =
    m.namespaces.flatMap fun ns => ns.associationTypes.map (·.name)
  containers : names .entityContainer = m.containers.map (·.name)
  entitySets : names .entitySet =
    m.containers.flatMap fun container => container.entitySets.map (·.name)
  associationSets : names .associationSet =
    m.containers.flatMap fun container => container.associationSets.map (·.name)
  properties : names .property =
    m.namespaces.flatMap fun ns =>
      (ns.complexTypes.flatMap fun item => item.properties.map (·.name)) ++
        (ns.entityTypes.flatMap fun item => item.key ++ item.properties.map (·.name)) ++
        ns.associationTypes.flatMap fun item =>
          item.referentialConstraint.toList.flatMap fun rule => rule.dependentProperties
  associationEnds : names .associationEnd =
    m.namespaces.flatMap fun ns =>
      ns.associationTypes.flatMap fun item =>
        [item.source.name, item.target.name] ++
          item.referentialConstraint.toList.map fun rule => (item.endOf rule.dependentEnd).name
  constraints : names .associationConstraint =
    m.namespaces.flatMap fun ns =>
      ns.associationTypes.flatMap fun item =>
        item.referentialConstraint.toList.map fun _ => item.name
  setEnds : names .associationSetEnd =
    m.containers.flatMap fun container =>
      container.associationSets.flatMap fun item => [item.source, item.target]
  functionGroups : names .functionGroup =
    if functions then m.namespaces.flatMap fun ns => ns.functionGroups.map (·.name) else []
  functionImports : names .functionImport =
    if functions then
      m.containers.flatMap fun container => container.functionImports.map (·.name)
    else []
  functionParameters : names .functionParameter =
    if functions then
      (m.namespaces.flatMap fun ns =>
        ns.functionGroups.flatMap fun group =>
          group.overloads.flatMap fun overload => overload.parameters.map (·.name)) ++
        m.containers.flatMap fun container =>
          container.functionImports.flatMap fun item => item.parameters.map (·.name)
    else []

theorem Model.visitsInOrder_of_namesAt {m : Model} {functions : Bool} {names : Point → List String}
    (h : ∀ asked : Point, asked.isTier = false → names asked = m.namesAt functions asked) :
    m.VisitsInOrder functions names := by
  have hnil {α : Type} (items : List α) : items.flatMap (fun _ => ([] : List String)) = [] :=
    List.flatMap_eq_nil_iff.mpr fun _ _ => rfl
  have hpure {α : Type} (items : List α) (f : α → String) :
      items.flatMap (fun item => [f item]) = items.map f := List.map_eq_flatMap.symm
  constructor
  -- At one point all but the names that belong there are gone.
  all_goals
    rw [h _ rfl]
    unfold namesAt Namespace.namesAt ComplexType.namesAt EntityType.namesAt EnumType.namesAt
      AssociationType.namesAt AssociationType.constraintNamesAt FunctionGroup.namesAt
      FunctionOverload.namesAt EntityContainer.namesAt AssociationSet.namesAt
      FunctionImport.namesAt
    cases functions <;> simp [Point.select, Point.selectOwner, hnil, hpure]

theorem Model.build_visits_in_order {name : String} {declarations : List Declaration} {m : Model}
    (h : build name declarations = .ok m) (config : TraversalConfig) :
    m.VisitsInOrder config.functionsEnabled
      (traverse DispatchLog.visitor m { config }).2.names := by
  have htraversable : m.Traversable := Call.sound_model_iff.mp (sound_of_build h)
  exact visitsInOrder_of_namesAt fun _ ht => DispatchLog.names_traverse htraversable { config } ht

theorem Model.build_visits_in_order_shop :
    build "Shop" (shop "Customers") = .ok (assemble "Shop" (shop "Customers")) ∧
      (traverse DispatchLog.visitor (assemble "Shop" (shop "Customers")) {}).2.names .property =
        ["Id", "Id", "Id", "Id", "CustomerId", "CustomerId"] := by
  have hbuild : build "Shop" (shop "Customers") = .ok (assemble "Shop" (shop "Customers")) := rfl
  exact ⟨hbuild, (build_visits_in_order hbuild {}).properties⟩

end EntityModel
