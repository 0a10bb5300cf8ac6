import EntityModel.Model.Defects
import Mathlib.Data.List.Flatten

/-!
# EntityModel.Proofs.Stability

Checks in a model in which more is found.

* `Model.FindsWithin`: whatever one model finds by qualified name, a wider one finds too, and it is
  the same item.
* `Model.resolves_of_findsWithin`: so all references that resolve go on resolving.
* `..._sublist`: a node has no other defects in the wider model than in the narrower one, and none if
  it had none. This covers
  references that look outside their own namespace or container; the others do not ask the model.
* `..._congr`: what a node looks up in its own namespace or container is all that it needs of it.
-/

namespace EntityModel

namespace Model

/-- Every item that is found by qualified name in the model is found in the wider one. -/
structure FindsWithin (m wide : Model) : Prop where
  entityTypes : ∀ {qualified item},
    m.findEntityType? qualified = some item → wide.findEntityType? qualified = some item
  associationTypes : ∀ {qualified item},
    m.findAssociationType? qualified = some item → wide.findAssociationType? qualified = some item
  complexTypes : ∀ {qualified item},
    m.findComplexType? qualified = some item → wide.findComplexType? qualified = some item
  enumTypes : ∀ {qualified item},
    m.findEnumType? qualified = some item → wide.findEnumType? qualified = some item

theorem isSome_of_forall_eq_some {α : Type} {found found' : Option α}
    (h : ∀ {item}, found = some item → found' = some item) (hfound : found.isSome = true) :
    found'.isSome = true := by
  obtain ⟨item, hitem⟩ := Option.isSome_iff_exists.mp hfound
  exact Option.isSome_iff_exists.mpr ⟨item, h hitem⟩

/-- A reference that is found has no defect, and otherwise there is the same one. -/
theorem referenceDefects_sublist {owner : NodeKind} {name : String} {field : ReferenceField}
    {target : String} {found found' : Bool} (h : found = true → found' = true) :
    (referenceDefects owner name field target found').Sublist
      (referenceDefects owner name field target found) := by
  cases found with
  | true =>
    obtain rfl := h rfl
    exact List.Sublist.refl _
  | false =>
    cases found' with
    | true => exact List.nil_sublist _
    | false => exact List.Sublist.refl _

section Wider

variable {m wide : Model} (h : m.FindsWithin wide)
include h

theorem resolves_of_findsWithin {type : ReferencedType} (hm : m.resolves type = true) :
    wide.resolves type = true := by
  cases type with
  | primitive kind => rfl
  | complex name => exact isSome_of_forall_eq_some h.complexTypes hm
  | enum name => exact isSome_of_forall_eq_some h.enumTypes hm
  | entity name => exact isSome_of_forall_eq_some h.entityTypes hm

/-! ## Types -/

theorem typeReferenceDefects_sublist (owner : NodeKind) (name : String)
    (reference : TypeReference) :
    (wide.typeReferenceDefects owner name reference).Sublist
      (m.typeReferenceDefects owner name reference) := by
  unfold typeReferenceDefects
  exact (referenceDefects_sublist (resolves_of_findsWithin h)).append (List.Sublist.refl _)

theorem returnTypeDefects_sublist (owner : NodeKind) (name : String)
    (returnType : Option TypeReference) :
    (wide.returnTypeDefects owner name returnType).Sublist
      (m.returnTypeDefects owner name returnType) := by
  cases returnType with
  | none => exact List.Sublist.refl _
  | some reference => exact typeReferenceDefects_sublist h owner name reference

theorem parameterDefects_sublist (scope : String) (parameters : List FunctionParameter) :
    (wide.parameterDefects scope parameters).Sublist (m.parameterDefects scope parameters) := by
  unfold parameterDefects
  exact (List.Sublist.refl _).append
    (List.Sublist.flatMap_right _ fun _ _ => typeReferenceDefects_sublist h ..)

theorem propertiesDefects_sublist (properties : List Property) :
    (properties.flatMap wide.propertyDefects).Sublist (properties.flatMap m.propertyDefects) :=
  List.Sublist.flatMap_right _ fun _ _ => typeReferenceDefects_sublist h ..

/-! ## Items of a namespace -/

theorem complexTypeDefects_sublist (item : ComplexType) :
    (wide.complexTypeDefects item).Sublist (m.complexTypeDefects item) := by
  unfold complexTypeDefects
  exact (List.Sublist.refl _).append (propertiesDefects_sublist h item.properties)

theorem baseTypeDefects_sublist (item : EntityType) :
    (wide.baseTypeDefects item).Sublist (m.baseTypeDefects item) := by
  unfold baseTypeDefects
  cases item.baseType with
  | none => exact List.Sublist.refl _
  | some base => exact referenceDefects_sublist (isSome_of_forall_eq_some h.entityTypes)

theorem entityTypeDefects_sublist (ns : Namespace) (item : EntityType) :
    (wide.entityTypeDefects ns item).Sublist (m.entityTypeDefects ns item) := by
  unfold entityTypeDefects
  exact (List.Sublist.refl _).append (baseTypeDefects_sublist h item)
    |>.append (List.Sublist.refl _)
    |>.append (propertiesDefects_sublist h item.properties)

theorem functionGroupDefects_sublist (item : FunctionGroup) :
    (wide.functionGroupDefects item).Sublist (m.functionGroupDefects item) :=
  List.Sublist.flatMap_right _ fun _ _ =>
    (returnTypeDefects_sublist h ..).append (parameterDefects_sublist h ..)

/-! ## Items of a container -/

theorem entitySetDefects_sublist (item : EntitySet) :
    (wide.entitySetDefects item).Sublist (m.entitySetDefects item) :=
  referenceDefects_sublist (isSome_of_forall_eq_some h.entityTypes)

theorem associationSetDefects_sublist (container : EntityContainer) (item : AssociationSet) :
    (wide.associationSetDefects container item).Sublist
      (m.associationSetDefects container item) := by
  unfold associationSetDefects
  refine (List.Sublist.refl _).append ?_
  cases item.associationType with
  | none => exact List.Sublist.refl _
  | some association =>
    exact referenceDefects_sublist (isSome_of_forall_eq_some h.associationTypes)

theorem functionImportDefects_sublist (item : FunctionImport) :
    (wide.functionImportDefects item).Sublist (m.functionImportDefects item) :=
  (returnTypeDefects_sublist h ..).append (parameterDefects_sublist h ..)

/-! ## Scopes -/

theorem namespaceDefects_sublist (hname : wide.name = m.name) (ns : Namespace) :
    (wide.namespaceDefects ns).Sublist (m.namespaceDefects ns) := by
  unfold namespaceDefects
  rw [hname]
  exact (List.Sublist.refl _).append
      (List.Sublist.flatMap_right _ fun item _ => complexTypeDefects_sublist h item)
    |>.append (List.Sublist.flatMap_right _ fun item _ => entityTypeDefects_sublist h ns item)
    |>.append (List.Sublist.refl _)
    |>.append (List.Sublist.refl _)
    |>.append (List.Sublist.flatMap_right _ fun item _ => functionGroupDefects_sublist h item)

theorem containerDefects_sublist (hname : wide.name = m.name) (container : EntityContainer) :
    (wide.containerDefects container).Sublist (m.containerDefects container) := by
  unfold containerDefects
  rw [hname]
  exact (List.Sublist.refl _).append
      (List.Sublist.flatMap_right _ fun item _ => entitySetDefects_sublist h item)
    |>.append
      (List.Sublist.flatMap_right _ fun item _ => associationSetDefects_sublist h container item)
    |>.append (List.Sublist.flatMap_right _ fun item _ => functionImportDefects_sublist h item)

theorem namespaceDefects_eq_nil_of_findsWithin (hname : wide.name = m.name) {ns : Namespace}
    (hnil : m.namespaceDefects ns = []) : wide.namespaceDefects ns = [] := by
  have hsub := namespaceDefects_sublist h hname ns
  rw [hnil] at hsub
  exact List.sublist_nil.mp hsub

theorem containerDefects_eq_nil_of_findsWithin (hname : wide.name = m.name)
    {container : EntityContainer} (hnil : m.containerDefects container = []) :
    wide.containerDefects container = [] := by
  have hsub := containerDefects_sublist h hname container
  rw [hnil] at hsub
  exact List.sublist_nil.mp hsub

end Wider

/-! ## Look-ups close by -/

theorem entityTypeDefects_congr (m : Model) {ns ns' : Namespace}
    (h : ∀ name, ns'.findAssociationType? name = ns.findAssociationType? name)
    (item : EntityType) : m.entityTypeDefects ns' item = m.entityTypeDefects ns item := by
  simp only [entityTypeDefects, h]

theorem associationTypeDefects_congr {ns ns' : Namespace}
    (h : ∀ name, ns'.findEntityType? name = ns.findEntityType? name) (item : AssociationType) :
    associationTypeDefects ns' item = associationTypeDefects ns item := by
  simp only [associationTypeDefects, associationEndDefects, constraintDefects, h]

theorem associationSetDefects_congr (m : Model) {container container' : EntityContainer}
    (h : ∀ name, container'.findEntitySet? name = container.findEntitySet? name)
    (item : AssociationSet) :
    m.associationSetDefects container' item = m.associationSetDefects container item := by
  simp only [associationSetDefects, h]

end Model

end EntityModel
