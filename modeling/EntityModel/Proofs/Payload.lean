import EntityModel.Proofs.TrimmedDefects

/-!
# EntityModel.Proofs.Payload

Annotations and payload have no influence on the structure of a graph.

* `BuildsLike`: two builds report the same defect, or both hand out a model.
* `Model.buildsLike_withoutAnnotations`: without annotations a model is built alike, and a traversal
  makes the same dispatches but those of annotations.
* `Model.buildsLike_of_payload`: two models that differ in their payload only are built alike, and a
  traversal makes the same dispatches.
* `Model.build_follows_structure`: both, for all declarations.
-/

namespace EntityModel

/-- Both builds report the same defect, or both succeed and their models are related. -/
inductive BuildsLike (related : Model → Model → Prop) :
    Except Defect Model → Except Defect Model → Prop where
  | error (defect : Defect) : BuildsLike related (.error defect) (.error defect)
  | ok {m m' : Model} : related m m' → BuildsLike related (.ok m) (.ok m')

theorem BuildsLike.related {related : Model → Model → Prop} {m m' : Model}
    (h : BuildsLike related (.ok m) (.ok m')) : related m m' := by
  cases h with
  | ok hrelated => exact hrelated

def Trim.withoutAnnotations : Trim where
  annotations := false

def Trim.withoutPayload : Trim where
  payload := false

namespace Model

/-- Both models are traversed to the end, with the same dispatches but those of annotations, which
the second does not have. -/
def LogsBare (m bare : Model) : Prop :=
  ∀ log, ∃ entries, traverse DispatchLog.visitor m log = (.ok (), log.append entries) ∧
    traverse DispatchLog.visitor bare log =
      (.ok (), log.append (entries.filter fun entry => !entry.point.isAnnotation))

/-- Both models are traversed to the end, with the same dispatches. -/
def LogsAlike (m m' : Model) : Prop :=
  ∀ log, ∃ entries, traverse DispatchLog.visitor m log = (.ok (), log.append entries) ∧
    traverse DispatchLog.visitor m' log = (.ok (), log.append entries)

/-! ## Annotations -/

theorem logsBare_trim {m : Model} (h : (Call.model m).Sound)
    (h' : (Call.model (m.trim .withoutAnnotations)).Sound) :
    m.LogsBare (m.trim .withoutAnnotations) := by
  intro log
  have hentries : (Call.model (m.trim .withoutAnnotations)).entries log.config.functionsEnabled =
      Trim.withoutAnnotations.kept
        ((Call.model m).entries (log.config.functionsEnabled && true)) :=
    Call.entries_trim (t := .withoutAnnotations) (c := .model m) rfl
  have hkeeps : Trim.withoutAnnotations.keeps = fun point => !point.isAnnotation := by
    funext point
    exact Bool.or_false _
  refine ⟨_, DispatchLog.traverse_of_sound h log, ?_⟩
  rw [DispatchLog.traverse_of_sound h', hentries, Trim.kept, hkeeps, Bool.and_true]

theorem buildsLike_withoutAnnotations (name : String) (declarations : List Declaration) :
    BuildsLike LogsBare (build name declarations)
      (build name (declarations.filterMap (Declaration.trim? .withoutAnnotations))) := by
  have htrim := build_trim (t := .withoutAnnotations) rfl name declarations
  rw [htrim]
  cases h : build name declarations with
  | error defect => exact .error defect
  | ok m =>
    rw [h] at htrim
    exact .ok (logsBare_trim (sound_of_build h) (sound_of_build htrim))

/-! ## Payload -/

/-- Without its payload a model has the same defects and the same dispatches. -/
theorem defects_withoutPayload (m : Model) : (m.trim .withoutPayload).defects = m.defects :=
  m.defects_trim rfl

theorem entries_withoutPayload (m : Model) (on : Bool) :
    (Call.model (m.trim .withoutPayload)).entries on = (Call.model m).entries on := by
  have hentries : (Call.model (m.trim .withoutPayload)).entries on =
      Trim.withoutPayload.kept ((Call.model m).entries (on && true)) :=
    Call.entries_trim (t := .withoutPayload) (c := .model m) rfl
  have hkept (entries : List Dispatch) : Trim.withoutPayload.kept entries = entries := by
    rw [Trim.kept, List.filter_eq_self]
    intro entry _
    exact Bool.or_true _
  rw [hentries, hkept, Bool.and_true]

theorem buildsLike_of_payload {name name' : String} {declarations declarations' : List Declaration}
    (h : (assemble name declarations).trim .withoutPayload =
      (assemble name' declarations').trim .withoutPayload) :
    BuildsLike LogsAlike (build name declarations) (build name' declarations') := by
  have hdefects :
      (assemble name declarations).defects = (assemble name' declarations').defects := by
    rw [← defects_withoutPayload, h, defects_withoutPayload]
  cases hnil : (assemble name declarations).defects with
  | cons defect rest =>
    rw [build_eq, build_eq, checked, checked, ← hdefects, hnil]
    exact .error defect
  | nil =>
    have hbuild : build name declarations = .ok (assemble name declarations) := by
      rw [build_eq, checked, hnil]
    have hbuild' : build name' declarations' = .ok (assemble name' declarations') := by
      rw [build_eq, checked, ← hdefects, hnil]
    rw [hbuild, hbuild']
    refine .ok fun log => ⟨_, DispatchLog.traverse_of_sound (sound_of_build hbuild) log, ?_⟩
    rw [DispatchLog.traverse_of_sound (sound_of_build hbuild'), ← entries_withoutPayload, ← h,
      entries_withoutPayload]

/-! ## Both -/

theorem build_follows_structure :
    (∀ name declarations, BuildsLike LogsBare (build name declarations)
      (build name (declarations.filterMap (Declaration.trim? .withoutAnnotations)))) ∧
    ∀ name name' declarations declarations',
      (assemble name declarations).trim .withoutPayload =
        (assemble name' declarations').trim .withoutPayload →
      BuildsLike LogsAlike (build name declarations) (build name' declarations') := by
  constructor
  · intro name declarations
    exact buildsLike_withoutAnnotations name declarations
  · intro name name' declarations declarations' h
    exact buildsLike_of_payload h

/-- The shop with another version and with abstract entity types. -/
def abstractShop : List Declaration :=
  .version ⟨0⟩ :: (shop "Customers").map fun
    | .ns item =>
      .ns
        { item with
          entityTypes := item.entityTypes.map fun type => { type with isAbstract := true } }
    | declaration => declaration

/-- The shop with an owner. -/
def ownedShop : List Declaration :=
  .annotate "owner" ⟨"&str", "x"⟩ :: shop "Customers"

/-- The owner of a shop is two entries in its log; another version and abstract entity types are
none. -/
theorem build_follows_structure_shop :
    build "Shop" ownedShop = .ok (assemble "Shop" ownedShop) ∧
      build "Shop" abstractShop = .ok (assemble "Shop" abstractShop) ∧
      (∃ entries, traverse DispatchLog.visitor (assemble "Shop" ownedShop) {} =
          (.ok (), DispatchLog.append {} entries) ∧
        traverse DispatchLog.visitor (assemble "Shop" (shop "Customers")) {} =
          (.ok (), DispatchLog.append {} (entries.filter fun entry => !entry.point.isAnnotation)) ∧
        entries.length = 116 ∧
        (entries.filter fun entry => entry.point.isAnnotation) =
          [⟨.annotations, none⟩, ⟨.annotationEntry, some "owner"⟩]) ∧
      (assemble "Shop" (shop "Customers")).trim .withoutPayload =
        (assemble "Shop" abstractShop).trim .withoutPayload ∧
      ∃ entries, traverse DispatchLog.visitor (assemble "Shop" (shop "Customers")) {} =
          (.ok (), DispatchLog.append {} entries) ∧
        traverse DispatchLog.visitor (assemble "Shop" abstractShop) {} =
          (.ok (), DispatchLog.append {} entries) ∧
        entries.length = 114 ∧
        (entries.filter fun entry => entry.point == .entityType) =
          [⟨.entityType, some "Customer"⟩, ⟨.entityType, some "Order"⟩] := by
  have hbuild : build "Shop" (shop "Customers") = .ok (assemble "Shop" (shop "Customers")) := rfl
  have howned : build "Shop" ownedShop = .ok (assemble "Shop" ownedShop) := rfl
  have habstract : build "Shop" abstractShop = .ok (assemble "Shop" abstractShop) := rfl
  have hbare : ownedShop.filterMap (Declaration.trim? .withoutAnnotations) = shop "Customers" := rfl
  have hsame : (assemble "Shop" (shop "Customers")).trim .withoutPayload =
      (assemble "Shop" abstractShop).trim .withoutPayload := rfl
  obtain ⟨hannotations, hpayload⟩ := build_follows_structure
  have hlogsBare := hannotations "Shop" ownedShop
  rw [hbare, howned, hbuild] at hlogsBare
  have hlogsAlike := hpayload "Shop" "Shop" (shop "Customers") abstractShop hsame
  rw [hbuild, habstract] at hlogsAlike
  refine ⟨howned, habstract, ?_, hsame, ?_⟩
  · obtain ⟨entries, hrun, hrun'⟩ := hlogsBare.related {}
    have hentries : entries =
        (traverse DispatchLog.visitor (assemble "Shop" ownedShop) {}).2.entries.toList := by
      simp [hrun]
    refine ⟨entries, hrun, hrun', ?_⟩
    rw [hentries]
    decide +kernel
  · obtain ⟨entries, hrun, hrun'⟩ := hlogsAlike.related {}
    have hentries : entries = (traverse DispatchLog.visitor
        (assemble "Shop" (shop "Customers")) {}).2.entries.toList := by
      simp [hrun]
    refine ⟨entries, hrun, hrun', ?_⟩
    rw [hentries]
    decide +kernel

end Model

end EntityModel
