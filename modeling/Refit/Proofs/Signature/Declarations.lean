import Refit.Proofs.Json.Compact
import Refit.Proofs.Signature.Reading
import Refit.Proofs.Store.Documents
import Refit.Proofs.Traversal
import Refit.Wire.Declarations

/-!
# Declarations are read back

Types are written as texts, and members and components as records with such texts in them.
Whatever a type, a member or a component was read from, it is read again from what is
written for it, and as the same: the types in it are legible by then, and the members name
the component that declares them.
-/

namespace Refit

structure Member.Legible (m : Member) : Prop where
  params : ∀ t ∈ m.params, t.Legible
  returnType : m.returnType.Legible

/-- What is true of a component as long as nothing is known of others: its members say who
declares them, if it has a name to say. -/
structure Component.Legible (c : Component) : Prop where
  members : ∀ m ∈ c.members, m.Legible
  declared : ∀ m ∈ c.members, m.declaring = "" → c.name = ""
  unresolved : c.hierarchy = none

namespace Component

theorem Legible.withMember {c : Component} (hc : c.Legible) {m : Member} (hm : m.Legible) :
    (c.withMember m).Legible := by
  unfold Component.withMember
  constructor
  · intro other hother
    rcases List.mem_append.mp hother with hold | hnew
    · exact hc.members other hold
    · rw [List.mem_singleton] at hnew
      subst hnew
      split
      · exact ⟨hm.params, hm.returnType⟩
      · exact hm
  · intro other hother hdeclaring
    rcases List.mem_append.mp hother with hold | hnew
    · exact hc.declared other hold hdeclaring
    · rw [List.mem_singleton] at hnew
      subst hnew
      split at hdeclaring
      · exact hdeclaring
      · next hnamed => exact absurd (String.isEmpty_iff.mpr hdeclaring) hnamed
  · exact hc.unresolved

theorem Legible.foldl_withMember
    {members : List Member} (hmembers : ∀ m ∈ members, m.Legible) {c : Component}
    (hc : c.Legible) : (members.foldl Component.withMember c).Legible := by
  induction members generalizing c with
  | nil => exact hc
  | cons m members ih =>
      rcases List.forall_mem_cons.mp hmembers with ⟨hm, hothers⟩
      exact ih hothers (hc.withMember hm)

/-- Members that say who declares them are added as they are. -/
theorem foldl_withMember_of_declared
    {members : List Member} {c : Component}
    (hdeclared : ∀ m ∈ members, m.declaring = "" → c.name = "") :
    members.foldl withMember c = { c with members := c.members ++ members } := by
  induction members generalizing c with
  | nil => simp
  | cons m members ih =>
      rcases List.forall_mem_cons.mp hdeclared with ⟨hm, hothers⟩
      have hadded : c.withMember m = { c with members := c.members ++ [m] } := by
        unfold withMember
        by_cases hempty : m.declaring.isEmpty = true
        · have hdeclaring := String.isEmpty_iff.mp hempty
          rw [if_pos hempty, hm hdeclaring, ← hdeclaring]
        · rw [if_neg hempty]
      have hrest := ih (c := { c with members := c.members ++ [m] }) hothers
      rw [List.foldl_cons, hadded, hrest, List.append_assoc]
      rfl

end Component

namespace Json

theorem sortedItems_map {α : Type} (write : α → Json) (values : List α) :
    sortedItems (values.map write) = values.map fun a => (write a).sorted := by
  induction values with
  | nil => rfl
  | cons a values ih => rw [List.map_cons, sortedItems, ih, List.map_cons]

theorem sorted_texts (texts : List String) : (Json.texts texts).sorted = Json.texts texts := by
  rw [Json.texts, sorted, sortedItems_map]
  rfl

end Json

namespace Wire

section Records

variable {α σ : Type} {step : σ → String → Json → Read σ}

theorem fill_invariant
    {P : σ → Prop}
    (hstep : ∀ draft key value draft', P draft → step draft key value = .ok draft' → P draft')
    {draft draft' : σ} {fields : List (String × Json)} (hdraft : P draft)
    (hfill : fill step draft fields = .ok draft') : P draft' := by
  induction fields generalizing draft with
  | nil =>
      cases hfill
      exact hdraft
  | cons field fields ih =>
      rw [fill] at hfill
      split at hfill
      · cases hfill
      · next next hnext => exact ih (hstep _ _ _ _ hdraft hnext) hfill

/-- What is read as a record has been filled in field by field, and was finished. -/
theorem exists_filled_of_structure
    {names : List String} {needed : ℕ} {draft : σ} {finish : σ → Option α} {value : Json}
    {a : α} (hread : structure_ names needed draft step finish value = .ok a) :
    ∃ fields draft', fill step draft fields = .ok draft' ∧ finish draft' = some a := by
  unfold structure_ at hread
  simp only at hread
  split at hread
  · next fields =>
    split at hread
    · cases hread
    next draft' hfill =>
    split at hread
    · cases hread
    refine ⟨fields, draft', hfill, ?_⟩
    split at hread
    · next hsome =>
      cases hread
      exact hsome
    · cases hread
  · next values =>
    split at hread
    · cases hread
    next draft' hfill =>
    split at hread
    · refine ⟨_, draft', hfill, ?_⟩
      split at hread
      · next hsome =>
        cases hread
        exact hsome
      · cases hread
    · cases hread
  · cases hread

theorem forall_of_items
    {read : Json → Read α} {P : α → Prop} (hP : ∀ value a, read value = .ok a → P a)
    {values : List Json} {as : List α} (hread : items read values = .ok as) :
    ∀ a ∈ as, P a := by
  induction values generalizing as with
  | nil =>
      cases hread
      simp
  | cons value values ih =>
      rw [items] at hread
      split at hread
      · cases hread
      next a ha =>
      split at hread
      · cases hread
      next rest hrest =>
      cases hread
      exact List.forall_mem_cons.mpr ⟨hP value a ha, ih hrest⟩

theorem forall_of_list
    {read : Json → Read α} {P : α → Prop} (hP : ∀ value a, read value = .ok a → P a)
    {value : Json} {as : List α} (hread : list read value = .ok as) : ∀ a ∈ as, P a := by
  unfold list at hread
  split at hread
  · exact forall_of_items hP hread
  · cases hread

end Records

section Types

theorem legible_of_type {value : Json} {t : ValueType} (hread : type value = .ok t) :
    t.Legible := by
  unfold type at hread
  split at hread
  · cases hread
  next s _ =>
  unfold parsed at hread
  split at hread
  · next parsedType hparse =>
    cases hread
    exact ValueType.legible_of_ofChars hparse
  · cases hread

theorem type_text {t : ValueType} (ht : t.Legible) : type (.text t.text) = .ok t := by
  have hparse : ValueType.parse t.text = .ok t := ht.ofChars_text
  unfold type
  simp only [text, hparse, parsed]

theorem types_writeTypes {ts : List ValueType} (hts : ∀ t ∈ ts, t.Legible) :
    types (writeTypes ts) = .ok ts := by
  unfold types writeTypes Json.texts list
  rw [List.map_map]
  exact items_map fun t ht => type_text (hts t ht)

theorem visibility_word (v : Visibility) : visibility (.text v.word) = .ok v := by
  cases v <;> rfl

theorem memberKind_word (kind : MemberKind) : memberKind (.text kind.word) = .ok kind := by
  cases kind <;> rfl

theorem componentKind_word (kind : ComponentKind) :
    componentKind (.text kind.word) = .ok kind := by
  cases kind <;> rfl

theorem list_texts (texts : List String) : list text (.texts texts) = .ok texts :=
  items_map fun _ _ => rfl

end Types

/-- What is written is read as this value: from its text, with the fields in the order in
which they were written or sorted by key. -/
structure ReadBack {α : Type} (read : Json → Read α) (written : Json) (a : α) : Prop where
  text : Json.parseRaw? written.compact = some written
  asWritten : read written = .ok a
  sorted : read written.sorted = .ok a

section Members

variable {m : Member}

theorem legible_of_member {value : Json} (hread : member value = .ok m) : m.Legible := by
  rcases exists_filled_of_structure hread with ⟨fields, draft, hfill, hfinish⟩
  have hdraft : draft.rest.Legible := by
    refine fill_invariant (P := fun d : MemberDraft => d.rest.Legible) ?_ ?_ hfill
    · intro d key value d' hd hstep
      unfold memberField at hstep
      split at hstep
      · rcases exists_of_map_eq_ok hstep with ⟨_, -, rfl⟩
        exact hd
      · rcases exists_of_map_eq_ok hstep with ⟨ts, hts, rfl⟩
        exact ⟨forall_of_list (fun _ _ => legible_of_type) hts, hd.returnType⟩
      · rcases exists_of_map_eq_ok hstep with ⟨t, ht, rfl⟩
        exact ⟨hd.params, legible_of_type ht⟩
      · rcases exists_of_map_eq_ok hstep with ⟨_, -, rfl⟩
        exact ⟨hd.params, hd.returnType⟩
      · rcases exists_of_map_eq_ok hstep with ⟨_, -, rfl⟩
        exact ⟨hd.params, hd.returnType⟩
      · rcases exists_of_map_eq_ok hstep with ⟨_, -, rfl⟩
        exact ⟨hd.params, hd.returnType⟩
      · rcases exists_of_map_eq_ok hstep with ⟨_, -, rfl⟩
        exact ⟨hd.params, hd.returnType⟩
      · cases hstep
        exact hd
    · exact ⟨by simp, trivial⟩
  rcases Option.map_eq_some_iff.mp hfinish with ⟨name, -, rfl⟩
  exact ⟨hdraft.params, hdraft.returnType⟩

theorem worded_writeMember (m : Member) : Json.Worded 2 (writeMember m) := by
  apply Json.Worded.record
  simp only [List.forall_mem_cons]
  exact ⟨.text _, .texts _ _, .text _, .text _, .bool _, .text _, .text _, by simp⟩

theorem sorted_writeMember (m : Member) :
    (writeMember m).sorted =
      .record [("declaring", .text m.declaring), ("is_static", .bool m.isStatic),
        ("kind", .text m.kind.word), ("name", .text m.name), ("params", writeTypes m.params),
        ("return_type", .text m.returnType.text), ("visibility", .text m.visibility.word)] := by
  have hparams : (writeTypes m.params).sorted = writeTypes m.params := Json.sorted_texts _
  simp only [writeMember, Json.sorted, Json.sortedFields, hparams]
  rfl

theorem readBack_writeMember (hm : m.Legible) : ReadBack member (writeMember m) m := by
  have hparams : ∀ d, memberField d "params" (writeTypes m.params) =
      .ok { d with rest := { d.rest with params := m.params } } := by
    intro d
    unfold memberField
    simp only [types_writeTypes hm.params]
    rfl
  have hreturn : ∀ d, memberField d "return_type" (.text m.returnType.text) =
      .ok { d with rest := { d.rest with returnType := m.returnType } } := by
    intro d
    unfold memberField
    simp only [type_text hm.returnType]
    rfl
  have hvisibility : ∀ d, memberField d "visibility" (.text m.visibility.word) =
      .ok { d with rest := { d.rest with visibility := m.visibility } } := by
    intro d
    unfold memberField
    simp only [visibility_word]
    rfl
  have hkind : ∀ d, memberField d "kind" (.text m.kind.word) =
      .ok { d with rest := { d.rest with kind := m.kind } } := by
    intro d
    unfold memberField
    simp only [memberKind_word]
    rfl
  have hname : ∀ d, memberField d "name" (.text m.name) = .ok { d with name := some m.name } :=
    fun _ => rfl
  have hstatic : ∀ d, memberField d "is_static" (.bool m.isStatic) =
      .ok { d with rest := { d.rest with isStatic := m.isStatic } } :=
    fun _ => rfl
  have hdeclaring : ∀ d, memberField d "declaring" (.text m.declaring) =
      .ok { d with rest := { d.rest with declaring := m.declaring } } :=
    fun _ => rfl
  let filled : MemberDraft := ⟨some m.name, { m with name := "" }⟩
  have hfinish : (filled.name.map fun name => { filled.rest with name }) = some m := rfl
  constructor
  · exact Json.parseRaw?_compact (worded_writeMember m) (by decide)
  · refine structure_record ?_ rfl hfinish
    simp only [fill, hname, hparams, hreturn, hvisibility, hstatic, hkind, hdeclaring]
    rfl
  · rw [sorted_writeMember]
    refine structure_record ?_ rfl hfinish
    simp only [fill, hname, hparams, hreturn, hvisibility, hstatic, hkind, hdeclaring]
    rfl

end Members

section Components

variable {c : Component}

theorem legible_of_component {value : Json} (hread : component value = .ok c) :
    c.Legible := by
  rcases exists_filled_of_structure hread with ⟨fields, draft, hfill, hfinish⟩
  have hdraft : ∀ m ∈ draft.members, m.Legible := by
    refine fill_invariant (P := fun d : ComponentDraft => ∀ m ∈ d.members, m.Legible) ?_ ?_ hfill
    · intro d key value d' hd hstep
      unfold componentField at hstep
      split at hstep
      · rcases exists_of_map_eq_ok hstep with ⟨_, -, rfl⟩
        exact hd
      · rcases exists_of_map_eq_ok hstep with ⟨_, -, rfl⟩
        exact hd
      · rcases exists_of_map_eq_ok hstep with ⟨_, -, rfl⟩
        exact hd
      · rcases exists_of_map_eq_ok hstep with ⟨_, -, rfl⟩
        exact hd
      · rcases exists_of_map_eq_ok hstep with ⟨_, -, rfl⟩
        exact hd
      · rcases exists_of_map_eq_ok hstep with ⟨ms, hms, rfl⟩
        exact forall_of_list (fun _ _ => legible_of_member) hms
      · cases hstep
        exact hd
    · simp
  unfold ComponentDraft.finish? at hfinish
  split at hfinish
  · cases hfinish
    apply Component.Legible.foldl_withMember hdraft
    exact ⟨by simp, by simp, rfl⟩
  · cases hfinish

theorem worded_writeComponent (c : Component) : Json.Worded 4 (writeComponent c) := by
  have hmembers : Json.Worded 3 (.list (c.members.map writeMember)) := by
    apply Json.Worded.list
    intro item hitem
    rcases List.mem_map.mp hitem with ⟨m, -, rfl⟩
    exact worded_writeMember m
  apply Json.Worded.record
  cases hsuper : c.superName with
  | none =>
      simp only [List.append_nil, List.cons_append, List.nil_append, List.forall_mem_cons]
      exact ⟨.text _, .text _, .text _, .texts _ _, hmembers, by simp⟩
  | some name =>
      simp only [List.cons_append, List.nil_append, List.forall_mem_cons]
      exact ⟨.text _, .text _, .text _, .text _, .texts _ _, hmembers, by simp⟩

theorem sorted_writeComponent (c : Component) :
    (writeComponent c).sorted =
      .record ([("id", .text c.id), ("interfaces", .texts c.interfaces),
        ("kind", .text c.kind.word),
        ("members", .list (c.members.map fun m => (writeMember m).sorted)),
        ("name", .text c.name)] ++
          match c.superName with
          | some name => [("super", .text name)]
          | none => []) := by
  unfold writeComponent
  cases c.superName with
  | none =>
      simp only [List.append_nil, List.cons_append, List.nil_append, Json.sorted,
        Json.sortedFields, Json.sorted_texts, Json.sortedItems_map]
      rfl
  | some name =>
      simp only [List.cons_append, List.nil_append, Json.sorted, Json.sortedFields,
        Json.sorted_texts, Json.sortedItems_map]
      rfl

theorem finish?_eq_some (hc : c.Legible) :
    ComponentDraft.finish?
      ⟨some c.name, some c.id, c.kind, c.superName, c.interfaces, c.members⟩ = some c := by
  have hadded := Component.foldl_withMember_of_declared (c := { c with members := [] })
    hc.declared
  have hunresolved := hc.unresolved
  unfold ComponentDraft.finish?
  cases c
  cases hunresolved
  exact congrArg some hadded

theorem readBack_writeComponent (hc : c.Legible) : ReadBack component (writeComponent c) c := by
  have hname : ∀ d, componentField d "name" (.text c.name) =
      .ok { d with name := some c.name } := fun _ => rfl
  have hid : ∀ d, componentField d "id" (.text c.id) = .ok { d with id := some c.id } :=
    fun _ => rfl
  have hkind : ∀ d, componentField d "kind" (.text c.kind.word) =
      .ok { d with kind := c.kind } := by
    intro d
    unfold componentField
    simp only [componentKind_word]
    rfl
  have hsuper : ∀ d name, componentField d "super" (.text name) =
      .ok { d with superName := some name } := fun _ _ => rfl
  have hinterfaces : ∀ d, componentField d "interfaces" (.texts c.interfaces) =
      .ok { d with interfaces := c.interfaces } := by
    intro d
    unfold componentField
    simp only [list_texts]
    rfl
  have hmembers : ∀ (write : Member → Json) d, (∀ m ∈ c.members, member (write m) = .ok m) →
      componentField d "members" (.list (c.members.map write)) =
        .ok { d with members := c.members } := by
    intro write d hwrite
    have hlist : list member (.list (c.members.map write)) = .ok c.members := items_map hwrite
    unfold componentField
    simp only [hlist]
    rfl
  have hback : ∀ m ∈ c.members, ReadBack member (writeMember m) m :=
    fun m hm => readBack_writeMember (hc.members m hm)
  have hwritten : ∀ d, componentField d "members" (.list (c.members.map writeMember)) =
      .ok { d with members := c.members } :=
    fun d => hmembers writeMember d fun m hm => (hback m hm).asWritten
  have hsorted : ∀ d, componentField d "members"
      (.list (c.members.map fun m => (writeMember m).sorted)) =
        .ok { d with members := c.members } :=
    fun d => hmembers _ d fun m hm => (hback m hm).sorted
  have hfinish := finish?_eq_some hc
  constructor
  · exact Json.parseRaw?_compact (worded_writeComponent c) (by decide)
  · unfold writeComponent
    cases hdirect : c.superName with
    | none =>
        rw [hdirect] at hfinish
        refine structure_record ?_ rfl hfinish
        simp only [List.append_nil, List.cons_append, List.nil_append, fill, hname, hid, hkind,
          hinterfaces, hwritten]
    | some name =>
        rw [hdirect] at hfinish
        refine structure_record ?_ rfl hfinish
        simp only [List.cons_append, List.nil_append, fill, hname, hid, hkind, hsuper,
          hinterfaces, hwritten]
  · rw [sorted_writeComponent]
    cases hdirect : c.superName with
    | none =>
        rw [hdirect] at hfinish
        refine structure_record ?_ rfl hfinish
        simp only [List.append_nil, fill, hname, hid, hkind, hinterfaces, hsorted]
    | some name =>
        rw [hdirect] at hfinish
        refine structure_record ?_ rfl hfinish
        simp only [List.cons_append, List.nil_append, fill, hname, hid, hkind, hsuper,
          hinterfaces, hsorted]

end Components

/-- What has been read is read again from what is written for it. -/
theorem written_readBack :
    (∀ s t, ValueType.parse s = .ok t → ValueType.parse t.text = .ok t) ∧
      (∀ value m, member value = .ok m → ReadBack member (writeMember m) m) ∧
      ∀ value c, component value = .ok c → ReadBack component (writeComponent c) c := by
  refine ⟨?_, ?_, ?_⟩
  · intro s t hread
    exact (ValueType.legible_of_ofChars hread).ofChars_text
  · intro value m hread
    exact readBack_writeMember (legible_of_member hread)
  · intro value c hread
    exact readBack_writeComponent (legible_of_component hread)

end Wire

namespace Samples

/-- A component as it is handed over, with blanks, type arguments and packages. -/
def shelfDeclaration : Json :=
  .record [("id", .text "shelf"), ("interfaces", .texts ["demo.Storage"]),
    ("kind", .text "Abstract"),
    ("members", .list [
      .record [("name", .text "put"),
        ("params", .texts [" java.lang.Integer [] []", "java.util.List< String >"])],
      .record [("declaring", .text "demo.Box"), ("name", .text "größe"),
        ("return_type", .text "demo.Maß<K,V> []")]]),
    ("name", .text "demo.Shelf"), ("super", .text "demo.Box")]

def shelf : Component where
  name := "demo.Shelf"
  id := "shelf"
  kind := .abstract
  superName := some "demo.Box"
  interfaces := ["demo.Storage"]
  members := [
    { name := "put", params := [.array (.array (.boxed .int)), .list], declaring := "demo.Shelf" },
    { name := "größe", returnType := .array (.named "demo.Maß"), declaring := "demo.Box" }]

end Samples

open Samples in
theorem Wire.written_readBack_shelf :
    component shelfDeclaration = .ok shelf ∧ ReadBack component (writeComponent shelf) shelf := by
  have hread : component shelfDeclaration = .ok shelf := by decide +kernel
  exact ⟨hread, written_readBack.2.2 shelfDeclaration shelf hread⟩

end Refit
