import Refit.Proofs.Trial.Statements

/-!
# Agreement

Two observations are compared at the places of both, in the order of the keys, whichever
of them is the oracle.  The one thing in which the two comparisons differ is that an
oracle that has nothing accepts an object.  An observation agrees with itself, and which
step an object refers to makes no difference.
-/

namespace Refit

namespace Similarity

variable {columns : List ℕ} {a b o : Observation} {key : String}

section Cells

theorem missingCell_ne_instanceCell : missingCell ≠ instanceCell := by
  intro hsame
  have hread := congrArg Json.parse? hsame
  unfold missingCell instanceCell CellText.ofText at hread
  rw [Json.parse?_quoted, Json.parse?_quoted] at hread
  have hmarker : CellText.missingMarker = CellText.instanceMarker :=
    Json.text.inj (Option.some.inj hread)
  revert hmarker
  decide

theorem agree_iff {x y : String} :
    agree x y = true ↔ x = y ∨ (x = missingCell ∧ y = instanceCell) := by
  unfold agree
  rw [Bool.or_eq_true, Bool.and_eq_true, beq_iff_eq, beq_iff_eq, beq_iff_eq]

theorem agree_self (cell : String) : agree cell cell = true := agree_iff.mpr (.inl rfl)

/-- The two ways to compare differ where one side has nothing and the other an object. -/
theorem agree_ne_iff {x y : String} :
    agree x y ≠ agree y x ↔
      (x = missingCell ∧ y = instanceCell) ∨ (x = instanceCell ∧ y = missingCell) := by
  have hne := missingCell_ne_instanceCell
  rw [ne_eq, Bool.eq_iff_iff, agree_iff, agree_iff]
  constructor
  · intro hdiffer
    by_contra hneither
    rw [not_or] at hneither
    apply hdiffer
    rw [or_iff_left hneither.1, or_iff_left fun h => hneither.2 h.symm, eq_comm]
  · rintro (⟨rfl, rfl⟩ | ⟨rfl, rfl⟩)
    · simp [hne, hne.symm]
    · simp [hne, hne.symm]

/-- The cell that an observation is taken to have for a key. -/
def cellAt (columns : List ℕ) (o : Observation) (key : String) : String :=
  (lastCell columns o key).getD missingCell

/-- The observation says nothing under the key, or that there is nothing. -/
def Absent (columns : List ℕ) (o : Observation) (key : String) : Prop :=
  lastCell columns o key = none ∨ lastCell columns o key = some missingCell

/-- The observation says that there is an object. -/
def Live (columns : List ℕ) (o : Observation) (key : String) : Prop :=
  lastCell columns o key = some instanceCell

theorem cellAt_eq_missingCell : cellAt columns o key = missingCell ↔ Absent columns o key := by
  unfold cellAt Absent
  cases lastCell columns o key <;> simp

theorem cellAt_eq_instanceCell : cellAt columns o key = instanceCell ↔ Live columns o key := by
  have hne := missingCell_ne_instanceCell
  unfold cellAt Live
  cases lastCell columns o key <;> simp [hne]

end Cells

section Vectors

/-- The keys at which two observations are compared. -/
def sharedKeys (columns : List ℕ) (a b : Observation) : List String :=
  allKeys (statements columns a) (statements columns b)

theorem vector_compareWith (columns : List ℕ) (a b : Observation) :
    (compareWith columns a b).vector =
      (sharedKeys columns a b).map fun key =>
        agree (cellAt columns a key) (cellAt columns b key) := by
  unfold compareWith cellAt
  simp only [lookup_statements]
  rfl

theorem mem_sharedKeys :
    key ∈ sharedKeys columns a b ↔
      ∃ place ∈ places columns a ++ places columns b, placeKey place = key := by
  unfold sharedKeys
  rw [mem_allKeys, mem_keys_statements, mem_keys_statements]
  constructor
  · rintro (⟨place, hplace, hkey⟩ | ⟨place, hplace, hkey⟩)
    · exact ⟨place, List.mem_append_left _ hplace, hkey⟩
    · exact ⟨place, List.mem_append_right _ hplace, hkey⟩
  · rintro ⟨place, hplace, hkey⟩
    exact (List.mem_append.mp hplace).imp (⟨place, ·, hkey⟩) (⟨place, ·, hkey⟩)

theorem sharedKeys_comm (columns : List ℕ) (a b : Observation) :
    sharedKeys columns a b = sharedKeys columns b a :=
  allKeys_comm _ _

/-- There are as many keys as places of either observation. -/
theorem length_sharedKeys (columns : List ℕ) (a b : Observation) :
    (sharedKeys columns a b).length =
      (places columns a ++ places columns b).toFinset.card := by
  have hkeys : (sharedKeys columns a b).toFinset =
      (places columns a ++ places columns b).toFinset.image placeKey := by
    ext key
    rw [List.mem_toFinset, mem_sharedKeys, Finset.mem_image]
    simp only [List.mem_toFinset]
  calc (sharedKeys columns a b).length = (sharedKeys columns a b).toFinset.card :=
        (List.toFinset_card_of_nodup (nodup_allKeys _ _)).symm
    _ = ((places columns a ++ places columns b).toFinset.image placeKey).card := by rw [hkeys]
    _ = (places columns a ++ places columns b).toFinset.card :=
        Finset.card_image_of_injective _ placeKey_injective

theorem total_compareWith (columns : List ℕ) (a b : Observation) :
    (compareWith columns a b).total = (places columns a ++ places columns b).toFinset.card := by
  unfold total
  rw [vector_compareWith, List.length_map, length_sharedKeys]

theorem vector_compareWith_self (columns : List ℕ) (a : Observation) :
    ∀ bit ∈ (compareWith columns a a).vector, bit = true := by
  intro bit hbit
  rw [vector_compareWith] at hbit
  rcases List.mem_map.mp hbit with ⟨key, -, rfl⟩
  exact agree_self _

end Vectors

section References

/-- The cell holds a text that begins like a reference to a step. -/
def Referring (cell : String) : Prop :=
  ∃ s, Json.parse? (String.ofList (Text.trim cell.toList)) = some (.text s) ∧
    CellText.referenceStart.toList <+: s.toList

theorem plainCell_of_referring {cell : String} (hcell : Referring cell) :
    plainCell cell = instanceCell := by
  rcases hcell with ⟨s, hs, hstart⟩
  unfold plainCell
  simp only [hs, List.isPrefixOf_iff_prefix.mpr hstart, if_true]

theorem trim_ofText (s : String) :
    String.ofList (Text.trim (CellText.ofText s).toList) = CellText.ofText s := by
  have hquote : Text.isBlank '"' = false := by decide
  have htrimmed : Text.Trimmed (CellText.ofText s).toList := by
    unfold CellText.ofText Json.quoted Json.quotedChars
    rw [String.toList_ofList]
    apply Text.trimmed_of_ends
    · intro c hc
      cases hc
      exact hquote
    · intro c hc
      rw [List.getLast?_concat] at hc
      cases hc
      exact hquote
  rw [htrimmed, String.ofList_toList]

theorem referring_ofText {s : String} (hs : CellText.referenceStart.toList <+: s.toList) :
    Referring (CellText.ofText s) := by
  refine ⟨s, ?_, hs⟩
  rw [trim_ofText]
  exact Json.parse?_quoted s

theorem referring_reference (typeName : String) (row : ℕ) :
    Referring (CellText.ofText (CellText.reference typeName row)) := by
  apply referring_ofText
  unfold CellText.reference
  rw [String.toList_append, String.toList_append, String.toList_append, List.append_assoc,
    List.append_assoc]
  exact List.prefix_append _ _

/-- The same cell in the same place, or another that refers to a step. -/
def RelabelledCell (entry entry' : (ℕ × ℕ) × String) : Prop :=
  entry'.1 = entry.1 ∧ (entry'.2 = entry.2 ∨ Referring entry.2 ∧ Referring entry'.2)

/-- The same sheet, but for the steps that its cells refer to. -/
structure RelabelledSheet (s s' : Sheet) : Prop where
  name : s'.name = s.name
  cells : List.Forall₂ RelabelledCell s.cells s'.cells

/-- The same observation, but for the steps that the cells refer to. -/
structure Relabelled (o o' : Observation) : Prop where
  systemId : o'.systemId = o.systemId
  sheets : List.Forall₂ RelabelledSheet o.sheets o'.sheets

theorem Relabelled.refl (o : Observation) : Relabelled o o :=
  ⟨rfl, List.forall₂_same.mpr fun _ _ =>
    ⟨rfl, List.forall₂_same.mpr fun _ _ => ⟨rfl, .inl rfl⟩⟩⟩

theorem RelabelledCell.plainCell_eq {entry entry' : (ℕ × ℕ) × String}
    (h : RelabelledCell entry entry') : plainCell entry.2 = plainCell entry'.2 := by
  rcases h.2 with hsame | ⟨hcell, hcell'⟩
  · rw [hsame]
  · rw [plainCell_of_referring hcell, plainCell_of_referring hcell']

theorem RelabelledSheet.statements_eq {s s' : Sheet} (h : RelabelledSheet s s') :
    sheetStatements columns s = sheetStatements columns s' := by
  have hchosen := List.rel_filter
    (p := fun entry => columns.contains entry.1.2) (q := fun entry => columns.contains entry.1.2)
    (fun entry entry' (hentry : RelabelledCell entry entry') => by simp only [hentry.1]) h.cells
  have hwritten : List.Forall₂ Eq (sheetStatements columns s) (sheetStatements columns s') := by
    unfold sheetStatements
    rw [h.name]
    apply List.rel_map _ hchosen
    intro entry entry' hentry
    have hplain := hentry.plainCell_eq
    rcases entry with ⟨place, cell⟩
    rcases entry' with ⟨place', cell'⟩
    cases hentry.1
    simp only [hplain]
  rwa [List.forall₂_eq_eq_eq] at hwritten

theorem Relabelled.statements_eq {o o' : Observation} (h : Relabelled o o') :
    statements columns o = statements columns o' := by
  have hwritten : List.Forall₂ Eq (o.sheets.flatMap (sheetStatements columns))
      (o'.sheets.flatMap (sheetStatements columns)) := by
    apply List.rel_flatMap h.sheets
    intro s s' hsheet
    rw [hsheet.statements_eq, List.forall₂_eq_eq_eq]
  rw [List.forall₂_eq_eq_eq] at hwritten
  unfold statements
  rw [hwritten]

theorem Relabelled.compareWith_eq {a a' b b' : Observation} (ha : Relabelled a a')
    (hb : Relabelled b b') : compareWith columns a b = compareWith columns a' b' := by
  unfold compareWith
  rw [ha.statements_eq, hb.statements_eq, hb.systemId]

end References

/-- Two observations, each compared with the other.  The keys are those of the places of
both, one key for each; the two comparisons go through them in one order and differ at
those at which one observation has nothing and the other an object.  An observation agrees
with itself everywhere, and other references in the place of those that are there change
nothing. -/
theorem evaluate_sound (columns : List ℕ) (a b : Observation) :
    ∃ (ab ba aa : Similarity) (keys : List String),
      evaluate columns a [b] = [ab] ∧ evaluate columns b [a] = [ba] ∧
      evaluate columns a [a] = [aa] ∧
      (keys.Pairwise fun key key' => compare key key' = .lt) ∧
      (∀ key, key ∈ keys ↔ ∃ place ∈ places columns a ++ places columns b,
        placeKey place = key) ∧
      (ab.vector = keys.map fun key => agree (cellAt columns a key) (cellAt columns b key)) ∧
      (ba.vector = keys.map fun key => agree (cellAt columns b key) (cellAt columns a key)) ∧
      ab.total = (places columns a ++ places columns b).toFinset.card ∧
      ba.total = ab.total ∧
      (∀ (n : ℕ) key, keys[n]? = some key →
        (ab.vector[n]? ≠ ba.vector[n]? ↔
          (Absent columns a key ∧ Live columns b key) ∨
            (Live columns a key ∧ Absent columns b key))) ∧
      (∀ bit ∈ aa.vector, bit = true) ∧
      (∀ a' b', Relabelled a a' → Relabelled b b' → evaluate columns a' [b'] = [ab]) ∧
      ∀ typeName row, Referring (CellText.ofText (CellText.reference typeName row)) := by
  have hba : (compareWith columns b a).vector =
      (sharedKeys columns a b).map fun key =>
        agree (cellAt columns b key) (cellAt columns a key) := by
    rw [sharedKeys_comm, vector_compareWith]
  refine ⟨compareWith columns a b, compareWith columns b a, compareWith columns a a,
    sharedKeys columns a b, rfl, rfl, rfl, pairwise_allKeys _ _, fun key => mem_sharedKeys,
    vector_compareWith columns a b, hba, total_compareWith columns a b, ?_, ?_,
    vector_compareWith_self columns a, ?_, referring_reference⟩
  · unfold total
    rw [hba, vector_compareWith, List.length_map, List.length_map]
  · intro n key hkey
    rw [hba, vector_compareWith, List.getElem?_map, List.getElem?_map, hkey, Option.map_some,
      Option.map_some, ne_eq, Option.some_inj]
    rw [← ne_eq, agree_ne_iff, cellAt_eq_missingCell, cellAt_eq_instanceCell,
      cellAt_eq_missingCell, cellAt_eq_instanceCell]
  · intro a' b' ha hb
    rw [ha.compareWith_eq hb]
    rfl

/-- Two steps, the first of which says nothing. -/
def silentStack : Observation :=
  ⟨"oracle", [⟨"push_size", [((0, 0), "\"_NA_\""), ((1, 0), "1")]⟩]⟩

/-- Two steps, the first of which refers to a step. -/
def stackReferring (typeName : String) (row : ℕ) : Observation :=
  ⟨"system", [⟨"push_size",
    [((0, 0), CellText.ofText (CellText.reference typeName row)), ((1, 0), "1")]⟩]⟩

theorem evaluate_sound_stack :
    evaluate [0] silentStack [stackReferring "Stack" 0] = [⟨"system", [true, true]⟩] ∧
      evaluate [0] (stackReferring "Stack" 0) [silentStack] = [⟨"oracle", [false, true]⟩] ∧
      evaluate [0] silentStack [stackReferring "demo.Stack" 4] =
        [⟨"system", [true, true]⟩] := by
  have hforward : evaluate [0] silentStack [stackReferring "Stack" 0] =
      [⟨"system", [true, true]⟩] := by
    decide +kernel
  rcases evaluate_sound [0] silentStack (stackReferring "Stack" 0) with
    ⟨ab, ba, aa, keys, hab, -, -, -, -, -, -, -, -, -, -, hrelabelled, hreferring⟩
  have hstack : Relabelled (stackReferring "Stack" 0) (stackReferring "demo.Stack" 4) :=
    ⟨rfl, .cons ⟨rfl, .cons ⟨rfl, .inr ⟨hreferring _ _, hreferring _ _⟩⟩
      (.cons ⟨rfl, .inl rfl⟩ .nil)⟩ .nil⟩
  refine ⟨hforward, by decide +kernel, ?_⟩
  rw [hrelabelled _ _ (Relabelled.refl _) hstack, ← hab, hforward]

end Similarity

end Refit
