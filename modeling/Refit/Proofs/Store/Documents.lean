import Refit.Proofs.Json.Outlines
import Refit.Store.Folder

/-!
# Sheet files are read back

The text that is written for a sheet is read as this sheet, when all its numbers fit 64
bits, whatever its texts are.
-/

namespace Refit

namespace Wire

section Records

variable {α σ : Type} {step : σ → String → Json → Read σ} {draft draft' : σ}
  {fields : List (String × Json)}

theorem natural_nat {n : ℕ} (hn : n < 2 ^ 64) : natural (.nat n) = .ok n := by
  have hbound : (n : ℤ) < (Nat.pow 2 64 : ℕ) := by exact_mod_cast hn
  unfold natural Json.nat
  simp only [Int.natCast_nonneg, decide_true, hbound, Bool.and_self, if_true, Int.toNat_natCast]

theorem items_map
    {read : Json → Read α} {write : α → Json} {values : List α}
    (h : ∀ a ∈ values, read (write a) = .ok a) : items read (values.map write) = .ok values := by
  induction values with
  | nil => rfl
  | cons a values ih =>
      obtain ⟨hfirst, hrest⟩ := List.forall_mem_cons.mp h
      rw [List.map_cons, items, hfirst]
      simp only [ih hrest]

theorem fill_cons {key : String} {value : Json} (hstep : step draft key value = .ok draft') :
    fill step draft ((key, value) :: fields) = fill step draft' fields := by
  rw [fill, hstep]

theorem structure_record
    {names : List String} {needed : ℕ} {finish : σ → Option α} {a : α}
    (hfill : fill step draft fields = .ok draft') (honce : repeats names fields = false)
    (hfinish : finish draft' = some a) :
    structure_ names needed draft step finish (.record fields) = .ok a := by
  unfold structure_
  simp [hfill, honce, hfinish]

variable {texts numbers : List String} {key : String}

theorem Filled.field?_text (f : Filled) (hkey : texts.contains key = true) (s : String) :
    f.field? texts numbers key (.text s) = some (.ok { f with texts := (key, s) :: f.texts }) := by
  unfold Filled.field?
  rw [if_pos hkey]
  rfl

theorem Filled.field?_nat
    (f : Filled) (hkey : texts.contains key = false) (hnumber : numbers.contains key = true)
    {n : ℕ} (hn : n < 2 ^ 64) :
    f.field? texts numbers key (.nat n) =
      some (.ok { f with numbers := (key, n) :: f.numbers }) := by
  unfold Filled.field?
  rw [if_neg (ne_true_of_eq_false hkey), if_pos hnumber, natural_nat hn]
  rfl

end Records

theorem sheetKind_word (kind : SheetKind) : sheetKind (.text kind.word) = .ok kind := by
  cases kind <;> rfl

theorem scope_writeScope {s : Scope} (hadapter : s.adapterId < 2 ^ 64) :
    scope (writeScope s) = .ok s := by
  have htext : ∀ (f : Filled) (key text : String), scopeTexts.contains key = true →
      scopeField f key (.text text) = .ok { f with texts := (key, text) :: f.texts } := by
    intro f key text hkey
    unfold scopeField
    rw [f.field?_text hkey]
    rfl
  have hnumber : ∀ f : Filled, scopeField f "adapter_id" (.nat s.adapterId) =
      .ok { f with numbers := ("adapter_id", s.adapterId) :: f.numbers } := by
    intro f
    unfold scopeField
    rw [f.field?_nat (by decide) (by decide) hadapter]
    rfl
  have hfill : fill scopeField {} (scopeFields s) =
      .ok ⟨[("candidate_id", s.candidateId), ("sheet_id", s.sheetId), ("action_id", s.actionId),
        ("abstraction_id", s.abstractionId), ("execution_id", s.executionId)],
        [("adapter_id", s.adapterId)]⟩ := by
    unfold scopeFields
    rw [fill_cons (htext _ _ _ (by decide)), fill_cons (htext _ _ _ (by decide)),
      fill_cons (htext _ _ _ (by decide)), fill_cons (htext _ _ _ (by decide)),
      fill_cons (htext _ _ _ (by decide)), fill_cons (hnumber _)]
    rfl
  exact structure_record hfill rfl rfl

end Wire

namespace SheetDocument

/-- All numbers of the sheet fit 64 bits. -/
structure Storable (s : SheetDocument) : Prop where
  adapter : s.key.scope.adapterId < 2 ^ 64
  cells : ∀ cell ∈ s.cells, cell.1.1 < 2 ^ 64 ∧ cell.1.2 < 2 ^ 64

theorem cell_writeCell {c : (ℕ × ℕ) × String} (hrow : c.1.1 < 2 ^ 64) (hcolumn : c.1.2 < 2 ^ 64) :
    cell (writeCell c) = .ok c := by
  have hnumber : ∀ (f : Wire.Filled) (key : String) (n : ℕ), n < 2 ^ 64 →
      ["value"].contains key = false → ["row", "column"].contains key = true →
      cellField f key (.nat n) = .ok { f with numbers := (key, n) :: f.numbers } := by
    intro f key n hn hkey hnumber
    unfold cellField
    rw [f.field?_nat hkey hnumber hn]
    rfl
  have hvalue : ∀ f : Wire.Filled, cellField f "value" (.text c.2) =
      .ok { f with texts := ("value", c.2) :: f.texts } := by
    intro f
    unfold cellField
    rw [f.field?_text (by decide)]
    rfl
  have hfill : Wire.fill cellField {} [("row", .nat c.1.1), ("column", .nat c.1.2),
      ("value", .text c.2)] = .ok ⟨[("value", c.2)], [("column", c.1.2), ("row", c.1.1)]⟩ := by
    rw [Wire.fill_cons (hnumber _ _ _ hrow (by decide) (by decide)),
      Wire.fill_cons (hnumber _ _ _ hcolumn (by decide) (by decide)), Wire.fill_cons (hvalue _)]
    rfl
  exact Wire.structure_record hfill rfl rfl

theorem ofJson_write {s : SheetDocument} (h : s.Storable) : ofJson s.write = .ok s := by
  have hscope : ∀ d : Draft, field d "scope" (Wire.writeScope s.key.scope) =
      .ok { d with scope := some s.key.scope } := by
    intro d
    unfold field
    simp only [Wire.scope_writeScope h.adapter]
    rfl
  have hkind : ∀ d : Draft, field d "kind" (.text s.key.kind.word) =
      .ok { d with kind := some s.key.kind } := by
    intro d
    unfold field
    simp only [Wire.sheetKind_word]
    rfl
  have hcells : ∀ d : Draft, field d "cells" (.list (s.cells.map writeCell)) =
      .ok { d with cells := some s.cells } := by
    intro d
    unfold field
    simp only [Wire.list]
    rw [Wire.items_map fun c hc => cell_writeCell (h.cells c hc).1 (h.cells c hc).2]
    rfl
  have hfill : Wire.fill field {} [("scope", Wire.writeScope s.key.scope),
      ("kind", .text s.key.kind.word), ("cells", .list (s.cells.map writeCell))] =
      .ok ⟨some s.key.scope, some s.key.kind, some s.cells⟩ := by
    rw [Wire.fill_cons (hscope _), Wire.fill_cons (hkind _), Wire.fill_cons (hcells _)]
    rfl
  exact Wire.structure_record hfill rfl rfl

theorem fits_write {s : SheetDocument} (h : s.Storable) : Json.Fits outline s.write := by
  have hscope : Json.Fits (.fields Wire.scopeNames) (Wire.writeScope s.key.scope) := by
    refine Json.fits_fields (by simp [Wire.scopeFields, Wire.scopeNames, Wire.scopeTexts]) ?_
    simp [Wire.scopeFields, Json.Fits.text, Json.Fits.nat h.adapter]
  have hcell : ∀ c ∈ s.cells, Json.Fits (.fields cellNames) (writeCell c) := by
    intro c hc
    refine Json.fits_fields (by simp [cellNames]) ?_
    simp [Json.Fits.text, Json.Fits.nat (h.cells c hc).1, Json.Fits.nat (h.cells c hc).2]
  refine .record (by simp) ?_
  simp only [List.forall_mem_cons]
  refine ⟨?_, ?_, ?_, by simp⟩
  · rintro _ ⟨⟩
    exact hscope
  · rintro _ ⟨⟩
    exact .text _
  · rintro _ ⟨⟩
    refine .list ?_
    rintro _ hitem
    obtain ⟨c, hc, rfl⟩ := List.mem_map.mp hitem
    exact hcell c hc

theorem parse?_of_ofJson {text : String} {value : Json} {s : SheetDocument}
    (hvalue : Json.parseOutlined? outline text = some value) (hread : ofJson value = .ok s) :
    parse? text = some s := by
  unfold parse?
  simp only [hvalue, hread]

/-- The file of a sheet is read as this sheet. -/
theorem parse?_write {s : SheetDocument} (h : s.Storable) : parse? s.write.pretty = some s :=
  parse?_of_ofJson (Json.parseOutlined?_pretty (fits_write h)) (ofJson_write h)

end SheetDocument

end Refit
