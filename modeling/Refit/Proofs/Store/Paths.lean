import Mathlib
import Refit.Proofs.Json.Outlines
import Refit.Proofs.Store.Files
import Refit.Store.Folder

/-!
# Where sheets are kept

The path of a sheet names its execution, component and adapter as folders, and its sequence
and kind as a file.  Interface and action are not part of it, and an id stands in it without
slashes and colons, so different sheets may be kept in one file.
-/

namespace Refit

namespace SheetKey

open FolderStore

/-- Two sheets are kept in one file. -/
structure SharesFile (key other : SheetKey) : Prop where
  execution : part key.scope.executionId = part other.scope.executionId
  candidate : part key.scope.candidateId = part other.scope.candidateId
  adapter : key.scope.adapterId = other.scope.adapterId
  sheet : part key.scope.sheetId = part other.scope.sheetId
  kind : key.kind = other.kind

/-- The ids of the execution and of the component are names of folders. -/
def Named (key : SheetKey) : Prop :=
  ∀ id ∈ [key.scope.executionId, key.scope.candidateId], part id ∉ ["", ".", ".."]

variable {key other : SheetKey}

theorem SharesFile.refl (key : SheetKey) : key.SharesFile key := ⟨rfl, rfl, rfl, rfl, rfl⟩

theorem fileName_inj {name name' : String} {kind kind' : SheetKind}
    (hsame : name ++ "." ++ kind.word ++ ".json" = name' ++ "." ++ kind'.word ++ ".json") :
    name = name' ∧ kind = kind' := by
  have hlists := congrArg String.toList hsame
  simp only [String.toList_append, List.append_assoc] at hlists
  have hends := congrArg (fun cs => cs.reverse.take 6) hlists
  cases kind <;> cases kind'
  · exact ⟨String.toList_inj.mp (List.append_cancel_right hlists), rfl⟩
  · simp [SheetKind.word] at hends
  · simp [SheetKind.word] at hends
  · exact ⟨String.toList_inj.mp (List.append_cancel_right hlists), rfl⟩

theorem sharesFile_iff : key.SharesFile other ↔ sheetParts key = sheetParts other := by
  constructor
  · rintro ⟨hexecution, hcandidate, hadapter, hsheet, hkind⟩
    simp only [sheetParts, candidateParts, hexecution, hcandidate, hadapter, hsheet, hkind]
  · intro hparts
    simp only [sheetParts, candidateParts, List.cons_append, List.nil_append,
      List.cons.injEq, and_true] at hparts
    obtain ⟨hexecution, hcandidate, hadapter, hname⟩ := hparts
    obtain ⟨hsheet, hkind⟩ := fileName_inj hname
    exact ⟨hexecution, hcandidate, Nat.repr_injective hadapter, hsheet, hkind⟩

theorem plain_repr (n : ℕ) : Nat.repr n ∉ ["", ".", ".."] := by
  obtain ⟨c, cs, hcs, hdigit⟩ := Json.exists_digit n
  intro hmem
  simp only [List.mem_cons, List.not_mem_nil, or_false] at hmem
  rcases hmem with h | h | h <;> rw [h] at hcs <;> cases hcs <;> exact absurd hdigit (by decide)

theorem plain_fileName (name : String) : name ++ ".json" ∉ ["", ".", ".."] := by
  intro hmem
  have hlast : (name ++ ".json").toList.getLast? = some 'n' := by
    rw [String.toList_append]
    simp
  simp only [List.mem_cons, List.not_mem_nil, or_false] at hmem
  rcases hmem with h | h | h <;> rw [h] at hlast <;> revert hlast <;> decide

theorem length_sheetParts (key : SheetKey) : (sheetParts key).length = 4 := rfl

theorem Named.plain (h : key.Named) : FilePath.Plain (sheetParts key) := by
  have hpart : ∀ part : String, part ∉ ["", ".", ".."] →
      FilePath.stays part = false ∧ part ≠ ".." := by
    intro part hpart
    simpa [FilePath.stays, and_assoc] using hpart
  unfold FilePath.Plain sheetParts candidateParts
  simp only [List.cons_append, List.nil_append, List.forall_mem_cons]
  refine ⟨hpart _ (h _ (by simp)), hpart _ (h _ (by simp)), hpart _ (plain_repr _),
    hpart _ (plain_fileName _), by simp⟩

theorem Named.of_sharesFile (h : key.Named) (hshares : key.SharesFile other) : other.Named := by
  unfold Named at h ⊢
  simpa [← hshares.execution, ← hshares.candidate] using h

end SheetKey

end Refit
