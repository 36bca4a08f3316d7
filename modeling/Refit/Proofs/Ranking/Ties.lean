import Mathlib.Tactic
import Refit.Proofs.Matching.Candidates
import Refit.Proofs.Ranking.Order

/-!
# Ties

Types, conversions, distances and members tie only with themselves.  The order of
candidates leaves out their operation and the conversion of their result; among the
candidates of one operation both follow from the rest.  So its candidates in order do
not depend on the order in which they are found.
-/

namespace Refit

section Comparisons

open Std

theorem Primitive.rank_inj {p q : Primitive} (hrank : p.rank = q.rank) : p = q := by
  cases p <;> cases q <;> first | rfl | cases hrank

theorem Visibility.rank_inj {v w : Visibility} (hrank : v.rank = w.rank) : v = w := by
  cases v <;> cases w <;> first | rfl | cases hrank

theorem MemberKind.rank_inj {k l : MemberKind} (hrank : k.rank = l.rank) : k = l := by
  cases k <;> cases l <;> first | rfl | cases hrank

theorem ValueType.sortKey_inj {t u : ValueType} (hkey : t.sortKey = u.sortKey) : t = u := by
  induction t generalizing u with
  | array element ih =>
      cases u with
      | array other =>
          rw [ih (List.cons.inj hkey).2]
      | primitive | boxed | void | string | object | list | named =>
          simp [sortKey] at hkey
  | primitive p =>
      cases u with
      | primitive q =>
          simp only [sortKey, List.cons.injEq, Prod.mk.injEq] at hkey
          rw [Primitive.rank_inj hkey.1.2.1]
      | boxed | void | string | object | list | named | array => simp [sortKey] at hkey
  | boxed p =>
      cases u with
      | boxed q =>
          simp only [sortKey, List.cons.injEq, Prod.mk.injEq] at hkey
          rw [Primitive.rank_inj hkey.1.2.1]
      | primitive | void | string | object | list | named | array => simp [sortKey] at hkey
  | void | string | object | list | named =>
      cases u <;> simp_all [sortKey]

instance : LawfulEqCmp ValueType.compareStep where
  compare_self {step} := by
    simp [ValueType.compareStep]
  eq_of_compare {a b} htie := by
    simp only [ValueType.compareStep, Ordering.then_eq_eq,
      LawfulEqOrd.compare_eq_iff_eq] at htie
    exact Prod.ext htie.1.1 (Prod.ext htie.1.2 htie.2)

instance : LawfulEqOrd ValueType where
  compare_self {t} := by
    change List.compareLex ValueType.compareStep t.sortKey t.sortKey = .eq
    exact ReflCmp.compare_self
  eq_of_compare {t u} htie := by
    change List.compareLex ValueType.compareStep t.sortKey u.sortKey = .eq at htie
    exact ValueType.sortKey_inj (LawfulEqCmp.eq_of_compare htie)

theorem Conversion.sortKey_inj {c d : Conversion} (hkey : c.sortKey = d.sortKey) : c = d := by
  cases c <;> cases d <;> simp only [sortKey, Prod.mk.injEq] at hkey <;>
    first
      | rfl
      | omega
      | (rw [Primitive.rank_inj hkey.2.1, Primitive.rank_inj hkey.2.2])
      | rw [Primitive.rank_inj hkey.2.1]

instance : LawfulEqOrd Conversion where
  eq_of_compare {c d} htie := by
    change (compare c.sortKey.1 d.sortKey.1).then _ = .eq at htie
    simp only [Ordering.then_eq_eq, LawfulEqOrd.compare_eq_iff_eq] at htie
    exact Conversion.sortKey_inj (Prod.ext htie.1 (Prod.ext htie.2.1 htie.2.2))

instance : LawfulEqOrd Distance where
  eq_of_compare {a b} htie := by
    change compare a.rank b.rank = .eq at htie
    rw [LawfulEqOrd.compare_eq_iff_eq] at htie
    exact Distance.rank_inj.mp htie

instance : LawfulEqOrd Member where
  eq_of_compare {a b} htie := by
    change (compare a.name b.name).then _ = .eq at htie
    simp only [Ordering.then_eq_eq, LawfulEqCmp.compare_eq_iff_eq] at htie
    obtain ⟨hname, hparams, hreturn, hvisibility, hstatic, hkind, hdeclaring⟩ := htie
    have hvisibility := Visibility.rank_inj hvisibility
    have hkind := MemberKind.rank_inj hkind
    cases a
    cases b
    simp_all

end Comparisons

namespace Candidate

theorem eq_of_tie {a b : Candidate} (htie : compareRank a b = .eq)
    (hoperation : a.operation = b.operation)
    (hreturn : a.member = b.member → a.returnConversion = b.returnConversion) : a = b := by
  unfold compareRank at htie
  simp only [Ordering.then_eq_eq, Std.LawfulEqCmp.compare_eq_iff_eq] at htie
  rcases htie with ⟨-, hdistance, -, -, hmember, hpositions, hconversions⟩
  have hreturn := hreturn hmember
  cases a
  cases b
  simp_all

/-- Candidates of one operation, found member by member, each of which hands all its
results back in one way. -/
def FoundFor (operation : ℕ) (found : Member → List Candidate) : Prop :=
  ∀ member, ∃ result, ∀ c ∈ found member,
    c.operation = operation ∧ c.member = member ∧ c.returnConversion = result

variable {operation : ℕ} {found : Member → List Candidate}

theorem FoundFor.eq_of_tie (hfound : FoundFor operation found)
    {members members' : List Member} {a b : Candidate}
    (ha : a ∈ members.flatMap found) (hb : b ∈ members'.flatMap found)
    (htie : compareRank a b = .eq) : a = b := by
  rcases List.mem_flatMap.mp ha with ⟨member, -, ha⟩
  rcases List.mem_flatMap.mp hb with ⟨member', -, hb⟩
  rcases hfound member with ⟨result, hresult⟩
  rcases hfound member' with ⟨result', hresult'⟩
  rcases hresult a ha with ⟨hoperation, hmember, hreturn⟩
  rcases hresult' b hb with ⟨hoperation', hmember', -⟩
  apply Candidate.eq_of_tie htie (hoperation.trans hoperation'.symm)
  intro hsame
  rw [← hmember', ← hsame, hmember] at hb
  rw [hreturn, (hresult b hb).2.2]

/-- What is found in one order of the members and in another is the same list once it
is in order. -/
theorem FoundFor.rank_eq_of_perm (hfound : FoundFor operation found)
    {members members' : List Member} (hperm : members.Perm members') :
    rank (members.flatMap found) = rank (members'.flatMap found) := by
  have hcandidates : (rank (members.flatMap found)).Perm (rank (members'.flatMap found)) :=
    (List.mergeSort_perm _ _).trans
      ((hperm.flatMap_right found).trans (List.mergeSort_perm _ _).symm)
  apply hcandidates.eq_of_pairwise _ (rank_sorted _) (rank_sorted _)
  intro a b ha hb hab hba
  apply hfound.eq_of_tie (List.mem_mergeSort.mp ha) (List.mem_mergeSort.mp hb)
  exact Std.OrientedCmp.isLE_antisymm hab hba

end Candidate

namespace Matcher

variable (m : Matcher) (operation : ℕ) (wanted : Operation)

theorem exists_result_of_matchParams
    (member : Member) (plain converted : Option Conversion) (distance : Distance) :
    ∃ result, ∀ c ∈ m.matchParams operation wanted member plain converted distance,
      c.operation = operation ∧ c.member = member ∧ c.returnConversion = result := by
  unfold matchParams
  simp only
  split_ifs
  · cases converted with
    | none => exact ⟨.identity, by simp⟩
    | some result =>
        apply Exists.intro result
        intro c hc
        cases hall : m.convertedAll? wanted.params member.params with
        | none => simp [hall] at hc
        | some conversions =>
            simp only [hall, List.mem_singleton] at hc
            rw [hc]
            exact ⟨rfl, rfl, rfl⟩
  · cases plain with
    | none => exact ⟨.identity, by simp⟩
    | some result =>
        apply Exists.intro result
        intro c hc
        rcases List.mem_filterMap.mp hc with ⟨positions, -, hpositions⟩
        rcases Option.map_eq_some_iff.mp hpositions with ⟨conversions, -, rfl⟩
        exact ⟨rfl, rfl, rfl⟩

theorem foundFor_matchMethod :
    Candidate.FoundFor operation (m.matchMethod operation wanted) := by
  intro member
  unfold matchMethod
  split
  · exact ⟨.identity, by simp⟩
  · exact m.exists_result_of_matchParams operation wanted member _ _ _

theorem foundFor_matchConstructor :
    Candidate.FoundFor operation (m.matchConstructor operation wanted) := by
  intro member
  unfold matchConstructor
  split
  · exact ⟨.identity, by simp⟩
  · exact m.exists_result_of_matchParams operation wanted member _ _ _

variable {members members' : List Member}

theorem rank_candidatesFor_of_perm (hperm : members.Perm members') :
    Candidate.rank (m.candidatesFor operation wanted members) =
      Candidate.rank (m.candidatesFor operation wanted members') :=
  (m.foundFor_matchMethod operation wanted).rank_eq_of_perm (hperm.filter _)

theorem rank_constructorsFor_of_perm (hperm : members.Perm members') :
    Candidate.rank (m.constructorsFor operation wanted members) =
      Candidate.rank (m.constructorsFor operation wanted members') :=
  (m.foundFor_matchConstructor operation wanted).rank_eq_of_perm (hperm.filter _)

end Matcher

end Refit
