import Refit.Proofs.Ranking.Combinations
import Refit.Proofs.Ranking.Order

/-!
# Pruned lists

The caps and the ceiling leave each ranked list its best candidate, and some of
the others in their order.  A candidate that is dropped is not let through later
either, so that the first copy of every candidate that is left is left as well.
-/

namespace Refit

namespace Quota

variable {quota : Quota} {m other : Member}

def Refuses (quota : Quota) (m : Member) : Prop := (quota.offer m).1 = false

theorem refuses_iff :
    quota.Refuses m ↔
      (∃ count, quota.count? m = some count ∧ quota.candidateMax ≤ count) ∨
        (quota.count? m = none ∧ quota.methodMax ≤ quota.seen.length) := by
  unfold Refuses offer
  cases hcount : quota.count? m with
  | none => by_cases hroom : quota.methodMax ≤ quota.seen.length <;> simp [hroom]
  | some count => by_cases hroom : quota.candidateMax ≤ count <;> simp [hroom]

/-- The counter after one more use of a member that is counted already. -/
def recount (quota : Quota) (m : Member) : Quota :=
  { quota with seen := quota.seen.map fun (other, n) =>
      if other = m then (other, n + 1) else (other, n) }

theorem count?_recount (hne : m ≠ other) :
    (quota.recount other).count? m = quota.count? m := by
  unfold count? recount
  induction quota.seen with
  | nil => rfl
  | cons entry seen ih =>
      obtain ⟨name, n⟩ := entry
      by_cases hname : name = m
      · subst hname
        simp [hne]
      · have hkept : (if name = other then (name, n + 1) else (name, n)).1 ≠ m := by
          split <;> exact hname
        rw [List.map_cons, List.find?_cons_of_neg (by simpa using hkept),
          List.find?_cons_of_neg (by simpa using hname)]
        exact ih

theorem count?_append (hne : m ≠ other) :
    Quota.count? { quota with seen := quota.seen ++ [(other, 1)] } m = quota.count? m := by
  unfold count?
  rw [List.find?_append, List.find?_cons_of_neg (by simpa using hne.symm), List.find?_nil,
    Option.or_none]

theorem offer_cases (quota : Quota) (other : Member) :
    (quota.Refuses other ∧ quota.offer other = (false, quota)) ∨
      (quota.offer other = (true, quota.recount other)) ∨
      (quota.seen.length < quota.methodMax ∧
        quota.offer other = (true, { quota with seen := quota.seen ++ [(other, 1)] })) := by
  unfold Refuses offer
  cases quota.count? other with
  | none =>
      by_cases hroom : quota.methodMax ≤ quota.seen.length
      · simp [hroom]
      · exact .inr (.inr ⟨by omega, by simp [hroom]⟩)
  | some count =>
      by_cases hroom : quota.candidateMax ≤ count
      · simp [hroom]
      · exact .inr (.inl (by simp [hroom, recount]))

/-- A member that is refused stays refused whatever is offered next. -/
theorem Refuses.offer (hm : quota.Refuses m) (other : Member) :
    (quota.offer other).2.Refuses m := by
  have hkind := refuses_iff.mp hm
  by_cases hsame : m = other
  · subst hsame
    rcases offer_cases quota m with ⟨-, hoffer⟩ | hoffer | ⟨-, hoffer⟩
    · rw [hoffer]
      exact hm
    · rw [Refuses, hoffer] at hm
      cases hm
    · rw [Refuses, hoffer] at hm
      cases hm
  rcases offer_cases quota other with ⟨-, hoffer⟩ | hoffer | ⟨hroom, hoffer⟩
  · rw [hoffer]
    exact hm
  · rw [hoffer, refuses_iff, count?_recount hsame]
    simpa [recount] using hkind
  · rw [hoffer, refuses_iff, count?_append hsame]
    rcases hkind with hfull | ⟨-, hfull⟩
    · exact .inl hfull
    · omega

theorem keep_cons_of_refuses
    {candidate : Candidate} (hrefuses : quota.Refuses candidate.member)
    (room : ℕ) (rest : List Candidate) :
    quota.keep (room + 1) (candidate :: rest) = quota.keep (room + 1) rest := by
  rcases offer_cases quota candidate.member with ⟨-, hoffer⟩ | hoffer | ⟨-, hoffer⟩
  · simp [keep, hoffer]
  · rw [Refuses, hoffer] at hrefuses
    cases hrefuses
  · rw [Refuses, hoffer] at hrefuses
    cases hrefuses

theorem keep_cons_of_not_refuses
    {candidate : Candidate} (hlets : ¬ quota.Refuses candidate.member)
    (room : ℕ) (rest : List Candidate) :
    quota.keep (room + 1) (candidate :: rest) =
      candidate :: (quota.offer candidate.member).2.keep room rest := by
  have hlets : (quota.offer candidate.member).1 = true := by
    simpa [Refuses] using hlets
  simp [keep, hlets]

theorem ne_of_mem_keep
    (hm : quota.Refuses m) {room : ℕ} {candidates : List Candidate} {c : Candidate}
    (hc : c ∈ quota.keep room candidates) : c.member ≠ m := by
  induction candidates generalizing quota room with
  | nil => cases room <;> cases hc
  | cons candidate rest ih =>
      cases room with
      | zero => cases hc
      | succ room =>
          by_cases hrefuses : quota.Refuses candidate.member
          · rw [keep_cons_of_refuses hrefuses] at hc
            exact ih hm hc
          · rw [keep_cons_of_not_refuses hrefuses] at hc
            rcases List.mem_cons.mp hc with rfl | hc
            · rintro rfl
              exact hrefuses hm
            · exact ih (hm.offer candidate.member) hc

theorem head?_keep
    (hseen : quota.seen = []) (hmethods : 1 ≤ quota.methodMax) (room : ℕ)
    (candidates : List Candidate) :
    (quota.keep (room + 1) candidates).head? = candidates.head? := by
  cases candidates with
  | nil => rfl
  | cons candidate rest =>
      have hlets : ¬ quota.Refuses candidate.member := by
        have hnone : quota.count? candidate.member = none := by
          rw [count?, hseen]
          rfl
        rw [refuses_iff, hnone, hseen]
        rintro (⟨count, hcount, -⟩ | ⟨-, hfull⟩)
        · cases hcount
        · rw [List.length_nil] at hfull
          omega
      rw [keep_cons_of_not_refuses hlets]
      rfl

end Quota

namespace Combinations

theorem member_eq_of_same {c d : Candidate} (hsame : c.same d = true) :
    c.member = d.member := by
  simp only [Candidate.same, Bool.and_eq_true, beq_iff_eq] at hsame
  exact hsame.1.1.1.2

/-- Whoever is let through has its first copy let through. -/
theorem distinct_keep_sublist (quota : Quota) (room : ℕ) (candidates : List Candidate) :
    (distinct (quota.keep room candidates)).Sublist (distinct candidates) := by
  induction candidates generalizing quota room with
  | nil => cases room <;> exact List.Sublist.refl []
  | cons candidate rest ih =>
      cases room with
      | zero => exact List.nil_sublist _
      | succ room =>
          by_cases hrefuses : quota.Refuses candidate.member
          · rw [Quota.keep_cons_of_refuses hrefuses]
            have hother : ∀ c ∈ distinct (quota.keep (room + 1) rest),
                (!candidate.same c) = true := by
              intro c hc
              have hmember := Quota.ne_of_mem_keep hrefuses (mem_of_mem_distinct hc)
              rw [Bool.not_eq_true', ← Bool.not_eq_true]
              exact fun hsame => hmember (member_eq_of_same hsame).symm
            have hpart := (ih quota (room + 1)).filter (!candidate.same ·)
            rw [List.filter_eq_self.mpr hother] at hpart
            exact hpart.cons candidate
          · rw [Quota.keep_cons_of_not_refuses hrefuses]
            exact ((ih _ room).filter _).cons_cons candidate

theorem distinct_dropLast_sublist (candidates : List Candidate) :
    (distinct candidates.dropLast).Sublist (distinct candidates) := by
  induction candidates with
  | nil => exact List.Sublist.refl []
  | cons candidate rest ih =>
      cases rest with
      | nil => exact List.nil_sublist _
      | cons next rest => exact (ih.filter _).cons_cons candidate

/-- A list begins like another and has only some of its candidates, in their
order. -/
structure Trims (part whole : List Candidate) : Prop where
  head : part.head? = whole.head?
  distinct : (distinct part).Sublist (distinct whole)

namespace Trims

theorem refl (list : List Candidate) : Trims list list :=
  ⟨rfl, List.Sublist.refl _⟩

theorem trans {part between whole : List Candidate}
    (hpart : Trims part between) (hwhole : Trims between whole) : Trims part whole :=
  ⟨hpart.head.trans hwhole.head, hpart.distinct.trans hwhole.distinct⟩

theorem dropLast {list : List Candidate} (hlong : 2 ≤ list.length) :
    Trims list.dropLast list := by
  refine ⟨?_, distinct_dropLast_sublist list⟩
  match list, hlong with
  | first :: second :: rest, _ => rfl

end Trims

theorem trims_self (lists : List (List Candidate)) : List.Forall₂ Trims lists lists :=
  List.forall₂_same.mpr fun list _ => Trims.refl list

theorem trims_trans
    {parts between wholes : List (List Candidate)} (hparts : List.Forall₂ Trims parts between)
    (hwholes : List.Forall₂ Trims between wholes) : List.Forall₂ Trims parts wholes := by
  induction hparts generalizing wholes with
  | nil => exact hwholes
  | cons hpart _ ih =>
      cases hwholes with
      | cons hwhole hrest => exact .cons (hpart.trans hwhole) (ih hrest)

namespace Caps

variable {caps : Caps}

theorem trims_filter
    (hmethods : 1 ≤ caps.methodMax) {lists : List (List Candidate)}
    (hranked : ∀ list ∈ lists, Candidate.rank list = list) :
    List.Forall₂ Trims (caps.filter lists) lists := by
  unfold filter
  obtain ⟨room, hroom⟩ : ∃ room, max lists.length caps.methodMax = room + 1 :=
    ⟨max lists.length caps.methodMax - 1, by omega⟩
  rw [List.forall₂_map_left_iff, List.forall₂_same, hroom]
  intro list hlist
  rw [hranked list hlist]
  exact ⟨Quota.head?_keep rfl hmethods room list, distinct_keep_sublist _ _ list⟩

theorem trims_dropFromLast
    {length : ℕ} (hlong : 2 ≤ length) (lists : List (List Candidate)) :
    List.Forall₂ Trims (dropFromLast length lists) lists := by
  induction lists with
  | nil => exact .nil
  | cons list rest ih =>
      unfold dropFromLast
      split_ifs with hother
      · exact .cons (Trims.refl list) ih
      · have hlength : list.length = length := by
          by_contra hne
          exact hother (by simp [hne])
        exact .cons (Trims.dropLast (by omega)) (trims_self rest)

theorem trims_shrink (ceiling fuel : ℕ) (lists : List (List Candidate)) :
    List.Forall₂ Trims (shrink ceiling fuel lists) lists := by
  induction fuel generalizing lists with
  | zero => exact trims_self lists
  | succ fuel ih =>
      unfold shrink
      split_ifs with hfits hshort
      · exact trims_self lists
      · exact trims_self lists
      · exact trims_trans (ih _) (trims_dropFromLast (by omega) lists)

theorem trims_fit (lists : List (List Candidate)) :
    List.Forall₂ Trims (caps.fit lists) lists := by
  unfold fit
  split_ifs
  · exact trims_shrink _ _ lists
  · exact trims_self lists

end Caps

end Combinations

end Refit
