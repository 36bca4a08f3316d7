import Refit.Proofs.Ranking.Pruning
import Refit.Proofs.Traversal

/-!
# The greedy cut

The caps go through a ranked list from its best candidate on and leave out a candidate only
for a reason: its member has been admitted often enough, enough other members have, or there
is no room left.  This determines what is kept of a list.  The counter that decides is a view
of the members admitted so far, and every list has a counter of its own.
-/

namespace Refit

namespace Quota

variable {quota : Quota} {m : Member} {admitted : List Member}

theorem card_members_append (admitted : List Member) (m : Member) :
    (admitted ++ [m]).toFinset.card =
      admitted.toFinset.card + if m ∈ admitted then 0 else 1 := by
  have hinsert : (admitted ++ [m]).toFinset = insert m admitted.toFinset := by
    ext other
    simp
  rw [hinsert, Finset.card_insert_eq_ite]
  split_ifs <;> simp_all

theorem limits_offer (quota : Quota) (m : Member) :
    (quota.offer m).2.methodMax = quota.methodMax ∧
      (quota.offer m).2.candidateMax = quota.candidateMax := by
  rcases offer_cases quota m with ⟨-, hoffer⟩ | hoffer | ⟨-, hoffer⟩ <;>
    simp [hoffer, recount]

theorem count?_recount_self :
    (quota.recount m).count? m = (quota.count? m).map (· + 1) := by
  unfold count? recount
  induction quota.seen with
  | nil => rfl
  | cons entry seen ih =>
      obtain ⟨other, n⟩ := entry
      by_cases hother : other = m
      · subst hother
        simp
      · have hkept : (if other = m then (other, n + 1) else (other, n)).1 ≠ m := by
          rw [if_neg hother]
          exact hother
        rw [List.map_cons, List.find?_cons_of_neg (by simpa using hkept),
          List.find?_cons_of_neg (by simpa using hother)]
        exact ih

theorem count?_append_self (hnone : quota.count? m = none) :
    Quota.count? { quota with seen := quota.seen ++ [(m, 1)] } m = some 1 := by
  unfold count? at hnone ⊢
  rw [Option.map_eq_none_iff] at hnone
  rw [List.find?_append, hnone, Option.none_or, List.find?_cons_of_pos (by simp)]
  rfl

/-- The counter holds the admitted members, each with the number of its uses. -/
structure Tallies (quota : Quota) (admitted : List Member) : Prop where
  count : ∀ m, quota.count? m = if m ∈ admitted then some (admitted.count m) else none
  members : quota.seen.length = admitted.toFinset.card

theorem tallies_nil (hseen : quota.seen = []) : quota.Tallies [] := by
  constructor
  · intro m
    rw [count?, hseen]
    rfl
  · rw [hseen]
    rfl

theorem Tallies.count?_of_mem (h : quota.Tallies admitted) (hm : m ∈ admitted) :
    quota.count? m = some (admitted.count m) := by
  rw [h.count, if_pos hm]

theorem Tallies.count?_of_notMem (h : quota.Tallies admitted) (hm : m ∉ admitted) :
    quota.count? m = none := by
  rw [h.count, if_neg hm]

theorem Tallies.refuses_iff (h : quota.Tallies admitted) :
    quota.Refuses m ↔
      (m ∈ admitted ∧ quota.candidateMax ≤ admitted.count m) ∨
        (m ∉ admitted ∧ quota.methodMax ≤ admitted.toFinset.card) := by
  rw [Quota.refuses_iff, h.members]
  by_cases hm : m ∈ admitted
  · simp [h.count?_of_mem hm, hm]
  · simp [h.count?_of_notMem hm, hm]

/-- One more use of a member that is let through is counted. -/
theorem Tallies.offer (h : quota.Tallies admitted) (hlets : ¬ quota.Refuses m) :
    (quota.offer m).2.Tallies (admitted ++ [m]) := by
  rw [h.refuses_iff, not_or] at hlets
  by_cases hm : m ∈ admitted
  · have hcount := h.count?_of_mem hm
    have hroom : ¬ quota.candidateMax ≤ admitted.count m := fun hfull => hlets.1 ⟨hm, hfull⟩
    have hoffer : quota.offer m = (true, quota.recount m) := by
      simp [Quota.offer, hcount, hroom, recount]
    rw [hoffer]
    constructor
    · intro other
      by_cases hother : other = m
      · subst hother
        rw [count?_recount_self, hcount]
        simp
      · rw [count?_recount hother, h.count]
        simp [hother, Ne.symm hother]
    · have hlength : (quota.recount m).seen.length = quota.seen.length := by simp [recount]
      rw [hlength, card_members_append, if_pos hm, h.members, Nat.add_zero]
  · have hcount := h.count?_of_notMem hm
    have hroom : ¬ quota.methodMax ≤ quota.seen.length := by
      rw [h.members]
      exact fun hfull => hlets.2 ⟨hm, hfull⟩
    have hoffer : quota.offer m = (true, { quota with seen := quota.seen ++ [(m, 1)] }) := by
      simp [Quota.offer, hcount, hroom]
    rw [hoffer]
    constructor
    · intro other
      by_cases hother : other = m
      · subst hother
        rw [count?_append_self hcount]
        simp [List.count_eq_zero_of_not_mem hm]
      · rw [count?_append hother, h.count]
        simp [hother, Ne.symm hother]
    · rw [card_members_append, if_neg hm, ← h.members, List.length_append,
        List.length_singleton]

end Quota

namespace Combinations

namespace Caps

variable {caps : Caps} {room : ℕ} {admitted : List Member} {c : Candidate}
  {ranked kept : List Candidate}

/-- The reasons to leave out a candidate once some members have been admitted. -/
inductive LeftOut (caps : Caps) (room : ℕ) (admitted : List Member) (c : Candidate) : Prop where
  | spent (h : caps.candidateMax ≤ admitted.count c.member)
  | crowded (hnew : c.member ∉ admitted) (h : caps.methodMax ≤ admitted.toFinset.card)
  | full (h : room ≤ admitted.length)

theorem leftOut_iff :
    caps.LeftOut room admitted c ↔
      caps.candidateMax ≤ admitted.count c.member ∨
        (c.member ∉ admitted ∧ caps.methodMax ≤ admitted.toFinset.card) ∨
          room ≤ admitted.length := by
  constructor
  · rintro (hspent | ⟨hnew, hcrowded⟩ | hfull)
    · exact .inl hspent
    · exact .inr (.inl ⟨hnew, hcrowded⟩)
    · exact .inr (.inr hfull)
  · rintro (hspent | ⟨hnew, hcrowded⟩ | hfull)
    · exact .spent hspent
    · exact .crowded hnew hcrowded
    · exact .full hfull

instance : Decidable (caps.LeftOut room admitted c) := decidable_of_iff' _ leftOut_iff

/-- What is kept of ranked candidates behind the admitted members: each candidate in turn is
admitted unless there is a reason to leave it out. -/
inductive GreedyCut (caps : Caps) (room : ℕ) :
    List Member → List Candidate → List Candidate → Prop where
  | done {admitted : List Member} : GreedyCut caps room admitted [] []
  | take {admitted : List Member} {c : Candidate} {ranked kept : List Candidate}
      (hopen : ¬ caps.LeftOut room admitted c)
      (hrest : GreedyCut caps room (admitted ++ [c.member]) ranked kept) :
      GreedyCut caps room admitted (c :: ranked) (c :: kept)
  | leave {admitted : List Member} {c : Candidate} {ranked kept : List Candidate}
      (hout : caps.LeftOut room admitted c)
      (hrest : GreedyCut caps room admitted ranked kept) :
      GreedyCut caps room admitted (c :: ranked) kept

/-- No more members, uses of a member or uses in all than the caps allow. -/
structure Respects (caps : Caps) (room : ℕ) (admitted : List Member) : Prop where
  members : admitted.toFinset.card ≤ caps.methodMax
  uses : ∀ m, admitted.count m ≤ caps.candidateMax
  room : admitted.length ≤ room

theorem respects_nil (caps : Caps) (room : ℕ) : caps.Respects room [] :=
  ⟨Nat.zero_le _, fun _ => Nat.zero_le _, Nat.zero_le _⟩

theorem Respects.take (h : caps.Respects room admitted)
    (hopen : ¬ caps.LeftOut room admitted c) :
    caps.Respects room (admitted ++ [c.member]) := by
  have hspent : admitted.count c.member < caps.candidateMax :=
    Nat.lt_of_not_le fun hfull => hopen (.spent hfull)
  have hroom : admitted.length < room := Nat.lt_of_not_le fun hfull => hopen (.full hfull)
  constructor
  · rw [Quota.card_members_append]
    by_cases hmember : c.member ∈ admitted
    · rw [if_pos hmember]
      exact h.members
    · rw [if_neg hmember]
      exact Nat.lt_of_not_le fun hfull => hopen (.crowded hmember hfull)
  · intro m
    rw [List.count_append, List.count_singleton]
    split
    · next hm =>
      rw [← beq_iff_eq.mp hm]
      exact hspent
    · exact h.uses m
  · rw [List.length_append]
    exact hroom

theorem GreedyCut.respects (h : caps.GreedyCut room admitted ranked kept)
    (hadmitted : caps.Respects room admitted) :
    caps.Respects room (admitted ++ kept.map (·.member)) := by
  induction h with
  | done => rwa [List.map_nil, List.append_nil]
  | take hopen _ ih =>
      have hrest := ih (hadmitted.take hopen)
      rwa [List.append_assoc] at hrest
  | leave _ _ ih => exact ih hadmitted

theorem GreedyCut.sublist (h : caps.GreedyCut room admitted ranked kept) :
    kept.Sublist ranked := by
  induction h with
  | done => exact List.Sublist.refl []
  | take _ _ ih => exact ih.cons_cons _
  | leave _ _ ih => exact ih.cons _

theorem GreedyCut.unique {part : List Candidate} (h : caps.GreedyCut room admitted ranked kept)
    (hpart : caps.GreedyCut room admitted ranked part) : part = kept := by
  induction h generalizing part with
  | done =>
      cases hpart
      rfl
  | take hopen _ ih =>
      cases hpart with
      | take _ hrest => rw [ih hrest]
      | leave hout _ => exact absurd hout hopen
  | leave hout _ ih =>
      cases hpart with
      | take hopen _ => exact absurd hout hopen
      | leave _ hrest => exact ih hrest

theorem greedyCut_of_full (hfull : room ≤ admitted.length) (ranked : List Candidate) :
    caps.GreedyCut room admitted ranked [] := by
  induction ranked with
  | nil => exact .done
  | cons c rest ih => exact .leave (.full hfull) ih

section Counting

variable {quota : Quota}

/-- While there is room, the counter refuses what there is a reason to leave out. -/
theorem refuses_iff_leftOut (htallies : quota.Tallies admitted)
    (hmethods : quota.methodMax = caps.methodMax)
    (hcandidates : quota.candidateMax = caps.candidateMax) (hpositive : 1 ≤ caps.candidateMax)
    (hroom : admitted.length < room) :
    quota.Refuses c.member ↔ caps.LeftOut room admitted c := by
  rw [htallies.refuses_iff, hmethods, hcandidates]
  constructor
  · rintro (⟨-, hspent⟩ | ⟨hnew, hcrowded⟩)
    · exact .spent hspent
    · exact .crowded hnew hcrowded
  · rintro (hspent | ⟨hnew, hcrowded⟩ | hfull)
    · exact .inl ⟨List.count_pos_iff.mp (hpositive.trans hspent), hspent⟩
    · exact .inr ⟨hnew, hcrowded⟩
    · exact absurd hroom (Nat.not_lt.mpr hfull)

/-- A counter that tallies the admitted members cuts greedily, in the room that they leave. -/
theorem greedyCut_keep (htallies : quota.Tallies admitted)
    (hmethods : quota.methodMax = caps.methodMax)
    (hcandidates : quota.candidateMax = caps.candidateMax) (hpositive : 1 ≤ caps.candidateMax)
    (ranked : List Candidate) :
    caps.GreedyCut room admitted ranked (quota.keep (room - admitted.length) ranked) := by
  induction ranked generalizing quota admitted with
  | nil => cases room - admitted.length <;> exact .done
  | cons c rest ih =>
      cases hroom : room - admitted.length with
      | zero => exact greedyCut_of_full (Nat.le_of_sub_eq_zero hroom) _
      | succ left =>
          have hreason : quota.Refuses c.member ↔ caps.LeftOut room admitted c :=
            refuses_iff_leftOut htallies hmethods hcandidates hpositive (by omega)
          by_cases hrefuses : quota.Refuses c.member
          · rw [Quota.keep_cons_of_refuses hrefuses, ← hroom]
            exact .leave (hreason.mp hrefuses) (ih htallies hmethods hcandidates)
          · have hleft : room - (admitted ++ [c.member]).length = left := by
              rw [List.length_append, List.length_singleton]
              omega
            obtain ⟨hmethods', hcandidates'⟩ := Quota.limits_offer quota c.member
            have hrest := ih (htallies.offer hrefuses) (hmethods'.trans hmethods)
              (hcandidates'.trans hcandidates)
            rw [hleft] at hrest
            rw [Quota.keep_cons_of_not_refuses hrefuses]
            exact .take (fun hout => hrefuses (hreason.mpr hout)) hrest

end Counting

/-- Of every list the caps keep the greedy cut of its ranked order and nothing else, within
their bounds, and whatever the other lists hold. -/
theorem filter_greedy (caps : Caps) (hcandidates : 1 ≤ caps.candidateMax)
    (lists : List (List Candidate)) :
    List.Forall₂
      (fun list kept =>
        (Candidate.rank list).Perm list ∧
        ((Candidate.rank list).Pairwise fun a b => (Candidate.compareRank a b).isLE = true) ∧
        (∀ part, caps.GreedyCut (max lists.length caps.methodMax) [] (Candidate.rank list) part ↔
          part = kept) ∧
        kept.Sublist (Candidate.rank list) ∧
        caps.Respects (max lists.length caps.methodMax) (kept.map (·.member)))
      lists (caps.filter lists) ∧
    ∀ (others : List (List Candidate)) (i : ℕ), others.length = lists.length →
      others[i]? = lists[i]? → (caps.filter others)[i]? = (caps.filter lists)[i]? := by
  constructor
  · unfold filter
    rw [List.forall₂_map_right_iff, List.forall₂_same]
    intro list _
    have hfresh : Quota.Tallies ⟨caps.methodMax, caps.candidateMax, []⟩ [] :=
      Quota.tallies_nil rfl
    have hcut : caps.GreedyCut (max lists.length caps.methodMax) [] (Candidate.rank list)
        (Quota.keep ⟨caps.methodMax, caps.candidateMax, []⟩ (max lists.length caps.methodMax)
          (Candidate.rank list)) :=
      greedyCut_keep hfresh rfl rfl hcandidates (Candidate.rank list)
    refine ⟨List.mergeSort_perm _ _, Candidate.rank_sorted list,
      fun part => ⟨hcut.unique, ?_⟩, hcut.sublist, ?_⟩
    · rintro rfl
      exact hcut
    · exact hcut.respects (respects_nil caps _)
  · intro others i hlength hlist
    unfold filter
    rw [List.getElem?_map, List.getElem?_map, hlength, hlist]

end Caps

end Combinations

namespace Samples

def usable (name : String) (distance : UInt64) : Candidate :=
  { member := { name }, positions := [], conversions := [], distance := ⟨distance⟩ }

/-- Uses of three members, the nearest first. -/
def crowd : List Candidate :=
  [usable "add" 0, usable "add" 1, usable "add" 2, usable "put" 3, usable "pop" 4, usable "put" 5]

/-- Two members, each used twice. -/
def twoByTwo : Combinations.Caps := ⟨2, 2, 250, true⟩

end Samples

open Samples in
/-- In room for three, the third use of one member, a third member and a fourth candidate are
left out. -/
theorem Combinations.Caps.filter_greedy_crowd :
    1 ≤ twoByTwo.candidateMax ∧
      twoByTwo.GreedyCut 3 [] crowd [usable "add" 0, usable "add" 1, usable "put" 3] ∧
      (twoByTwo.filter [crowd, [], []])[0]? =
        some [usable "add" 0, usable "add" 1, usable "put" 3] := by
  have hcut : twoByTwo.GreedyCut 3 [] crowd [usable "add" 0, usable "add" 1, usable "put" 3] :=
    .take (by decide) <| .take (by decide) <| .leave (by decide) <| .take (by decide) <|
      .leave (by decide) <| .leave (by decide) .done
  have hranked : Candidate.rank crowd = crowd := List.mergeSort_of_pairwise (by decide)
  obtain ⟨kept, hkept, -, -, hgreedy, -⟩ := forall₂_getElem?_left
    (filter_greedy twoByTwo (by decide) [crowd, [], []]).1 (i := 0) rfl
  rw [hranked] at hgreedy
  rw [hkept]
  exact ⟨by decide, hcut, congrArg some ((hgreedy _).mp hcut).symm⟩

end Refit
