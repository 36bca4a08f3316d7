import Refit.Proofs.Expression.Likeness

/-!
# Mirrored heaps

Two heaps mirror each other from their beginnings on when every object made since on the
one has its counterpart on the other, and objects made since hold none but objects made
since.  Whatever else is on the heaps is out of reach.  A host respects this when its code
on counterparts ends the same way and leaves mirrored heaps; then the calls of the glue do
so, too, unless they fail with a text that spells an object.
-/

namespace Refit

variable {n m : ℕ}

/-- An object with the property occurs in the content, the log of a stand-in included. -/
def Content.Mentions (P : Instance → Prop) : Content → Prop
  | .unit => False
  | .items values => ∃ v ∈ values, v.Mentions P
  | .standIn s =>
    (∃ i ∈ s.adaptee, P i) ∨ ∃ call ∈ s.calls, ∃ v, call.output = .ok v ∧ v.Mentions P

/-- All objects in the content have the property, those in the log of a stand-in included. -/
def Content.Within (P : Instance → Prop) (content : Content) : Prop :=
  ¬ content.Mentions fun i => ¬ P i

namespace Content

variable {P Q : Instance → Prop}

theorem within_items {values : List Value} :
    (Content.items values).Within P ↔ ∀ v ∈ values, v.Only P := by
  simp [Within, Mentions, Value.Only]

theorem within_standIn {s : StandIn} :
    (Content.standIn s).Within P ↔
      (∀ i ∈ s.adaptee, P i) ∧ ∀ call ∈ s.calls, ResultOnly P call.output := by
  simp [Within, Mentions, Value.Only, ResultOnly]

theorem Mentions.mono
    {content : Content} (h : content.Mentions P) (hPQ : ∀ i, P i → Q i) :
    content.Mentions Q := by
  cases content with
  | unit => exact h
  | items values =>
      obtain ⟨v, hv, hmentions⟩ := h
      exact ⟨v, hv, hmentions.mono hPQ⟩
  | standIn s =>
      rcases h with ⟨i, hi, hP⟩ | ⟨call, hcall, v, hv, hmentions⟩
      · exact .inl ⟨i, hi, hPQ i hP⟩
      · exact .inr ⟨call, hcall, v, hv, hmentions.mono hPQ⟩

theorem Within.mono
    {content : Content} (h : content.Within P) (hPQ : ∀ i, P i → Q i) : content.Within Q :=
  fun hmentions => h (hmentions.mono fun i hnot hP => hnot (hPQ i hP))

end Content

section Counterparts

def LoggedCall.renumber (n m : ℕ) (call : LoggedCall) : LoggedCall :=
  { call with output := renumberResult n m call.output }

def StandIn.renumber (n m : ℕ) (s : StandIn) : StandIn where
  methods := s.methods
  adaptee := s.adaptee.map (Instance.renumber n m)
  calls := s.calls.map (LoggedCall.renumber n m)

def Content.renumber (n m : ℕ) : Content → Content
  | .unit => .unit
  | .items values => .items (values.map (Value.renumber n m))
  | .standIn s => .standIn (s.renumber n m)

def HeapEntry.renumber (n m : ℕ) (entry : HeapEntry) : HeapEntry :=
  { entry with content := entry.content.renumber n m }

end Counterparts

namespace Heap

/-- The object has been made since the counter stood at `n`. -/
def Since (h : Heap) (n : ℕ) (i : Instance) : Prop := n ≤ i.id ∧ i.id < h.nextId

theorem Since.later {h h' : Heap} {i : Instance} (hi : h.Since n i) (hle : h.nextId ≤ h'.nextId) :
    h'.Since n i :=
  ⟨hi.1, hi.2.trans_le hle⟩

theorem only_of_only_since {h : Heap} {v : Value} (hv : v.Only (h.Since n)) :
    v.Only (n ≤ ·.id) :=
  hv.mono fun _ hi => hi.1

/-- No object has a number that is still to be given. -/
def Fresh (h : Heap) : Prop := ∀ i : Instance, h.nextId ≤ i.id → h.entry? i = none

/-- What has been made since the counter stood at `n` on the one heap has been made since
it stood at `m` on the other. -/
structure Mirrors (n m : ℕ) (h h' : Heap) : Prop where
  begun : n ≤ h.nextId
  nextId : h'.nextId = h.nextId - n + m
  fresh : h.Fresh
  entry : ∀ i : Instance, n ≤ i.id →
    h'.entry? (i.renumber n m) = (Option.map (HeapEntry.renumber n m) <| h.entry? i)
  closed : ∀ (i : Instance) entry, n ≤ i.id → h.entry? i = some entry →
    entry.content.Within (h.Since n)

/-- Heaps on which nothing has been made yet. -/
theorem mirrors_of_fresh {h h' : Heap} (hfresh : h.Fresh) (hfresh' : h'.Fresh) :
    Mirrors h.nextId h'.nextId h h' where
  begun := le_rfl
  nextId := by omega
  fresh := hfresh
  entry i hi := by
    rw [hfresh i hi, hfresh' _ (by simp only [Instance.renumber]; omega)]
    rfl
  closed i entry hi hentry := by
    rw [hfresh i hi] at hentry
    cases hentry

/-- Counterparts in what two calls give, and mirrored heaps behind them. -/
structure Twins {α : Type} (n m : ℕ) (before : Heap) (R : (Instance → Prop) → α → α → Prop)
    (first second : α × Heap) : Prop where
  later : before.nextId ≤ first.2.nextId
  mirrors : Mirrors n m first.2 second.2
  answers : R (first.2.Since n) first.1 second.1

variable {h h' : Heap}

theorem Mirrors.twins
    {α : Type} {R : (Instance → Prop) → α → α → Prop} {a a' : α} (hmirrors : Mirrors n m h h')
    (hR : R (h.Since n) a a') : Twins n m h R (a, h) (a', h') :=
  ⟨le_rfl, hmirrors, hR⟩

theorem Twins.mono
    {α β : Type} {R : (Instance → Prop) → α → α → Prop} {S : (Instance → Prop) → β → β → Prop}
    {first second : α × Heap} (htwins : Twins n m h R first second) {b b' : β}
    (hRS : R (first.2.Since n) first.1 second.1 → S (first.2.Since n) b b') :
    Twins n m h S (b, first.2) (b', second.2) :=
  ⟨htwins.later, htwins.mirrors, hRS htwins.answers⟩

section Changes

variable {i : Instance}

theorem Mirrors.alloc
    (hmirrors : Mirrors n m h h') (typeName : String) {content : Content}
    (hcontent : content.Within (h.Since n)) :
    Twins n m h (fun P i i' => P i ∧ i' = i.renumber n m) (h.alloc typeName content)
      (h'.alloc typeName (content.renumber n m)) := by
  have hbegun := hmirrors.begun
  have hnext := hmirrors.nextId
  refine ⟨Nat.le_succ _, ⟨Nat.le_succ_of_le hbegun, ?_, fun i hi => ?_, fun i hi => ?_,
    fun i entry hi hentry => ?_⟩, ⟨⟨hbegun, Nat.lt_succ_self _⟩, ?_⟩⟩
  · simp only [Heap.alloc]
    omega
  · simp only [Heap.alloc] at hi
    rw [entry?_alloc, if_neg (by omega)]
    exact hmirrors.fresh i (by omega)
  · have hsame : (i.renumber n m).id = h'.nextId ↔ i.id = h.nextId := by
      simp only [Instance.renumber]
      omega
    rw [entry?_alloc, entry?_alloc]
    by_cases hid : i.id = h.nextId
    · rw [if_pos hid, if_pos (hsame.mpr hid)]
      rfl
    · rw [if_neg hid, if_neg (mt hsame.mp hid)]
      exact hmirrors.entry i hi
  · have hlater : ∀ j, h.Since n j → (h.alloc typeName content).2.Since n j :=
      fun j hj => hj.later (Nat.le_succ _)
    rw [entry?_alloc] at hentry
    split at hentry
    · cases hentry
      exact hcontent.mono hlater
    · exact (hmirrors.closed i entry hi hentry).mono hlater
  · simp only [Heap.alloc, Instance.renumber, hnext]

theorem Mirrors.modify
    (hmirrors : Mirrors n m h h') (hi : n ≤ i.id) {f f' : HeapEntry → HeapEntry}
    (hsame : ∀ entry, f' (entry.renumber n m) = (f entry).renumber n m)
    (hclosed : ∀ entry, entry.content.Within (h.Since n) →
      (f entry).content.Within (h.Since n)) :
    Mirrors n m (h.modify i f) (h'.modify (i.renumber n m) f') := by
  have hentry : ∀ j : Instance, j.id = i.id → h.entry? j = h.entry? i := by
    intro j hj
    unfold entry?
    rw [hj]
  refine ⟨hmirrors.begun, hmirrors.nextId, fun j hj => ?_, fun j hj => ?_,
    fun j entry hj hentry' => ?_⟩
  · rw [entry?_modify, hmirrors.fresh j hj]
    split
    · rfl
    · rfl
  · rw [entry?_modify, entry?_modify, hmirrors.entry j hj]
    by_cases hid : j.id = i.id
    · rw [if_pos hid, if_pos ((Instance.renumber_id_inj hj hi).mpr hid), Option.map_map,
        Option.map_map]
      exact congrArg (fun f => Option.map f <| h.entry? j) (funext hsame)
    · rw [if_neg hid, if_neg (mt (Instance.renumber_id_inj hj hi).mp hid)]
  · rw [entry?_modify] at hentry'
    split at hentry'
    · obtain ⟨old, hold, rfl⟩ := Option.map_eq_some_iff.mp hentry'
      exact hclosed old (hmirrors.closed j old hj hold)
    · exact hmirrors.closed j entry hj hentry'

theorem Mirrors.log
    (hmirrors : Mirrors n m h h') (hi : n ≤ i.id) {call : LoggedCall}
    (hcall : ResultOnly (h.Since n) call.output) :
    Mirrors n m (h.log i call) (h'.log (i.renumber n m) (call.renumber n m)) := by
  refine hmirrors.modify hi (fun entry => ?_) fun entry hentry => ?_
  · obtain ⟨content, poisoned⟩ := entry
    cases content with
    | unit | items => rfl
    | standIn s =>
        simp only [HeapEntry.renumber, Content.renumber, StandIn.renumber, List.map_append]
        rfl
  · obtain ⟨content, poisoned⟩ := entry
    cases content with
    | unit | items => exact hentry
    | standIn s =>
        obtain ⟨hadaptee, hcalls⟩ := Content.within_standIn.mp hentry
        refine Content.within_standIn.mpr ⟨hadaptee, fun call' hcall' => ?_⟩
        rcases List.mem_append.mp hcall' with hold | hnew
        · exact hcalls call' hold
        · cases List.mem_singleton.mp hnew
          exact hcall

end Changes

section Looks

variable {i : Instance}

theorem Mirrors.standIn?_eq (hmirrors : Mirrors n m h h') (hi : n ≤ i.id) :
    h'.standIn? (i.renumber n m) = (h.standIn? i).map (StandIn.renumber n m) := by
  unfold standIn?
  rw [hmirrors.entry i hi]
  rcases h.entry? i with _ | ⟨⟨⟩ | ⟨values⟩ | ⟨s⟩, ⟨⟩⟩
  all_goals rfl

theorem Mirrors.isStandIn_eq (hmirrors : Mirrors n m h h') (hi : n ≤ i.id) :
    h'.isStandIn (i.renumber n m) = h.isStandIn i := by
  unfold isStandIn
  rw [hmirrors.standIn?_eq hi, Option.isSome_map]

theorem Mirrors.adaptee?_eq (hmirrors : Mirrors n m h h') (hi : n ≤ i.id) :
    h'.adaptee? (i.renumber n m) = (h.adaptee? i).map (Instance.renumber n m) := by
  unfold adaptee?
  rw [hmirrors.standIn?_eq hi]
  cases h.standIn? i <;> rfl

theorem Mirrors.adaptee_since
    (hmirrors : Mirrors n m h h') (hi : n ≤ i.id) {s : StandIn} (hs : h.standIn? i = some s) :
    ∀ j ∈ s.adaptee, h.Since n j :=
  (Content.within_standIn.mp (hmirrors.closed i _ hi (standIn?_eq_some.mp hs))).1

theorem standIn_eq_error {f : Fault} (hf : h.standIn i = .error f) :
    f = poisonedFault i ∨ f = contentFault i := by
  unfold standIn at hf
  split at hf
  · cases hf
    exact .inl rfl
  · cases hf
  · cases hf
    exact .inr rfl

/-- The faults of a look at what an object holds spell the object. -/
theorem spells_of_look
    {f : Fault} (hnm : n ≠ m) (hi : n ≤ i.id) (hf : f = poisonedFault i ∨ f = contentFault i) :
    f.Spells n m := by
  have htext : Spells n m i.text := ⟨hnm, i, hi, .inr List.infix_rfl⟩
  rcases hf with rfl | rfl
  · exact ⟨_, rfl, htext.append_right _⟩
  · exact ⟨_, rfl, htext.append_right _⟩

theorem renumber_of_quiet_look
    {f : Fault} (hi : n ≤ i.id) (hf : f = poisonedFault i ∨ f = contentFault i)
    (hquiet : ¬ f.Spells n m) : i.renumber n m = i := by
  by_cases hnm : n = m
  · subst hnm
    exact Instance.renumber_self hi
  · exact absurd (spells_of_look hnm hi hf) hquiet

theorem Mirrors.standIn_eq
    (hmirrors : Mirrors n m h h') (hi : n ≤ i.id) (hquiet : Quiet n m (h.standIn i)) :
    h'.standIn (i.renumber n m) = (h.standIn i).map (StandIn.renumber n m) := by
  have hfixed : ∀ f, h.standIn i = .error f → i.renumber n m = i := by
    intro f hf
    rw [hf] at hquiet
    exact renumber_of_quiet_look hi (standIn_eq_error hf) (quiet_error.mp hquiet)
  unfold standIn at hfixed ⊢
  rw [hmirrors.entry i hi]
  generalize h.entry? i = found at hfixed ⊢
  rcases found with _ | ⟨⟨⟩ | ⟨values⟩ | ⟨s⟩, ⟨⟩⟩
  · exact congrArg (Except.error ∘ contentFault) (hfixed _ rfl)
  · exact congrArg (Except.error ∘ contentFault) (hfixed _ rfl)
  · exact congrArg (Except.error ∘ poisonedFault) (hfixed _ rfl)
  · exact congrArg (Except.error ∘ contentFault) (hfixed _ rfl)
  · exact congrArg (Except.error ∘ poisonedFault) (hfixed _ rfl)
  · rfl
  · exact congrArg (Except.error ∘ poisonedFault) (hfixed _ rfl)

mutual

theorem Mirrors.unwrap_eq (hmirrors : Mirrors n m h h') :
    ∀ v : Value, v.Only (n ≤ ·.id) → h'.unwrap (v.renumber n m) = (h.unwrap v).renumber n m
  | .object i, hi => by
      have hi := Value.only_object.mp hi
      rw [Value.renumber, unwrap, unwrap, hmirrors.isStandIn_eq hi, hmirrors.adaptee?_eq hi]
      split
      · cases h.adaptee? i <;> rfl
      · rfl
  | .list values, hvalues => by
      rw [Value.renumber, unwrap, unwrap, Value.renumber,
        Mirrors.unwrapAll_eq hmirrors values (Value.only_list.mp hvalues)]
  | .array values, hvalues => by
      rw [Value.renumber, unwrap, unwrap, Value.renumber,
        Mirrors.unwrapAll_eq hmirrors values (Value.only_array.mp hvalues)]
  | .null, _ | .void, _ | .bool _, _ | .char _, _ | .byte _, _ | .short _, _ | .int _, _
  | .long _, _ | .float _, _ | .double _, _ | .text _, _ => rfl

theorem Mirrors.unwrapAll_eq (hmirrors : Mirrors n m h h') :
    ∀ values : List Value, (∀ v ∈ values, v.Only (n ≤ ·.id)) →
      h'.unwrapAll (Value.renumberAll n m values) = Value.renumberAll n m (h.unwrapAll values)
  | [], _ => rfl
  | v :: rest, hvalues => by
      rw [Value.renumberAll, unwrapAll, unwrapAll, Value.renumberAll,
        Mirrors.unwrap_eq hmirrors v (hvalues v List.mem_cons_self),
        Mirrors.unwrapAll_eq hmirrors rest fun w hw => hvalues w (List.mem_cons_of_mem _ hw)]

end

theorem Mirrors.unwrapAll_map
    (hmirrors : Mirrors n m h h') {values : List Value}
    (hvalues : ∀ v ∈ values, v.Only (n ≤ ·.id)) :
    h'.unwrapAll (values.map (Value.renumber n m)) =
      (h.unwrapAll values).map (Value.renumber n m) := by
  rw [← Value.renumberAll_eq_map, ← Value.renumberAll_eq_map,
    hmirrors.unwrapAll_eq values hvalues]

theorem Mirrors.unwrapAll_since
    (hmirrors : Mirrors n m h h') {values : List Value}
    (hvalues : ∀ v ∈ values, v.Only (h.Since n)) :
    ∀ v ∈ h.unwrapAll values, v.Only (h.Since n) :=
  unwrapAll_only (fun _ _ hi hs => hmirrors.adaptee_since hi.1 hs) values hvalues

end Looks

end Heap

/-- A result and its counterpart. -/
def ResultTwins (n m : ℕ) (P : Instance → Prop) (r r' : Except Fault Value) : Prop :=
  ResultOnly P r ∧ r' = renumberResult n m r

theorem resultTwins_error (P : Instance → Prop) (f : Fault) :
    ResultTwins n m P (.error f) (.error f) :=
  ⟨resultOnly_error f, rfl⟩

namespace Ending

def renumber (n m : ℕ) : Ending → Ending
  | .returned v => .returned (v.renumber n m)
  | e => e

/-- An ending and its counterpart. -/
def Twins (n m : ℕ) (P : Instance → Prop) (e e' : Ending) : Prop :=
  e.Only P ∧ e' = e.renumber n m

theorem outcome_renumber (deadline : Deadline) (e : Ending) :
    (e.renumber n m).outcome deadline = renumberResult n m (e.outcome deadline) := by
  rcases e with v | f | ⟨_ | s⟩ | _
  · rfl
  · rfl
  · rfl
  · rfl
  · cases deadline
    · rfl
    · rfl

theorem outcome_only
    {P : Instance → Prop} {e : Ending} (he : e.Only P) (deadline : Deadline) :
    ResultOnly P (e.outcome deadline) := by
  intro v hv
  rcases e with w | f | ⟨_ | s⟩ | _
  · cases hv
    exact he
  · cases hv
  · cases hv
  · cases hv
  · cases deadline
    · cases hv
    · cases hv

/-- The ending is no failure with a text that spells an object. -/
def Quiet (n m : ℕ) : Ending → Prop
  | .faulted f => ¬ f.Spells n m
  | .broke (some s) => ¬ Spells n m s
  | _ => True

theorem quiet_of_outcome
    {deadline : Deadline} {e : Ending} (hquiet : Refit.Quiet n m (e.outcome deadline)) :
    e.Quiet n m := by
  rcases e with v | f | ⟨_ | s⟩ | _
  · trivial
  · exact quiet_error.mp hquiet
  · trivial
  · exact fun hs => quiet_error.mp hquiet ⟨s, rfl, hs⟩
  · trivial

end Ending

/-- Code that ends the same way on counterparts, and leaves mirrored heaps, unless it fails
with a text that spells an object. -/
def EntryPoint.Respects (n m : ℕ) (entry : EntryPoint) : Prop :=
  ∀ h h', Heap.Mirrors n m h h' → ∀ receiver args,
    (∀ i ∈ receiver, h.Since n i) → (∀ v ∈ args, v.Only (h.Since n)) →
      (entry receiver args h).1.Quiet n m →
        Heap.Twins n m h (Ending.Twins n m) (entry receiver args h)
          (entry (receiver.map (Instance.renumber n m)) (args.map (Value.renumber n m)) h')

/-- A host whose code respects mirrored heaps and that shows counterparts alike. -/
structure Host.Respects (n m : ℕ) (host : Host) : Prop where
  entryPoint : ∀ member entry, host.entryPoint member = .ok entry → entry.Respects n m
  snapshot : ∀ h h', Heap.Mirrors n m h h' → ∀ i, h.Since n i →
    host.snapshot h' (i.renumber n m) = host.snapshot h i

section Glue

open Heap

variable {host : Host} {h h' : Heap} {inputs : List Value}

theorem Quiet.map
    {α β : Type} {r : Except Fault α} {f : α → β} (hquiet : Quiet n m (r.map f)) :
    Quiet n m r := by
  intro g hg
  rw [hg] at hquiet
  exact quiet_error.mp hquiet

namespace Handle

theorem argument_renumber
    (k : Handle) {position : ℕ} {c : Conversion} (hinputs : ∀ v ∈ inputs, v.Only (n ≤ ·.id))
    (hquiet : Quiet n m (k.argument inputs position c)) :
    k.argument (inputs.map (Value.renumber n m)) position c =
      renumberResult n m (k.argument inputs position c) := by
  unfold argument at hquiet ⊢
  rw [List.getElem?_map, List.length_map]
  cases hinput : inputs[position]? with
  | none => rfl
  | some v =>
      rw [hinput] at hquiet
      exact Conversion.apply_renumber (hinputs v (List.mem_of_getElem? hinput)) hquiet

theorem arguments_renumber
    (k : Handle) {feeds : List (ℕ × Conversion)} (hinputs : ∀ v ∈ inputs, v.Only (n ≤ ·.id))
    (hquiet : Quiet n m (k.arguments inputs feeds)) :
    k.arguments (inputs.map (Value.renumber n m)) feeds =
      (k.arguments inputs feeds).map (List.map (Value.renumber n m)) := by
  induction feeds with
  | nil => rfl
  | cons feed feeds ih =>
      obtain ⟨position, c⟩ := feed
      rw [arguments] at hquiet
      rw [arguments, arguments]
      rcases hv : k.argument inputs position c with f | v
      · rw [hv] at hquiet
        have hfirst : Quiet n m (k.argument inputs position c) := by
          rw [hv]
          exact quiet_error.mpr (quiet_error.mp hquiet)
        rw [k.argument_renumber hinputs hfirst, hv]
        rfl
      rw [hv] at hquiet
      rw [k.argument_renumber hinputs (by rw [hv]; exact quiet_ok v), hv]
      simp only [renumberResult_ok] at hquiet ⊢
      rcases hvs : k.arguments inputs feeds with f | vs
      · rw [hvs] at hquiet
        rw [ih (by rw [hvs]; exact hquiet), hvs]
        rfl
      · rw [ih (by rw [hvs]; exact quiet_ok vs), hvs]
        rfl

theorem run_twins
    (hrespects : host.Respects n m) (hmirrors : Mirrors n m h h') (k : Handle)
    {receiver : Option Instance} {args : List Value} (deadline : Deadline)
    (hreceiver : ∀ i ∈ receiver, h.Since n i) (hargs : ∀ v ∈ args, v.Only (h.Since n))
    (hquiet : Quiet n m (k.run host receiver args deadline h).1) :
    Twins n m h (ResultTwins n m) (k.run host receiver args deadline h)
      (k.run host (receiver.map (Instance.renumber n m)) (args.map (Value.renumber n m))
        deadline h') := by
  unfold run at hquiet ⊢
  split
  · exact hmirrors.twins (resultTwins_error _ _)
  next entry hentry =>
  rw [hentry] at hquiet
  have htwins := hrespects.entryPoint k.member entry hentry h h' hmirrors receiver args
    hreceiver hargs
  rcases hfirst : entry receiver args h with ⟨ending, after⟩
  rcases hsecond : entry (receiver.map (Instance.renumber n m))
    (args.map (Value.renumber n m)) h' with ⟨ending', after'⟩
  rw [hfirst, hsecond] at htwins
  simp only [hfirst] at hquiet htwins ⊢
  rcases houtcome : ending.outcome deadline with f | v
  · rw [houtcome] at hquiet
    obtain ⟨hlater, hmirrors', -, rfl⟩ :=
      htwins (Ending.quiet_of_outcome (by rw [houtcome]; exact hquiet))
    rw [Ending.outcome_renumber, houtcome]
    exact ⟨hlater, hmirrors', resultTwins_error _ _⟩
  · rw [houtcome] at hquiet
    obtain ⟨hlater, hmirrors', honly, rfl⟩ :=
      htwins (Ending.quiet_of_outcome (by rw [houtcome]; exact quiet_ok v))
    have hv : v.Only (after.Since n) := Ending.outcome_only honly deadline v houtcome
    rw [Ending.outcome_renumber, houtcome]
    refine ⟨hlater, hmirrors', fun w hw => Conversion.apply_only hw hv, ?_⟩
    exact Conversion.apply_renumber (only_of_only_since hv) hquiet

theorem invoke_twins
    (hrespects : host.Respects n m) (hmirrors : Mirrors n m h h') (k : Handle)
    {receiver : Option Instance} (deadline : Deadline)
    (hreceiver : ∀ i ∈ receiver, h.Since n i) (hinputs : ∀ v ∈ inputs, v.Only (h.Since n))
    (hquiet : Quiet n m (k.invoke host receiver inputs deadline h).1) :
    Twins n m h (ResultTwins n m) (k.invoke host receiver inputs deadline h)
      (k.invoke host (receiver.map (Instance.renumber n m)) (inputs.map (Value.renumber n m))
        deadline h') := by
  have hbegun : ∀ v ∈ inputs, v.Only (n ≤ ·.id) := fun v hv => only_of_only_since (hinputs v hv)
  unfold invoke at hquiet ⊢
  rcases hargs : k.marshal inputs with f | args
  · rw [hargs] at hquiet
    have hmarshal : k.marshal (inputs.map (Value.renumber n m)) = .error f := by
      unfold marshal at hargs ⊢
      have hquiet : Quiet n m (k.arguments inputs (k.positions.zip k.conversions)) := by
        rw [hargs]
        exact quiet_error.mpr (quiet_error.mp hquiet)
      rw [k.arguments_renumber hbegun hquiet, hargs]
      rfl
    rw [hmarshal]
    exact hmirrors.twins (resultTwins_error _ f)
  have hmarshal : k.marshal (inputs.map (Value.renumber n m)) =
      .ok (args.map (Value.renumber n m)) := by
    unfold marshal at hargs ⊢
    rw [k.arguments_renumber hbegun (by rw [hargs]; exact quiet_ok args), hargs]
    rfl
  have honly := k.marshal_only hinputs hargs
  rw [hargs] at hquiet
  rw [hmarshal]
  simp only at hquiet ⊢
  split
  · next hneeds =>
    rw [if_pos hneeds] at hquiet
    cases receiver with
    | none => exact hmirrors.twins (resultTwins_error _ _)
    | some r => exact k.run_twins hrespects hmirrors deadline hreceiver honly hquiet
  · next hneeds =>
    rw [if_neg hneeds] at hquiet
    have hnone : ∀ i ∈ (none : Option Instance), h.Since n i := nofun
    exact k.run_twins hrespects hmirrors deadline hnone honly hquiet

end Handle

namespace StandIn

/-- What an initializer makes, if it makes anything, and its counterpart. -/
def AdapteeTwins (n m : ℕ) (P : Instance → Prop) (r r' : Except Fault (Option Instance)) :
    Prop :=
  (∀ i, r = .ok (some i) → P i) ∧ r' = r.map (Option.map (Instance.renumber n m))

theorem makeAdaptee_twins
    (hrespects : host.Respects n m) (hmirrors : Mirrors n m h h') (b : Binding) (number : ℕ)
    (typeName : String) (deadline : Deadline) (hinputs : ∀ v ∈ inputs, v.Only (h.Since n))
    (hquiet : Quiet n m (makeAdaptee b host number typeName inputs deadline h).1) :
    Twins n m h (AdapteeTwins n m) (makeAdaptee b host number typeName inputs deadline h)
      (makeAdaptee b host number typeName (inputs.map (Value.renumber n m)) deadline h') := by
  unfold makeAdaptee at hquiet ⊢
  split
  · exact hmirrors.twins ⟨nofun, rfl⟩
  · exact hmirrors.twins ⟨nofun, rfl⟩
  next handle hhandle =>
  rw [hhandle] at hquiet
  simp only at hquiet
  rw [hmirrors.unwrapAll_map fun v hv => only_of_only_since (hinputs v hv)]
  have hnone : ∀ i ∈ (none : Option Instance), h.Since n i := nofun
  have htwins := handle.invoke_twins hrespects hmirrors deadline hnone
    (hmirrors.unwrapAll_since hinputs)
  rcases hfirst : handle.invoke host none (h.unwrapAll inputs) deadline h with ⟨r, after⟩
  rcases hsecond : handle.invoke host none
    ((h.unwrapAll inputs).map (Value.renumber n m)) deadline h' with ⟨r', after'⟩
  rw [hfirst] at hquiet htwins
  rw [Option.map_none, hsecond] at htwins
  rcases r with f | v
  · obtain ⟨hlater, hmirrors', -, hsame⟩ := htwins (quiet_error.mpr (quiet_error.mp hquiet))
    cases hsame
    exact ⟨hlater, hmirrors', nofun, rfl⟩
  obtain ⟨hlater, hmirrors', honly, hsame⟩ := htwins (quiet_ok v)
  cases hsame
  have hv := honly v rfl
  have hfixed : Quiet n m
      (.error (noInstance handle.member.text v) : Except Fault (Option Instance)) →
        v.renumber n m = v := by
    intro hquiet
    refine Value.renumber_of_quiet (only_of_only_since hv) fun hs => ?_
    exact quiet_error.mp hquiet ⟨_, rfl, (hs.append_left _).append_right _⟩
  cases v with
  | object i =>
      refine ⟨hlater, hmirrors', fun j hj => ?_, rfl⟩
      cases hj
      exact Value.only_object.mp hv
  | _ =>
      exact ⟨hlater, hmirrors', nofun,
        congrArg (fun w => Except.error (noInstance handle.member.text w)) (hfixed hquiet)⟩

/-- An object and its counterpart. -/
def InstanceTwins (n m : ℕ) (P : Instance → Prop) (r r' : Except Fault Instance) : Prop :=
  (∀ i, r = .ok i → P i) ∧ r' = r.map (Instance.renumber n m)

theorem construct_twins
    (hrespects : host.Respects n m) (hmirrors : Mirrors n m h h') (b : Binding) (number : ℕ)
    (typeName : String) (deadline : Deadline) (hinputs : ∀ v ∈ inputs, v.Only (h.Since n))
    (hquiet : Quiet n m (construct b host number typeName inputs deadline h).1) :
    Twins n m h (InstanceTwins n m) (construct b host number typeName inputs deadline h)
      (construct b host number typeName (inputs.map (Value.renumber n m)) deadline h') := by
  have htwins := makeAdaptee_twins hrespects hmirrors b number typeName deadline hinputs
  unfold construct at hquiet ⊢
  rcases hfirst : makeAdaptee b host number typeName inputs deadline h with ⟨r, after⟩
  rcases hsecond : makeAdaptee b host number typeName (inputs.map (Value.renumber n m))
    deadline h' with ⟨r', after'⟩
  rw [hfirst] at hquiet htwins
  rw [hsecond] at htwins
  rcases r with f | adaptee
  · obtain ⟨hlater, hmirrors', -, hsame⟩ := htwins (quiet_error.mpr (quiet_error.mp hquiet))
    cases hsame
    exact ⟨hlater, hmirrors', nofun, rfl⟩
  obtain ⟨hlater, hmirrors', honly, hsame⟩ := htwins (quiet_ok adaptee)
  cases hsame
  have hcontent : (Content.standIn ⟨b.methods, adaptee, []⟩).Within (after.Since n) := by
    refine Content.within_standIn.mpr ⟨fun i hi => ?_, by simp⟩
    have hsome : adaptee = some i := hi
    exact honly i (congrArg Except.ok hsome)
  obtain ⟨hlater', hmirrors'', hsince, hsame⟩ := hmirrors'.alloc typeName hcontent
  refine ⟨hlater.trans hlater', hmirrors'', fun i hi => ?_, ?_⟩
  · cases hi
    exact hsince
  · exact congrArg Except.ok hsame

theorem hideAdaptee_renumber
    {i : Instance} {adaptee : Option Instance} {v : Value} (hv : v.Only (n ≤ ·.id))
    (hadaptee : ∀ j ∈ adaptee, n ≤ j.id) :
    hideAdaptee (i.renumber n m) (adaptee.map (Instance.renumber n m)) (v.renumber n m) =
      (hideAdaptee i adaptee v).renumber n m := by
  cases v with
  | object j =>
      have hj := Value.only_object.mp hv
      have hany : (adaptee.map (Instance.renumber n m)).any (·.id == (j.renumber n m).id) =
          adaptee.any (·.id == j.id) := by
        cases adaptee with
        | none => rfl
        | some k =>
            simp only [Option.map_some, Option.any_some]
            rw [Bool.eq_iff_iff, beq_iff_eq, beq_iff_eq]
            exact Instance.renumber_id_inj (hadaptee k rfl) hj
      rw [Value.renumber, hideAdaptee, hideAdaptee, hany]
      split
      · rfl
      · rfl
  | _ => rfl

theorem dispatch_twins
    (hrespects : host.Respects n m) (hmirrors : Mirrors n m h h') {i : Instance}
    (hi : h.Since n i) (number : ℕ) (deadline : Deadline)
    (hinputs : ∀ v ∈ inputs, v.Only (h.Since n))
    (hquiet : Quiet n m (dispatch host i number inputs deadline h).1) :
    Twins n m h (ResultTwins n m) (dispatch host i number inputs deadline h)
      (dispatch host (i.renumber n m) number (inputs.map (Value.renumber n m)) deadline
        h') := by
  unfold dispatch at hquiet ⊢
  rcases hs : h.standIn i with f | s
  · rw [hs] at hquiet
    have hstandIn : Quiet n m (h.standIn i) := by
      rw [hs]
      exact quiet_error.mpr (quiet_error.mp hquiet)
    rw [hmirrors.standIn_eq hi.1 hstandIn, hs]
    exact hmirrors.twins (resultTwins_error _ f)
  rw [hmirrors.standIn_eq hi.1 (by rw [hs]; exact quiet_ok s), hs]
  rw [hs] at hquiet
  simp only [Except.map] at hquiet ⊢
  have hmethods : (s.renumber n m).methods = s.methods := rfl
  rw [hmethods]
  rcases hhandle : s.methods[number]? with _ | handle
  · exact hmirrors.twins (resultTwins_error _ _)
  rw [hhandle] at hquiet
  simp only at hquiet ⊢
  have hadaptee := hmirrors.adaptee_since hi.1 (standIn_eq_ok.mp hs)
  have hadaptee' : (s.renumber n m).adaptee = s.adaptee.map (Instance.renumber n m) := rfl
  rw [hmirrors.unwrapAll_map fun v hv => only_of_only_since (hinputs v hv), hadaptee']
  have htwins := handle.invoke_twins hrespects hmirrors deadline hadaptee
    (hmirrors.unwrapAll_since hinputs)
  rcases hfirst : handle.invoke host s.adaptee (h.unwrapAll inputs) deadline h with ⟨r, after⟩
  rcases hsecond : handle.invoke host (s.adaptee.map (Instance.renumber n m))
    ((h.unwrapAll inputs).map (Value.renumber n m)) deadline h' with ⟨r', after'⟩
  rw [hfirst] at hquiet htwins
  rw [hsecond] at htwins
  simp only at hquiet ⊢
  rcases hstill : after.standIn i with f | s'
  · rw [hstill] at hquiet
    have hr : Quiet n m r := by
      intro g _ hg
      exact quiet_error.mp hquiet (spells_of_look hg.counters_ne hi.1 (standIn_eq_error hstill))
    have hstandIn : Quiet n m (after.standIn i) := by
      rw [hstill]
      exact quiet_error.mpr (quiet_error.mp hquiet)
    obtain ⟨hlater, hmirrors', -, -⟩ := htwins hr
    rw [hmirrors'.standIn_eq hi.1 hstandIn, hstill]
    exact ⟨hlater, hmirrors', resultTwins_error _ f⟩
  rw [hstill] at hquiet
  obtain ⟨hlater, hmirrors', honly, hsame⟩ := htwins hquiet.map
  rw [hmirrors'.standIn_eq hi.1 (by rw [hstill]; exact quiet_ok s'), hstill]
  simp only [Except.map]
  have houtput : r'.map (hideAdaptee (i.renumber n m)
      (s.adaptee.map (Instance.renumber n m))) =
        renumberResult n m (r.map (hideAdaptee i s.adaptee)) := by
    subst hsame
    rcases r with f | v
    · rfl
    · exact congrArg Except.ok (hideAdaptee_renumber (only_of_only_since (honly v rfl))
        fun j hj => (hadaptee j hj).1)
  have honly' : ResultOnly (after.Since n) (r.map (hideAdaptee i s.adaptee)) := by
    intro v hv
    obtain ⟨w, hw, rfl⟩ := exists_of_map_eq_ok hv
    exact hideAdaptee_only (P := after.Since n) (hi.later hlater) (honly w hw)
  let call : LoggedCall := ⟨number, handle.member.text, r.map (hideAdaptee i s.adaptee)⟩
  have hlog : Mirrors n m (after.log i call)
      (after'.log (i.renumber n m) (call.renumber n m)) := hmirrors'.log hi.1 honly'
  rw [LoggedCall.renumber, ← houtput] at hlog
  exact ⟨hlater, hlog, honly', houtput⟩

end StandIn

end Glue

end Refit
