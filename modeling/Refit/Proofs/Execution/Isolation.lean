import Refit.Proofs.Execution.Mirrors

/-!
# Code that keeps to what it is given

The code of a member is local when it goes from object to object beginning with its
receiver and its arguments: what it does depends on the objects that it comes to in this
way, it changes no others, and all that it hands out or keeps it has come to or has made.
Local code respects mirrored heaps with one and the same counter, so what is out of reach
has no part in a run.
-/

namespace Refit

variable {n : ℕ}

namespace Heap

/-- The number of an object that can be come to from a receiver and arguments. -/
inductive Reachable (h : Heap) (receiver : Option Instance) (args : List Value) : ℕ → Prop
  | receiver {i : Instance} (hi : receiver = some i) : Reachable h receiver args i.id
  | argument {v : Value} {id : ℕ} (hv : v ∈ args) (hid : v.Mentions (·.id = id)) :
      Reachable h receiver args id
  | held {i : Instance} {entry : HeapEntry} {id : ℕ} (hi : Reachable h receiver args i.id)
      (hentry : h.entry? i = some entry) (hid : entry.content.Mentions (·.id = id)) :
      Reachable h receiver args id

variable {h h' : Heap} {receiver : Option Instance} {args : List Value}

/-- What can be come to is the same on heaps that agree on it. -/
theorem Reachable.of_agree
    {id : ℕ} (hid : h'.Reachable receiver args id)
    (hagree : ∀ i : Instance, h.Reachable receiver args i.id → h'.entry? i = h.entry? i) :
    h.Reachable receiver args id := by
  induction hid with
  | receiver hi => exact .receiver hi
  | argument hv hid => exact .argument hv hid
  | @held i entry id _ hentry hid ih =>
      rw [hagree i ih] at hentry
      exact .held ih hentry hid

/-- The object can be come to or has been made by a call that leaves a later heap. -/
def Handles (h : Heap) (receiver : Option Instance) (args : List Value) (after : Heap)
    (i : Instance) : Prop :=
  h.Reachable receiver args i.id ∨ after.Since h.nextId i

end Heap

/-- Code that reads and writes only objects that it can come to from a receiver and
arguments or makes. -/
structure LocalTo (receiver : Option Instance) (args : List Value)
    (code : Heap → Ending × Heap) : Prop where
  /-- What is out of reach makes no difference, and objects are made in step. -/
  reads : ∀ h h', h.Fresh → h'.Fresh → h'.nextId = h.nextId →
    (∀ i : Instance, h.Reachable receiver args i.id → h'.entry? i = h.entry? i) →
      (code h').1 = (code h).1 ∧ (code h').2.nextId = (code h).2.nextId ∧
        ∀ i, h.Handles receiver args (code h).2 i →
          Heap.entry? (code h').2 i = Heap.entry? (code h).2 i
  writes : ∀ h, h.Fresh → ∀ i : Instance, i.id < h.nextId → ¬ h.Reachable receiver args i.id →
    Heap.entry? (code h).2 i = h.entry? i
  numbers : ∀ h, h.Fresh → h.nextId ≤ (code h).2.nextId ∧ (code h).2.Fresh
  /-- Objects that are handed out or kept are none but those come to or made. -/
  keeps : ∀ h, h.Fresh → (code h).1.Only (h.Handles receiver args (code h).2) ∧
    ∀ i held, h.Handles receiver args (code h).2 i → Heap.entry? (code h).2 i = some held →
      held.content.Within (h.Handles receiver args (code h).2)

/-- The code is local whatever it is called with. -/
def EntryPoint.Local (entry : EntryPoint) : Prop :=
  ∀ receiver args, LocalTo receiver args (entry receiver args)

/-- A host whose code is local, and that shows an object by what can be come to from it. -/
structure Host.Local (host : Host) : Prop where
  entryPoint : ∀ member entry, host.entryPoint member = .ok entry → entry.Local
  snapshot : ∀ (h h' : Heap) (i : Instance),
    (∀ j : Instance, h.Reachable (some i) [] j.id → h'.entry? j = h.entry? j) →
      host.snapshot h' i = host.snapshot h i

section Selfsame

theorem Value.renumber_self {v : Value} (hv : v.Only (n ≤ ·.id)) : v.renumber n n = v :=
  renumber_of_fixed (hv.mono fun _ hi => Instance.renumber_self hi)

theorem Value.map_renumber_self
    {vs : List Value} (hvs : ∀ v ∈ vs, v.Only (n ≤ ·.id)) : vs.map (renumber n n) = vs :=
  (List.map_congr_left fun v hv => renumber_self (hvs v hv)).trans (List.map_id vs)

theorem LoggedCall.renumber_self
    {call : LoggedCall} (hcall : ResultOnly (n ≤ ·.id) call.output) :
    call.renumber n n = call := by
  obtain ⟨method, member, f | v⟩ := call
  · rfl
  · simp only [renumber, renumberResult_ok, Value.renumber_self (hcall v rfl)]

theorem Content.renumber_self
    {content : Content} (hcontent : content.Within (n ≤ ·.id)) :
    content.renumber n n = content := by
  cases content with
  | unit => rfl
  | items values =>
      exact congrArg Content.items (Value.map_renumber_self (within_items.mp hcontent))
  | standIn s =>
      obtain ⟨hadaptee, hcalls⟩ := within_standIn.mp hcontent
      obtain ⟨methods, adaptee, calls⟩ := s
      have hadaptee' : adaptee.map (Instance.renumber n n) = adaptee := by
        cases adaptee with
        | none => rfl
        | some i => exact congrArg some (Instance.renumber_self (hadaptee i rfl))
      have hcalls' : calls.map (LoggedCall.renumber n n) = calls :=
        (List.map_congr_left fun call hcall =>
          LoggedCall.renumber_self (hcalls call hcall)).trans (List.map_id calls)
      simp only [Content.renumber, StandIn.renumber, hadaptee', hcalls']

theorem HeapEntry.renumber_self
    {entry : HeapEntry} (hentry : entry.content.Within (n ≤ ·.id)) :
    entry.renumber n n = entry := by
  rw [renumber, Content.renumber_self hentry]

theorem Ending.renumber_self {e : Ending} (he : e.Only (n ≤ ·.id)) : e.renumber n n = e := by
  cases e with
  | returned v => exact congrArg Ending.returned (Value.renumber_self he)
  | _ => rfl

theorem Ending.Only.mono
    {P Q : Instance → Prop} {e : Ending} (he : e.Only P) (hPQ : ∀ i, P i → Q i) : e.Only Q := by
  cases e with
  | returned v => exact Value.Only.mono he hPQ
  | _ => trivial

end Selfsame

namespace Heap

variable {h h' : Heap}

/-- With one counter the objects of mirrored heaps are the same. -/
theorem Mirrors.entry_self (hmirrors : Mirrors n n h h') {i : Instance} (hi : n ≤ i.id) :
    h'.entry? i = h.entry? i := by
  have hentry := hmirrors.entry i hi
  rw [Instance.renumber_self hi] at hentry
  rw [hentry]
  cases hheld : h.entry? i with
  | none => rfl
  | some entry =>
      have hwithin := (hmirrors.closed i entry hi hheld).mono fun _ hj => hj.1
      exact congrArg some (HeapEntry.renumber_self hwithin)

theorem Mirrors.nextId_self (hmirrors : Mirrors n n h h') : h'.nextId = h.nextId := by
  have := hmirrors.nextId
  have := hmirrors.begun
  omega

theorem Mirrors.fresh_self (hmirrors : Mirrors n n h h') : h'.Fresh := by
  intro i hi
  have hle : h.nextId ≤ i.id := hmirrors.nextId_self ▸ hi
  rw [hmirrors.entry_self (hmirrors.begun.trans hle)]
  exact hmirrors.fresh i hle

theorem Mirrors.of_same
    (hbegun : n ≤ h.nextId) (hnextId : h'.nextId = h.nextId) (hfresh : h.Fresh)
    (hentry : ∀ i : Instance, n ≤ i.id → h'.entry? i = h.entry? i)
    (hclosed : ∀ (i : Instance) entry, n ≤ i.id → h.entry? i = some entry →
      entry.content.Within (h.Since n)) : Mirrors n n h h' where
  begun := hbegun
  nextId := by omega
  fresh := hfresh
  entry i hi := by
    rw [Instance.renumber_self hi, hentry i hi]
    cases hheld : h.entry? i with
    | none => rfl
    | some entry =>
        have hwithin := (hclosed i entry hi hheld).mono fun _ hj => hj.1
        exact congrArg some (HeapEntry.renumber_self hwithin).symm
  closed := hclosed

/-- What can be come to from objects made since then has been made since then. -/
theorem Mirrors.since_of_reachable
    (hmirrors : Mirrors n n h h') {receiver : Option Instance} {args : List Value}
    (hreceiver : ∀ i ∈ receiver, h.Since n i) (hargs : ∀ v ∈ args, v.Only (h.Since n))
    {id : ℕ} (hid : h.Reachable receiver args id) : n ≤ id ∧ id < h.nextId := by
  induction hid with
  | receiver hi => exact hreceiver _ hi
  | @argument v id hv hid =>
      by_contra hnot
      exact hargs v hv (hid.mono fun i hi hsince => hnot (hi ▸ hsince))
  | @held i entry id _ hentry hid ih =>
      by_contra hnot
      refine hmirrors.closed i entry ih.1 hentry (hid.mono fun j hj hsince => hnot (hj ▸ hsince))

end Heap

theorem Instance.map_renumber_self
    {receiver : Option Instance} (hreceiver : ∀ i ∈ receiver, n ≤ i.id) :
    receiver.map (Instance.renumber n n) = receiver := by
  cases receiver with
  | none => rfl
  | some i => exact congrArg some (Instance.renumber_self (hreceiver i rfl))

namespace LocalTo

open Heap

variable {h h' : Heap} {receiver : Option Instance} {args : List Value}
variable {code : Heap → Ending × Heap}

/-- What the code does not come to and does not make stays as it is. -/
theorem entry_of_not_handles
    (hlocal : LocalTo receiver args code) (hfresh : h.Fresh) {i : Instance}
    (hlt : i.id < (code h).2.nextId) (hnot : ¬ h.Handles receiver args (code h).2 i) :
    i.id < h.nextId ∧ Heap.entry? (code h).2 i = h.entry? i := by
  have hold : i.id < h.nextId := by
    by_contra hnew
    exact hnot (.inr ⟨not_lt.mp hnew, hlt⟩)
  exact ⟨hold, hlocal.writes h hfresh i hold fun hid => hnot (.inl hid)⟩

/-- On heaps that agree on what the code can come to it leaves heaps that agree on all
objects on which the heaps have agreed before. -/
theorem entry_of_agree
    (hlocal : LocalTo receiver args code) (hfresh : h.Fresh) (hfresh' : h'.Fresh)
    (hnextId : h'.nextId = h.nextId)
    (hagree : ∀ i : Instance, h.Reachable receiver args i.id → h'.entry? i = h.entry? i)
    {i : Instance} (hi : h'.entry? i = h.entry? i) :
    Heap.entry? (code h').2 i = Heap.entry? (code h).2 i := by
  obtain ⟨-, hnext, hsame⟩ := hlocal.reads h h' hfresh hfresh' hnextId hagree
  obtain ⟨-, hfreshAfter⟩ := hlocal.numbers h hfresh
  obtain ⟨-, hfreshAfter'⟩ := hlocal.numbers h' hfresh'
  by_cases hlt : i.id < (code h).2.nextId
  · by_cases hhandled : h.Handles receiver args (code h).2 i
    · exact hsame i hhandled
    · obtain ⟨hold, hkept⟩ := hlocal.entry_of_not_handles hfresh hlt hhandled
      have hkept' : Heap.entry? (code h').2 i = h'.entry? i :=
        hlocal.writes h' hfresh' i (hnextId ▸ hold)
          fun hid => hhandled (.inl (hid.of_agree hagree))
      rw [hkept, hkept', hi]
  · rw [hfreshAfter i (not_lt.mp hlt), hfreshAfter' i (hnext ▸ not_lt.mp hlt)]

/-- Local code does the same whatever else is on the heap. -/
theorem twins
    (hlocal : LocalTo receiver args code) (hmirrors : Mirrors n n h h')
    (hreceiver : ∀ i ∈ receiver, h.Since n i) (hargs : ∀ v ∈ args, v.Only (h.Since n)) :
    Twins n n h (Ending.Twins n n) (code h) (code h') := by
  have hfresh := hmirrors.fresh
  have hsince : ∀ id, h.Reachable receiver args id → n ≤ id ∧ id < h.nextId :=
    fun _ hid => hmirrors.since_of_reachable hreceiver hargs hid
  have hagree : ∀ i : Instance, h.Reachable receiver args i.id → h'.entry? i = h.entry? i :=
    fun i hi => hmirrors.entry_self (hsince _ hi).1
  obtain ⟨hending, hnext, -⟩ :=
    hlocal.reads h h' hfresh hmirrors.fresh_self hmirrors.nextId_self hagree
  obtain ⟨hlater, hfreshAfter⟩ := hlocal.numbers h hfresh
  obtain ⟨honly, hwithin⟩ := hlocal.keeps h hfresh
  have hhandles : ∀ i, h.Handles receiver args (code h).2 i → (code h).2.Since n i := by
    rintro i (hreachable | hmade)
    · exact ⟨(hsince _ hreachable).1, (hsince _ hreachable).2.trans_le hlater⟩
    · exact ⟨hmirrors.begun.trans hmade.1, hmade.2⟩
  have honly : (code h).1.Only ((code h).2.Since n) := honly.mono hhandles
  refine ⟨hlater, .of_same (hmirrors.begun.trans hlater) hnext hfreshAfter (fun i hi => ?_)
    (fun i held hi hheld => ?_), honly, ?_⟩
  · exact hlocal.entry_of_agree hfresh hmirrors.fresh_self hmirrors.nextId_self hagree
      (hmirrors.entry_self hi)
  · by_cases hhandled : h.Handles receiver args (code h).2 i
    · exact (hwithin i held hhandled hheld).mono hhandles
    · have hlt : i.id < (code h).2.nextId := by
        by_contra hnot
        rw [hfreshAfter i (not_lt.mp hnot)] at hheld
        cases hheld
      rw [(hlocal.entry_of_not_handles hfresh hlt hhandled).2] at hheld
      exact (hmirrors.closed i held hi hheld).mono fun j hj => hj.later hlater
  · rw [hending, Ending.renumber_self (honly.mono fun _ hi => hi.1)]

end LocalTo

theorem EntryPoint.Local.respects {entry : EntryPoint} (hlocal : entry.Local) (n : ℕ) :
    entry.Respects n n := by
  intro h h' hmirrors receiver args hreceiver hargs _
  rw [Instance.map_renumber_self fun i hi => (hreceiver i hi).1,
    Value.map_renumber_self fun v hv => Heap.only_of_only_since (hargs v hv)]
  exact (hlocal receiver args).twins hmirrors hreceiver hargs

theorem Host.Local.respects {host : Host} (hlocal : host.Local) (n : ℕ) :
    host.Respects n n where
  entryPoint member entry hentry := (hlocal.entryPoint member entry hentry).respects n
  snapshot h h' hmirrors i hi := by
    rw [Instance.renumber_self hi.1]
    refine hlocal.snapshot h h' i fun j hj => ?_
    have hreceiver : ∀ k ∈ some i, h.Since n k := by
      intro k hk
      cases hk
      exact hi
    exact hmirrors.entry_self (hmirrors.since_of_reachable hreceiver (by simp) hj).1

end Refit
