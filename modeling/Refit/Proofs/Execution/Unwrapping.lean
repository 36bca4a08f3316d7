import Refit.Proofs.Execution.Calls
import Refit.Proofs.Mentions
import Refit.Samples.Echo

/-!
# Stand-ins among arguments

A stand-in is made for the caller; the code behind the glue is to be given what
stands behind it.  The inputs of a construction and of a call on a stand-in are
replaced, those of a call without a receiver are handed on as they are.  Hence a
stand-in gets to the code of a member by a call without a receiver, or when it is
poisoned and not recognized any more, and in no other way.
-/

namespace Refit

/-- The inputs that reach the code of a member as arguments. -/
def ReachesArgument (h : Handle) (inputs : List Value) (v : Value) : Prop :=
  ∃ position conversion, (position, conversion) ∈ h.positions.zip h.conversions ∧
    conversion ≠ .discard ∧ inputs[position]? = some v

theorem Handle.arguments_mentions
    {P : Instance → Prop} {h : Handle} {inputs args : List Value}
    {feeds : List (ℕ × Conversion)} (hargs : h.arguments inputs feeds = .ok args) :
    (∃ arg ∈ args, arg.Mentions P) ↔
      ∃ v, (∃ position conversion, (position, conversion) ∈ feeds ∧
        conversion ≠ .discard ∧ inputs[position]? = some v) ∧ v.Mentions P := by
  induction feeds generalizing args with
  | nil =>
      cases hargs
      simp
  | cons feed feeds ih =>
      obtain ⟨position, conversion⟩ := feed
      simp only [Handle.arguments] at hargs
      split at hargs
      · cases hargs
      next w hw =>
      split at hargs
      · cases hargs
      next rest hrest =>
      cases hargs
      have hinput : ∃ v, inputs[position]? = some v ∧ conversion.apply v = .ok w := by
        unfold Handle.argument at hw
        split at hw
        · next v hv => exact ⟨v, hv, hw⟩
        · cases hw
      obtain ⟨v, hv, happly⟩ := hinput
      simp only [List.mem_cons, exists_eq_or_imp, ih hrest,
        Conversion.apply_mentions happly]
      constructor
      · rintro (⟨hkept, hmentions⟩ | ⟨other, ⟨p, c, hfeed, hkept, hother⟩, hmentions⟩)
        · exact ⟨v, ⟨position, conversion, .inl rfl, hkept, hv⟩, hmentions⟩
        · exact ⟨other, ⟨p, c, .inr hfeed, hkept, hother⟩, hmentions⟩
      · rintro ⟨other, ⟨p, c, hhere | hfeed, hkept, hother⟩, hmentions⟩
        · cases hhere
          rw [hv] at hother
          cases hother
          exact .inl ⟨hkept, hmentions⟩
        · exact .inr ⟨other, ⟨p, c, hfeed, hkept, hother⟩, hmentions⟩

namespace Heap

/-- The object is a stand-in, poisoned or not. -/
def HoldsStandIn (h : Heap) (i : Instance) : Prop :=
  ∃ s poisoned, h.entry? i = some ⟨.standIn s, poisoned⟩

/-- No stand-in stands in front of another. -/
def AdapteesPlain (h : Heap) : Prop :=
  ∀ i s adaptee, h.standIn? i = some s → s.adaptee = some adaptee →
    ¬ h.HoldsStandIn adaptee

/-- A stand-in that is not recognized as one any more. -/
def HoldsLostStandIn (h : Heap) (i : Instance) : Prop :=
  h.HoldsStandIn i ∧ h.isStandIn i = false

variable {h : Heap}

theorem unwrap_object_mentions (hplain : h.AdapteesPlain) (i : Instance) :
    (h.unwrap (.object i)).Mentions h.HoldsStandIn ↔ h.HoldsLostStandIn i := by
  unfold unwrap
  split
  · next hstandIn =>
    have hnot : ¬ h.HoldsLostStandIn i := fun hlost => by
      rw [hlost.2] at hstandIn
      cases hstandIn
    unfold adaptee?
    obtain ⟨s, hs⟩ := Option.isSome_iff_exists.mp hstandIn
    cases hadaptee : s.adaptee with
    | none => simp [hs, hadaptee, hnot]
    | some adaptee =>
        simpa [hs, hadaptee, hnot] using hplain i s adaptee hs hadaptee
  · next hstandIn =>
    simp only [Value.mentions_object, HoldsLostStandIn]
    exact ⟨fun hholds => ⟨hholds, by simpa using hstandIn⟩, fun hlost => hlost.1⟩

mutual

theorem unwrap_mentions (hplain : h.AdapteesPlain) :
    ∀ v : Value, (h.unwrap v).Mentions h.HoldsStandIn ↔
      v.Mentions h.HoldsLostStandIn
  | .object i => by rw [unwrap_object_mentions hplain, Value.mentions_object]
  | .list values => by
      rw [unwrap, Value.mentions_list, Value.mentions_list]
      exact unwrapAll_mentions hplain values
  | .array values => by
      rw [unwrap, Value.mentions_array, Value.mentions_array]
      exact unwrapAll_mentions hplain values
  | .null | .void | .text _ => by simp [unwrap]
  | .bool _ | .char _ | .byte _ | .short _ | .int _ | .long _ | .float _
  | .double _ => by
      unfold unwrap
      constructor <;> intro hmentions <;> cases hmentions

theorem unwrapAll_mentions (hplain : h.AdapteesPlain) :
    ∀ values : List Value,
      (∃ w ∈ h.unwrapAll values, w.Mentions h.HoldsStandIn) ↔
        ∃ v ∈ values, v.Mentions h.HoldsLostStandIn
  | [] => by simp [unwrapAll]
  | v :: values => by
      simp only [unwrapAll, List.mem_cons, exists_eq_or_imp,
        unwrap_mentions hplain v, unwrapAll_mentions hplain values]

end

end Heap

/-- A call that is made on no object. -/
def Step.isReceiverless (s : Step) : Bool :=
  match s.kind with
  | .call _ _ none => true
  | _ => false

/-- The inputs as the glue of a step through the adapter gets them. -/
def Step.handedInputs (s : Step) (heap : Heap) (inputs : List Value) :
    List Value :=
  if s.isReceiverless then inputs else heap.unwrapAll inputs

/-- The objects that are handed on although they are stand-ins. -/
def Step.LetsThrough (s : Step) (heap : Heap) (i : Instance) : Prop :=
  if s.isReceiverless then heap.HoldsStandIn i else heap.HoldsLostStandIn i

theorem Step.handedInputs_mentions
    {s : Step} {heap : Heap} (hplain : heap.AdapteesPlain)
    {inputs : List Value} {position : ℕ} {w : Value}
    (hw : (s.handedInputs heap inputs)[position]? = some w) :
    ∃ v, inputs[position]? = some v ∧
      (w.Mentions heap.HoldsStandIn ↔ v.Mentions (s.LetsThrough heap)) := by
  unfold handedInputs at hw
  unfold LetsThrough
  split at hw
  next hreceiverless =>
    exact ⟨w, hw, by simp only [if_pos hreceiverless]⟩
  next hreceiver =>
    rw [Heap.unwrapAll_eq_map, List.getElem?_map, Option.map_eq_some_iff] at hw
    obtain ⟨v, hv, rfl⟩ := hw
    refine ⟨v, hv, ?_⟩
    simp only [if_neg hreceiver]
    exact Heap.unwrap_mentions hplain v

theorem Step.handedInputs_getElem?
    {s : Step} {heap : Heap} {inputs : List Value} {position : ℕ} {v : Value}
    (hv : inputs[position]? = some v) :
    ∃ w, (s.handedInputs heap inputs)[position]? = some w := by
  unfold handedInputs
  split
  · exact ⟨v, hv⟩
  · rw [Heap.unwrapAll_eq_map, List.getElem?_map, hv]
    exact ⟨_, rfl⟩

namespace Runner

theorem marshal_of_constructCall?
    {p : Runner} {inputs : List Value} {heap : Heap} {call : ForeignCall}
    (hcall : p.constructCall? inputs heap = some call) :
    call.handle.marshal (heap.unwrapAll inputs) = .ok call.args := by
  unfold constructCall? at hcall
  split at hcall
  · obtain ⟨rfl, hargs⟩ := Handle.marshal_of_call? hcall
    exact hargs
  · cases hcall

theorem marshal_of_methodCall?
    {p : Runner} {method : String} {receiver : Option Value}
    {inputs : List Value} {heap : Heap} {call : ForeignCall}
    (hcall : p.methodCall? method receiver inputs heap = some call) :
    call.handle.marshal
      (if receiver.isNone then inputs else heap.unwrapAll inputs) =
        .ok call.args := by
  unfold methodCall? at hcall
  split at hcall
  · cases hcall
  split at hcall
  · obtain ⟨rfl, hargs⟩ := Handle.marshal_of_call? hcall
    exact hargs
  · unfold dispatchCall? at hcall
    split at hcall
    · cases hcall
    obtain ⟨handle, -, hinvoke⟩ := Option.bind_eq_some_iff.mp hcall
    obtain ⟨rfl, hargs⟩ := Handle.marshal_of_call? hinvoke
    exact hargs
  · cases hcall

theorem isNone_receiver
    {run : Run} {s : Step} {typeName method : String} {position : Option ℕ}
    {receiver : Option Value} (hkind : s.kind = .call typeName method position)
    (hreceiver : receiverOf run s = .ok receiver) :
    receiver.isNone = s.isReceiverless := by
  unfold receiverOf Step.receiver? at hreceiver
  unfold Step.isReceiverless
  rw [hkind] at hreceiver ⊢
  cases position with
  | none =>
      cases hreceiver
      rfl
  | some position =>
      simp only at hreceiver
      cases hvalue : earlierOutput run position with
      | error fault =>
          rw [hvalue] at hreceiver
          cases hreceiver
      | ok v =>
          rw [hvalue] at hreceiver
          cases hreceiver
          rfl

theorem marshal_of_call?
    {p : Runner} {run : Run} {s : Step} {receiver : Option Value}
    {inputs : List Value} {heap : Heap} {call : ForeignCall}
    (hreceiver : receiverOf run s = .ok receiver)
    (hcall : p.call? s receiver inputs heap = some call) :
    call.handle.marshal (s.handedInputs heap inputs) = .ok call.args := by
  unfold call? at hcall
  unfold Step.handedInputs
  split at hcall
  · next typeName hkind =>
    split at hcall
    · simpa [Step.isReceiverless, hkind] using marshal_of_constructCall? hcall
    · cases hcall
  · next typeName method position hkind =>
    split at hcall
    · rw [← isNone_receiver hkind hreceiver]
      exact marshal_of_methodCall? hcall
    · cases hcall
  · cases hcall

/-- At every moment of a run, the step through the adapter hands the converted
inputs to the code of one member, or runs no foreign code.  A stand-in is among
these arguments exactly when one is let through in an input that is not dropped. -/
theorem arguments_mention_standIn_iff
    {σ : Type} (p : Runner) (v : Observer σ) (sequence : Sequence) (heap : Heap)
    (state : σ) (m : Moment) (_ : p.Visits v sequence heap state m)
    (hplain : m.heap.AdapteesPlain)
    {receiver : Option Value} {inputs : List Value}
    (hreceiver : m.receiver = .ok receiver) (hinputs : m.inputs = .ok inputs)
    (hthrough : p.ThroughAdapter m.step receiver m.heap) :
    (p.call? m.step receiver inputs m.heap = none →
      ∀ host, { p with host }.performAt m = p.performAt m) ∧
    (∀ call, p.call? m.step receiver inputs m.heap = some call →
      Function.FactorsThrough (fun host => { p with host }.performAt m)
        (fun host => call.run host p.deadline m.heap) ∧
      call.handle.marshal (m.step.handedInputs m.heap inputs) = .ok call.args ∧
      ((∃ arg ∈ call.args, arg.Mentions m.heap.HoldsStandIn) ↔
        ∃ input, ReachesArgument call.handle inputs input ∧
          input.Mentions (m.step.LetsThrough m.heap))) := by
  have hperform : ∀ host, { p with host }.performAt m =
      { p with host }.runStep m.run m.step receiver inputs m.heap := by
    intro host
    simp only [performAt, hreceiver, hinputs, perform]
  constructor
  · intro hnone host
    have hsame := runStep_of_no_call hthrough hnone m.run host p.host
    rw [hperform host, hsame, ← hperform p.host]
  intro call hcall
  have hargs := marshal_of_call? hreceiver hcall
  refine ⟨?_, hargs, (Handle.arguments_mentions hargs).trans ?_⟩
  · intro host host' hsame
    simp only [hperform]
    exact runStep_factors hcall m.run hsame
  constructor
  · rintro ⟨w, ⟨position, conversion, hfeed, hkept, hw⟩, hmentions⟩
    obtain ⟨input, hinput, hiff⟩ := Step.handedInputs_mentions hplain hw
    exact ⟨input, ⟨position, conversion, hfeed, hkept, hinput⟩,
      hiff.mp hmentions⟩
  · rintro ⟨input, ⟨position, conversion, hfeed, hkept, hinput⟩, hmentions⟩
    obtain ⟨w, hw⟩ := Step.handedInputs_getElem? hinput
    obtain ⟨other, hother, hiff⟩ := Step.handedInputs_mentions hplain hw
    rw [hinput] at hother
    cases hother
    exact ⟨w, ⟨position, conversion, hfeed, hkept, hw⟩, hiff.mpr hmentions⟩

end Runner

namespace Samples

/-- Hands a stand-in to `echo`, first on no object, then on the stand-in. -/
def echoSequence : Sequence :=
  ⟨"echo",
    [⟨0, .construct "Echo", []⟩,
      ⟨1, .call "Echo" "echo" none, [.ref 0]⟩,
      ⟨2, .call "Echo" "echo" (some 0), [.ref 0]⟩]⟩

/-- The stand-in that the first step makes; nothing stands behind it. -/
def echoStandIn : Instance := ⟨1, "Echo"⟩

def echoHeap : Heap :=
  (({} : Heap).alloc "Echo" (.standIn ⟨[.ofCandidate echoCandidate], none, []⟩)).2

/-- The moment before the second step. -/
def echoMoment : Moment where
  run :=
    { name := "echo", adapterId := 0, candidateId := "util"
      steps :=
        [{ step := ⟨0, .construct "Echo", []⟩, target := none, inputs := []
           output := some (.ok (.object echoStandIn)), nominal := "Echo()"
           adapted := some noInstanceMark, standIn := some echoStandIn }]
      producers := [(1, 0)] }
  step := ⟨1, .call "Echo" "echo" none, [.ref 0]⟩
  heap := echoHeap

theorem echoMoment_visited :
    (echoRunner .args).Visits Observer.silent echoSequence {} () echoMoment :=
  .later rfl rfl rfl (.here rfl)

theorem echoHeap_adapteesPlain : echoHeap.AdapteesPlain := by
  intro i s adaptee hs hadaptee
  rw [Heap.standIn?_eq_some, echoHeap, Heap.entry?_alloc] at hs
  split at hs
  · cases hs
    cases hadaptee
  · cases hs

end Samples

open Samples in
theorem Runner.arguments_mention_standIn_echo :
    ∃ call,
      (echoRunner .args).call? echoMoment.step none [.object echoStandIn]
        echoHeap = some call ∧
      ∃ arg ∈ call.args, arg.Mentions echoHeap.HoldsStandIn := by
  have hreceiver : echoMoment.receiver = .ok none := rfl
  have hinputs : echoMoment.inputs = .ok [.object echoStandIn] := rfl
  obtain ⟨-, hiff⟩ :=
    (Runner.arguments_mention_standIn_iff (echoRunner .args) Observer.silent
      echoSequence {} () echoMoment echoMoment_visited echoHeap_adapteesPlain
      hreceiver hinputs (.inl rfl)).2
        ⟨.ofCandidate echoCandidate, none, [.object echoStandIn]⟩ rfl |>.2
  refine ⟨_, rfl, hiff.mpr ⟨.object echoStandIn, ?_, .object ⟨_, _, rfl⟩⟩⟩
  exact ⟨0, .identity, List.mem_singleton.mpr rfl, by simp, rfl⟩

open Samples in
/-- On no object the method is given the stand-in itself; on the stand-in it is
given what stands behind. -/
theorem Runner.receiverless_call_hands_standIn :
    (echoRunner .args).Visits Observer.silent echoSequence {} () echoMoment ∧
    echoMoment.heap.AdapteesPlain ∧
    (∃ call,
      (echoRunner .args).call? echoMoment.step none [.object echoStandIn]
        echoMoment.heap = some call ∧
      call.args = [.object echoStandIn]) ∧
    echoMoment.heap.HoldsStandIn echoStandIn ∧
    (∃ final heap,
      (echoRunner .args).execute Observer.silent echoSequence {} () =
        ⟨heap, (), .ok final⟩ ∧
      final.outputAt? 1 = some (.ok (.list [.object echoStandIn])) ∧
      final.outputAt? 2 = some (.ok (.list [.null]))) :=
  ⟨echoMoment_visited, echoHeap_adapteesPlain, ⟨_, rfl, rfl⟩, ⟨_, _, rfl⟩,
    _, _, rfl, rfl, rfl⟩

end Refit
