import Refit.Proofs.Association
import Refit.Proofs.Execution.Mirrors
import Refit.Proofs.Execution.Scripts

/-!
# Scripted code that is blind to numbers

A host is blind when its code takes an object for nothing but itself: it may hand it on,
keep it and compare it with others, but does not ask for its number.  Scripted code is
blind unless it evaluates an expression or shows what an object holds, which writes the
objects in it into a text.
-/

namespace Refit

variable {n m : ℕ}

/-- The host does not tell counters apart. -/
def Host.Blind (host : Host) : Prop := ∀ n m, host.Respects n m

section Sameness

namespace Value

mutual

theorem same_renumber : ∀ v w : Value, v.Only (n ≤ ·.id) → w.Only (n ≤ ·.id) →
    (v.renumber n m).same (w.renumber n m) = v.same w
  | .object i, w, hi, hw => by
      cases w with
      | object j =>
          rw [renumber, renumber, same, same, Bool.eq_iff_iff, beq_iff_eq, beq_iff_eq]
          exact Instance.renumber_id_inj (only_object.mp hi) (only_object.mp hw)
      | _ => rfl
  | .list vs, w, hvs, hw => by
      cases w with
      | list ws =>
          rw [renumber, renumber, same, same]
          exact sameItems_renumber vs ws (only_list.mp hvs) (only_list.mp hw)
      | _ => rfl
  | .array vs, w, hvs, hw => by
      cases w with
      | array ws =>
          rw [renumber, renumber, same, same]
          exact sameItems_renumber vs ws (only_array.mp hvs) (only_array.mp hw)
      | _ => rfl
  | .null, w, _, _ | .void, w, _, _ | .bool _, w, _, _ | .char _, w, _, _ | .byte _, w, _, _
  | .short _, w, _, _ | .int _, w, _, _ | .long _, w, _, _ | .float _, w, _, _
  | .double _, w, _, _ | .text _, w, _, _ => by
      cases w <;> rfl

theorem sameItems_renumber : ∀ vs ws : List Value, (∀ v ∈ vs, v.Only (n ≤ ·.id)) →
    (∀ w ∈ ws, w.Only (n ≤ ·.id)) →
    sameItems (renumberAll n m vs) (renumberAll n m ws) = sameItems vs ws
  | [], [], _, _ => rfl
  | [], _ :: _, _, _ => rfl
  | _ :: _, [], _, _ => rfl
  | v :: vs, w :: ws, hvs, hws => by
      rw [renumberAll, renumberAll, sameItems, sameItems,
        same_renumber v w (hvs v List.mem_cons_self) (hws w List.mem_cons_self),
        sameItems_renumber vs ws (fun u hu => hvs u (List.mem_cons_of_mem _ hu))
          fun u hu => hws u (List.mem_cons_of_mem _ hu)]

end

theorem integer?_renumber (v : Value) : (v.renumber n m).integer? = v.integer? := by
  cases v <;> rfl

end Value

end Sameness

namespace Heap

variable {h h' : Heap} {i : Instance}

theorem items_eq_error {f : Fault} (hf : h.items i = .error f) :
    f = poisonedFault i ∨ f = contentFault i := by
  unfold items at hf
  split at hf
  · cases hf
    exact .inl rfl
  · cases hf
  · cases hf
    exact .inr rfl

theorem Mirrors.items_eq
    (hmirrors : Mirrors n m h h') (hi : n ≤ i.id) (hquiet : Quiet n m (h.items i)) :
    h'.items (i.renumber n m) = (h.items i).map (List.map (Value.renumber n m)) := by
  have hfixed : ∀ f, h.items i = .error f → i.renumber n m = i := by
    intro f hf
    rw [hf] at hquiet
    exact renumber_of_quiet_look hi (items_eq_error hf) (quiet_error.mp hquiet)
  unfold items at hfixed ⊢
  rw [hmirrors.entry i hi]
  generalize h.entry? i = found at hfixed ⊢
  rcases found with _ | ⟨⟨⟩ | ⟨values⟩ | ⟨s⟩, ⟨⟩⟩
  · exact congrArg (Except.error ∘ contentFault) (hfixed _ rfl)
  · exact congrArg (Except.error ∘ contentFault) (hfixed _ rfl)
  · exact congrArg (Except.error ∘ poisonedFault) (hfixed _ rfl)
  · rfl
  · exact congrArg (Except.error ∘ poisonedFault) (hfixed _ rfl)
  · exact congrArg (Except.error ∘ contentFault) (hfixed _ rfl)
  · exact congrArg (Except.error ∘ poisonedFault) (hfixed _ rfl)

theorem Mirrors.setItems
    (hmirrors : Mirrors n m h h') (hi : n ≤ i.id) {values : List Value}
    (hvalues : ∀ v ∈ values, v.Only (h.Since n)) :
    Mirrors n m (h.setItems i values)
      (h'.setItems (i.renumber n m) (values.map (Value.renumber n m))) :=
  hmirrors.modify hi (fun _ => rfl) fun _ _ => Content.within_items.mpr hvalues

theorem Mirrors.poison (hmirrors : Mirrors n m h h') (hi : n ≤ i.id) :
    Mirrors n m (h.poison i) (h'.poison (i.renumber n m)) :=
  hmirrors.modify hi (fun _ => rfl) fun _ hentry => hentry

end Heap

namespace Behaviour

open Heap

variable {h h' : Heap} {receiver : Option Instance} {args : List Value}

/-- Code that runs on the list of its receiver. -/
theorem onItems_twins
    (hmirrors : Mirrors n m h h') (hreceiver : ∀ i ∈ receiver, h.Since n i)
    {f f' : Instance → List Value → Ending × Heap}
    (hf : ∀ i values, h.Since n i → (∀ v ∈ values, v.Only (h.Since n)) →
      Twins n m h (Ending.Twins n m) (f i values)
        (f' (i.renumber n m) (values.map (Value.renumber n m))))
    (hquiet : (onItems receiver h f).1.Quiet n m) :
    Twins n m h (Ending.Twins n m) (onItems receiver h f)
      (onItems (receiver.map (Instance.renumber n m)) h' f') := by
  cases receiver with
  | none => exact hmirrors.twins ⟨trivial, rfl⟩
  | some i =>
      have hi := hreceiver i rfl
      simp only [onItems, Option.map_some] at hquiet ⊢
      rcases hitems : h.items i with fault | values
      · rw [hitems] at hquiet
        have hquiet' : Quiet n m (h.items i) := by
          rw [hitems]
          exact quiet_error.mpr hquiet
        rw [hmirrors.items_eq hi.1 hquiet', hitems]
        exact hmirrors.twins ⟨trivial, rfl⟩
      · rw [hmirrors.items_eq hi.1 (by rw [hitems]; exact quiet_ok values), hitems]
        refine hf i values hi ?_
        exact Content.within_items.mp (hmirrors.closed i _ hi.1 (items_eq_ok hitems))

theorem itemAt_renumber (values args : List Value) :
    itemAt (values.map (Value.renumber n m)) (args.map (Value.renumber n m)) =
      (itemAt values args).renumber n m := by
  unfold itemAt
  have hplace : ((args.map (Value.renumber n m)).head?.bind Value.integer?) =
      args.head?.bind Value.integer? := by
    cases args with
    | nil => rfl
    | cons v rest => exact v.integer?_renumber
  simp only [hplace, List.length_map, List.getElem?_map]
  split_ifs
  · cases values[((args.head?.bind Value.integer?).getD (-1)).toNat]? <;> rfl
  · rfl

theorem entry_twins
    {behaviour : Behaviour} (hconst : ∀ v, behaviour = .const v → v.Only fun _ => False)
    (heval : ∀ text, behaviour ≠ .eval text) (typeName : String)
    (hmirrors : Mirrors n m h h') (hreceiver : ∀ i ∈ receiver, h.Since n i)
    (hargs : ∀ v ∈ args, v.Only (h.Since n))
    (hquiet : (behaviour.entry typeName receiver args h).1.Quiet n m) :
    Twins n m h (Ending.Twins n m) (behaviour.entry typeName receiver args h)
      (behaviour.entry typeName (receiver.map (Instance.renumber n m))
        (args.map (Value.renumber n m)) h') := by
  have hmade : ∀ typeName {content : Content}, content.Within (h.Since n) →
      Twins n m h (Ending.Twins n m)
        (.returned (.object (h.alloc typeName content).1), (h.alloc typeName content).2)
        (.returned (.object (h'.alloc typeName (content.renumber n m)).1),
          (h'.alloc typeName (content.renumber n m)).2) := by
    intro typeName content hcontent
    refine (hmirrors.alloc typeName hcontent).mono fun hanswers => ⟨?_, ?_⟩
    · exact Value.only_object.mpr hanswers.1
    · exact congrArg (Ending.returned ∘ Value.object) hanswers.2
  have hitems : (Content.items args).Within (h.Since n) := Content.within_items.mpr hargs
  have hlast : (args.getLastD .null).Only (h.Since n) := last_only hargs
  have hlast' : (args.map (Value.renumber n m)).getLastD .null =
      (args.getLastD .null).renumber n m := by
    rw [List.getLastD_eq_getLast?, List.getLastD_eq_getLast?, List.getLast?_map]
    cases args.getLast? <;> rfl
  have hset : ∀ {i : Instance} {values : List Value} {e e' : Ending}, h.Since n i →
      (∀ v ∈ values, v.Only (h.Since n)) → e.Twins n m (h.Since n) e' →
        Twins n m h (Ending.Twins n m) (e, h.setItems i values)
          (e', h'.setItems (i.renumber n m) (values.map (Value.renumber n m))) :=
    fun hi hvalues hends => ⟨le_rfl, hmirrors.setItems hi.1 hvalues, hends⟩
  cases behaviour with
  | new => exact hmade typeName hitems
  | newUnit => exact hmade typeName (id : (Content.unit).Within _)
  | make other => exact hmade other hitems
  | push =>
      refine onItems_twins hmirrors hreceiver (fun i values hi hvalues => ?_) hquiet
      have hmore : ∀ v ∈ values ++ [args.getLastD .null], v.Only (h.Since n) :=
        List.forall_mem_append.mpr ⟨hvalues, List.forall_mem_singleton.mpr hlast⟩
      have hpushed := hset (e := .returned (args.getLastD .null)) hi hmore ⟨hlast, rfl⟩
      rw [List.map_append] at hpushed
      rw [hlast']
      exact hpushed
  | put =>
      refine onItems_twins hmirrors hreceiver (fun i values hi hvalues => ?_) hquiet
      have hmore : ∀ v ∈ values ++ args, v.Only (h.Since n) :=
        List.forall_mem_append.mpr ⟨hvalues, hargs⟩
      rw [← List.map_append]
      exact hset hi hmore ⟨Value.only_void, rfl⟩
  | pop =>
      refine onItems_twins hmirrors hreceiver (fun i values hi hvalues => ?_) hquiet
      rw [List.getLast?_map]
      cases hitem : values.getLast? with
      | none => exact hmirrors.twins ⟨trivial, rfl⟩
      | some item =>
          rw [← List.map_dropLast]
          exact hset hi (fun v hv => hvalues v (List.dropLast_subset values hv))
            ⟨hvalues item (List.mem_of_getLast? hitem), rfl⟩
  | peek =>
      refine onItems_twins hmirrors hreceiver (fun i values hi hvalues => ?_) hquiet
      rw [List.getLast?_map]
      cases hitem : values.getLast? with
      | none => exact hmirrors.twins ⟨trivial, rfl⟩
      | some item => exact hmirrors.twins ⟨hvalues item (List.mem_of_getLast? hitem), rfl⟩
  | size =>
      refine onItems_twins hmirrors hreceiver (fun i values hi hvalues => ?_) hquiet
      rw [List.length_map]
      exact hmirrors.twins ⟨Value.only_of_primitive? (p := .int) rfl, rfl⟩
  | clear =>
      refine onItems_twins hmirrors hreceiver (fun i values hi hvalues => ?_) hquiet
      have hnone : ∀ v ∈ ([] : List Value), v.Only (h.Since n) := by simp
      exact hset hi hnone ⟨Value.only_void, rfl⟩
  | items =>
      refine onItems_twins hmirrors hreceiver (fun i values hi hvalues => ?_) hquiet
      rw [← Value.renumber_list]
      exact hmirrors.twins ⟨Value.only_list.mpr hvalues, rfl⟩
  | get =>
      refine onItems_twins hmirrors hreceiver (fun i values hi hvalues => ?_) hquiet
      rw [itemAt_renumber]
      exact hmirrors.twins ⟨itemAt_only hvalues args, rfl⟩
  | contains =>
      refine onItems_twins hmirrors hreceiver (fun i values hi hvalues => ?_) hquiet
      have hfound : ∀ wanted : Value, wanted.Only (n ≤ ·.id) →
          (values.map (Value.renumber n m)).any (·.same (wanted.renumber n m)) =
            values.any (·.same wanted) := by
        intro wanted hwanted
        rw [List.any_map, Bool.eq_iff_iff, List.any_eq_true, List.any_eq_true]
        refine exists_congr fun v => and_congr_right fun hv => ?_
        rw [Function.comp_apply,
          v.same_renumber wanted (only_of_only_since (hvalues v hv)) hwanted]
      cases args with
      | nil => exact hmirrors.twins ⟨Value.only_of_primitive? (p := .boolean) rfl, rfl⟩
      | cons wanted rest =>
          have hwanted := only_of_only_since (hargs wanted List.mem_cons_self)
          simp only [List.map_cons, List.head?_cons, hfound wanted hwanted]
          exact hmirrors.twins ⟨Value.only_of_primitive? (p := .boolean) rfl, rfl⟩
  | this =>
      cases receiver with
      | none => exact hmirrors.twins ⟨Value.only_null, rfl⟩
      | some i => exact hmirrors.twins ⟨Value.only_object.mpr (hreceiver i rfl), rfl⟩
  | const v =>
      have hv := hconst v rfl
      refine hmirrors.twins ⟨hv.mono fun _ hfalse => hfalse.elim, ?_⟩
      exact congrArg Ending.returned
        (Value.renumber_of_fixed (hv.mono fun _ hfalse => hfalse.elim)).symm
  | args =>
      exact hmirrors.twins ⟨Value.only_list.mpr hargs, congrArg _ (Value.renumber_list ..).symm⟩
  | eval text => exact absurd rfl (heval text)
  | breakDownLocked =>
      refine onItems_twins hmirrors hreceiver (fun i values hi hvalues => ?_) hquiet
      exact ⟨le_rfl, hmirrors.poison hi.1, trivial, rfl⟩
  | fail | breakDown | hang | unknown => exact hmirrors.twins ⟨trivial, rfl⟩

end Behaviour

namespace HostScript

/-- No constant of the script holds an object, no code of it evaluates an expression, and
what objects hold is not shown. -/
structure Plain (script : HostScript) : Prop where
  constants : script.ConstantsOnly fun _ => False
  behaviours : ∀ s ∈ script.members, ∀ text, s.behaviour ≠ .eval text
  snapshots : ∀ entry ∈ script.snapshots, entry.2 ≠ .items

theorem host_blind {script : HostScript} (hplain : script.Plain) : script.host.Blind := by
  intro n m
  constructor
  · intro member entry hentry h h' hmirrors receiver args hreceiver hargs
    obtain ⟨s, hs, rfl⟩ := entryPoint_eq_ok hentry
    have htwins : ∀ receiver : Option Instance, (∀ i ∈ receiver, h.Since n i) →
        (s.behaviour.entry s.typeName receiver args h).1.Quiet n m →
          Heap.Twins n m h (Ending.Twins n m) (s.behaviour.entry s.typeName receiver args h)
            (s.behaviour.entry s.typeName (receiver.map (Instance.renumber n m))
              (args.map (Value.renumber n m)) h') :=
      fun receiver hreceiver => Behaviour.entry_twins (hplain.constants s hs)
        (hplain.behaviours s hs) s.typeName hmirrors hreceiver hargs
    unfold MemberScript.entry
    cases s.receiving with
    | never => exact htwins none nofun
    | always =>
        cases receiver with
        | none => exact fun _ => hmirrors.twins ⟨trivial, rfl⟩
        | some i => exact htwins (some i) hreceiver
    | asGiven => exact htwins receiver hreceiver
  · intro h h' hmirrors i hi
    change script.snapshot h' (i.renumber n m) = script.snapshot h i
    unfold snapshot
    have htype : (i.renumber n m).typeName = i.typeName := rfl
    rw [htype]
    cases hfound : script.snapshots.lookup i.typeName with
    | none => rfl
    | some view =>
        cases view with
        | nothing | fixed => rfl
        | items => exact absurd rfl (hplain.snapshots _ (mem_of_lookup_eq_some hfound))

end HostScript

end Refit
