import Refit.Matching.Candidate

/-!
# The heap

What objects hold.  An object is made once, with the next free number, and keeps its type.  Most
objects hold a list of values or nothing; a stand-in holds the object behind it and a log of the
calls that went through it.
-/

namespace Refit

/-- A member with the glue that maps the inputs of an operation onto its parameters. -/
structure Handle where
  member : Member
  positions : List Nat
  conversions : List Conversion
  returnConversion : Conversion
  deriving DecidableEq, Repr

/-- A call that went through a stand-in. -/
structure LoggedCall where
  /-- The number of the method of the interface. -/
  method : Nat
  member : String
  output : Except Fault Value

/-- An object that implements an interface on behalf of another. -/
structure StandIn where
  /-- One handle for each method of the interface. -/
  methods : List Handle
  /-- The object behind, unless all methods are static. -/
  adaptee : Option Instance
  calls : List LoggedCall

inductive Content where
  | unit
  | items (values : List Value)
  | standIn (s : StandIn)

structure HeapEntry where
  content : Content
  /-- A call that failed while it held the content leaves it poisoned. -/
  poisoned : Bool := false

structure Heap where
  nextId : Nat := 1
  /-- The objects by number, the latest first. -/
  entries : List (Nat × HeapEntry) := []

namespace Heap

def entry? (h : Heap) (i : Instance) : Option HeapEntry := h.entries.lookup i.id

/-- A new object. -/
def alloc (h : Heap) (typeName : String) (content : Content) : Instance × Heap :=
  (⟨h.nextId, typeName⟩, ⟨h.nextId + 1, (h.nextId, ⟨content, false⟩) :: h.entries⟩)

theorem entry?_alloc (h : Heap) (typeName : String) (content : Content)
    (i : Instance) :
    entry? (h.alloc typeName content).2 i =
      if i.id = h.nextId then some ⟨content, false⟩ else h.entry? i := by
  unfold entry? alloc
  rw [List.lookup_cons]
  by_cases hi : i.id = h.nextId
  · simp [hi]
  · have hne : (i.id == h.nextId) = false := by simpa using hi
    simp [hi, hne]

/-- Changes what is known of an object. -/
def modify (h : Heap) (i : Instance) (f : HeapEntry → HeapEntry) : Heap :=
  { h with
    entries := h.entries.map fun (id, entry) => if id = i.id then (id, f entry) else (id, entry) }

theorem entry?_modify (h : Heap) (i j : Instance) (f : HeapEntry → HeapEntry) :
    entry? (h.modify i f) j =
      if j.id = i.id then Option.map f <| h.entry? j else h.entry? j := by
  unfold entry? modify
  simp only
  induction h.entries with
  | nil => simp
  | cons entry entries ih =>
      obtain ⟨id, content⟩ := entry
      have hhead : (if id = i.id then (id, f content) else (id, content)) =
          (id, if id = i.id then f content else content) := by
        split <;> rfl
      simp only [List.map_cons, hhead, List.lookup_cons]
      by_cases hid : j.id = id
      · subst hid
        by_cases hi : j.id = i.id <;> simp [hi]
      · have hne : (j.id == id) = false := by simpa using hid
        simp only [hne]
        exact ih

/-- The stand-in that an object is, if it is one and can be read. -/
def standIn? (h : Heap) (i : Instance) : Option StandIn :=
  match h.entry? i with
  | some ⟨.standIn s, false⟩ => some s
  | _ => none

def isStandIn (h : Heap) (i : Instance) : Bool := (h.standIn? i).isSome

def poisonedFault (i : Instance) : Fault :=
  .illegalState (i.text ++ " was poisoned by a failed call")

def contentFault (i : Instance) : Fault := .classCast (i.text ++ " has unexpected state")

/-- The list that an object holds. -/
def items (h : Heap) (i : Instance) : Except Fault (List Value) :=
  match h.entry? i with
  | some ⟨_, true⟩ => .error (poisonedFault i)
  | some ⟨.items values, false⟩ => .ok values
  | _ => .error (contentFault i)

/-- Replaces the list that an object holds. -/
def setItems (h : Heap) (i : Instance) (values : List Value) : Heap :=
  h.modify i fun entry => { entry with content := .items values }

def poison (h : Heap) (i : Instance) : Heap :=
  h.modify i fun entry => { entry with poisoned := true }

/-- The stand-in, or why it cannot be had. -/
def standIn (h : Heap) (i : Instance) : Except Fault StandIn :=
  match h.entry? i with
  | some ⟨_, true⟩ => .error (poisonedFault i)
  | some ⟨.standIn s, false⟩ => .ok s
  | _ => .error (contentFault i)

theorem standIn?_eq_some
    {h : Heap} {i : Instance} {s : StandIn} :
    h.standIn? i = some s ↔ h.entry? i = some ⟨.standIn s, false⟩ := by
  unfold standIn?
  split <;> simp_all

theorem standIn_eq_ok
    {h : Heap} {i : Instance} {s : StandIn} :
    h.standIn i = .ok s ↔ h.standIn? i = some s := by
  unfold standIn standIn?
  split <;> simp_all

/-- Adds a call to the log of a stand-in. -/
def log (h : Heap) (i : Instance) (call : LoggedCall) : Heap :=
  h.modify i fun entry =>
    match entry.content with
    | .standIn s => { entry with content := .standIn { s with calls := s.calls ++ [call] } }
    | _ => entry

/-- What stands behind a stand-in. -/
def adaptee? (h : Heap) (i : Instance) : Option Instance := (h.standIn? i).bind (·.adaptee)

def calls (h : Heap) (i : Instance) : List LoggedCall :=
  match h.standIn? i with
  | some s => s.calls
  | none => []

mutual

/-- The value with every stand-in in it replaced by what stands behind, or by null. -/
def unwrap (h : Heap) : Value → Value
  | .object i =>
    if h.isStandIn i then
      match h.adaptee? i with
      | some adaptee => .object adaptee
      | none => .null
    else .object i
  | .list values => .list (unwrapAll h values)
  | .array values => .array (unwrapAll h values)
  | v => v

def unwrapAll (h : Heap) : List Value → List Value
  | [] => []
  | v :: rest => unwrap h v :: unwrapAll h rest

end

theorem unwrapAll_eq_map (h : Heap) (values : List Value) :
    h.unwrapAll values = values.map h.unwrap := by
  induction values with
  | nil => rfl
  | cons v values ih => rw [unwrapAll, ih, List.map_cons]

theorem length_unwrapAll (h : Heap) (values : List Value) :
    (h.unwrapAll values).length = values.length := by
  rw [unwrapAll_eq_map, List.length_map]

end Heap

end Refit
