import Refit.Execution.Heap
import Refit.Text.Quoted
import Refit.Wire.Declarations

/-!
# Values as JSON

A value is a record of a tag and its content.  Floats are written by their bits, so that every one
of them has a text of its own.  Reading an object makes a new one, so readers work on a heap.
-/

namespace Refit

namespace Wire

/-- Why a request cannot be answered. -/
inductive Refusal where
  /-- A shape of the domain does not read. -/
  | mismatch (m : Mismatch)
  | failed (e : Error)
  /-- A field of the request itself is missing or of the wrong kind. -/
  | malformed (field : String)

/-- Reads from a request; objects that are made stay made when the rest fails. -/
abbrev Reading (α : Type) := ExceptT Refusal (StateM Heap) α

def refuse (why : Refusal) : Reading α := throw why

def ofRead : Read α → Reading α
  | .ok a => pure a
  | .error m => throw (.mismatch m)

def ofResult : Except Error α → Reading α
  | .ok a => pure a
  | .error e => throw (.failed e)

def orMalformed (field : String) : Option α → Reading α
  | some a => pure a
  | none => throw (.malformed field)

/-- Runs a step on the heap. -/
def onHeap (f : Heap → α × Heap) : Reading α := fun heap =>
  let (a, heap) := f heap
  (.ok a, heap)

abbrev Fields := List (String × Json)

def fields (name : String) (value : Json) : Reading Fields := orMalformed name value.record?

/-- A field that must be there. -/
def need (f : Fields) (name : String) : Reading Json := orMalformed name (Json.field? name f)

/-- A field of a shape; one that is missing reads like null. -/
def shapeIn (f : Fields) (name : String) : Json := (Json.field? name f).getD .null

/-- The field unless it is missing or null. -/
def given? (f : Fields) (name : String) : Option Json :=
  match Json.field? name f with
  | some .null | none => none
  | some value => some value

def needText (f : Fields) (name : String) : Reading String := do
  orMalformed name (← need f name).text?

def textOr (f : Fields) (name fallback : String) : Reading String :=
  match given? f name with
  | some value => orMalformed name value.text?
  | none => pure fallback

def needList (f : Fields) (name : String) : Reading (List Json) := do
  orMalformed name (← need f name).list?

/-- A list that is empty when the field is missing. -/
def listOf (f : Fields) (name : String) : Reading (List Json) :=
  match given? f name with
  | some value => orMalformed name value.list?
  | none => pure []

def natural? (value : Json) : Option Nat :=
  match natural value with
  | .ok n => some n
  | .error _ => none

def needNat (f : Fields) (name : String) : Reading Nat := do
  orMalformed name (natural? (← need f name))

def natOr (f : Fields) (name : String) (fallback : Nat) : Reading Nat :=
  match given? f name with
  | some value => orMalformed name (natural? value)
  | none => pure fallback

def nat? (f : Fields) (name : String) : Reading (Option Nat) :=
  match given? f name with
  | some value => do pure (some (← orMalformed name (natural? value)))
  | none => pure none

def flagOr (f : Fields) (name : String) (fallback : Bool) : Reading Bool :=
  match given? f name with
  | some value => orMalformed name value.bool?
  | none => pure fallback

def hexValue? (c : Char) : Option Nat :=
  if '0' ≤ c && c ≤ '9' then some (c.toNat - 48)
  else if 'a' ≤ c && c ≤ 'f' then some (c.toNat - 87)
  else none

/-- The number with exactly `width` hexadecimal digits. -/
def bits? (width : Nat) (s : String) : Option Nat :=
  if s.length ≠ width then none
  else (s.toList.mapM hexValue?).map fun ds => ds.foldl (fun n d => n * 16 + d) 0

/-- The bit pattern of a double. -/
def doubleBits? (s : String) : Option UInt64 :=
  if s = "nan" then some Decimal.notANumber.toBits else (bits? 16 s).map UInt64.ofNat

def double? (s : String) : Option Float := (doubleBits? s).map Float.ofBits

def single? (s : String) : Option Float32 :=
  if s = "nan" then some (Float32.ofBits 0x7fc00000)
  else (bits? 8 s).map fun n => Float32.ofBits (UInt32.ofNat n)

def doubleText (x : Float) : String :=
  if x.isNaN then "nan" else String.ofList (Text.hexField 16 x.toBits.toNat)

def singleText (x : Float32) : String :=
  if x.isNaN then "nan" else String.ofList (Text.hexField 8 x.toBits.toNat)

def writeDouble (x : Float) : Json := .text (doubleText x)

/-- A whole number with a sign in front or without. -/
def decimal? (s : String) : Option Int :=
  match s.toList with
  | '-' :: rest => (digits? rest).map fun n => -n
  | '+' :: rest => (digits? rest).map Int.ofNat
  | cs => (digits? cs).map Int.ofNat
where
  digits? (cs : List Char) : Option Nat :=
    if cs.isEmpty || !cs.all Char.isDigit then none
    else some (cs.foldl (fun n c => n * 10 + (c.toNat - 48)) 0)

def inWidth (bits : Nat) (n : Int) : Option Int :=
  if -(Nat.pow 2 (bits - 1)) ≤ n && n < Nat.pow 2 (bits - 1) then some n else none

def letter? (s : String) : Option Char :=
  match s.toList with
  | [c] => some c
  | _ => none

/-- The value of a tag that stands for a single thing. -/
def scalar? (tag : String) (content : Json) : Option Value :=
  match tag with
  | "null" => some .null
  | "void" => some .void
  | "bool" => content.bool?.map .bool
  | "char" => (content.text?.bind letter?).map .char
  | "byte" => (content.int?.bind (inWidth 8)).map fun n => .byte (Int8.ofInt n)
  | "short" => (content.int?.bind (inWidth 16)).map fun n => .short (Int16.ofInt n)
  | "int" => (content.int?.bind (inWidth 32)).map fun n => .int (Int32.ofInt n)
  | "long" =>
    ((content.text?.bind decimal?).bind (inWidth 64)).map fun n => .long (Int64.ofInt n)
  | "float" => (content.text?.bind single?).map .float
  | "double" => (content.text?.bind double?).map .double
  | "str" => content.text?.map .text
  | _ => none

/-- The earlier result with a number, null when there is none. -/
def resultAt (results : List Value) (n : Json) : Option Value :=
  (natural? n).map fun n => results[n]?.getD .null

mutual

/-- Reads a value; an object is made anew and holds nothing, a reference stands for one of the
earlier `results`. -/
def valueAmong (results : List Value) : Json → Reading Value
  | .record f =>
    match Json.field? "t" f with
    | some (.text "array") => do pure (.array (← valuesIn results f))
    | some (.text "list") => do pure (.list (← valuesIn results f))
    | some (.text "object") => do
      let typeName ← needText f "type"
      pure (.object (← onHeap (·.alloc typeName .unit)))
    | some (.text "ref") => orMalformed "v" (resultAt results (shapeIn f "v"))
    | some (.text tag) => orMalformed "v" (scalar? tag (shapeIn f "v"))
    | _ => throw (.malformed "t")
  | _ => throw (.malformed "t")

/-- Reads the items in the field `v`. -/
def valuesIn (results : List Value) : List (String × Json) → Reading (List Value)
  | [] => throw (.malformed "v")
  | (key, content) :: rest =>
    if key = "v" then
      match content with
      | .list items => valueItems results items
      | _ => throw (.malformed "v")
    else valuesIn results rest

def valueItems (results : List Value) : List Json → Reading (List Value)
  | [] => pure []
  | item :: rest => do
    let v ← valueAmong results item
    let vs ← valueItems results rest
    pure (v :: vs)

end

def value (content : Json) : Reading Value := valueAmong [] content

def values (f : Fields) (name : String) : Reading (List Value) := do
  valueItems [] (← listOf f name)

def writeObject (i : Instance) : Json :=
  .record [("t", .text "object"), ("type", .text i.typeName), ("id", .nat i.id)]

mutual

def writeValue : Value → Json
  | .null => tag "null"
  | .void => tag "void"
  | .bool b => tagged "bool" (.bool b)
  | .char c => tagged "char" (.text (String.singleton c))
  | .byte n => tagged "byte" (.int n.toInt)
  | .short n => tagged "short" (.int n.toInt)
  | .int n => tagged "int" (.int n.toInt)
  | .long n => tagged "long" (.text (toString n.toInt))
  | .float x => tagged "float" (.text (singleText x))
  | .double x => tagged "double" (.text (doubleText x))
  | .text s => tagged "str" (.text s)
  | .array items => tagged "array" (.list (writeValues items))
  | .list items => tagged "list" (.list (writeValues items))
  | .object i => writeObject i
where
  tag (t : String) : Json := .record [("t", .text t)]
  tagged (t : String) (content : Json) : Json := .record [("t", .text t), ("v", content)]

def writeValues : List Value → List Json
  | [] => []
  | v :: rest => writeValue v :: writeValues rest

end

/-- A fault in its own record. -/
def writeFault (f : Fault) : Json :=
  .record [("fault", .text f.kind), ("message", Json.orNull .text f.message)]

def writeOutcome : Except Fault Value → Json
  | .ok v => writeValue v
  | .error f => writeFault f

structure FaultDraft where
  kind : Option String := none
  message : Option String := none

def faultField (d : FaultDraft) (key : String) (value : Json) : Read FaultDraft :=
  match key with
  | "kind" => (text value).map fun s => { d with kind := some s }
  | "message" => (optional text value).map fun s => { d with message := s }
  | _ => .ok d

def fault : Json → Read Fault :=
  structure_ ["kind", "message"] 2 ({} : FaultDraft) faultField fun d =>
    d.kind.map fun kind => ⟨kind, d.message⟩

end Wire

end Refit
