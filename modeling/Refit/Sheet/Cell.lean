import Refit.Execution.Host
import Refit.Json.Reader
import Refit.Json.Writer

/-!
# Cells

A cell is a JSON text.  A string at the top of a cell stands between single quotes, a stand-in is
written as a reference to the step that made it, and any other object by what its host shows of it.
-/

namespace Refit.CellText

/-- The text for an object that is not shown. -/
def instanceMarker : String := "_INSTANCE_"

/-- The text where there is nothing. -/
def missingMarker : String := "_NA_"

/-- The beginning of a reference to a step. -/
def referenceStart : String := "$CUT@"

/-- The beginning of the text of a fault. -/
def faultStart : String := "$EXCEPTION@"

/-- A cell that holds a text. -/
def ofText (s : String) : String := Json.quoted s

def reference (typeName : String) (row : Nat) : String :=
  referenceStart ++ typeName ++ "@" ++ Nat.repr row

def ofFault (f : Fault) : String :=
  ofText (faultStart ++ f.kind ++ "@" ++ f.message.getD "null")

/-- What is needed to encode objects: the steps that made stand-ins, by number of the object, and
the host with its heap. -/
structure Encoder where
  producers : List (Nat × Nat)
  host : Host
  heap : Heap

namespace Encoder

/-- An object is shown by the step that put it out, by the view that the host has of it, or by the
marker.  The marker also stands for an object that a call still holds when the cell is written.  No
call runs at that time but one that was given up at its deadline, and how long such a call goes on
is a matter of real time: the branch is left out. -/
def object (e : Encoder) (i : Instance) : Json :=
  match e.producers.lookup i.id with
  | some row => .text (reference i.typeName row)
  | none => (e.host.snapshot e.heap i).getD (.text instanceMarker)

/-- A number, or the text of what is no number. -/
def real (x : Float) : Json := if x.isFinite then .real x else .text (Decimal.Layout.plain.write x)

mutual

/-- The encoding of a value; strings are quoted at the top only. -/
def json (e : Encoder) (top : Bool) : Value → Json
  | .null => .null
  | .void => .record []
  | .bool b => .bool b
  | .char c => .text (String.singleton c)
  | .byte n => .int n.toInt
  | .short n => .int n.toInt
  | .int n => .int n.toInt
  | .long n => .int n.toInt
  | .float x => real (Decimal.ofSingle x)
  | .double x => real x
  | .text s => .text (if top then "'" ++ s ++ "'" else s)
  | .array values => .list (jsons e values)
  | .list values => .list (jsons e values)
  | .object i => e.object i

def jsons (e : Encoder) : List Value → List Json
  | [] => []
  | v :: rest => json e false v :: jsons e rest

end

def value (e : Encoder) (v : Value) : String := (e.json true v).compact

def output (e : Encoder) : Except Fault Value → String
  | .ok v => e.value v
  | .error f => ofFault f

end Encoder

/-- Decimal digits, which a plus may lead, as a number of 64 bits. -/
def rowNumber? (cs : List Char) : Option Nat :=
  let digits :=
    match cs with
    | '+' :: rest => rest
    | _ => cs
  if digits.isEmpty || !digits.all (fun c => '0' ≤ c && c ≤ '9') then none
  else
    let n := digits.foldl (fun n c => n * 10 + (c.toNat - 48)) 0
    if n < Nat.pow 2 64 then some n else none

/-- The type and the row of a reference, whether it is quoted as a cell or not.  The row stands
behind the last at sign. -/
def parseReference? (cell : String) : Option (String × Nat) :=
  let plain :=
    match Json.parse? cell with
    | some (.text s) => s
    | _ => cell
  let cs := plain.toList
  if referenceStart.toList.isPrefixOf cs then
    let body := (cs.drop referenceStart.length).reverse
    if body.contains '@' then
      let row := (body.takeWhile (· ≠ '@')).reverse
      let typeName := ((body.dropWhile (· ≠ '@')).drop 1).reverse
      (rowNumber? row).map fun n => (String.ofList typeName, n)
    else none
  else none

def isReference (cell : String) : Bool := (parseReference? cell).isSome

end Refit.CellText
