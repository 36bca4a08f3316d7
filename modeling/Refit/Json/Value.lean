/-!
# JSON values

Whole numbers and doubles are kept apart: a number text without point and exponent that fits 64
bits is whole.  The fields of a record stand in the order in which they are written.
-/

namespace Refit

inductive Json where
  | null
  | bool (value : Bool)
  | int (value : Int)
  | real (value : Float)
  | text (value : String)
  | list (items : List Json)
  | record (fields : List (String × Json))
  deriving Inhabited

namespace Json

/-- The value of a field, if the record has it. -/
def field? (name : String) : List (String × Json) → Option Json
  | [] => none
  | (key, value) :: rest => if key = name then some value else field? name rest

def text? : Json → Option String
  | text s => some s
  | _ => none

def bool? : Json → Option Bool
  | bool b => some b
  | _ => none

def int? : Json → Option Int
  | int n => some n
  | _ => none

def list? : Json → Option (List Json)
  | list items => some items
  | _ => none

def record? : Json → Option (List (String × Json))
  | record fields => some fields
  | _ => none

def isNull : Json → Bool
  | null => true
  | _ => false

def nat (n : Nat) : Json := .int n

def texts (items : List String) : Json := .list (items.map .text)

/-- The value in the option, or null. -/
def orNull (write : α → Json) : Option α → Json
  | some a => write a
  | none => .null

end Json

end Refit
