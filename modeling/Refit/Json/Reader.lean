import Refit.Decimal.Layout
import Refit.Json.Value

/-!
# Reading JSON

A strict reader: no comments, no trailing commas, no control characters inside strings, no lone
surrogates, no number beyond the doubles, at most 127 levels of lists and records.  The fields of a
record come in the order of the text, or sorted by key and without repetitions.

A number with a point or an exponent is read from its first digits that fit 64 bits, by one
multiplication or division with a power of ten.  For up to 15 digits and small exponents this is the
nearest double; beyond that it can miss it by a place.
-/

namespace Refit.Json

/-- A reader takes what it can from the front of the text and leaves the rest. -/
abbrev Reads (α : Type) := Option (α × List Char)

def isSpace (c : Char) : Bool := c = ' ' || c = '\n' || c = '\t' || c = '\r'

def skipSpace (cs : List Char) : List Char := cs.dropWhile isSpace

def digitValue (c : Char) : Nat := c.toNat - 48

def hexValue? (c : Char) : Option Nat :=
  if '0' ≤ c && c ≤ '9' then some (c.toNat - 48)
  else if 'a' ≤ c && c ≤ 'f' then some (c.toNat - 87)
  else if 'A' ≤ c && c ≤ 'F' then some (c.toNat - 55)
  else none

/-- Four hexadecimal digits. -/
def unit? : List Char → Option (Nat × List Char)
  | a :: b :: c :: d :: rest => do
    let a ← hexValue? a
    let b ← hexValue? b
    let c ← hexValue? c
    let d ← hexValue? d
    some (((a * 16 + b) * 16 + c) * 16 + d, rest)
  | _ => none

/-- The character of a numeric escape, whose leading backslash and `u` are gone.  A high surrogate
must be followed by the escape of a low one. -/
def escapedUnit? (cs : List Char) : Option (Char × List Char) := do
  let (u, rest) ← unit? cs
  if 0xD800 ≤ u && u < 0xDC00 then
    match rest with
    | '\\' :: 'u' :: more =>
      let (v, after) ← unit? more
      if 0xDC00 ≤ v && v < 0xE000 then
        some (Char.ofNat (0x10000 + (u - 0xD800) * 0x400 + (v - 0xDC00)), after)
      else none
    | _ => none
  else if 0xDC00 ≤ u && u < 0xE000 then none
  else some (Char.ofNat u, rest)

/-- The rest of a string whose opening quote is gone; `done` holds its characters so far, the last
one first. -/
def string? (fuel : Nat) (done : List Char) (cs : List Char) : Reads String :=
  match fuel with
  | 0 => none
  | fuel + 1 =>
    match cs with
    | [] => none
    | '"' :: rest => some (String.ofList done.reverse, rest)
    | '\\' :: 'u' :: rest =>
      match escapedUnit? rest with
      | some (c, rest) => string? fuel (c :: done) rest
      | none => none
    | '\\' :: c :: rest =>
      let meant : Option Char :=
        match c with
        | '"' => some '"'
        | '\\' => some '\\'
        | '/' => some '/'
        | 'b' => some '\x08'
        | 'f' => some '\x0c'
        | 'n' => some '\n'
        | 'r' => some '\r'
        | 't' => some '\t'
        | _ => none
      match meant with
      | some c => string? fuel (c :: done) rest
      | none => none
    | c :: rest => if c.toNat < 32 || c = '\\' then none else string? fuel (c :: done) rest

/-- The greatest whole number that a significand can be. -/
def greatestSignificand : Nat := Nat.pow 2 64 - 1

def powerOfTen (n : Nat) : Float := Decimal.ofDecimal false 1 n

/-- `f · 10 ^ exponent` by one operation, or none beyond the doubles.  Below the table of powers the
number is first divided by its last entry. -/
def scaled? (fuel : Nat) (f : Float) (exponent : Int) : Option Float :=
  if exponent.natAbs ≤ 308 then
    if 0 ≤ exponent then
      let g := f * powerOfTen exponent.natAbs
      if g.isInf then none else some g
    else some (f / powerOfTen exponent.natAbs)
  else if f == 0.0 then some f
  else if 0 ≤ exponent then none
  else
    match fuel with
    | 0 => some 0.0
    | fuel + 1 => scaled? fuel (f / powerOfTen 308) (exponent + 308)

def real? (negative : Bool) (significand : Nat) (exponent : Int) : Option Json :=
  (scaled? 5 (Decimal.nearest false significand 1) exponent).map fun f =>
    .real (if negative then -f else f)

/-- Takes the digits that the significand has room for; returns it and what is left. -/
def significand (room : Nat) : List Char → Nat × Nat × List Char
  | [] => (room, 0, [])
  | c :: rest =>
    if c.isDigit && room * 10 + digitValue c ≤ greatestSignificand then
      let (n, count, left) := significand (room * 10 + digitValue c) rest
      (n, count + 1, left)
    else (room, 0, c :: rest)

/-- The exponent part, if there is one, after a number with this significand and exponent. -/
def exponentPart? (negative : Bool) (n : Nat) (exponent : Int) (cs : List Char) : Reads Json :=
  match cs with
  | c :: rest =>
    if c = 'e' || c = 'E' then
      let (down, digits) : Bool × List Char :=
        match rest with
        | '+' :: more => (false, more)
        | '-' :: more => (true, more)
        | _ => (false, rest)
      let written := digits.takeWhile Char.isDigit
      if written.isEmpty then none
      else
        let e : Nat := written.foldl (fun e c => e * 10 + digitValue c) 0
        let value :=
          if Nat.pow 2 31 ≤ e then
            if n != 0 && !down then none else some (.real (if negative then -0.0 else 0.0))
          else real? negative n (if down then exponent - e else exponent + e)
        value.map fun v => (v, digits.dropWhile Char.isDigit)
    else (real? negative n exponent).map fun v => (v, cs)
  | [] => (real? negative n exponent).map fun v => (v, [])

/-- The digits after a point; those beyond the room of the significand are dropped. -/
def fraction? (negative : Bool) (n : Nat) (exponent : Int) (cs : List Char) : Reads Json :=
  if (cs.takeWhile Char.isDigit).isEmpty then none
  else
    let (m, count, _) := significand n cs
    exponentPart? negative m (exponent - count) (cs.dropWhile Char.isDigit)

/-- A number text without its sign. -/
def number? (negative : Bool) (cs : List Char) : Reads Json :=
  match cs with
  | [] => none
  | c :: rest =>
    if !c.isDigit then none
    else if c = '0' && (rest.takeWhile Char.isDigit) != [] then none
    else
      let (n, _, left) := significand 0 cs
      let beyond := (left.takeWhile Char.isDigit).length
      match left.dropWhile Char.isDigit with
      | '.' :: more => fraction? negative n beyond more
      | after =>
        let fractional :=
          match after with
          | c :: _ => c = 'e' || c = 'E'
          | [] => false
        if beyond = 0 && !fractional then
          if !negative then some (.int n, after)
          else if n = 0 || Nat.pow 2 63 < n then
            some (.real (-(Decimal.nearest false n 1)), after)
          else some (.int (-n), after)
        else exponentPart? negative n beyond after

def word? (word : List Char) (value : Json) (cs : List Char) : Reads Json :=
  if word.isPrefixOf cs then some (value, cs.drop word.length) else none

mutual

/-- A value after optional space, at most `depth - 1` levels deep. -/
def value? (fuel depth : Nat) (cs : List Char) : Reads Json :=
  match fuel with
  | 0 => none
  | fuel + 1 =>
    match skipSpace cs with
    | 'n' :: rest => word? ['u', 'l', 'l'] .null rest
    | 't' :: rest => word? ['r', 'u', 'e'] (.bool true) rest
    | 'f' :: rest => word? ['a', 'l', 's', 'e'] (.bool false) rest
    | '"' :: rest => (string? fuel [] rest).map fun (s, left) => (.text s, left)
    | '-' :: rest => number? true rest
    | '[' :: rest =>
      if depth ≤ 1 then none
      else
        match skipSpace rest with
        | ']' :: left => some (.list [], left)
        | left => (items? fuel (depth - 1) left).map fun (items, left) => (.list items, left)
    | '\x7b' :: rest =>
      if depth ≤ 1 then none
      else
        match skipSpace rest with
        | '\x7d' :: left => some (.record [], left)
        | left =>
          (fields? fuel (depth - 1) left).map fun (fields, left) => (.record fields, left)
    | c :: rest => if c.isDigit then number? false (c :: rest) else none
    | [] => none

/-- The items of a list that is not empty, and its closing bracket. -/
def items? (fuel depth : Nat) (cs : List Char) : Reads (List Json) :=
  match fuel with
  | 0 => none
  | fuel + 1 =>
    match value? fuel depth cs with
    | none => none
    | some (item, rest) =>
      match skipSpace rest with
      | ',' :: more => (items? fuel depth more).map fun (items, left) => (item :: items, left)
      | ']' :: left => some ([item], left)
      | _ => none

/-- The fields of a record that is not empty, and its closing brace. -/
def fields? (fuel depth : Nat) (cs : List Char) : Reads (List (String × Json)) :=
  match fuel with
  | 0 => none
  | fuel + 1 =>
    match skipSpace cs with
    | '"' :: rest =>
      match string? fuel [] rest with
      | none => none
      | some (key, rest) =>
        match skipSpace rest with
        | ':' :: rest =>
          match value? fuel depth rest with
          | none => none
          | some (value, rest) =>
            match skipSpace rest with
            | ',' :: more =>
              (fields? fuel depth more).map fun (fields, left) => ((key, value) :: fields, left)
            | '\x7d' :: left => some ([(key, value)], left)
            | _ => none
        | _ => none
    | _ => none

end

/-- The number of levels at which the reader gives up. -/
def depthLimit : Nat := 128

/-- Reads a text that is one value and nothing else but space.  Fields stand as they do in the text,
repeated ones included. -/
def parseRaw? (s : String) : Option Json :=
  let cs := s.toList
  match value? (2 * cs.length + 3) depthLimit cs with
  | some (value, rest) => if (skipSpace rest).isEmpty then some value else none
  | none => none

/-- Puts a field in its place by key; an earlier one with the same key is replaced. -/
def insertField (key : String) (value : Json) :
    List (String × Json) → List (String × Json)
  | [] => [(key, value)]
  | (k, v) :: rest =>
    if key = k then (key, value) :: rest
    else if key < k then (key, value) :: (k, v) :: rest
    else (k, v) :: insertField key value rest

mutual

/-- The value with the fields of all its records sorted by key; of two with one key the later is
kept. -/
def sorted : Json → Json
  | list items => .list (sortedItems items)
  | record fields => .record (sortedFields [] fields)
  | value => value

def sortedItems : List Json → List Json
  | [] => []
  | item :: rest => sorted item :: sortedItems rest

def sortedFields (done : List (String × Json)) : List (String × Json) → List (String × Json)
  | [] => done
  | (key, value) :: rest => sortedFields (insertField key (sorted value) done) rest

end

/-- Reads a text that is one value, with sorted fields. -/
def parse? (s : String) : Option Json := (parseRaw? s).map sorted

end Refit.Json
