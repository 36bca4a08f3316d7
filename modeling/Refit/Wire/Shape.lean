import Refit.Error
import Refit.Json.Value
import Refit.Text.Lower

/-!
# Shapes

Reading domain values from JSON.  A value of the wrong shape is refused; a few refusals have words
of their own.  The fields of a record are read in the order in which they stand, and only then is a
missing field noticed.  A record may also be given as the list of its fields' values.
-/

namespace Refit.Wire

/-- Why a JSON value stands for nothing in the domain. -/
inductive Mismatch where
  | shape
  | worded (message : String)
  deriving DecidableEq, Repr

abbrev Read (α : Type) := Except Mismatch α

def text : Json → Read String
  | .text s => .ok s
  | _ => .error .shape

def bool : Json → Read Bool
  | .bool b => .ok b
  | _ => .error .shape

/-- A whole number that fits 64 bits without a sign. -/
def natural : Json → Read Nat
  | .int n => if 0 ≤ n && n < Nat.pow 2 64 then .ok n.toNat else .error .shape
  | _ => .error .shape

def optional (read : Json → Read α) : Json → Read (Option α)
  | .null => .ok none
  | value => (read value).map some

/-- The items in order; the first one that is refused decides. -/
def items (read : Json → Read α) : List Json → Read (List α)
  | [] => .ok []
  | item :: rest =>
    match read item with
    | .error why => .error why
    | .ok a =>
      match items read rest with
      | .error why => .error why
      | .ok as => .ok (a :: as)

def list (read : Json → Read α) : Json → Read (List α)
  | .list values => items read values
  | _ => .error .shape

/-- One of a few words, whatever its case. -/
def word (all : List α) (wordOf : α → String) (value : Json) : Read α :=
  match value with
  | .text s =>
    match all.find? (wordOf · == Text.lower s) with
    | some a => .ok a
    | none =>
      .error (.worded ("unknown variant '" ++ s ++ "', expected one of: " ++
        ", ".intercalate (all.map wordOf)))
  | _ => .error .shape

/-- Reads the fields one after the other into a draft. -/
def fill (step : σ → String → Json → Read σ) : σ → List (String × Json) → Read σ
  | draft, [] => .ok draft
  | draft, (key, value) :: rest =>
    match step draft key value with
    | .error why => .error why
    | .ok draft => fill step draft rest

/-- Whether two fields of a record have one of these names. -/
def repeats (names : List String) : List (String × Json) → Bool
  | [] => false
  | (key, _) :: rest => (names.contains key && rest.any (·.1 == key)) || repeats names rest

/-- Reads a record, in which no field is given twice.  In the list form the values stand for the
fields `names`, of which the first `needed` at least are there. -/
def structure_ (names : List String) (needed : Nat) (draft : σ)
    (step : σ → String → Json → Read σ) (finish : σ → Option α) (value : Json) : Read α :=
  let finished (draft : σ) : Read α :=
    match finish draft with
    | some a => .ok a
    | none => .error .shape
  match value with
  | .record fields =>
    match fill step draft fields with
    | .error why => .error why
    | .ok draft => if repeats names fields then .error .shape else finished draft
  | .list values =>
    match fill step draft (names.zip values) with
    | .error why => .error why
    | .ok draft =>
      if needed ≤ values.length && values.length ≤ names.length then finished draft
      else .error .shape
  | _ => .error .shape

/-- A result of the domain's own readers, with its error message for words. -/
def parsed : Except ParseFault α → Read α
  | .ok a => .ok a
  | .error fault => .error (.worded (Error.parse fault).message)

end Refit.Wire
