import Refit.Json.Reader

/-!
# Reading a part of a JSON text

An outline names the fields that count.  They are read strictly, the others are passed over: of
those only the grammar is checked, so their numbers may have any size, their escapes may be lone
surrogates, and their lists and records may be nested to any depth.
-/

namespace Refit.Json

/-- Passes over the rest of a string whose opening quote is gone. -/
def skipString? : List Char → Option (List Char)
  | [] => none
  | '"' :: rest => some rest
  | '\\' :: 'u' :: a :: b :: c :: d :: rest =>
    if [a, b, c, d].all fun digit => (hexValue? digit).isSome then skipString? rest else none
  | '\\' :: c :: rest =>
    if ['"', '\\', '/', 'b', 'f', 'n', 'r', 't'].contains c then skipString? rest else none
  | c :: rest => if c.toNat < 32 || c = '\\' then none else skipString? rest

/-- Passes over one digit or more. -/
def skipDigits? : List Char → Option (List Char)
  | c :: rest => if c.isDigit then some (rest.dropWhile Char.isDigit) else none
  | [] => none

/-- Passes over the exponent part, if there is one. -/
def skipExponent? : List Char → Option (List Char)
  | c :: rest =>
    if c = 'e' || c = 'E' then
      match rest with
      | '+' :: digits | '-' :: digits => skipDigits? digits
      | digits => skipDigits? digits
    else some (c :: rest)
  | [] => some []

/-- Passes over what a number has after its whole part. -/
def skipFraction? : List Char → Option (List Char)
  | '.' :: rest => (skipDigits? rest).bind skipExponent?
  | cs => skipExponent? cs

/-- Passes over a number text without its sign; a leading zero stands alone. -/
def skipNumber? : List Char → Option (List Char)
  | '0' :: rest =>
    if (rest.takeWhile Char.isDigit).isEmpty then skipFraction? rest else none
  | cs => (skipDigits? cs).bind skipFraction?

/-- Passes over a value that is neither a list nor a record. -/
def skipScalar? : List Char → Option (List Char)
  | '"' :: rest => skipString? rest
  | '-' :: rest => skipNumber? rest
  | 'n' :: rest => (word? ['u', 'l', 'l'] .null rest).map (·.2)
  | 't' :: rest => (word? ['r', 'u', 'e'] .null rest).map (·.2)
  | 'f' :: rest => (word? ['a', 'l', 's', 'e'] .null rest).map (·.2)
  | cs => skipNumber? cs

/-- What stands open around a place in a text. -/
inductive Enclosure where
  | list
  | record

/-- What comes next at a place in a text: a value, a field, or what may follow a value. -/
inductive Awaited where
  | value
  | field
  | more

/-- Passes over what is awaited and all that is still open, the innermost first. -/
def skip? (fuel : Nat) (awaited : Awaited) (opened : List Enclosure) (cs : List Char) :
    Option (List Char) :=
  match fuel with
  | 0 => none
  | fuel + 1 =>
    match awaited, opened with
    | .value, _ =>
      match skipSpace cs with
      | '[' :: rest =>
        match skipSpace rest with
        | ']' :: left => skip? fuel .more opened left
        | left => skip? fuel .value (.list :: opened) left
      | '\x7b' :: rest =>
        match skipSpace rest with
        | '\x7d' :: left => skip? fuel .more opened left
        | left => skip? fuel .field (.record :: opened) left
      | scalar =>
        match skipScalar? scalar with
        | some left => skip? fuel .more opened left
        | none => none
    | .field, _ =>
      match skipSpace cs with
      | '"' :: rest =>
        match skipString? rest with
        | some after =>
          match skipSpace after with
          | ':' :: left => skip? fuel .value opened left
          | _ => none
        | none => none
      | _ => none
    | .more, [] => some cs
    | .more, .list :: outer =>
      match skipSpace cs with
      | ',' :: left => skip? fuel .value opened left
      | ']' :: left => skip? fuel .more outer left
      | _ => none
    | .more, .record :: outer =>
      match skipSpace cs with
      | ',' :: left => skip? fuel .field opened left
      | '\x7d' :: left => skip? fuel .more outer left
      | _ => none

/-- The part of a value that counts. -/
inductive Outline where
  | whole
  | list (item : Outline)
  | record (fields : List (String × Outline))

/-- A record of which the named fields count. -/
def Outline.fields (names : List String) : Outline := .record (names.map fun name => (name, .whole))

mutual

/-- A value after optional space, without the fields that its outline does not name.  A record may
be given as the list of its fields' values. -/
def outlined? (fuel : Nat) (outline : Outline) (cs : List Char) : Reads Json :=
  match fuel with
  | 0 => none
  | fuel + 1 =>
    let listed (first : List Outline) (others : Outline) (rest : List Char) : Reads Json :=
      match skipSpace rest with
      | ']' :: left => some (.list [], left)
      | left =>
        (outlinedItems? fuel first others left).map fun (items, left) => (.list items, left)
    match outline, skipSpace cs with
    | .list item, '[' :: rest => listed [] item rest
    | .record fields, '[' :: rest => listed (fields.map (·.2)) .whole rest
    | .record fields, '\x7b' :: rest =>
      match skipSpace rest with
      | '\x7d' :: left => some (.record [], left)
      | left =>
        (outlinedFields? fuel fields left).map fun (fields, left) => (.record fields, left)
    | _, left => value? fuel depthLimit left

/-- The items of a list that is not empty, and its closing bracket.  The `first` items have outlines
of their own. -/
def outlinedItems? (fuel : Nat) (first : List Outline) (others : Outline) (cs : List Char) :
    Reads (List Json) :=
  match fuel with
  | 0 => none
  | fuel + 1 =>
    match outlined? fuel (first.head?.getD others) cs with
    | none => none
    | some (item, rest) =>
      match skipSpace rest with
      | ',' :: more =>
        (outlinedItems? fuel first.tail others more).map fun (items, left) => (item :: items, left)
      | ']' :: left => some ([item], left)
      | _ => none

/-- The fields of a record that is not empty, as far as they count, and its closing brace. -/
def outlinedFields? (fuel : Nat) (outlines : List (String × Outline)) (cs : List Char) :
    Reads (List (String × Json)) :=
  match fuel with
  | 0 => none
  | fuel + 1 =>
    match skipSpace cs with
    | '"' :: rest =>
      match string? fuel [] rest with
      | none => none
      | some (key, rest) =>
        match skipSpace rest with
        | ':' :: rest =>
          let kept : Reads (List (String × Json)) :=
            match outlines.lookup key with
            | some outline =>
              (outlined? fuel outline rest).map fun (value, left) => ([(key, value)], left)
            | none => (skip? fuel .value [] rest).map fun left => ([], left)
          match kept with
          | none => none
          | some (field, rest) =>
            match skipSpace rest with
            | ',' :: more =>
              (outlinedFields? fuel outlines more).map fun (fields, left) => (field ++ fields, left)
            | '\x7d' :: left => some (field, left)
            | _ => none
        | _ => none
    | _ => none

end

/-- Reads the part that counts of a text that is one value and nothing else but space.  Fields stand
as they do in the text, repeated ones included. -/
def parseOutlined? (outline : Outline) (s : String) : Option Json :=
  let cs := s.toList
  match outlined? (2 * cs.length + 4) outline cs with
  | some (value, rest) => if (skipSpace rest).isEmpty then some value else none
  | none => none

end Refit.Json
