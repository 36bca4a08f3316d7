import Refit.Decimal.Layout
import Refit.Json.Value
import Refit.Text.Quoted

/-!
# Writing JSON

Two forms: compact, as in the cells of a sheet, and indented by two spaces, as in files.  Quotes,
backslashes and characters below the space are escaped, everything else stands for itself.
-/

namespace Refit.Json

/-- How one character of a text is written between quotes. -/
def escapedChar (c : Char) : List Char :=
  if c = '"' then ['\\', '"']
  else if c = '\\' then ['\\', '\\']
  else if c = '\x08' then ['\\', 'b']
  else if c = '\t' then ['\\', 't']
  else if c = '\n' then ['\\', 'n']
  else if c = '\x0c' then ['\\', 'f']
  else if c = '\r' then ['\\', 'r']
  else if c.toNat < 32 then '\\' :: 'u' :: Text.hexField 4 c.toNat
  else [c]

def quotedChars (cs : List Char) : List Char :=
  '"' :: cs.flatMap escapedChar ++ ['"']

def quoted (s : String) : String := String.ofList (quotedChars s.toList)

mutual

/-- The text without any blanks. -/
def compact : Json → String
  | null => "null"
  | bool b => if b then "true" else "false"
  | int n => toString n
  | real x => Decimal.Layout.cell.write x
  | text s => quoted s
  | list items => "[" ++ compactItems items ++ "]"
  | record fields => "\x7b" ++ compactFields fields ++ "\x7d"

def compactItems : List Json → String
  | [] => ""
  | [item] => compact item
  | item :: rest => compact item ++ "," ++ compactItems rest

def compactFields : List (String × Json) → String
  | [] => ""
  | [(key, value)] => quoted key ++ ":" ++ compact value
  | (key, value) :: rest => quoted key ++ ":" ++ compact value ++ "," ++ compactFields rest

end

/-- A new line with `depth` indentations. -/
def newLine (depth : Nat) : String := String.ofList ('\n' :: List.replicate (2 * depth) ' ')

mutual

/-- The text with one item or field a line. -/
def indented (depth : Nat) : Json → String
  | list [] => "[]"
  | list items => "[" ++ indentedItems (depth + 1) items ++ newLine depth ++ "]"
  | record [] => "\x7b\x7d"
  | record fields => "\x7b" ++ indentedFields (depth + 1) fields ++ newLine depth ++ "\x7d"
  | null => "null"
  | bool b => if b then "true" else "false"
  | int n => toString n
  | real x => Decimal.Layout.cell.write x
  | text s => quoted s

def indentedItems (depth : Nat) : List Json → String
  | [] => ""
  | [item] => newLine depth ++ indented depth item
  | item :: rest => newLine depth ++ indented depth item ++ "," ++ indentedItems depth rest

def indentedFields (depth : Nat) : List (String × Json) → String
  | [] => ""
  | [(key, value)] => newLine depth ++ quoted key ++ ": " ++ indented depth value
  | (key, value) :: rest =>
    newLine depth ++ quoted key ++ ": " ++ indented depth value ++ "," ++ indentedFields depth rest

end

def pretty (value : Json) : String := indented 0 value

end Refit.Json
