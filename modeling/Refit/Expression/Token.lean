import Refit.Decimal.Layout
import Refit.Fault
import Refit.Text.Blank
import Refit.Text.Letter
import Refit.Text.Quoted

/-!
# Tokens of expressions

Inline values of a sequence are written as expressions.  This file cuts the text of one into tokens:
numbers, character and string literals, names, references to earlier results, and marks.
-/

namespace Refit.Expression

inductive Token where
  | int (value : Int) (long : Bool)
  | real (value : Float) (single : Bool)
  | letter (c : Char)
  | text (s : String)
  | name (s : String)
  | result (n : Nat)
  | mark (c : Char)
  deriving DecidableEq, Inhabited

/-- The token as messages show it. -/
def Token.shown : Token → String
  | int value long =>
    "Int \x7b value: " ++ toString value ++ ", long: " ++ (if long then "true" else "false") ++
      " \x7d"
  | real value single =>
    "Float \x7b value: " ++ Decimal.Layout.token.write value ++ ", single: " ++
      (if single then "true" else "false") ++ " \x7d"
  | letter c => "Char(" ++ Text.quotedLetter c ++ ")"
  | text s => "Str(" ++ Text.quoted s ++ ")"
  | name s => "Ident(" ++ Text.quoted s ++ ")"
  | result n => "Result(" ++ Nat.repr n ++ ")"
  | mark c => "Punct(" ++ Text.quotedLetter c ++ ")"

/-- Why an expression has no value. -/
inductive Failure where
  | unterminatedLetter
  | unterminatedText
  | unexpectedEndOfLiteral
  | badUnicode (digits : String)
  | unknownEscape (c : Option Char)
  | malformedNumber (text : String)
  | badReference (digits : String)
  | unexpectedCharacter (c : Char)
  | unexpectedEnd
  | unexpectedToken (t : Token)
  | trailingToken (t : Token) (expression : String)
  | expectedMark (c : Char)
  | expectedElementType
  | unknownElementType (name : String)
  | intOutOfRange (value : Int)
  | noResult (n : Nat)
  | unknownName (name : String)
  /-- An item of a typed array that is not of the type. -/
  | badItem (rendered keyword : String)
  | badNegation (rendered : String)
  | badOperands (op : Char) (left right : String)
  | divisionByZero
  deriving DecidableEq

namespace Failure

def message : Failure → String
  | unterminatedLetter => "unterminated char literal"
  | unterminatedText => "unterminated string literal"
  | unexpectedEndOfLiteral => "unexpected end of literal"
  | badUnicode digits => "bad unicode escape '\\u" ++ digits ++ "'"
  | unknownEscape (some c) => "unknown escape Some(" ++ Text.quotedLetter c ++ ")"
  | unknownEscape none => "unknown escape None"
  | malformedNumber text => "malformed number '" ++ text ++ "'"
  | badReference digits => "bad result reference '$" ++ digits ++ "'"
  | unexpectedCharacter c => "unexpected character '" ++ String.singleton c ++ "'"
  | unexpectedEnd => "unexpected end of expression"
  | unexpectedToken t => "unexpected " ++ t.shown
  | trailingToken t expression => "unexpected " ++ t.shown ++ " in '" ++ expression ++ "'"
  | expectedMark c => "expected '" ++ String.singleton c ++ "'"
  | expectedElementType => "expected element type after 'new'"
  | unknownElementType name => "unknown element type '" ++ name ++ "'"
  | intOutOfRange value => "integer " ++ toString value ++ " out of range"
  | noResult n => "no result for $" ++ Nat.repr n
  | unknownName name => "unknown name '" ++ name ++ "'"
  | badItem rendered keyword => rendered ++ " is not a " ++ keyword
  | badNegation rendered => "cannot negate " ++ rendered
  | badOperands op left right =>
    "bad operands for '" ++ String.singleton op ++ "': " ++ left ++ " and " ++ right
  | divisionByZero => "/ by zero"

def fault (f : Failure) : Fault :=
  if f = divisionByZero then .arithmetic f.message else .evaluation f.message

end Failure

def isDigit (c : Char) : Bool := '0' ≤ c && c ≤ '9'

/-- The number that decimal digits stand for. -/
def natOfDigits (cs : List Char) : Nat := cs.foldl (fun n c => n * 10 + (c.toNat - 48)) 0

def greatestLong : Nat := Nat.pow 2 63 - 1

def isAsciiLetter (c : Char) : Bool := ('a' ≤ c && c ≤ 'z') || ('A' ≤ c && c ≤ 'Z')

/-- A number as it is written, without its suffix. -/
structure Numeral where
  whole : List Char
  /-- The digits behind the point, when there is a point. -/
  fraction : Option (List Char)
  /-- The sign and the digits of the exponent, when there is one. -/
  exponent : Option (List Char × List Char)

namespace Numeral

def isFloating (n : Numeral) : Bool := n.fraction.isSome || n.exponent.isSome

def text (n : Numeral) : String :=
  let fraction :=
    match n.fraction with
    | some digits => '.' :: digits
    | none => []
  let exponent :=
    match n.exponent with
    | some (sign, digits) => 'e' :: sign ++ digits
    | none => []
  String.ofList (n.whole ++ fraction ++ exponent)

/-- The double nearest to the number; an exponent must have digits. -/
def double? (n : Numeral) : Option Float :=
  let fraction := n.fraction.getD []
  let mantissa := natOfDigits (n.whole ++ fraction)
  match n.exponent with
  | none => some (Decimal.ofDecimal false mantissa (-fraction.length))
  | some (sign, digits) =>
    if digits.isEmpty then none
    else
      let size : Int := natOfDigits digits
      let e := if sign = ['-'] then -size else size
      some (Decimal.ofDecimal false mantissa (e - fraction.length))

/-- The token of the number with a suffix letter. -/
def token (n : Numeral) (suffix : Option Char) : Except Failure Token :=
  let malformed : Except Failure Token := .error (.malformedNumber n.text)
  let int (long : Bool) : Except Failure Token :=
    if natOfDigits n.whole ≤ greatestLong then .ok (.int (natOfDigits n.whole) long) else malformed
  let real (single : Bool) : Except Failure Token :=
    match n.double? with
    | some x => .ok (.real x single)
    | none => malformed
  match suffix with
  | none => if n.isFloating then real false else int false
  | some c =>
    if (c = 'l' || c = 'L') && !n.isFloating then int true
    else if c = 'f' || c = 'F' then real true
    else if c = 'd' || c = 'D' then real false
    else malformed

/-- Takes a number from the front of a text that starts with a digit. -/
def scan (cs : List Char) : Numeral × List Char :=
  let whole := cs.takeWhile isDigit
  let rest := cs.dropWhile isDigit
  let (fraction, rest) :=
    match rest with
    | '.' :: more => (some (more.takeWhile isDigit), more.dropWhile isDigit)
    | _ => (none, rest)
  match rest with
  | c :: more =>
    if c = 'e' || c = 'E' then
      let (sign, more) :=
        match more with
        | '+' :: digits => (['+'], digits)
        | '-' :: digits => (['-'], digits)
        | _ => ([], more)
      (⟨whole, fraction, some (sign, more.takeWhile isDigit)⟩, more.dropWhile isDigit)
    else (⟨whole, fraction, none⟩, rest)
  | [] => (⟨whole, fraction, none⟩, [])

end Numeral

/-- Takes a number and the letter that follows it, if one does. -/
def scanNumber (cs : List Char) : Except Failure (Token × List Char) :=
  let (numeral, rest) := Numeral.scan cs
  match rest with
  | c :: more =>
    if isAsciiLetter c then (numeral.token (some c)).map (·, more)
    else (numeral.token none).map (·, rest)
  | [] => (numeral.token none).map (·, [])

def hexDigit? (c : Char) : Option Nat :=
  if '0' ≤ c && c ≤ '9' then some (c.toNat - 48)
  else if 'a' ≤ c && c ≤ 'f' then some (c.toNat - 87)
  else if 'A' ≤ c && c ≤ 'F' then some (c.toNat - 55)
  else none

/-- The number that hexadecimal digits stand for; a plus may lead them. -/
def natOfHex? (cs : List Char) : Option Nat :=
  let digits :=
    match cs with
    | '+' :: rest => rest
    | _ => cs
  if digits.isEmpty then none
  else (digits.mapM hexDigit?).map fun ds => ds.foldl (fun n d => n * 16 + d) 0

/-- The character with a code point, if it is one. -/
def charOfNat? (n : Nat) : Option Char :=
  if n < 0xD800 || (0xE000 ≤ n && n < 0x110000) then some (Char.ofNat n) else none

/-- Takes one character of a literal. -/
def scanLetter : List Char → Except Failure (Char × List Char)
  | [] => .error .unexpectedEndOfLiteral
  | '\\' :: [] => .error (.unknownEscape none)
  | '\\' :: c :: rest =>
    if c = 'n' then .ok ('\n', rest)
    else if c = 't' then .ok ('\t', rest)
    else if c = 'r' then .ok ('\r', rest)
    else if c = '0' then .ok ('\x00', rest)
    else if c = '\\' || c = '\'' || c = '"' then .ok (c, rest)
    else if c = 'u' then
      match (natOfHex? (rest.take 4)).bind charOfNat? with
      | some u => .ok (u, rest.drop 4)
      | none => .error (.badUnicode (String.ofList (rest.take 4)))
    else .error (.unknownEscape (some c))
  | c :: rest => .ok (c, rest)

/-- Takes the rest of a string literal; `done` holds its characters so far, the last one first. -/
def scanText : Nat → List Char → List Char → Except Failure (String × List Char)
  | 0, _, _ => .error .unterminatedText
  | _ + 1, _, [] => .error .unterminatedText
  | _ + 1, done, '"' :: rest => .ok (String.ofList done.reverse, rest)
  | fuel + 1, done, cs =>
    match scanLetter cs with
    | .error failure => .error failure
    | .ok (c, rest) => scanText fuel (c :: done) rest

def isMark (c : Char) : Bool :=
  ['+', '-', '*', '/', '%', '(', ')', '[', ']', '\x7b', '\x7d', ','].contains c

def startsName (c : Char) : Bool := Text.isLetter c || c = '_'

def continuesName (c : Char) : Bool := Text.isLetterOrNumeral c || c = '_' || c = '.'

/-- Takes one token from the front of a text whose first character `c` is no blank. -/
def scanToken (c : Char) (rest : List Char) : Except Failure (Token × List Char) :=
  if isDigit c then scanNumber (c :: rest)
  else if c = '\'' then
    match scanLetter rest with
    | .error failure => .error failure
    | .ok (value, more) =>
      match more with
      | '\'' :: left => .ok (.letter value, left)
      | _ => .error .unterminatedLetter
  else if c = '"' then (scanText (rest.length + 1) [] rest).map fun (s, left) => (.text s, left)
  else if c = '$' then
    let digits := rest.takeWhile isDigit
    if digits.isEmpty || Nat.pow 2 64 ≤ natOfDigits digits then
      .error (.badReference (String.ofList digits))
    else .ok (.result (natOfDigits digits), rest.dropWhile isDigit)
  else if startsName c then
    .ok (.name (String.ofList (c :: rest.takeWhile continuesName)), rest.dropWhile continuesName)
  else if isMark c then .ok (.mark c, rest)
  else .error (.unexpectedCharacter c)

/-- The tokens of a text.  Every turn takes a blank or a token, so its length bounds the turns. -/
def scan : Nat → List Char → Except Failure (List Token)
  | _, [] => .ok []
  | 0, _ => .ok []
  | fuel + 1, c :: rest =>
    if Text.isBlank c then scan fuel rest
    else
      match scanToken c rest with
      | .error failure => .error failure
      | .ok (token, left) =>
        match scan fuel left with
        | .error failure => .error failure
        | .ok tokens => .ok (token :: tokens)

def tokens (s : String) : Except Failure (List Token) := scan s.length s.toList

end Refit.Expression
