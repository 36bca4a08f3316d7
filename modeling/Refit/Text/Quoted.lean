import Refit.Text.Printable

/-!
# Quoted text

Text between quotes, in the form in which messages show the tokens of an expression.  A backslash
leads the escapes; characters that do not show, or that would join the character before them, are
spelled out by their code point.
-/

namespace Refit.Text

/-- One hexadecimal digit, in lower case. -/
def hexDigit (n : Nat) : Char :=
  if n < 10 then Char.ofNat (48 + n) else Char.ofNat (87 + n)

/-- The hexadecimal digits of `n`, without leading zeros. -/
def hexDigits (n : Nat) : List Char :=
  if n < 16 then [hexDigit n] else hexDigits (n / 16) ++ [hexDigit (n % 16)]
termination_by n

/-- The hexadecimal digits of `n` in a field of `width`, filled up with zeros. -/
def hexField (width n : Nat) : List Char :=
  let digits := hexDigits n
  List.replicate (width - digits.length) '0' ++ digits

/-- How `c` is written between two quotes `mark`. -/
def quotedChar (mark c : Char) : List Char :=
  if c = '\x00' then ['\\', '0']
  else if c = '\t' then ['\\', 't']
  else if c = '\r' then ['\\', 'r']
  else if c = '\n' then ['\\', 'n']
  else if c = '\\' || c = mark then ['\\', c]
  else if isExtender c || isHidden c then ['\\', 'u', '\x7b'] ++ hexDigits c.toNat ++ ['\x7d']
  else [c]

/-- The text `cs` between two quotes `mark`. -/
def quotedChars (mark : Char) (cs : List Char) : List Char :=
  mark :: cs.flatMap (quotedChar mark) ++ [mark]

def quoted (s : String) : String := String.ofList (quotedChars '"' s.toList)

def quotedLetter (c : Char) : String := String.ofList (quotedChars '\'' [c])

end Refit.Text
