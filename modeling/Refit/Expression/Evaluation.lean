import Refit.Expression.Token
import Refit.Signature.ValueType
import Refit.Value

/-!
# Evaluation of expressions

Literals, lists, typed arrays, references to earlier results, names, unary minus and five binary
operators.  Evaluation goes along with reading, from left to right, so the first thing that is wrong
decides.  Whole numbers wrap around at the width of their type, and a plus next to a string
concatenates.
-/

namespace Refit.Expression

/-- The values an expression can refer to; the first entry for a key counts. -/
structure Context where
  results : List (Nat × Value) := []
  names : List (String × Value) := []

def Context.result? (ctx : Context) (n : Nat) : Option Value := ctx.results.lookup n

def Context.name? (ctx : Context) (name : String) : Option Value := ctx.names.lookup name

/-- The type in which two operands meet: double, then float, then long, otherwise int. -/
def promoted? (left right : Value) : Option Primitive :=
  match left.primitive?, right.primitive? with
  | some a, some b =>
    if a = .boolean || b = .boolean then none
    else if a = .double || b = .double then some .double
    else if a = .float || b = .float then some .float
    else if a = .long || b = .long then some .long
    else some .int
  | _, _ => none

def combineReals (op : Char) (a b : Float) : Float :=
  if op = '+' then a + b
  else if op = '-' then a - b
  else if op = '*' then a * b
  else if op = '/' then a / b
  else Decimal.remainder a b

def combineLongs (op : Char) (a b : Int64) : Except Failure Value :=
  if op = '+' then .ok (.long (a + b))
  else if op = '-' then .ok (.long (a - b))
  else if op = '*' then .ok (.long (a * b))
  else if b = 0 then .error .divisionByZero
  else if op = '/' then .ok (.long (a / b))
  else .ok (.long (a % b))

def combineInts (op : Char) (a b : Int32) : Except Failure Value :=
  if op = '+' then .ok (.int (a + b))
  else if op = '-' then .ok (.int (a - b))
  else if op = '*' then .ok (.int (a * b))
  else if b = 0 then .error .divisionByZero
  else if op = '/' then .ok (.int (a / b))
  else .ok (.int (a % b))

def isText : Value → Bool
  | .text _ => true
  | _ => false

/-- Applies a binary operator. -/
def combine (op : Char) (left right : Value) : Except Failure Value :=
  if op = '+' && (isText left || isText right) then .ok (.text (left.render ++ right.render))
  else
    match promoted? left right with
    | none => .error (.badOperands op left.render right.render)
    | some .double => .ok (.double (combineReals op (left.real?.getD 0) (right.real?.getD 0)))
    | some .float =>
      .ok (.float (Decimal.toSingle
        (combineReals op (left.real?.getD 0) (right.real?.getD 0))))
    | some .long =>
      combineLongs op (Int64.ofInt (left.integer?.getD 0)) (Int64.ofInt (right.integer?.getD 0))
    | some _ =>
      combineInts op (Int32.ofInt (left.integer?.getD 0)) (Int32.ofInt (right.integer?.getD 0))

/-- A whole number literal; without a suffix it must fit an int. -/
def wholeLiteral (value : Int) (long : Bool) : Except Failure Value :=
  if long then .ok (.long (Int64.ofInt value))
  else if -(Nat.pow 2 31) ≤ value && value < Nat.pow 2 31 then .ok (.int (Int32.ofInt value))
  else .error (.intOutOfRange value)

def negate : Value → Except Failure Value
  | .long n => .ok (.long (-n))
  | .float x => .ok (.float (-x))
  | .double x => .ok (.double (-x))
  | v =>
    match v.integer? with
    | some n => .ok (.int (-(Int32.ofInt n)))
    | none => .error (.badNegation v.render)

/-- The items as values of a primitive type. -/
def castItems (p : Primitive) : List Value → Except Failure (List Value)
  | [] => .ok []
  | v :: rest =>
    match v.cast? p with
    | none => .error (.badItem v.render p.keyword)
    | some w =>
      match castItems p rest with
      | .error failure => .error failure
      | .ok ws => .ok (w :: ws)

/-- An array of the type with a name; only primitive types change the items. -/
def arrayOf (element : ValueType) (items : List Value) : Except Failure Value :=
  match element with
  | .primitive p => (castItems p items).map .array
  | _ => .ok (.array items)

def expect (c : Char) : List Token → Except Failure (List Token)
  | .mark d :: rest => if d = c then .ok rest else .error (.expectedMark c)
  | _ => .error (.expectedMark c)

def isSum (c : Char) : Bool := c = '+' || c = '-'

def isProduct (c : Char) : Bool := c = '*' || c = '/' || c = '%'

/-- The element type and the opening brace of a typed array, behind `new`. -/
def arrayHead : List Token → Except Failure (ValueType × List Token)
  | .name name :: rest =>
    match ValueType.parse name with
    | .error _ => .error (.unknownElementType name)
    | .ok element =>
      match (expect '[' rest).bind (fun rest => (expect ']' rest).bind (expect '\x7b')) with
      | .error failure => .error failure
      | .ok rest => .ok (element, rest)
  | _ => .error .expectedElementType

mutual

/-- A sum: a product and what is added to it or taken from it. -/
def sum (ctx : Context) : Nat → List Token → Except Failure (Value × List Token)
  | 0, _ => .error .unexpectedEnd
  | fuel + 1, ts =>
    match product ctx fuel ts with
    | .error failure => .error failure
    | .ok (left, rest) => sumRest ctx fuel left rest

def sumRest (ctx : Context) : Nat → Value → List Token → Except Failure (Value × List Token)
  | 0, _, _ => .error .unexpectedEnd
  | fuel + 1, left, .mark op :: rest =>
    if isSum op then
      match product ctx fuel rest with
      | .error failure => .error failure
      | .ok (right, rest) =>
        match combine op left right with
        | .error failure => .error failure
        | .ok value => sumRest ctx fuel value rest
    else .ok (left, .mark op :: rest)
  | _ + 1, left, ts => .ok (left, ts)

/-- A product: a factor and what it is multiplied with or divided by. -/
def product (ctx : Context) : Nat → List Token → Except Failure (Value × List Token)
  | 0, _ => .error .unexpectedEnd
  | fuel + 1, ts =>
    match unary ctx fuel ts with
    | .error failure => .error failure
    | .ok (left, rest) => productRest ctx fuel left rest

def productRest (ctx : Context) : Nat → Value → List Token → Except Failure (Value × List Token)
  | 0, _, _ => .error .unexpectedEnd
  | fuel + 1, left, .mark op :: rest =>
    if isProduct op then
      match unary ctx fuel rest with
      | .error failure => .error failure
      | .ok (right, rest) =>
        match combine op left right with
        | .error failure => .error failure
        | .ok value => productRest ctx fuel value rest
    else .ok (left, .mark op :: rest)
  | _ + 1, left, ts => .ok (left, ts)

/-- A minus directly before a whole number is part of the literal, so that the least int can be
written. -/
def unary (ctx : Context) : Nat → List Token → Except Failure (Value × List Token)
  | 0, _ => .error .unexpectedEnd
  | fuel + 1, .mark c :: rest =>
    if c = '-' then
      match rest with
      | .int value long :: rest => (wholeLiteral (-value) long).map (·, rest)
      | _ =>
        match unary ctx fuel rest with
        | .error failure => .error failure
        | .ok (value, rest) => (negate value).map (·, rest)
    else primary ctx fuel (.mark c :: rest)
  | fuel + 1, ts => primary ctx fuel ts

def primary (ctx : Context) : Nat → List Token → Except Failure (Value × List Token)
  | 0, _ => .error .unexpectedEnd
  | _ + 1, [] => .error .unexpectedEnd
  | fuel + 1, t :: rest =>
    match t with
    | .int value long => (wholeLiteral value long).map (·, rest)
    | .real value single =>
      .ok (if single then .float (Decimal.toSingle value) else .double value, rest)
    | .letter c => .ok (.char c, rest)
    | .text s => .ok (.text s, rest)
    | .result n =>
      match ctx.result? n with
      | some value => .ok (value, rest)
      | none => .error (.noResult n)
    | .name name =>
      if name = "true" then .ok (.bool true, rest)
      else if name = "false" then .ok (.bool false, rest)
      else if name = "null" then .ok (.null, rest)
      else if name = "new" then
        match arrayHead rest with
        | .error failure => .error failure
        | .ok (element, rest) =>
          match items ctx fuel '\x7d' rest with
          | .error failure => .error failure
          | .ok (values, rest) => (arrayOf element values).map (·, rest)
      else
        match ctx.name? name with
        | some value => .ok (value, rest)
        | none => .error (.unknownName name)
    | .mark c =>
      if c = '(' then
        match sum ctx fuel rest with
        | .error failure => .error failure
        | .ok (value, rest) => (expect ')' rest).map (value, ·)
      else if c = '[' then (items ctx fuel ']' rest).map fun (values, rest) => (.list values, rest)
      else .error (.unexpectedToken t)

/-- The values between here and the mark that closes them. -/
def items (ctx : Context) : Nat → Char → List Token → Except Failure (List Value × List Token)
  | 0, _, _ => .error .unexpectedEnd
  | fuel + 1, close, ts =>
    match expect close ts with
    | .ok rest => .ok ([], rest)
    | .error _ => someItems ctx fuel close ts

def someItems (ctx : Context) : Nat → Char → List Token → Except Failure (List Value × List Token)
  | 0, _, _ => .error .unexpectedEnd
  | fuel + 1, close, ts =>
    match sum ctx fuel ts with
    | .error failure => .error failure
    | .ok (value, rest) =>
      match expect close rest with
      | .ok rest => .ok ([value], rest)
      | .error _ =>
        match expect ',' rest with
        | .error failure => .error failure
        | .ok rest =>
          match someItems ctx fuel close rest with
          | .error failure => .error failure
          | .ok (values, rest) => .ok (value :: values, rest)

end

/-- Enough turns for any list of tokens: between two tokens there are fewer than eight. -/
def enough (ts : List Token) : Nat := 8 * (ts.length + 1)

/-- The value of an expression. -/
def value (expression : String) (ctx : Context) : Except Failure Value :=
  match tokens expression with
  | .error failure => .error failure
  | .ok ts =>
    match sum ctx (enough ts) ts with
    | .error failure => .error failure
    | .ok (v, []) => .ok v
    | .ok (_, t :: _) => .error (.trailingToken t expression)

def evaluate (expression : String) (ctx : Context) : Except Fault Value :=
  match value expression ctx with
  | .ok v => .ok v
  | .error failure => .error failure.fault

end Refit.Expression
