import Refit.Signature.ValueType

/-!
# Interfaces

The contract that components are fitted to: constructors and methods, each with its types.  An
interface is written `Name { op(T,U):R; Name(T); … }`.  Operations stand between semicolons or on
lines of their own, an operation named like the interface is a constructor, and a method without a
return type returns nothing.
-/

namespace Refit

structure Operation where
  name : String
  params : List ValueType := []
  returnType : ValueType
  deriving DecidableEq, Repr, Inhabited

structure Interface where
  name : String
  constructors : List Operation := []
  methods : List Operation := []
  deriving DecidableEq, Repr, Inhabited

/-- Whether a name is `get`, `set` or `is` followed by a capital. -/
def isAccessorName (name : String) : Bool :=
  ["get", "set", "is"].any fun start =>
    start.toList.isPrefixOf name.toList &&
      match name.toList.drop start.length with
      | c :: _ => Text.isCapital c
      | [] => false

namespace Operation

def arity (op : Operation) : Nat := op.params.length

def isAccessor (op : Operation) : Bool := isAccessorName op.name

def paramsText (op : Operation) : String := "(" ++ ValueType.texts op.params ++ ")"

def text (op : Operation) : String := op.name ++ op.paramsText ++ ":" ++ op.returnType.text

/-- The parts between the commas that stand outside of angle brackets, without blanks around them.
`current` holds the part at hand, last character first.  Nothing after the last comma is no part. -/
def splitList (depth : Nat) (current : List Char) : List Char → List (List Char)
  | [] =>
    let part := Text.trim current.reverse
    if part.isEmpty then [] else [part]
  | c :: rest =>
    if c = '<' then splitList (depth + 1) (c :: current) rest
    else if c = '>' then splitList (depth - 1) (c :: current) rest
    else if c = ',' && depth = 0 then Text.trim current.reverse :: splitList depth [] rest
    else splitList depth (c :: current) rest

/-- Reads the return type behind the parameters. -/
def parseReturn (rest : List Char) : Except ParseFault ValueType :=
  match rest with
  | [] => .ok .void
  | ':' :: type => ValueType.ofChars (Text.trim type)
  | '-' :: '>' :: type => ValueType.ofChars (Text.trim type)
  | _ => .error (.unexpectedAfterOperation (String.ofList rest))

/-- Reads one operation; the parameters end at the last closing parenthesis. -/
def ofChars (entry : List Char) : Except ParseFault Operation :=
  if !entry.contains '(' then .error (.missingOpeningParenthesis (String.ofList entry))
  else
    let before := entry.takeWhile (· ≠ '(')
    let after := (entry.dropWhile (· ≠ '(')).drop 1
    if !after.contains ')' then .error (.missingClosingParenthesis (String.ofList entry))
    else
      let inside := ((after.reverse.dropWhile (· ≠ ')')).drop 1).reverse
      let rest := Text.trim (after.reverse.takeWhile (· ≠ ')')).reverse
      let name := Text.trim before
      if name.isEmpty then .error (.unnamedOperation (String.ofList entry))
      else
        match (splitList 0 [] inside).mapM ValueType.ofChars with
        | .error fault => .error fault
        | .ok params =>
          match parseReturn rest with
          | .error fault => .error fault
          | .ok returnType => .ok ⟨String.ofList name, params, returnType⟩

end Operation

namespace Interface

/-- Adds a constructor, which has the name of the interface and returns it. -/
def withConstructor (i : Interface) (params : List ValueType) : Interface :=
  { i with constructors := i.constructors ++ [⟨i.name, params, .named i.name⟩] }

def withMethod (i : Interface) (name : String) (params : List ValueType) (returnType : ValueType) :
    Interface :=
  { i with methods := i.methods ++ [⟨name, params, returnType⟩] }

/-- Adds an operation as the constructor or the method that its name makes it. -/
def withOperation (i : Interface) (op : Operation) : Interface :=
  if op.name = i.name then i.withConstructor op.params
  else { i with methods := i.methods ++ [op] }

/-- The parts of a text between semicolons and line ends. -/
def splitEntries (current : List Char) : List Char → List (List Char)
  | [] => [current.reverse]
  | c :: rest =>
    if c = ';' || c = '\n' then current.reverse :: splitEntries [] rest
    else splitEntries (c :: current) rest

def addEntries (i : Interface) : List (List Char) → Except ParseFault Interface
  | [] => .ok i
  | entry :: rest =>
    match Operation.ofChars entry with
    | .error fault => .error fault
    | .ok op => addEntries (i.withOperation op) rest

def ofChars (text : List Char) : Except ParseFault Interface :=
  let query := Text.trim text
  if !query.contains '\x7b' then .error (.missingOpeningBrace (String.ofList query))
  else
    let body := Text.trimEnd ((query.dropWhile (· ≠ '\x7b')).drop 1)
    match body.reverse with
    | '\x7d' :: reversed =>
      let name := Text.trim (query.takeWhile (· ≠ '\x7b'))
      if name.isEmpty then .error .emptyInterfaceName
      else
        let entries := ((splitEntries [] reversed.reverse).map Text.trim).filter (!·.isEmpty)
        addEntries (Interface.mk (String.ofList name) [] []) entries
    | _ => .error (.missingClosingBrace (String.ofList query))

def parse (s : String) : Except ParseFault Interface := ofChars s.toList

/-- The first constructor with that many parameters. -/
def constructorTaking? (i : Interface) (arity : Nat) : Option Nat :=
  i.constructors.findIdx? (·.arity == arity)

/-- The first method with that name and that many parameters. -/
def methodNumber? (i : Interface) (name : String) (arity : Nat) : Option Nat :=
  i.methods.findIdx? fun m => m.name == name && m.arity == arity

/-- The interface on one line. -/
def describe (i : Interface) : String :=
  let operations := i.constructors.map (fun c => c.name ++ c.paramsText) ++ i.methods.map (·.text)
  i.name ++ " \x7b " ++ "; ".intercalate operations ++ " \x7d"

end Interface

end Refit
