/-!
# Errors

Everything that can stop an operation of the library, each error named for its cause.  The wording
stands in one function, and the kind sorts the causes into families.
-/

namespace Refit

/-- Why a text is no type or no interface. -/
inductive ParseFault where
  | emptyTypeName
  | invalidTypeName (name : String)
  | missingOpeningBrace (text : String)
  | missingClosingBrace (text : String)
  | emptyInterfaceName
  | missingOpeningParenthesis (entry : String)
  | missingClosingParenthesis (entry : String)
  | unnamedOperation (entry : String)
  | unexpectedAfterOperation (rest : String)
  deriving DecidableEq, Repr

def ParseFault.text : ParseFault → String
  | emptyTypeName => "empty type name"
  | invalidTypeName name => "invalid type name '" ++ name ++ "'"
  | missingOpeningBrace text => "missing '\x7b' in interface '" ++ text ++ "'"
  | missingClosingBrace text => "missing '\x7d' in interface '" ++ text ++ "'"
  | emptyInterfaceName => "interface name is empty"
  | missingOpeningParenthesis entry => "missing '(' in operation '" ++ entry ++ "'"
  | missingClosingParenthesis entry => "missing ')' in operation '" ++ entry ++ "'"
  | unnamedOperation entry => "operation without name '" ++ entry ++ "'"
  | unexpectedAfterOperation rest => "unexpected '" ++ rest ++ "' after operation"

/-- The families of errors. -/
inductive ErrorKind where
  | parse
  | io
  | hierarchy
  | compilation
  | resolution
  | integrity
  | sequence
  | sheet
  | config
  | store
  | serialization
  | other
  deriving DecidableEq, Repr

inductive Error where
  | parse (fault : ParseFault)
  /-- A component's hierarchy is attached once. -/
  | alreadyResolved (component : String)
  | listResolved (component : String)
  /-- The host has no code for a member of a component that it knows. -/
  | noEntryPoint (member : String)
  /-- The host does not know the component that declares a member. -/
  | unavailable (component : String)
  /-- A member stays closed to callers. -/
  | notAccessible (member : String)
  /-- A step of a sequence refers to itself or to a later step. -/
  | forwardReference (step : Nat) (sequence : String) (target : Nat)
  | occupiedCell (row column : Nat) (sheet held : String)
  | belowOne (setting : String)
  | zeroTimeout
  | unreadableConfig
  | cellStored (sheet : String) (row column : Nat) (candidate : String)
  | cellStoredIn (sheet : String) (row column : Nat) (path : String)
  | unreadableSheet (path : String)
  | io
  | serialization
  | other (text : String)
  deriving DecidableEq, Repr

namespace Error

def kind : Error → ErrorKind
  | parse _ => .parse
  | alreadyResolved _ | listResolved _ => .hierarchy
  | noEntryPoint _ => .compilation
  | unavailable _ => .resolution
  | notAccessible _ => .integrity
  | forwardReference .. => .sequence
  | occupiedCell .. => .sheet
  | belowOne _ | zeroTimeout | unreadableConfig => .config
  | cellStored .. | cellStoredIn .. | unreadableSheet _ => .store
  | io => .io
  | serialization => .serialization
  | other _ => .other

/-- What went wrong, without the family. -/
def detail : Error → String
  | parse fault => fault.text
  | alreadyResolved component => "hierarchy of '" ++ component ++ "' is already resolved"
  | listResolved component => "'" ++ component ++ "' was already analysed"
  | noEntryPoint member => "no entry point for '" ++ member ++ "'"
  | unavailable component => "component '" ++ component ++ "' is not available"
  | notAccessible member => "'" ++ member ++ "' is not accessible"
  | forwardReference step sequence target =>
    s!"step {step} of '" ++ sequence ++ s!"' refers to step {target}"
  | occupiedCell row column sheet held =>
    s!"cell ({row}, {column}) of '" ++ sheet ++ "' already holds " ++ held
  | belowOne setting => setting ++ " must be at least 1"
  | zeroTimeout => "invocation_timeout_ms must be positive, use null to disable it"
  | unreadableConfig => "Failed to parse config"
  | cellStored sheet row column candidate =>
    "cell " ++ sheet ++ s!"@{row},{column} of " ++ candidate ++ " already stored"
  | cellStoredIn sheet row column path =>
    "cell " ++ sheet ++ s!"@{row},{column} already stored in " ++ path
  | unreadableSheet path => "Failed to read sheet " ++ path
  | io => ""
  | serialization => ""
  | other text => text

/-- The words that open the message of a family. -/
def opening : ErrorKind → String
  | .parse => "Parse error: "
  | .io => "IO error: "
  | .hierarchy => "Hierarchy error: "
  | .compilation => "Compilation error: "
  | .resolution => "Resolution error: "
  | .integrity => "Integrity error: "
  | .sequence => "Sequence error: "
  | .sheet => "Sheet error: "
  | .config => "Configuration error: "
  | .store => "Store error: "
  | .serialization => "Serialization error: "
  | .other => ""

def message (e : Error) : String := opening e.kind ++ e.detail

/-- An integrity error stops the run of a sequence instead of being recorded as its outcome. -/
def stopsRun (e : Error) : Bool := e.kind == .integrity

end Error

end Refit
