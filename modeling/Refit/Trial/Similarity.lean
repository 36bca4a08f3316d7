import Refit.Sheet.Basic
import Refit.Sheet.Cell
import Refit.Store.Scope
import Refit.Text.Blank

/-!
# Similarity

How far one system agrees with another.  The cells that each recorded are normalised and laid side
by side, statement by statement; the score is the share of statements that agree.
-/

namespace Refit

/-- The sheets that one system produced. -/
structure Observation where
  systemId : String
  sheets : List Sheet

/-- The comparison of a system with an oracle. -/
structure Similarity where
  systemId : String
  /-- For each statement, in the order of the keys, whether it agrees. -/
  vector : List Bool
  deriving DecidableEq, Repr

namespace Similarity

def isHex (c : Char) : Bool :=
  ('0' ≤ c && c ≤ '9') || ('a' ≤ c && c ≤ 'f') || ('A' ≤ c && c ≤ 'F')

/-- Whether a text starts with groups of hexadecimal digits of these lengths, dashes between. -/
def startsWithGroups : List Nat → List Char → Bool
  | [], _ => true
  | n :: groups, cs =>
    let group := cs.take n
    group.length == n && group.all isHex &&
      (groups.isEmpty ||
        match cs.drop n with
        | '-' :: rest => startsWithGroups groups rest
        | _ => false)

/-- The lengths of the groups of an identifier. -/
def groupLengths : List Nat := [8, 4, 4, 4, 12]

/-- The length of an identifier and the underscore before it. -/
def suffixLength : Nat := 37

/-- Drops every underscore that an identifier follows, and the identifier; `skip` characters are
still to be dropped. -/
def dropIdentifiers (skip : Nat) : List Char → List Char
  | [] => []
  | c :: rest =>
    match skip with
    | skip + 1 => dropIdentifiers skip rest
    | 0 =>
      if c = '_' && startsWithGroups groupLengths rest then
        dropIdentifiers (suffixLength - 1) rest
      else c :: dropIdentifiers 0 rest

/-- The name of a sheet without what makes it unique. -/
def plainName (name : String) : String :=
  String.ofList (dropIdentifiers 0 (Text.trim name.toList))

/-- The cell for an object. -/
def instanceCell : String := CellText.ofText CellText.instanceMarker

/-- The cell where there is nothing. -/
def missingCell : String := CellText.ofText CellText.missingMarker

/-- A cell in its normal form: references to steps are like objects, and JSON is written anew. -/
def plainCell (cell : String) : String :=
  let trimmed := String.ofList (Text.trim cell.toList)
  match Json.parse? trimmed with
  | some (.text s) =>
    if CellText.referenceStart.toList.isPrefixOf s.toList then instanceCell
    else (Json.text s).compact
  | some value => value.compact
  | none => trimmed

/-- Whether a normal cell of a system agrees with that of the oracle.  Where the oracle has nothing
an object is accepted too. -/
def agree (oracle system : String) : Bool :=
  oracle == system || (oracle == missingCell && system == instanceCell)

/-- The key of a statement. -/
def statementKey (sheet : String) (row column : Nat) : String :=
  sheet ++ "@" ++ Nat.repr row ++ "," ++ Nat.repr column

/-- The statements of a sheet in the chosen columns. -/
def sheetStatements (columns : List Nat) (s : Sheet) : List (String × String) :=
  let name := plainName s.name
  (s.cells.filter fun ((_, column), _) => columns.contains column).map
    fun ((row, column), cell) => (statementKey name row column, plainCell cell)

/-- The statements of an observation by key; of several with one key the last counts. -/
def statements (columns : List Nat) (o : Observation) : List (String × String) :=
  (o.sheets.flatMap (sheetStatements columns)).foldl
    (fun done (key, cell) => insertByKey key cell done) []

/-- The keys of both, ascending. -/
def allKeys (a b : List (String × String)) : List String :=
  ((a ++ b).foldl (fun done (key, _) => insertByKey key () done) []).map (·.1)

/-- Compares a system with the oracle. -/
def compareWith (columns : List Nat) (oracle system : Observation) : Similarity :=
  let expected := statements columns oracle
  let actual := statements columns system
  ⟨system.systemId, (allKeys expected actual).map fun key =>
    agree ((expected.lookup key).getD missingCell) ((actual.lookup key).getD missingCell)⟩

def evaluate (columns : List Nat) (oracle : Observation) (systems : List Observation) :
    List Similarity :=
  systems.map (compareWith columns oracle)

/-- The columns that are compared unless others are chosen. -/
def defaultColumns : List Nat := [Sheet.outputColumn]

def total (s : Similarity) : Nat := s.vector.length

def agreements (s : Similarity) : Nat := s.vector.count true

/-- The share of statements that agree, zero when there are none. -/
def score (s : Similarity) : Float :=
  if s.total = 0 then 0 else Float.ofNat s.agreements / Float.ofNat s.total

/-- The comparison as ones and zeros. -/
def bits (vector : List Bool) : String :=
  String.ofList (vector.map fun b => if b then '1' else '0')

end Similarity

end Refit
