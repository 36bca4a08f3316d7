import Refit.Json.Outline
import Refit.Json.Writer
import Refit.Store.Files
import Refit.Wire.Settings

/-!
# Settings in files

Settings are kept in JSON files, in which fields of other names count for nothing.  The nearest
such file counts: it is looked for in the folder where a search starts and in all folders above.
-/

namespace Refit.SettingsFile

/-- The names that a settings file may have, in the order in which they are tried. -/
def names : List String := [".arena.json", "arena.json"]

def load (files : FileSystem) (path : FilePath) : Except Error Settings :=
  match files.read path with
  | .error e => .error e
  | .ok text =>
    match (Json.parseOutlined? Wire.settingsOutline text).map Wire.settings with
    | some (.ok s) => .ok s
    | _ => .error .unreadableConfig

def save (files : FileSystem) (path : FilePath) (s : Settings) :
    FileSystem × Except Error Unit :=
  files.write path (Wire.writeSettings s).pretty

/-- A path with one more part. -/
def join (path name : String) : String :=
  if path.endsWith "/" then path ++ name else path ++ "/" ++ name

/-- The text without the slashes, and the slashes before single points, at its end; last character
first. -/
def withoutTail : List Char → List Char
  | '/' :: rest => withoutTail rest
  | '.' :: '/' :: rest => withoutTail rest
  | cs => cs

/-- The path of the folder above. -/
def parent (path : String) : String :=
  let cs := withoutTail path.toList.reverse
  String.ofList (withoutTail (cs.dropWhile (· ≠ '/'))).reverse

/-- The nearest settings file at or above a path, which starts at the folder `root`.  No settings
are looked for above the root. -/
def findFrom (files : FileSystem) (root : String) : Nat → String → Option String
  | 0, _ => none
  | fuel + 1, path =>
    let place (name : String) : FilePath :=
      FilePath.ofText (String.ofList ((join path name).toList.drop root.length))
    match names.find? (fun name => files.contains (place name)) with
    | some name => some (join path name)
    | none =>
      if parent path = path || (parent path).length < root.length then none
      else findFrom files root fuel (parent path)

def find? (files : FileSystem) (root path : String) : Option String :=
  let start := join root path
  findFrom files root (start.length + 1) start

/-- The settings of the nearest file, which must be valid, or the defaults. -/
def inForce (files : FileSystem) (root path : String) : Except Error Settings :=
  let loaded : Except Error Settings :=
    match find? files root path with
    | some found => load files (FilePath.ofText (String.ofList (found.toList.drop root.length)))
    | none => .ok {}
  match loaded with
  | .error e => .error e
  | .ok s =>
    match s.validate with
    | .error e => .error e
    | .ok _ => .ok s

end Refit.SettingsFile
