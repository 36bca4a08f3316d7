import Refit.Error

/-!
# Folders and files

A file system as a value: the folders and the texts of the files that were written, by their places
as seen from one root folder.  A path is followed part by part, and every part is taken from a
folder that is there: empty parts and single points stay in it, two points lead up.
-/

namespace Refit

/-- The parts of a path as written. -/
abbrev FilePath := List String

namespace FilePath

/-- The parts between slashes. -/
def splitSlashes (current : List Char) : List Char → List String
  | [] => [String.ofList current.reverse]
  | c :: rest =>
    if c = '/' then String.ofList current.reverse :: splitSlashes [] rest
    else splitSlashes (c :: current) rest

def ofText (s : String) : FilePath := splitSlashes [] s.toList

/-- Whether a part stays in the folder. -/
def stays (part : String) : Bool := part = "" || part = "."

/-- The path of the folder that a file is in. -/
def parent (path : FilePath) : FilePath := (path.filter (!stays ·)).dropLast

/-- The greatest number of bytes in a part. -/
def partLimit : Nat := 255

/-- Whether a file system takes a part. -/
def isLegal (part : String) : Bool :=
  part.utf8ByteSize ≤ partLimit && !part.toList.contains '\x00'

end FilePath

/-- Where a path leads to: the names from the root, behind two points for every folder above it. -/
abbrev Place := List String

/-- The folder above. -/
def Place.up (folder : Place) : Place :=
  if folder.all (· = "..") then folder ++ [".."] else folder.dropLast

structure FileSystem where
  /-- All folders but the root and those above it. -/
  folders : List Place := []
  files : List (Place × String) := []

namespace FileSystem

def file? (fs : FileSystem) (place : Place) : Option String := fs.files.lookup place

def isFolder (fs : FileSystem) (place : Place) : Bool :=
  place.all (· = "..") || fs.folders.contains place

/-- Follows a path from a place.  The last part may lead to something that is not there. -/
def follow? (fs : FileSystem) (place : Place) : FilePath → Option Place
  | [] => some place
  | part :: rest =>
    if !fs.isFolder place then none
    else if FilePath.stays part then fs.follow? place rest
    else if part = ".." then fs.follow? place.up rest
    else fs.follow? (place ++ [part]) rest

def place? (fs : FileSystem) (path : FilePath) : Option Place := fs.follow? [] path

def contains (fs : FileSystem) (path : FilePath) : Bool :=
  match fs.place? path with
  | some place => fs.isFolder place || (fs.file? place).isSome
  | none => false

def read (fs : FileSystem) (path : FilePath) : Except Error String :=
  match (fs.place? path).bind fs.file? with
  | some text => .ok text
  | none => .error .io

/-- Makes all folders on a path that are not there. -/
def makeFolders (fs : FileSystem) (place : Place) : FilePath → FileSystem × Except Error Unit
  | [] => (fs, .ok ())
  | part :: rest =>
    if FilePath.stays part then fs.makeFolders place rest
    else if part = ".." then fs.makeFolders place.up rest
    else
      let next := place ++ [part]
      if !FilePath.isLegal part || (fs.file? next).isSome then (fs, .error .io)
      else if fs.isFolder next then fs.makeFolders next rest
      else makeFolders { fs with folders := fs.folders ++ [next] } next rest

/-- Writes a file into a folder that is there. -/
def write (fs : FileSystem) (path : FilePath) (text : String) : FileSystem × Except Error Unit :=
  match fs.place? path with
  | none => (fs, .error .io)
  | some place =>
    if fs.isFolder place || !place.all FilePath.isLegal then (fs, .error .io)
    else ({ fs with files := (place, text) :: fs.files.filter (·.1 ≠ place) }, .ok ())

/-- Writes a file and makes the folders above it. -/
def writeBelow (fs : FileSystem) (path : FilePath) (text : String) :
    FileSystem × Except Error Unit :=
  match fs.makeFolders [] path.parent with
  | (fs, .error e) => (fs, .error e)
  | (fs, .ok _) => fs.write path text

/-- The paths of all files below the root, ascending. -/
def tree (fs : FileSystem) : List String :=
  ((fs.files.filter (·.1.head? ≠ some "..")).map fun (place, _) => "/".intercalate place).mergeSort
    fun a b => (compare a b).isLE

end FileSystem

end Refit
