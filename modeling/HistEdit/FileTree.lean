import HistEdit.Error

/-!
Files and directories by their paths. A path is cut at its slashes; empty parts and single points
stand for the directory itself and two points for the one above it, which for the root is the root.
A path that begins with a slash is followed from the root, any other one from the working directory.
-/

namespace HistEdit

def pathParts (path : String) : List String :=
  (path.toList.splitOn '/').map String.ofList

/-- What stands at a place: a file with its contents, or a directory with what is in it by name. -/
inductive Entry where
  | file (contents : ByteArray)
  | directory (entries : List (String × Entry))

namespace Entry

/-- What is found at a place below an entry, given by the names that lead there. -/
def find? : Entry → List String → Option Entry
  | entry, [] => some entry
  | .file _, _ :: _ => none
  | .directory entries, name :: names => (entries.lookup name).bind fun entry => entry.find? names

def contents? : Entry → Option ByteArray
  | .file contents => some contents
  | .directory _ => none

/-- Gives a name in a directory to an entry, in place of the one that had it. -/
def assign (name : String) (entry : Entry) : List (String × Entry) → List (String × Entry)
  | [] => [(name, entry)]
  | (other, old) :: entries =>
    if other = name then (name, entry) :: entries else (other, old) :: assign name entry entries

/-- An entry with a file at a place below it. Directories on the way that are missing are made. -/
def put (contents : ByteArray) : List String → Entry → Entry
  | [], _ => .file contents
  | _ :: _, .file old => .file old
  | name :: names, .directory entries =>
    let below := (entries.lookup name).getD (.directory [])
    .directory (assign name (put contents names below) entries)

end Entry

/-- What is in the root, and the place of the working directory. -/
structure FileTree where
  entries : List (String × Entry) := []
  working : List String := []

namespace FileTree

def find? (tree : FileTree) (place : List String) : Option Entry :=
  (Entry.directory tree.entries).find? place

def isDirectory (tree : FileTree) (place : List String) : Bool :=
  (tree.find? place).any fun entry => entry.contents?.isNone

/-- The place that a part of a path leads to from a directory. -/
def enter (place : List String) (part : String) : List String :=
  if part = "" ∨ part = "." then place
  else if part = ".." then place.dropLast
  else place ++ [part]

/-- Follows the parts of a path from a place. Every place on the way must be a directory. -/
def follow (tree : FileTree) (place : List String) : List String → Except FileError (List String)
  | [] => .ok place
  | part :: parts =>
    match tree.find? place with
    | none => .error .notFound
    | some (.file _) => .error .notDirectory
    | some (.directory _) => tree.follow (enter place part) parts

def start (tree : FileTree) (path : String) : List String :=
  if path.startsWith "/" then [] else tree.working

def locate (tree : FileTree) (path : String) : Except FileError (List String) :=
  if path.isEmpty then .error .notFound else tree.follow (tree.start path) (pathParts path)

def read (tree : FileTree) (path : String) : Except FileError ByteArray := do
  let place ← tree.locate path
  match tree.find? place with
  | none => .error .notFound
  | some (.directory _) => .error .isDirectory
  | some (.file contents) => .ok contents

/-- The tree with a file at a place, which takes the place of an older one. -/
def update (tree : FileTree) (place : List String) (contents : ByteArray) : FileTree :=
  match (Entry.directory tree.entries).put contents place with
  | .directory entries => { tree with entries }
  | .file _ => tree

/-- Writes a file, which may be new. A name before a slash at the end is taken for a directory,
whatever it is. -/
def write (tree : FileTree) (path : String) (contents : ByteArray) :
    Except FileError FileTree := do
  if path.endsWith "/" then
    let names := ((pathParts path).reverse.dropWhile String.isEmpty).reverse
    let _ ← tree.follow (tree.start path) names
    .error .isDirectory
  else
    let place ← tree.locate path
    if tree.isDirectory place then .error .isDirectory
    else .ok (tree.update place contents)

/-- The tree of some files by their paths from a working directory. -/
def ofList (files : List (String × ByteArray)) (working : List String := ["home"]) : FileTree :=
  files.foldl (fun tree (path, contents) => tree.update (working ++ names path) contents)
    { working }
where
  /-- The names in a path. -/
  names (path : String) : List String :=
    (pathParts path).filter fun part => part ≠ "" ∧ part ≠ "."

end FileTree

def decodeText (contents : ByteArray) : Except FileError String :=
  match String.fromUTF8? contents with
  | some text => .ok text
  | none => .error .invalidText

end HistEdit
