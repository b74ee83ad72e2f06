import Rehearsal.Fault
import Rehearsal.Table
import Rehearsal.Text.Quoted

/-!
Paths, and a tree of files as a value. Empty parts and single dots are dropped when a path is read;
two dots stay. Files and folders are found by their place: the names on the way from the working
folder, two dots resolved. Above the working folder there are folders, of which nothing else is
known.
-/

set_option autoImplicit false

namespace Rehearsal

structure Path where
  /-- Empty, one slash, or exactly two. -/
  root : String
  parts : List String
  deriving DecidableEq

namespace Path

def splitSlashes (text : List Char) : List (List Char) :=
  text.foldr (fun c parts =>
    if c == '/' then [] :: parts
    else match parts with
      | part :: rest => (c :: part) :: rest
      | [] => [[c]]) [[]]

def rootOf (text : List Char) : String :=
  let slashes := (text.takeWhile (· == '/')).length
  if slashes == 0 then "" else if slashes == 2 then "//" else "/"

def ofText (text : String) : Path :=
  let parts := (splitSlashes text.toList).map String.ofList
  { root := rootOf text.toList, parts := parts.filter fun part => part != "" && part != "." }

def text (path : Path) : String :=
  let shown := path.root ++ "/".intercalate path.parts
  if shown.isEmpty then "." else shown

/-- The path `other`, seen from `path`. -/
def join (path other : Path) : Path :=
  if other.root.isEmpty then { path with parts := path.parts ++ other.parts } else other

def parent (path : Path) : Path := { path with parts := path.parts.dropLast }

def child (path : Path) (name : String) : Path := path.join (ofText name)

def name (path : Path) : String := path.parts.getLastD ""

/-- The last dot of the name and what follows it, unless it is at one of the name's ends. -/
def suffix (path : Path) : String :=
  let reversed := path.name.toList.reverse
  let ending := reversed.takeWhile (· != '.')
  let before := (reversed.dropWhile (· != '.')).drop 1
  if ending.isEmpty || before.isEmpty then "" else String.ofList ('.' :: ending.reverse)

end Path

/-! ## A tree of files -/

structure Files where
  /-- The absolute text of the working folder. -/
  home : String
  files : Table ByteArray
  folders : List String

namespace Files

def empty (home : String) : Files := { home, files := [], folders := [] }

/-! ## Places -/

/-- The key of a place; the working folder has the empty key, the root one slash. -/
def keyOf (root : String) (names : List String) : String :=
  (if root.isEmpty then "" else "/") ++ "/".intercalate names

/-- A place is given by the names on the way to it, the last one first. -/
def isFolderAt (tree : Files) (root : String) (names : List String) : Bool :=
  let key := keyOf root names.reverse
  key == "/" || (root.isEmpty && names.all (· == "..")) || tree.folders.contains key

def isFileAt (tree : Files) (root : String) (names : List String) : Bool :=
  tree.files.has (keyOf root names.reverse)

/-- The longest name of a file, and the longest path, in bytes. -/
def mostNameBytes : Nat := 255

def mostPathBytes : Nat := 4095

def isLong (name : String) : Bool := mostNameBytes < name.utf8ByteSize

/-- One folder up; the root is above itself. -/
def above (root : String) (names : List String) : List String :=
  match names with
  | [] => if root.isEmpty then [".."] else []
  | name :: rest => if name == ".." then ".." :: names else rest

def walk (tree : Files) (root : String) :
    List String -> List String -> Except FaultKind (List String)
  | names, [] => .ok names
  | names, part :: rest =>
    if !tree.isFolderAt root names then
      .error (if tree.isFileAt root names then .notDirectory else .noFile)
    else if part == ".." then walk tree root (above root names) rest
    else if isLong part then .error .nameTooLong
    else walk tree root (part :: names) rest

/-! ## Faults -/

/-- The number and the words that a report gives for an obstacle in the tree. -/
def obstacle : FaultKind -> Nat × String
  | .fileExists => (17, "File exists")
  | .notDirectory => (20, "Not a directory")
  | .isDirectory => (21, "Is a directory")
  | .nameTooLong => (36, "File name too long")
  | _ => (2, "No such file or directory")

def fault (path : Path) (kind : FaultKind) : Fault :=
  let (number, words) := obstacle kind
  { kind, message := s!"[Errno {number}] {words}: {Text.quoted path.text}" }

def emptyByte : Fault := ⟨.badValue, "embedded null byte"⟩

def hasEmptyByte (path : Path) : Bool := path.text.toList.contains '\x00'

/-- The place that a path leads to, whether or not there is something. -/
def locate (tree : Files) (path : Path) : Except Fault (List String) :=
  if hasEmptyByte path then .error emptyByte
  else if mostPathBytes < path.text.utf8ByteSize then .error (fault path .nameTooLong)
  else (tree.walk path.root [] path.parts).mapError (fault path)

def isFile (tree : Files) (path : Path) : Bool :=
  (tree.locate path).toOption.any (tree.isFileAt path.root)

def isFolder (tree : Files) (path : Path) : Bool :=
  (tree.locate path).toOption.any (tree.isFolderAt path.root)

/-- Whether there is a file or a folder; too long a name is an error even here. -/
def contains (tree : Files) (path : Path) : Except Fault Bool :=
  match tree.locate path with
  | .ok names => .ok (tree.isFileAt path.root names || tree.isFolderAt path.root names)
  | .error fault => if fault.kind == .nameTooLong then .error fault else .ok false

/-! ## Reading and writing -/

def read (tree : Files) (path : Path) : Except Fault ByteArray := do
  let names ← tree.locate path
  match tree.files.get? (keyOf path.root names.reverse) with
  | some bytes => return bytes
  | none =>
    throw (fault path (if tree.isFolderAt path.root names then .isDirectory else .noFile))

/-- Puts a file where its folder exists. -/
def write (tree : Files) (path : Path) (bytes : ByteArray) : Except Fault Files := do
  let names ← tree.locate path
  if tree.isFolderAt path.root names then throw (fault path .isDirectory)
  else return { tree with files := tree.files.put (keyOf path.root names.reverse) bytes }

/-- Adds to the end of a file, which is made if it is missing. -/
def append (tree : Files) (path : Path) (bytes : ByteArray) : Except Fault Files := do
  let names ← tree.locate path
  let before := (tree.files.get? (keyOf path.root names.reverse)).getD ByteArray.empty
  tree.write path (before ++ bytes)

/-- Makes one folder after the other. A file in the way is an error. -/
def makeFolders (tree : Files) (root : String) (names : List String) :
    List String -> Except FaultKind Files
  | [] => .ok tree
  | part :: rest =>
    if part == ".." then tree.makeFolders root (above root names) rest
    else if isLong part then .error .nameTooLong
    else
      let names := part :: names
      if tree.isFileAt root names then
        .error (if rest.isEmpty then .fileExists else .notDirectory)
      else if tree.isFolderAt root names then tree.makeFolders root names rest
      else
        { tree with folders := tree.folders ++ [keyOf root names.reverse] }.makeFolders root names
          rest

def makeFolder (tree : Files) (path : Path) : Except Fault Files :=
  if hasEmptyByte path then .error emptyByte
  else if mostPathBytes < path.text.utf8ByteSize then .error (fault path .nameTooLong)
  else (tree.makeFolders path.root [] path.parts).mapError (fault path)

def absolute (tree : Files) (path : Path) : String :=
  match tree.locate path with
  | .ok names =>
    let key := keyOf path.root names.reverse
    if !path.root.isEmpty then key
    else if key.isEmpty then tree.home else tree.home ++ "/" ++ key
  | .error _ => path.text

/-- A tree with one file added, its folders made as needed. -/
def place (tree : Files) (name : String) (bytes : ByteArray) : Files :=
  let path := Path.ofText name
  match tree.makeFolder path.parent with
  | .ok tree =>
    match tree.write path bytes with
    | .ok tree => tree
    | .error _ => tree
  | .error _ => tree

def ofList (home : String) (entries : List (String × ByteArray)) : Files :=
  entries.foldl (fun tree (name, bytes) => tree.place name bytes) (empty home)

end Files

end Rehearsal
