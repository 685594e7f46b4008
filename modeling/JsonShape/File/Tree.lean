import JsonShape.File.Path
import JsonShape.OrderedMap
import JsonShape.Text.Utf8

/-!
# File trees

A tree of files as a value: what stands at each place, and the operations on it with the refusals of
a file system.
-/

namespace JsonShape

/-- A place in a file tree: the parts of a path with the steps up taken. -/
abbrev Place := List Text

/-- What stands at a place. -/
inductive FileNode
  | folder
  | file (content : Bytes)
deriving DecidableEq

/-- Why an operation on files is refused. -/
inductive FileError
  /-- Nothing is there. -/
  | missing
  /-- A folder stands where a file should. -/
  | isFolder
  /-- A file stands where a folder should, further up the path. -/
  | notFolder
  /-- A file stands where a folder is to be made. -/
  | occupied
  /-- The bytes are no UTF-8. -/
  | undecodable
  /-- The text has a surrogate, so no bytes stand for it. -/
  | unencodable
  /-- The path or one of its parts has too many bytes. -/
  | tooLong
  /-- The path has a null character. -/
  | hasNull
deriving DecidableEq

def FileError.message : FileError → Text
  | .missing => "no such file or folder"
  | .isFolder => "a folder, not a file"
  | .notFolder => "a file, not a folder"
  | .occupied => "a file stands where a folder is needed"
  | .undecodable => "the bytes are no UTF-8"
  | .unencodable => "a surrogate cannot be written"
  | .tooLong => "the name is too long"
  | .hasNull => "embedded null byte"

/-- Files and folders by place. -/
structure FileTree where
  nodes : OrderedMap Place FileNode

namespace FileTree

instance : Inhabited FileTree := ⟨⟨∅⟩⟩

/-- The place that a path starts from. -/
def start (p : Path) : Place := if p.root = [] then [] else [p.root]

/-- The part that leads up. -/
def up : Text := ".."

/-- One step further: into the named part, or up.  Above the working folder only the steps up are
kept. -/
def step (l : Place) (part : Text) : Place :=
  if part = up ∧ l.getLast? ≠ none ∧ l.getLast? ≠ some up then l.dropLast else l ++ [part]

/-- What stands at a place; the working folder and those above it are always there. -/
def at? (t : FileTree) (l : Place) : Option FileNode :=
  if l.all (· = up) then some .folder else t.nodes.get? l

/-- The bytes that a part of a path may have. -/
def maxPartSize : Nat := 255

/-- The bytes that a path may have. -/
def maxPathSize : Nat := 4095

/-- The number of bytes of a text. -/
def byteSize (s : Text) : Nat := (Text.toString s).utf8ByteSize

/-- Refuses a path that no file system takes. -/
def checkPath (p : Path) : Except FileError Unit :=
  if p.text.contains '\x00' then .error .hasNull
  else if maxPathSize < byteSize p.text then .error .tooLong
  else .ok ()

/-- The place that parts lead to from a place; each step leaves a folder. -/
def walk (t : FileTree) : (l : Place) → (parts : List Text) → Except FileError Place
  | l, [] => .ok l
  | l, part :: rest =>
    match t.at? l with
    | some .folder =>
      if maxPartSize < byteSize part then .error .tooLong else t.walk (step l part) rest
    | some (.file _) => .error .notFolder
    | none => .error .missing

/-- The place of a path, whether or not something stands there. -/
def placeOf (t : FileTree) (p : Path) : Except FileError Place := do
  checkPath p
  t.walk (start p) p.parts

/-- What a path leads to. -/
def look (t : FileTree) (p : Path) : Except FileError FileNode := do
  let l ← t.placeOf p
  match t.at? l with
  | some n => .ok n
  | none => .error .missing

/-- Whether something stands at a path.  Only a path that is too long has no answer. -/
def holds (t : FileTree) (p : Path) : Except FileError Bool :=
  match t.look p with
  | .ok _ => .ok true
  | .error .tooLong => .error .tooLong
  | .error _ => .ok false

/-- Whether something stands where a spelled path leads. -/
def reaches (t : FileTree) (spelled : Text) : Bool :=
  match t.look (Path.ofText spelled) with
  | .ok .folder => spelled ≠ []
  | .ok (.file _) => !Path.leadsToFolder spelled
  | .error _ => false

def readBytes (t : FileTree) (p : Path) : Except FileError Bytes :=
  match t.look p with
  | .ok (.file b) => .ok b
  | .ok .folder => .error .isFolder
  | .error e => .error e

/-- The text of a file, with unified line ends. -/
def readText (t : FileTree) (p : Path) : Except FileError Text :=
  match t.readBytes p with
  | .error e => .error e
  | .ok b =>
    match Utf8.decode b with
    | some s => .ok s.unifyNewlines
    | none => .error .undecodable

def put (t : FileTree) (l : Place) (n : FileNode) : FileTree := ⟨t.nodes.insert l n⟩

/-- Writes a file into a folder that is there. -/
def writeBytes (t : FileTree) (p : Path) (b : Bytes) : Except FileError FileTree := do
  let l ← t.placeOf p
  match t.at? l with
  | some .folder => .error .isFolder
  | _ => .ok (t.put l (.file b))

/-- Writes a text.  A text that no bytes stand for leaves an empty file behind. -/
def writeText (t : FileTree) (p : Path) (s : Text) : Except (FileError × FileTree) FileTree :=
  match t.writeBytes p [] with
  | .error e => .error (e, t)
  | .ok emptied =>
    match Utf8.encode s with
    | none => .error (.unencodable, emptied)
    | some b =>
      match t.writeBytes p b with
      | .error e => .error (e, t)
      | .ok t => .ok t

/-- Makes the folders on the way that are not there yet; those made before a refusal stay. -/
def makeWay (t : FileTree) :
    (l : Place) → (parts : List Text) → Except (FileError × FileTree) FileTree
  | _, [] => .ok t
  | l, part :: rest =>
    if maxPartSize < byteSize part then .error (.tooLong, t)
    else
      let l := step l part
      match t.at? l with
      | some .folder => t.makeWay l rest
      | some (.file _) => .error (if rest = [] then .occupied else .notFolder, t)
      | none => (t.put l .folder).makeWay l rest

/-- Makes a folder and all folders above it that are not there yet. -/
def makeFolders (t : FileTree) (p : Path) : Except (FileError × FileTree) FileTree :=
  match checkPath p with
  | .error e => .error (e, t)
  | .ok () => t.makeWay (start p) p.parts

/-- Writes a file and makes the folders above it. -/
def plant (t : FileTree) (p : Path) (b : Bytes) : Except FileError FileTree := do
  let t ← (t.makeFolders p.parent).mapError Prod.fst
  t.writeBytes p b

/-- All files with their places. -/
def files (t : FileTree) : List (Place × Bytes) :=
  t.nodes.entries.filterMap fun e =>
    match e.2 with
    | .file b => some (e.1, b)
    | .folder => none

end FileTree

end JsonShape
