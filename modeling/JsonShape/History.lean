import JsonShape.File.Tree
import JsonShape.History.Entry
import JsonShape.Json.Relaxed
import JsonShape.Json.Writer

/-!
# Histories

The conversions of the past, newest first.  An input stands in the history at most once, with its
latest conversion, and only so many entries are kept.  A history is kept in a JSON file.
-/

namespace JsonShape

/-- Entries, newest first, and how many of them are kept; a negative size tells how many of the
oldest are dropped at each record. -/
structure History where
  maxSize : Int
  entries : List Entry

namespace History

/-- The size of a history where none is given. -/
def standardSize : Int := 50

/-- The history without entries. -/
def empty (maxSize : Int) : History := ⟨maxSize, []⟩

/-- **Records a conversion** in front and forgets earlier ones of the same input. -/
def record (h : History) (e : Entry) : History :=
  { h with entries := front h.maxSize (e :: h.entries.filter (·.input ≠ e.input)) }

/-- The first entry with the ident. -/
def find? (h : History) (ident : Text) : Option Entry := h.entries.find? (·.ident = ident)

/-- The history with its entries forgotten. -/
def clear (h : History) : History := empty h.maxSize

/-! ### The file -/

def toJson (h : History) : Json := .array (h.entries.map Entry.toJson)

/-- The text of the history in a file. -/
def toText (h : History) : Text := h.toJson.pretty

/-- **Writes the history to a file,** in a folder that is made if it is not there. -/
def save (h : History) (files : FileTree) (p : Path) : Except (FileError × FileTree) FileTree :=
  match files.makeFolders p.parent with
  | .error e => .error e
  | .ok files => files.writeText p h.toText

/-- Why a file gives no history. -/
inductive LoadError
  | file (error : FileError)
  | json (error : Json.ReadError)
  | notList (path : Path)
  | notObject (path : Path)
  | entry (error : Entry.ReadError)

def LoadError.message : LoadError → Text
  | .file e => e.message
  | .json (.tooManyDigits n) => Numeral.limitText n
  | .json _ => "malformed JSON"
  | .notList p => "History file " ++ p.text ++ " must contain a list."
  | .notObject p => "History file " ++ p.text ++ " contains a non-object entry."
  | .entry e => e.message

/-- The entry of an item of a file. -/
def readItem (p : Path) (item : Json) (stack : Stack := .standard) : Except LoadError Entry :=
  match Datum.ofJson item with
  | .dict fields => (Entry.ofFields fields stack).mapError .entry
  | _ => .error (.notObject p)

/-- The history of a text of a file; items beyond the size are not looked at. -/
def ofText (p : Path) (maxSize : Int) (t : Text) (stack : Stack := .standard) :
    Except LoadError History := do
  let v ← (Json.readRelaxed t).mapError .json
  match v with
  | .array items =>
    let entries ← (front maxSize items).mapM fun item => readItem p item stack
    .ok ⟨maxSize, entries⟩
  | _ => .error (.notList p)

/-- **The history of a file,** empty if there is no file. -/
def load (files : FileTree) (p : Path) (maxSize : Int) (stack : Stack := .standard) :
    Except LoadError History := do
  if ← (files.holds p).mapError .file then
    let t ← (files.readText p).mapError .file
    ofText p maxSize t stack
  else .ok (empty maxSize)

end History

end JsonShape
