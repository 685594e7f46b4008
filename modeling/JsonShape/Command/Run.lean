import JsonShape.Command
import JsonShape.Command.Report
import JsonShape.Convert
import JsonShape.Options.Schema
import JsonShape.Terminal.Table
import JsonShape.Version

/-!
# Running commands

A command runs on a tree of files and leaves a report.  A conversion reads its options, then the
history, then its source; it writes the history before its declarations.
-/

namespace JsonShape

/-- What a command finds beside the files. -/
structure Surroundings where
  /-- Standard input. -/
  input : Bytes
  /-- The clock, in seconds since the start of 1970. -/
  now : Double
  /-- The ident for an entry, should one be made. -/
  ident : Text
  stack : Stack := .standard
  /-- The reader of options in YAML. -/
  readYaml : Text → Except Yaml.Fault Datum := Yaml.read
  /-- Whether a text names a character, in handlers of marked-up idents. -/
  isName : Text → Bool := fun _ => true

/-! ### Arguments -/

/-- What keeps a path of the arguments from being looked at. -/
def SpelledPath.refusal? (files : FileTree) (p : SpelledPath) : Option Ending :=
  if p.text.contains '\x00' then some (.crashed (.file .hasNull))
  else if p.required && !files.reaches p.text then some (.misused (p.text ++ " does not exist"))
  else none

/-- Runs what arguments ask for, once their paths are looked at; no reading is a misuse. -/
def Reading.run {α : Type} (files : FileTree) (act : α → Report) : Option (Reading α) → Report
  | none => ⟨.misused "no such command or option", files, false⟩
  | some r =>
    match r.paths.findSome? (·.refusal? files), r.request? with
    | some ending, _ => ⟨ending, files, false⟩
    | none, some request => act request
    | none, none => ⟨.misused "words are missing or left over", files, false⟩

namespace Command

/-! ### Reading -/

/-- The options of a file. -/
def readOptions (files : FileTree) (s : Surroundings) (p : Path) : Except Ending Options :=
  (Options.load files p s.readYaml).mapError fun e =>
    if e.isMisuse then .misused e.message else .crashed (.options e)

/-- The options of a request: switches go over the options of the file. -/
def requestOptions (files : FileTree) (s : Surroundings) (r : ConvertRequest) :
    Except Ending Options := do
  let o ← match r.config with
    | none => .ok Options.standard
    | some p => readOptions files s p
  .ok {
    rootName := r.rootName.getD o.rootName
    useInterface := o.useInterface && !r.typeAlias
    optionalProperties := o.optionalProperties || r.allOptional
    addExport := o.addExport || r.exported }

/-- The history of a file. -/
def readHistory (files : FileTree) (s : Surroundings) (p : Path) : Except Ending History :=
  (History.load files p History.standardSize s.stack).mapError fun e =>
    if e.isMisuse then .misused ("Unreadable history file " ++ p.text ++ ": " ++ e.message)
    else .crashed (.history e)

/-- The history of a request, if it names one. -/
def requestHistory (files : FileTree) (s : Surroundings) (r : ConvertRequest) :
    Except Ending (Option (Path × History)) :=
  match r.history with
  | none => .ok none
  | some p => (readHistory files s p).map fun h => some (p, h)

/-- The text to convert. -/
def readSource (files : FileTree) (s : Surroundings) (file : Option Path) : Except Ending Text :=
  match file with
  | none =>
    match Utf8.decode s.input with
    | some t => .ok t.unifyNewlines
    | none => .error (.crashed (.file .undecodable))
  | some p =>
    match files.holds p with
    | .error e => .error (.crashed (.file e))
    | .ok false => .error (.misused (p.text ++ " does not exist"))
    | .ok true => (files.readText p).mapError fun e => .crashed (.file e)

/-! ### The commands -/

/-- Writes declarations to a file, in a folder that is made if it is not there. -/
def writeDeclarations (files : FileTree) (p : Path) (output : Text) (recorded : Bool) : Report :=
  match files.makeFolders p.parent with
  | .error (e, files) => ⟨.crashed (.file e), files, recorded⟩
  | .ok files =>
    match files.writeText p (output ++ "\n") with
    | .error (e, files) => ⟨.crashed (.file e), files, recorded⟩
    | .ok files =>
      ⟨.announce ("[bold green]Declarations written:[/] " ++ Markup.escape p.text), files, recorded⟩

/-- Prints declarations or writes them to a file. -/
def deliver (files : FileTree) (out : Option Path) (output : Text) (recorded : Bool) : Report :=
  match out with
  | none => ⟨.printLine output, files, recorded⟩
  | some p => writeDeclarations files p output recorded

/-- Records a conversion, if there is a history, and delivers it. -/
def finish (files : FileTree) (s : Surroundings) (store : Option (Path × History))
    (out : Option Path) (input output : Text) : Report :=
  match store with
  | none => deliver files out output false
  | some (p, h) =>
    let entry : Entry := ⟨s.ident, input, output, Stamp.ofSeconds s.now⟩
    match (h.record entry).save files p with
    | .error (e, files) => ⟨.crashed (.file e), files, true⟩
    | .ok files => deliver files out output true

/-- Reads what a conversion needs: its options, its history, and its text. -/
def prepare (files : FileTree) (s : Surroundings) (r : ConvertRequest) :
    Except Ending (Options × Option (Path × History) × Text) := do
  let o ← requestOptions files s r
  let store ← requestHistory files s r
  let t ← readSource files s r.file?
  .ok (o, store, t)

/-- Converts a document. -/
def runConvert (files : FileTree) (s : Surroundings) (r : ConvertRequest) : Report :=
  match prepare files s r with
  | .error e => ⟨e, files, false⟩
  | .ok (o, store, t) =>
    match convertText o t s.stack with
    | .error e => ⟨.fail e.message, files, false⟩
    | .ok output => finish files s store r.out t output

/-- Writes the standard options to a file. -/
def runInitConfig (files : FileTree) (p : Path) : Report :=
  match files.makeFolders p.parent with
  | .error (e, files) => ⟨.crashed (.file e), files, false⟩
  | .ok files =>
    match Options.standard.save files p with
    | .error (e, files) => ⟨.crashed (.file e), files, false⟩
    | .ok files =>
      ⟨.announce ("[bold green]Options written:[/] " ++ Markup.escape p.text), files, false⟩

/-- The cells of an entry in the list of a history; the ident may have tags of its own. -/
def entryCells (e : Entry) : Except Crash (List Text) := do
  let time ← e.stamp.text.mapError .stamp
  .ok [e.ident, Markup.escape (e.preview Entry.previewLength), time]

/-- The list of a history as a table. -/
def historyTable (isName : Text → Bool) (p : Path) (h : History) : Except Crash Table := do
  let rows ← h.entries.mapM entryCells
  let shown (cell : Text) : Except Crash Styled := (Markup.shown cell isName).mapError .markup
  let title ← shown ("History (" ++ Markup.escape p.text ++ ")")
  let header ← [Text.ofString "ID", "Input", "When"].mapM shown
  let rows ← rows.mapM fun row => row.mapM shown
  .ok ⟨title, header, rows⟩

/-- Lists a history. -/
def listHistory (isName : Text → Bool) (p : Path) (h : History) : Ending :=
  if h.entries = [] then .print "History is empty.\n"
  else
    match historyTable isName p h with
    | .error e => .crashed e
    | .ok t =>
      match Markup.checkStyles t.parts with
      | .error f => .crashed (.markup f)
      | .ok () => .print t.text

def runHistory (files : FileTree) (s : Surroundings) (p : Path) : Report :=
  match readHistory files s p with
  | .error e => ⟨e, files, false⟩
  | .ok h => ⟨listHistory s.isName p h, files, false⟩

/-- Prints the declarations of an entry. -/
def runHistoryShow (files : FileTree) (s : Surroundings) (p : Path) (ident : Text) : Report :=
  match readHistory files s p with
  | .error e => ⟨e, files, false⟩
  | .ok h =>
    match h.find? ident with
    | none => ⟨.fail ("No history entry " ++ ident ++ " in " ++ p.text), files, false⟩
    | some e => ⟨.printLine e.output, files, false⟩

/-- Forgets all entries of a history. -/
def runHistoryClear (files : FileTree) (s : Surroundings) (p : Path) : Report :=
  match readHistory files s p with
  | .error e => ⟨e, files, false⟩
  | .ok h =>
    match h.clear.save files p with
    | .error (e, files) => ⟨.crashed (.file e), files, false⟩
    | .ok files =>
      let removed := Numeral.ofNat h.entries.length
      ⟨.announce ("[bold]Removed:[/] " ++ removed ++ " entries"), files, false⟩

/-- **Runs a command.** -/
def run (files : FileTree) (s : Surroundings) : Command → Report
  | .version => ⟨.printLine (JsonShape.version true), files, false⟩
  | .convert r => runConvert files s r
  | .initConfig p => runInitConfig files p
  | .history p => runHistory files s p
  | .historyShow p ident => runHistoryShow files s p ident
  | .historyClear p => runHistoryClear files s p

/-- **Runs the command of some arguments.** -/
def runArgs (files : FileTree) (s : Surroundings) (args : List Text) : Report :=
  Reading.run files (fun c : Command => c.run files s) (ofArgs args)

end Command

/-! ### Export of the schema -/

namespace SchemaExport

/-- The options of an export. -/
def exportOptions (name : Text) : Option OptionKind :=
  if [Text.ofString "--pretty", "--no-pretty"].contains name then some .flag else none

/-- Where to write the schema, and whether with one item to a line; the last flag counts. -/
def ofArgs (args : List Text) : Option (Reading (Path × Bool)) := do
  let as ← Argument.read exportOptions args
  some <| Reading.ofWords (Argument.words as) <|
    match Argument.words as with
    | [out] =>
      let pretty : Bool := (Argument.flags as).getLast? ≠ some (Text.ofString "--no-pretty")
      some (Path.ofText out, pretty)
    | _ => none

/-- Writes the schema of options to a file in a folder that is there. -/
def write (files : FileTree) (p : Path) (pretty : Bool) : Report :=
  match files.writeText p (if pretty then Options.schema.pretty else Options.schema.line) with
  | .error (e, files) => ⟨.crashed (.file e), files, false⟩
  | .ok files => ⟨.printLine ("Wrote options schema to " ++ p.text), files, false⟩

/-- **Exports the schema of options.** -/
def run (files : FileTree) (args : List Text) : Report :=
  Reading.run files (fun (p, pretty) => write files p pretty) (ofArgs args)

end SchemaExport

end JsonShape
