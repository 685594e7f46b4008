import JsonShape.History
import JsonShape.Options.File
import JsonShape.Terminal.Markup
import JsonShape.Terminal.Sequence
import JsonShape.Terminal.Wrap

/-!
# Reports

How a command ends: it prints a text, reports a failure, finds that it was misused, or is stopped by
something that it does not handle.
-/

namespace JsonShape

/-- What stops a command. -/
inductive Crash
  | file (error : FileError)
  | options (error : Options.LoadError)
  | history (error : History.LoadError)
  | stamp (error : Stamp.ShowError)
  | markup (fault : Markup.Fault)

def Crash.message : Crash → Text
  | .file e => e.message
  | .options e => e.message
  | .history e => e.message
  | .stamp e => e.message
  | .markup f => f.message

/-- How a command ends. -/
inductive Ending
  | printed (text : Text)
  | failed (text : Text)
  | misused (reason : Text)
  | crashed (cause : Crash)

/-- The end of a command, the files it leaves, and whether it recorded a conversion. -/
structure Report where
  ending : Ending
  files : FileTree
  recorded : Bool := false

namespace Ending

/-- The exit status. -/
def status : Ending → Nat
  | .printed _ => 0
  | .failed _ | .crashed _ => 1
  | .misused _ => 2

/-- Prints a text, unless no bytes stand for it. -/
def print (t : Text) : Ending :=
  if t.hasSurrogate then .crashed (.file .unencodable) else .printed t

/-- Prints a line of plain text; control sequences are left out. -/
def printLine (t : Text) : Ending := print (Sequence.strip (t ++ "\n"))

/-- The lines of marked-up text on the terminal. -/
def terminalLines (markup : Text) : Except Markup.Fault Text := do
  let s ← Markup.shown markup
  let lines := s.wrap terminalWidth .ragged .fold
  Markup.checkStyles lines
  .ok (lines.flatMap fun line => line.text ++ Text.ofString "\n")

/-- Prints marked-up text. -/
def announce (markup : Text) : Ending :=
  match terminalLines markup with
  | .ok t => print t
  | .error f => .crashed (.markup f)

/-- Reports a failure. -/
def fail (message : Text) : Ending :=
  match terminalLines ("[bold red]Error:[/] " ++ Markup.escape message) with
  | .ok t => .failed t
  | .error f => .crashed (.markup f)

end Ending

/-! ### Misuse

A file whose content is bad by its value is a misuse of the command.  Content of the wrong type, or
beyond the limits of a format's reader, is not handled. -/

def FileError.isMisuse : FileError → Bool
  | .undecodable | .hasNull => true
  | _ => false

def Yaml.Fault.isMisuse : Yaml.Fault → Bool
  | .noCodePoint | .badInteger _ | .badDouble _ | .badDate _ => true
  | .malformed | .hugeCodePoint | .noDate | .notText | .unknownWord _ | .emptyNumber
  | .hugeScale | .tooDeep => false

def Options.LoadError.isMisuse : Options.LoadError → Bool
  | .file e => e.isMisuse
  | .yaml f => f.isMisuse
  | .json _ | .notMapping _ | .rejected .. => true
  | .keyNotText => false

def Stamp.ReadError.isMisuse : Stamp.ReadError → Bool
  | .integer _ | .notANumber => true
  | .infinite | .notNumeric _ => false

def Datum.DisplayError.isMisuse : Datum.DisplayError → Bool
  | .tooManyDigits => true
  | .tooDeep => false

def Entry.ReadError.isMisuse : Entry.ReadError → Bool
  | .incomplete => true
  | .display e => e.isMisuse
  | .stamp e => e.isMisuse

def History.LoadError.isMisuse : History.LoadError → Bool
  | .file e => e.isMisuse
  | .json _ | .notList _ | .notObject _ => true
  | .entry e => e.isMisuse

end JsonShape
