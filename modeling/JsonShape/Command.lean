import JsonShape.Command.Arguments
import JsonShape.File.Path

/-!
# Commands

What can be asked for on the command line.
-/

namespace JsonShape

/-- What to convert, how, and where to. -/
structure ConvertRequest where
  /-- The file to read; standard input if there is none or it is a dash. -/
  source : Option Path
  config : Option Path
  rootName : Option Text
  typeAlias : Bool
  allOptional : Bool
  exported : Bool
  out : Option Path
  history : Option Path

/-- The file to read, if it is one. -/
def ConvertRequest.file? (r : ConvertRequest) : Option Path :=
  r.source.filter (·.text ≠ Text.ofString "-")

/-- A command. -/
inductive Command
  | version
  | convert (request : ConvertRequest)
  | initConfig (out : Path)
  | history (path : Path)
  | historyShow (path : Path) (ident : Text)
  | historyClear (path : Path)

namespace Command

/-- The options of a conversion. -/
def convertOptions (name : Text) : Option OptionKind :=
  if [Text.ofString "--config", "--root-name", "--out", "--history"].contains name then some .valued
  else if [Text.ofString "--type-alias", "--optional", "--export"].contains name then some .flag
  else none

def noOptions (_ : Text) : Option OptionKind := none

/-- The words of a command without options. -/
def readWords (args : List Text) : Option (List Text) :=
  (Argument.read noOptions args).map Argument.words

/-- The paths among the options of a conversion; that of its own options has to lead somewhere. -/
def optionPaths (as : List Argument) : List SpelledPath :=
  (Argument.valuedNames as).filterMap fun n =>
    if n = Text.ofString "--root-name" then none
    else (Argument.valueOf? n as).map (⟨·, n = Text.ofString "--config"⟩)

/-- The request of the arguments of a conversion that reads `source`. -/
def requestOf (as : List Argument) (source : Option Text) : ConvertRequest := {
  source := source.map Path.ofText
  config := (Argument.valueOf? "--config" as).map Path.ofText
  rootName := Argument.valueOf? "--root-name" as
  typeAlias := Argument.hasFlag "--type-alias" as
  allOptional := Argument.hasFlag "--optional" as
  exported := Argument.hasFlag "--export" as
  out := (Argument.valueOf? "--out" as).map Path.ofText
  history := (Argument.valueOf? "--history" as).map Path.ofText }

/-- The reading of the arguments of a conversion. -/
def readConvert (args : List Text) : Option (Reading ConvertRequest) := do
  let as ← Argument.read convertOptions args
  let words := Reading.ofWords (Argument.words as) <|
    match Argument.words as with
    | [] => some (requestOf as none)
    | [w] => some (requestOf as (some w))
    | _ => none
  some ⟨optionPaths as ++ words.paths, words.request?⟩

/-- The reading of the words of a command that takes a file and nothing else. -/
def readFile (command : Path → Command) (words : List Text) : Reading Command :=
  Reading.ofWords words <|
    match words with
    | [w] => some (command (Path.ofText w))
    | _ => none

/-- The reading of the name of a command and the arguments after it. -/
def ofName (name : Text) (args : List Text) : Option (Reading Command) :=
  if name = Text.ofString "convert" then (readConvert args).map (Reading.map .convert)
  else do
    let ws ← readWords args
    if name = Text.ofString "version" then
      some ⟨[], if ws = [] then some .version else none⟩
    else if name = Text.ofString "init-config" then some (readFile .initConfig ws)
    else if name = Text.ofString "history" then some (readFile .history ws)
    else if name = Text.ofString "history-clear" then some (readFile .historyClear ws)
    else if name = Text.ofString "history-show" then
      some <| Reading.ofWords ws <|
        match ws with
        | [path, ident] => some (.historyShow (Path.ofText path) ident)
        | _ => none
    else none

/-- **The reading of all arguments;** two dashes may stand before the name of the command. -/
def ofArgs : List Text → Option (Reading Command)
  | [] => none
  | a :: rest =>
    if a = Text.ofString "--" then
      match rest with
      | [] => none
      | name :: rest => ofName name rest
    else ofName a rest

/-! ### What a command needs -/

/-- Whether a command reads standard input. -/
def readsInput : Command → Bool
  | .convert r => r.file?.isNone
  | _ => false

end Command

end JsonShape
