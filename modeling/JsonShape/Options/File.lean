import JsonShape.File.Tree
import JsonShape.Json.Relaxed
import JsonShape.Json.Writer
import JsonShape.Options.Check
import JsonShape.Yaml.Value
import JsonShape.Yaml.Writer

/-!
# Files of options

Options are kept in a file: in YAML if its name ends in `.yaml` or `.yml`, in JSON otherwise.
-/

namespace JsonShape.Options

/-- Why a file gives no options. -/
inductive LoadError
  | file (error : FileError)
  | json (error : Json.ReadError)
  | yaml (fault : Yaml.Fault)
  | notMapping (path : Path)
  | keyNotText
  | rejected (path : Path) (issues : List Issue)

def LoadError.message : LoadError → Text
  | .file e => e.message
  | .json (.tooManyDigits n) => Numeral.limitText n
  | .json _ => "malformed JSON"
  | .yaml f => f.message
  | .notMapping p => "Invalid options file " ++ p.text ++ ": expected a mapping"
  | .keyNotText => "keywords must be strings"
  | .rejected p _ => "Invalid options file " ++ p.text

/-- Whether the file is kept in YAML. -/
def isYaml (p : Path) : Bool := p.suffix = Text.ofString ".yaml" || p.suffix = Text.ofString ".yml"

/-- The value that the text of a file stands for; `yaml` reads YAML. -/
def readValue (p : Path) (t : Text) (yaml : Text → Except Yaml.Fault Datum := Yaml.read) :
    Except LoadError Datum :=
  if isYaml p then (yaml t).mapError .yaml
  else ((Json.readRelaxed t).map Datum.ofJson).mapError .json

/-- The entries of a dictionary whose keys are texts. -/
def textKeys? : List (Datum × Datum) → Option (List (Text × Datum))
  | [] => some []
  | (.text k, v) :: es => (textKeys? es).map ((k, v) :: ·)
  | _ => none

/-- The options that a value from a file gives. -/
def ofDatum (p : Path) : Datum → Except LoadError Options
  | .dict es =>
    match textKeys? es with
    | none => .error .keyNotText
    | some fields => (ofFields fields).mapError (.rejected p)
  | _ => .error (.notMapping p)

/-- The options of the text of a file. -/
def ofText (p : Path) (t : Text) (yaml : Text → Except Yaml.Fault Datum := Yaml.read) :
    Except LoadError Options := do
  let d ← readValue p t yaml
  ofDatum p d

/-- **The options of a file.** -/
def load (files : FileTree) (p : Path) (yaml : Text → Except Yaml.Fault Datum := Yaml.read) :
    Except LoadError Options := do
  let t ← (files.readText p).mapError .file
  ofText p t yaml

/-- The options as an object. -/
def toJson (o : Options) : Json :=
  .object [(rootNameField.camel, .string o.rootName),
    (useInterfaceField.camel, .bool o.useInterface),
    (optionalPropertiesField.camel, .bool o.optionalProperties),
    (addExportField.camel, .bool o.addExport)]

/-- The options as YAML text. -/
def toYaml (o : Options) : Text :=
  Yaml.textEntry rootNameField.camel o.rootName
    ++ Yaml.boolEntry useInterfaceField.camel o.useInterface
    ++ Yaml.boolEntry optionalPropertiesField.camel o.optionalProperties
    ++ Yaml.boolEntry addExportField.camel o.addExport

/-- The text of the options in a file. -/
def toText (p : Path) (o : Options) : Text := if isYaml p then o.toYaml else o.toJson.pretty

/-- **Writes options to a file** in a folder that is there. -/
def save (files : FileTree) (p : Path) (o : Options) : Except (FileError × FileTree) FileTree :=
  files.writeText p (o.toText p)

end JsonShape.Options
