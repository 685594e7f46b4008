import JsonShape.Datum
import JsonShape.Options
import JsonShape.OrderedMap
import JsonShape.Text.Utf8

/-!
# Checked fields

Options are taken from loose values field by field.  Each option has two names, one in camel case
and one in snake case.  All issues of a value are reported: those of the fields in their order, then
those of the other keys in theirs.
-/

namespace JsonShape

/-- What is wrong with a field. -/
inductive Trouble
  | missing
  | notText
  | notUtf8
  | notBool
  | unclearBool
  | unknown
  | frozen
  | rule (words : Text)

/-- A trouble and the field it is about; a rule on the whole value is about none. -/
structure Issue where
  place : List Text
  trouble : Trouble

namespace Trouble

/-- The word for a kind of trouble. -/
def word : Trouble → Text
  | .missing => "missing"
  | .notText => "string_type"
  | .notUtf8 => "string_unicode"
  | .notBool => "bool_type"
  | .unclearBool => "bool_parsing"
  | .unknown => "extra_forbidden"
  | .frozen => "frozen_instance"
  | .rule _ => "value_error"

def message : Trouble → Text
  | .missing => "Field required"
  | .notText => "Input should be a valid string"
  | .notUtf8 => "Input should be a valid string, unable to parse raw data as a unicode string"
  | .notBool => "Input should be a valid boolean"
  | .unclearBool => "Input should be a valid boolean, unable to interpret input"
  | .unknown => "Extra inputs are not permitted"
  | .frozen => "Instance is frozen"
  | .rule words => "Value error, " ++ words

end Trouble

/-! ### Single values -/

def trueWords : List Text := ["1", "on", "t", "true", "y", "yes"]

def falseWords : List Text := ["0", "off", "f", "false", "n", "no"]

/-- A truth value in words, in letters of either case. -/
def readBoolWord (t : Text) : Except Trouble Bool :=
  let word := t.map CodePoint.lowerAscii
  if trueWords.contains word then .ok true
  else if falseWords.contains word then .ok false
  else if t.hasSurrogate then .error .notUtf8
  else .error .unclearBool

/-- A truth value as one or zero; other numbers of 64 bits are unclear, and larger ones are no truth
values at all. -/
def readBoolNumber (n : Int) : Except Trouble Bool :=
  if n = 1 then .ok true
  else if n = 0 then .ok false
  else if fitsSigned 63 n then .error .unclearBool
  else .error .notBool

/-- The truth value that a datum is accepted as. -/
def acceptBool : Datum → Except Trouble Bool
  | .bool b => .ok b
  | .text t => readBoolWord t
  | .bytes b =>
    match Utf8.decode b with
    | some t => readBoolWord t
    | none => .error .unclearBool
  | .int n => readBoolNumber n
  | .double d =>
    match d.toInt? with
    | some n => if n = -(twoTo 63 : Int) then .error .notBool else readBoolNumber n
    | none => .error .notBool
  | _ => .error .notBool

/-- The text that a datum is accepted as. -/
def acceptText : Datum → Except Trouble Text
  | .text t => .ok t
  | .bytes b =>
    match Utf8.decode b with
    | some t => .ok t
    | none => .error .notUtf8
  | _ => .error .notText

/-! ### Options -/

/-- The two names of a field. -/
structure FieldName where
  camel : Text
  snake : Text

/-- The name under which a field is given; the camel-case one counts where both are. -/
def FieldName.given (f : FieldName) (data : List (Text × Datum)) : Text :=
  if (lookup? f.camel data).isSome then f.camel else f.snake

/-- The value of a field. -/
def FieldName.read {α : Type} (f : FieldName) (accept : Datum → Except Trouble α)
    (data : List (Text × Datum)) : Except Issue α :=
  match lookup? (f.given data) data with
  | none => .error ⟨[f.camel], .missing⟩
  | some d => (accept d).mapError fun t => ⟨[f.given data], t⟩

/-- The issue of a field, if there is one. -/
def issuesOf {α : Type} : Except Issue α → List Issue
  | .ok _ => []
  | .error i => [i]

namespace Options

def rootNameField : FieldName := ⟨"rootName", "root_name"⟩

def useInterfaceField : FieldName := ⟨"useInterface", "use_interface"⟩

def optionalPropertiesField : FieldName := ⟨"optionalProperties", "optional_properties"⟩

def addExportField : FieldName := ⟨"addExport", "add_export"⟩

/-- The fields in their order. -/
def fields : List FieldName :=
  [rootNameField, useInterfaceField, optionalPropertiesField, addExportField]

/-- The keys that no field is given under. -/
def extras (data : List (Text × Datum)) : List Text :=
  (data.map Prod.fst).filter fun k => !(fields.map (·.given data)).contains k

/-- **The options that fields give,** each under exactly one of its names, and no other key.  Of a
key with a surrogate nothing else is told than that. -/
def ofFields (data : List (Text × Datum)) : Except (List Issue) Options :=
  let rootName := rootNameField.read acceptText data
  let useInterface := useInterfaceField.read acceptBool data
  let optionalProperties := optionalPropertiesField.read acceptBool data
  let addExport := addExportField.read acceptBool data
  let unknown := (extras data).map fun k => (⟨[k], .unknown⟩ : Issue)
  match rootName, useInterface, optionalProperties, addExport, unknown with
  | .ok r, .ok u, .ok p, .ok e, [] => .ok ⟨r, u, p, e⟩
  | _, _, _, _, _ =>
    if (extras data).any Text.hasSurrogate then .error [⟨[], .notUtf8⟩]
    else
      .error (issuesOf rootName ++ issuesOf useInterface ++ issuesOf optionalProperties
        ++ issuesOf addExport ++ unknown)

/-- Options are never changed in place. -/
def assign (field : Text) : Issue := ⟨[field], .frozen⟩

end Options

end JsonShape
