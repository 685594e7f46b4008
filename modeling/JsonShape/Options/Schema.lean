import JsonShape.Options.Check

/-!
# The schema of options

The JSON Schema document that a file of options has to meet.
-/

namespace JsonShape.Options

/-- The words about options in the schema. -/
def description : Text :=
  "Knobs controlling how declarations are emitted.\n\n"
    ++ "Every field is required: the converter never assumes defaults. Config files\n"
    ++ "may use either the snake_case field names or the camelCase aliases."

/-- A name with its first letter as a capital and all others small. -/
def titleOf (name : Text) : Text :=
  match name with
  | [] => []
  | c :: rest => c.upperAscii :: rest.map CodePoint.lowerAscii

/-- The schema of one field. -/
def fieldSchema (f : FieldName) (type : Text) : Text × Json :=
  (f.camel, .object [("title", .string (titleOf f.camel)), ("type", .string type)])

/-- **The schema of options.** -/
def schema : Json :=
  .object [
    ("additionalProperties", .bool false),
    ("description", .string description),
    ("properties", .object [
      fieldSchema rootNameField "string",
      fieldSchema useInterfaceField "boolean",
      fieldSchema optionalPropertiesField "boolean",
      fieldSchema addExportField "boolean"]),
    ("required", .array (fields.map fun f => .string f.camel)),
    ("title", .string "ConvertOptions"),
    ("type", .string "object")]

end JsonShape.Options
