import JsonShape.Naming
import JsonShape.Options
import JsonShape.Shape

/-!
# Declarations

A declaration gives a name a definition: a record of properties, or an alias of a shape.
-/

namespace JsonShape

/-- A property of a record. -/
structure Property where
  key : Text
  shape : Shape
  optional : Bool

/-- The key as it heads the line of a property. -/
def Property.heading (p : Property) : Text := Key.text p.key

/-- The line of a property. -/
def Property.text (p : Property) : Text :=
  "  " ++ p.heading ++ (if p.optional then "?" else "") ++ ": " ++ p.shape.text ++ ";"

/-- What a name is declared to be. -/
inductive Definition
  | record (properties : List Property)
  | alias (target : Shape)

namespace Definition

/-- The properties of a definition; an alias has a single one, named `value`, for its target. -/
def properties : Definition → List Property
  | .record ps => ps
  | .alias target => [⟨"value", target, false⟩]

/-- The lines between the braces of a record. -/
def bodyText (ps : List Property) : Text := Text.join "\n" (ps.map Property.text)

/-- The declaration of `name`. -/
def text (o : Options) (name : Text) : Definition → Text
  | .alias target => o.exportText ++ "type " ++ name ++ " = " ++ target.text ++ ";"
  | .record ps =>
    if o.useInterface then
      o.exportText ++ "interface " ++ name ++ " \x7b\n" ++ bodyText ps ++ "\n\x7d"
    else o.exportText ++ "type " ++ name ++ " = \x7b\n" ++ bodyText ps ++ "\n\x7d;"

end Definition

end JsonShape
