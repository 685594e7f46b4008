import JsonShape.Text

/-!
# Options

The four choices that a conversion takes.
-/

namespace JsonShape

/-- How declarations are to be written. -/
structure Options where
  /-- The name of the declaration for the document's root. -/
  rootName : Text
  /-- Records are interfaces, not aliases of object types. -/
  useInterface : Bool
  /-- Every property of a record is optional. -/
  optionalProperties : Bool
  /-- Every declaration is exported. -/
  addExport : Bool
deriving DecidableEq

namespace Options

/-- The options that hold where none are given. -/
def standard : Options := ⟨"Root", true, false, false⟩

/-- What stands before each declaration. -/
def exportText (o : Options) : Text := if o.addExport then "export " else []

end Options

end JsonShape
