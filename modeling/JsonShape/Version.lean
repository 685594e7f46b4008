import JsonShape.Text

/-!
# Version
-/

namespace JsonShape

/-- The version of an installed copy. -/
def installedVersion : Text := "0.1.0"

/-- The version that is told; a copy that is not installed has none. -/
def version (installed : Bool) : Text := if installed then installedVersion else "0.0.0"

end JsonShape
