import JsonShape.Datum.Literal
import JsonShape.Json.Reader

/-!
# Room on the stack

Reading a nested text, going through the document that it stands for, and displaying a nested value
take room on a stack.  How much there is shows in three ways, and each of them may be less than what
the formats allow.
-/

namespace JsonShape

/-- The room for nested values: how deep a text is read, which documents can be gone through to
their innermost level afterwards, and which loose values can be displayed. -/
structure Stack where
  depth : Nat
  bears : Document → Bool
  shows : Datum → Bool

namespace Stack

/-- The room that there is: what is read can be gone through and displayed. -/
def standard : Stack := ⟨Json.maxDepth, fun _ => true, fun _ => true⟩

/-- What a datum is displayed as; a text takes no room. -/
def display (stack : Stack) : Datum → Except Datum.DisplayError Text
  | .text t => .ok t
  | d => if stack.shows d then d.display else .error .tooDeep

end Stack

end JsonShape
