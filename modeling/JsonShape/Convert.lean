import JsonShape.Json.Reader
import JsonShape.Outcome
import JsonShape.Registry.Layout
import JsonShape.Stack

/-!
# Conversion

From the text of a JSON document to the text of its declarations.  The root of the document is
declared under the root name: an object as a record, an array as an alias.  The first element of an
array of objects is declared beside it.

A text that is nested too deeply for the stack is a failure like any other.
-/

namespace JsonShape

/-- Why a text could not be converted. -/
inductive ConvertError
  | unreadable (text : Text) (reason : Json.ReadError)
  | scalarRoot

/-- The words of a failure. -/
def ConvertError.message : ConvertError → Text
  | .unreadable t e => e.message t
  | .scalarRoot => "Input must be a JSON object or array"

theorem ConvertError.message_ne_nil (e : ConvertError) : e.message ≠ [] := by
  cases e with
  | unreadable t e => exact e.message_ne_nil t
  | scalarRoot => simp [ConvertError.message, Text.ofString]

/-! ### Documents -/

namespace Document

/-- The document that a text stands for, nested at most `depth` deep. -/
def ofText? (t : Text) (depth : Nat := Json.maxDepth) : Except ConvertError Document :=
  match Json.read t depth with
  | .error e => .error (.unreadable t e)
  | .ok v =>
    match v.document? with
    | some d => .ok d
    | none => .error .scalarRoot

/-- The registry of a document that is an object or an array led by one; the alias for such an array
is registered after the record of its first element. -/
def registry? (o : Options) : Document → Option Registry
  | .object fields => some (Registry.declare o.optionalProperties o.rootName fields ∅)
  | .array (.object fields :: _) =>
    let item := o.rootName ++ Name.itemSuffix
    some ((Registry.declare o.optionalProperties item fields ∅).insert o.rootName
      (.alias (.array (.named item))))
  | .array _ => none

/-- The declarations of a document, in the order in which they are written.  Any other array needs
no registry: its alias is all there is. -/
def declared (o : Options) (d : Document) : List (Text × Definition) :=
  match d.registry? o with
  | some reg => ordered o.rootName reg
  | none => [(o.rootName, .alias (.of d.root))]

/-- The text of a document's declarations. -/
def declarations (o : Options) (d : Document) : Text := assembled o (d.declared o)

end Document

/-! ### Texts -/

/-- The declarations for the text of a document. -/
def convertText (o : Options) (t : Text) (stack : Stack := .standard) : Except ConvertError Text :=
  match Document.ofText? t stack.depth with
  | .error e => .error e
  | .ok d => if stack.bears d then .ok (d.declarations o) else .error (.unreadable t .tooDeep)

/-- What is answered to a text, unless the answer itself is refused. -/
def report (o : Options) (t : Text) (stack : Stack := .standard) : Except (List Issue) Outcome :=
  match convertText o t stack with
  | .ok output => Outcome.ofOutput output
  | .error e => Outcome.ofMessage e.message

theorem report_of_ok {o : Options} {t output : Text} {stack : Stack}
    (h : convertText o t stack = .ok output) : report o t stack = .ok (.succeeded output) := by
  rw [report, h]
  exact Outcome.ofOutput_eq output

theorem report_of_error {o : Options} {t : Text} {e : ConvertError} {stack : Stack}
    (h : convertText o t stack = .error e) :
    report o t stack = .ok (.failed e.message e.message_ne_nil) := by
  rw [report, h]
  exact Outcome.ofMessage_eq e.message_ne_nil

/-- No answer is refused. -/
theorem report_ne_error (o : Options) (t : Text) (stack : Stack) (issues : List Issue) :
    report o t stack ≠ .error issues := by
  cases h : convertText o t stack with
  | ok output => simp [report_of_ok h]
  | error e => simp [report_of_error h]

/-- **Converts a text**, and never fails to answer. -/
def convert (o : Options) (t : Text) (stack : Stack := .standard) : Outcome :=
  match h : report o t stack with
  | .ok r => r
  | .error issues => absurd h (report_ne_error o t stack issues)

theorem report_eq (o : Options) (t : Text) (stack : Stack) :
    report o t stack = .ok (convert o t stack) := by
  unfold convert
  split
  · next r h => exact h
  · next issues h => exact absurd h (report_ne_error o t stack issues)

end JsonShape
