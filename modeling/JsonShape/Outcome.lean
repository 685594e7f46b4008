import JsonShape.Options.Check

/-!
# Outcomes

What a conversion answers.  Outcomes are taken from loose values field by field, like options; a
failed one must say why and may carry no output.
-/

namespace JsonShape

/-- The result of a conversion.  A failed one carries no output, and says why. -/
structure Outcome where
  success : Bool
  output : Text
  error : Option Text
  output_eq_nil : success = false → output = [] := by simp
  error_ne : success = false → ∃ e, error = some e ∧ e ≠ [] := by simp

namespace Outcome

/-- A successful outcome; it may say something beside its output. -/
def succeeded (output : Text) (error : Option Text := none) : Outcome :=
  { success := true, output, error }

/-- A failed outcome, which says why. -/
def failed (message : Text) (h : message ≠ []) : Outcome :=
  { success := false, output := [], error := some message, error_ne := by simp [h] }

/-! ### Checked fields -/

/-- The outcome of three values, if they keep the rule for failures. -/
def ofParts : (success : Bool) → (output : Text) → (error : Option Text) → Except Issue Outcome
  | true, output, error => .ok (.succeeded output error)
  | false, [], some (c :: rest) => .ok (.failed (c :: rest) (List.cons_ne_nil c rest))
  | false, _ :: _, _ => .error ⟨[], .rule "failed results must not carry output"⟩
  | false, [], _ => .error ⟨[], .rule "failed results require an error message"⟩

/-- The value of a field that may be left out. -/
def readField {α : Type} (name : Text) (fallback : Except Issue α)
    (accept : Datum → Except Trouble α) (data : List (Text × Datum)) : Except Issue α :=
  match lookup? name data with
  | none => fallback
  | some d => (accept d).mapError fun t => ⟨[name], t⟩

/-- A text or nothing. -/
def acceptError : Datum → Except Trouble (Option Text)
  | .null => .ok none
  | d => (acceptText d).map some

/-- **The outcome that fields give.**  Other keys are passed over. -/
def ofFields (data : List (Text × Datum)) : Except (List Issue) Outcome :=
  let success := readField "success" (.error ⟨["success"], .missing⟩) acceptBool data
  let output := readField "output" (.ok []) acceptText data
  let error := readField "error" (.ok none) acceptError data
  match success, output, error with
  | .ok s, .ok o, .ok e => (ofParts s o e).mapError fun i => [i]
  | _, _, _ => .error (issuesOf success ++ issuesOf output ++ issuesOf error)

/-- The outcome for an output, checked. -/
def ofOutput (output : Text) : Except (List Issue) Outcome :=
  ofFields [("success", .bool true), ("output", .text output)]

/-- The outcome for the message of a failure, checked. -/
def ofMessage (message : Text) : Except (List Issue) Outcome :=
  ofFields [("success", .bool false), ("output", .text []), ("error", .text message)]

theorem ofOutput_eq (output : Text) : ofOutput output = .ok (.succeeded output) := by
  rfl

/-- A failure without a message would be refused. -/
theorem ofMessage_eq {message : Text} (h : message ≠ []) :
    ofMessage message = .ok (.failed message h) := by
  cases message with
  | nil => exact absurd rfl h
  | cons c rest => rfl

end Outcome

end JsonShape
