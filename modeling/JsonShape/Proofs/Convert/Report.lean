import JsonShape.Convert
import JsonShape.Datum.Literal
import JsonShape.Proofs.Json.Depth

/-!
# Every text is answered

`convert` gives the text of the declarations, or else the message of what went wrong.  Whatever is
read can be made a tree (`ofDatum?_ofJson`), no answer is refused (`report_eq`), and the message
about nesting is told apart from all others by its words (`message_eq_nesting_iff`), so it is given
exactly if the stack ran out (`convertText_tooDeep_iff`).
-/

namespace JsonShape

/-! ### Trees of what is read -/

namespace Json

mutual

/-- A value that is taken for a loose one is found again. -/
theorem ofDatum?_ofJson : ∀ v : Json, ofDatum? (Datum.ofJson v) = .ok v
  | .null | .bool _ | .number (.int _) | .number (.double _) | .string _ => rfl
  | .array items => by
    rw [Datum.ofJson, ofDatum?, ofItems?_ofItems items]
    rfl
  | .object fields => by
    rw [Datum.ofJson, ofDatum?, ofEntries?_ofFields fields]
    rfl

theorem ofItems?_ofItems : ∀ items : List Json, ofItems? (Datum.ofItems items) = .ok items
  | [] => rfl
  | v :: vs => by
    rw [Datum.ofItems, ofItems?, ofDatum?_ofJson v, ofItems?_ofItems vs]
    rfl

theorem ofEntries?_ofFields : ∀ fields : List (Text × Json),
    ofEntries? (Datum.ofFields fields) = .ok fields
  | [] => rfl
  | (k, v) :: fs => by
    rw [Datum.ofFields, ofEntries?, ofDatum?_ofJson v, ofEntries?_ofFields fs]
    rfl

end

/-! ### Words about nesting -/

/-- No other message starts like the one about nesting. -/
theorem ReadError.after?_message {t : Text} {e : ReadError} (h : e ≠ .tooDeep) :
    (e.message t).after? "Inp" = none := by
  cases e with
  | tooDeep => exact absurd rfl h
  | missing what left => cases what <;> rfl
  | _ => rfl

theorem ReadError.message_eq_nesting_iff {t : Text} {e : ReadError} :
    e.message t = "Input is nested too deeply" ↔ e = .tooDeep := by
  refine ⟨fun h => ?_, fun h => h ▸ rfl⟩
  by_cases he : e = .tooDeep
  · exact he
  · have hstart := after?_message (t := t) he
    rw [h] at hstart
    cases hstart

end Json

theorem ConvertError.message_eq_nesting_iff {e : ConvertError} :
    e.message = "Input is nested too deeply" ↔ ∃ t, e = .unreadable t .tooDeep := by
  cases e with
  | unreadable t e => simp [message, Json.ReadError.message_eq_nesting_iff]
  | scalarRoot =>
    refine iff_of_false (fun h => ?_) (by simp)
    -- both start with `Input `, so the words after that are compared
    have hrest := congrArg (List.drop 6) h
    revert hrest
    decide

/-! ### Room -/

namespace Stack

/-- More room would change the reading of a text, or there is too little of it to go through the
document that was read. -/
def RunsOut (stack : Stack) (t : Text) : Prop :=
  (∃ more, stack.depth ≤ more ∧ Json.read t more ≠ Json.read t stack.depth) ∨
    ∃ d, Document.ofText? t stack.depth = .ok d ∧ stack.bears d = false

end Stack

theorem Document.ofText?_of_tooDeep {t : Text} {depth : Nat}
    (h : Json.read t depth = .error .tooDeep) :
    Document.ofText? t depth = .error (.unreadable t .tooDeep) := by
  rw [Document.ofText?, h]

theorem Document.read_of_ofText?_tooDeep {t u : Text} {depth : Nat}
    (h : Document.ofText? t depth = .error (.unreadable u .tooDeep)) :
    Json.read t depth = .error .tooDeep := by
  unfold Document.ofText? at h
  split at h
  · next e he =>
    cases h
    exact he
  · split at h <;> cases h

theorem convertText_tooDeep_iff {o : Options} {t : Text} {stack : Stack} :
    (∃ u, convertText o t stack = .error (.unreadable u .tooDeep)) ↔ stack.RunsOut t := by
  unfold convertText Stack.RunsOut
  rw [← Json.read_tooDeep_iff]
  cases hd : Document.ofText? t stack.depth with
  | error e =>
    refine ⟨fun ⟨u, hu⟩ => ?_, fun h => ?_⟩
    · cases hu
      exact Or.inl (Document.read_of_ofText?_tooDeep hd)
    · rcases h with h | ⟨d, h, -⟩
      · rw [Document.ofText?_of_tooDeep h] at hd
        cases hd
        exact ⟨t, rfl⟩
      · cases h
  | ok d =>
    refine ⟨fun ⟨u, hu⟩ => Or.inr ⟨d, rfl, ?_⟩, fun h => ?_⟩
    · cases hb : stack.bears d
      · rfl
      · simp [hb] at hu
    · rcases h with h | ⟨d', h, hb⟩
      · rw [Document.ofText?_of_tooDeep h] at hd
        cases hd
      · cases h
        exact ⟨t, by simp [hb]⟩

/-! ### Answers -/

theorem convert_of_ok {o : Options} {t output : Text} {stack : Stack}
    (h : convertText o t stack = .ok output) : convert o t stack = .succeeded output :=
  Except.ok.inj ((report_eq o t stack).symm.trans (report_of_ok h))

theorem convert_of_error {o : Options} {t : Text} {e : ConvertError} {stack : Stack}
    (h : convertText o t stack = .error e) :
    convert o t stack = .failed e.message e.message_ne_nil :=
  Except.ok.inj ((report_eq o t stack).symm.trans (report_of_error h))

theorem error_eq_nesting_iff {o : Options} {t : Text} {stack : Stack} :
    (convert o t stack).error = some "Input is nested too deeply" ↔ stack.RunsOut t := by
  rw [← convertText_tooDeep_iff (o := o)]
  cases h : convertText o t stack with
  | ok output => simp [convert_of_ok h, Outcome.succeeded]
  | error e => simp [convert_of_error h, Outcome.failed, ConvertError.message_eq_nesting_iff]

example : (convert .standard "[[]]" ⟨1, fun _ => true, fun _ => true⟩).error =
    some "Input is nested too deeply" := by
  rfl

/-- **Every text is answered, and the answer says what happened.**  No answer is refused, and
whatever is read has a tree.  A text that can be converted is answered with its declarations alone,
any other with a message alone; that is the one about nesting exactly if the stack ran out. -/
theorem convert_reports_exactly (o : Options) (t : Text) (stack : Stack) :
    report o t stack = .ok (convert o t stack) ∧
    (∀ v : Json, Json.ofDatum? (Datum.ofJson v) = .ok v) ∧
    (match convertText o t stack with
      | .ok output =>
        (convert o t stack).success = true ∧ (convert o t stack).error = none ∧
          (convert o t stack).output = output
      | .error e =>
        (convert o t stack).success = false ∧ (convert o t stack).output = [] ∧
          (convert o t stack).error = some e.message ∧ e.message ≠ []) ∧
    ((convert o t stack).error = some "Input is nested too deeply" ↔ stack.RunsOut t) := by
  refine ⟨report_eq o t stack, Json.ofDatum?_ofJson, ?_, error_eq_nesting_iff⟩
  cases h : convertText o t stack with
  | ok output =>
    rw [convert_of_ok h]
    exact ⟨rfl, rfl, rfl⟩
  | error e =>
    rw [convert_of_error h]
    exact ⟨rfl, rfl, rfl, e.message_ne_nil⟩

end JsonShape
