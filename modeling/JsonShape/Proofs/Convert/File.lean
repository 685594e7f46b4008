import JsonShape.Convert.File
import JsonShape.Proofs.Convert.Report
import JsonShape.Proofs.Json.LineEnds

/-!
# A file is converted like its text

Line ends are unified when a file is read.  The document does not depend on them, and neither does
the reason why there is none (`convertText_unifyNewlines`), so a file is converted like the text
that its bytes encode (`convertFile_alike`).  Only the place that a message names may differ.
-/

namespace JsonShape

/-! ### Messages -/

section Messages

variable (t t' : Text)

/-- Messages about the two texts that differ, if at all, in the places that they name. -/
inductive SameWords : Text → Text → Prop
  | unplaced (m : Text) : SameWords m m
  | placed (words : Text) (left left' : Nat) :
    SameWords (words ++ ": " ++ Json.placeText t left) (words ++ ": " ++ Json.placeText t' left')

/-- Errors with one reason are told in the same words. -/
theorem Json.ReadError.sameWords {e e' : ReadError} (h : e'.reason = e.reason) :
    SameWords t t' (e.message t) (e'.message t') := by
  cases e with
  | nonFinite | tooManyDigits | tooDeep =>
    cases e' <;> cases h
    exact .unplaced _
  | _ =>
    cases e' <;> cases h
    exact .placed _ _ _

/-- Failures of one kind: both texts are unreadable for the same reason, or have a scalar root. -/
inductive ConvertError.Alike : ConvertError → ConvertError → Prop
  | unreadable {e e' : Json.ReadError} (h : e'.reason = e.reason) :
    Alike (.unreadable t e) (.unreadable t' e')
  | scalarRoot : Alike .scalarRoot .scalarRoot

variable {t t'}

theorem ConvertError.Alike.sameWords {e e' : ConvertError} (h : Alike t t' e e') :
    SameWords t t' e.message e'.message := by
  cases h with
  | unreadable h => exact Json.ReadError.sameWords t t' h
  | scalarRoot => exact .unplaced _

end Messages

/-! ### Texts -/

/-- A text is converted like that with unified line ends, or fails like it. -/
theorem convertText_unifyNewlines (o : Options) (t : Text) (stack : Stack) :
    (∃ output, convertText o t stack = .ok output ∧
      convertText o t.unifyNewlines stack = .ok output) ∨
    ∃ e e', convertText o t stack = .error e ∧
      convertText o t.unifyNewlines stack = .error e' ∧
      ConvertError.Alike t t.unifyNewlines e e' := by
  unfold convertText Document.ofText?
  rcases Json.read_unifyNewlines t stack.depth with ⟨v, h, h'⟩ | ⟨e, e', h, h', hreason⟩
  · rw [h, h']
    dsimp only
    cases v.document? with
    | none => exact Or.inr ⟨_, _, rfl, rfl, .scalarRoot⟩
    | some d =>
      dsimp only
      split
      · exact Or.inl ⟨_, rfl, rfl⟩
      · exact Or.inr ⟨_, _, rfl, rfl, .unreadable rfl⟩
  · rw [h, h']
    exact Or.inr ⟨_, _, rfl, rfl, .unreadable hreason⟩

/-! ### Files -/

theorem convertFile_of_decode {files : FileTree} {p : Path} {b : Bytes} {t : Text} (o : Options)
    (stack : Stack) (hb : files.readBytes p = .ok b) (ht : Utf8.decode b = some t) :
    convertFile files p o stack = .ok (convert o t.unifyNewlines stack) := by
  have hread : files.readText p = .ok t.unifyNewlines := by
    rw [FileTree.readText, hb]
    dsimp only
    rw [ht]
  rw [convertFile, hread]
  rfl

/-- **Reading a file does not change the conversion.**  A file whose bytes encode a text is
answered.  It is converted just where the text is, on the same stack, and then to the same output;
where both fail they do so for the same reason, and the messages differ in the place at most. -/
theorem convertFile_alike {files : FileTree} {p : Path} {b : Bytes} {t : Text} (o : Options)
    (stack : Stack) (hb : files.readBytes p = .ok b) (ht : Utf8.decode b = some t) :
    ∃ r, convertFile files p o stack = .ok r ∧
      (r.success = true ↔ (convert o t stack).success = true) ∧
      (r.success = true → r = convert o t stack) ∧
      (r.success = false → ∃ e e', convertText o t stack = .error e ∧
        convertText o t.unifyNewlines stack = .error e' ∧
        ConvertError.Alike t t.unifyNewlines e e' ∧
        ∃ m m', (convert o t stack).error = some m ∧ r.error = some m' ∧
          SameWords t t.unifyNewlines m m') := by
  refine ⟨_, convertFile_of_decode o stack hb ht, ?_⟩
  rcases convertText_unifyNewlines o t stack with ⟨output, h, h'⟩ | ⟨e, e', h, h', halike⟩
  · rw [convert_of_ok h, convert_of_ok h']
    exact ⟨Iff.rfl, fun _ => rfl, nofun⟩
  · rw [convert_of_error h, convert_of_error h']
    exact ⟨Iff.rfl, nofun, fun _ => ⟨e, e', h, h', halike, _, _, rfl, rfl, halike.sameWords⟩⟩

/-- An array that is not finished is missing something in another place of its file. -/
theorem convertFile_alike_unfinished :
    let b : Bytes := [0x5B, 0x0D, 0x0A]
    let files := FileTree.put default ["a.json"] (.file b)
    files.readBytes (Path.ofText "a.json") = .ok b ∧ Utf8.decode b = some "[\r\n" ∧
      (convert .standard "[\r\n").error = some "Expecting value: line 2 column 1 (char 3)" ∧
      ∃ r, convertFile files (Path.ofText "a.json") .standard = .ok r ∧ r.success = false ∧
        r.error = some "Expecting value: line 2 column 1 (char 2)" ∧
        SameWords "[\r\n" (Text.unifyNewlines "[\r\n") "Expecting value: line 2 column 1 (char 3)"
          "Expecting value: line 2 column 1 (char 2)" := by
  intro b files
  have hb : files.readBytes (Path.ofText "a.json") = .ok b := rfl
  have ht : Utf8.decode b = some "[\r\n" := rfl
  have htext : (convert .standard "[\r\n").error =
      some "Expecting value: line 2 column 1 (char 3)" := rfl
  have hfailed : (convert .standard "[\r\n").success = false := rfl
  obtain ⟨r, hr, hsuccess, -, hfails⟩ := convertFile_alike .standard .standard hb ht
  have hfile : r.success = false := by
    rw [Bool.eq_false_iff, ne_eq, hsuccess, hfailed]
    decide
  have herror : r.error = some "Expecting value: line 2 column 1 (char 2)" := by
    have heq : convert .standard "[\n" = r := Except.ok.inj hr
    rw [← heq]
    rfl
  obtain ⟨e, e', -, -, -, m, m', hm, hm', hwords⟩ := hfails hfile
  obtain rfl := Option.some.inj (htext.symm.trans hm)
  obtain rfl := Option.some.inj (herror.symm.trans hm')
  exact ⟨hb, ht, htext, r, hr, hfile, herror, hwords⟩

end JsonShape
