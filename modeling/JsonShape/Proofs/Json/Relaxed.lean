import JsonShape.Json.Relaxed
import JsonShape.Proofs.Json.Containers

/-!
# The relaxed dialect reads JSON

Files are read in a dialect that takes more texts than the grammar derives.  What the grammar does
derive is read there as the same value (`readRelaxed_of_jsonText`).
-/

namespace JsonShape.Json

/-! ### Numbers -/

theorem takeRelaxedFraction_append {ds f r : Text} (h : Fraction ds f)
    (hr : ∀ c ∈ r.head?, CodePoint.isDigit c = false ∧ c ≠ ('.' : CodePoint)) :
    takeRelaxedFraction (f ++ r) = (if f = [] then none else some ds, r) := by
  cases h with
  | none =>
    cases r with
    | nil => rfl
    | cons c r => rw [List.nil_append, takeRelaxedFraction, if_neg (hr c rfl).2, if_pos rfl]
  | point hne hds =>
    rw [List.cons_append, takeRelaxedFraction, if_pos rfl, span_append hds fun c hc => (hr c hc).1,
      if_neg (List.cons_ne_nil _ _)]

theorem startsExponent_of_ends {r : Text} (h : Ends r) : startsExponent r = false := by
  cases r with
  | nil => rfl
  | cons c r => simp [startsExponent, (h.head c rfl).2.2.1, (h.head c rfl).2.2.2]

theorem Whole.all_isDigit {w : Text} (h : Whole w) : w.all CodePoint.isDigit = true := by
  cases h with
  | zero => rfl
  | digits hc _ hds => rw [List.all_cons, hc, hds, Bool.and_self]

/-- The parts of a number of the grammar are the number that it stands for. -/
theorem readRelaxedNumber_append {negative : Bool} {whole fraction f x r : Text}
    {exponent : Option Int} (hw : Whole whole) (hf : Fraction fraction f)
    (hx : Exponent exponent x) (hr : Ends r)
    (hs : NumberToken.IsInteger ⟨negative, whole, fraction, exponent⟩ → Readable whole.length) :
    readRelaxedNumber negative (whole ++ (f ++ (x ++ r))) =
      .ok (.number (NumberToken.value ⟨negative, whole, fraction, exponent⟩), r) := by
  have hxr := hx.head hr
  have hspan := span_append hw.all_isDigit (hf.head hxr)
  have hexp := takeExponent_append hx fun c hc => ⟨(hr.head c hc).1, (hr.head c hc).2.2⟩
  have hne : whole ≠ [] := by
    obtain ⟨c, ds, rfl, -⟩ := hw.head
    exact List.cons_ne_nil c ds
  unfold readRelaxedNumber
  rw [hspan]
  dsimp only
  rw [takeRelaxedFraction_append hf hxr]
  dsimp only
  rw [hexp]
  dsimp only
  rw [startsExponent_of_ends hr, Bool.false_and, if_neg (by decide)]
  cases hf with
  | none =>
    rw [if_pos rfl]
    cases exponent with
    | none =>
      have hint : NumberToken.IsInteger ⟨negative, whole, [], none⟩ := ⟨rfl, rfl⟩
      dsimp only
      rw [if_neg (Nat.not_lt.2 (hs hint)), NumberToken.value, if_pos hint]
      rfl
    | some e =>
      have hint : ¬ NumberToken.IsInteger ⟨negative, whole, [], some e⟩ :=
        fun h => Option.some_ne_none e h.2
      dsimp only [Option.getD_none]
      rw [if_neg (by simp [hne]), NumberToken.value, if_neg hint]
  | point hds hall =>
    have hint : ¬ NumberToken.IsInteger ⟨negative, whole, fraction, exponent⟩ := fun h => hds h.1
    rw [if_neg (List.cons_ne_nil _ _)]
    dsimp only [Option.getD_some]
    rw [if_neg (by simp [hne]), NumberToken.value, if_neg hint]

theorem readRelaxedBare_number {n : NumberToken} {w r : Text} (h : NumberText n w)
    (hs : n.IsInteger → Readable n.whole.length) (hr : Ends r) :
    readRelaxedBare (w ++ r) = .ok (.number n.value, r) := by
  cases h with
  | @parts negative whole fraction f x exponent hw hf hx =>
    have hnumber := readRelaxedNumber_append hw hf hx hr hs
    obtain ⟨c, ds, rfl, hc⟩ := hw.head
    rw [List.append_assoc, List.append_assoc, List.append_assoc]
    rw [List.cons_append] at hnumber ⊢
    have hwords := no_word_before_digit negative hc (ds ++ (f ++ (x ++ r)))
    simp only [bareWords, List.forall_mem_cons] at hwords
    obtain ⟨hnull, htrue, hfalse, hnan, hinf, hminus, -⟩ := hwords
    rw [readRelaxedBare.eq_def, hnull, htrue, hfalse, hnan, hinf, hminus]
    cases negative with
    | true => exact hnumber
    | false =>
      have hminus : c ≠ ('-' : CodePoint) := by rintro rfl; cases hc
      simp only [minus, Bool.false_eq_true, if_false, List.nil_append, if_neg hminus, if_pos hc]
      exact hnumber

/-! ### Words -/

theorem readRelaxedBare_null (r : Text) : readRelaxedBare ("null" ++ r) = .ok (.null, r) := by
  rw [readRelaxedBare.eq_def, after?_append]

theorem readRelaxedBare_true (r : Text) : readRelaxedBare ("true" ++ r) = .ok (.bool true, r) := by
  have hnull : Text.after? ("true" ++ r) "null" = none := rfl
  rw [readRelaxedBare.eq_def, hnull, after?_append]

theorem readRelaxedBare_false (r : Text) :
    readRelaxedBare ("false" ++ r) = .ok (.bool false, r) := by
  have hnull : Text.after? ("false" ++ r) "null" = none := rfl
  have htrue : Text.after? ("false" ++ r) "true" = none := rfl
  rw [readRelaxedBare.eq_def, hnull, htrue, after?_append]

/-! ### Texts -/

instance readsJson_relaxed : relaxed.ReadsJson where
  allowed c h := decide_eq_true fun h0 => absurd h.1 (by omega)
  nullWord := readRelaxedBare_null
  trueWord := readRelaxedBare_true
  falseWord := readRelaxedBare_false
  number := readRelaxedBare_number

/-- **A text of the grammar is read in a file as the value that it stands for.** -/
theorem readRelaxed_of_jsonText {v : Json} {t : Text}
    (h : JsonText Readable maxRelaxedDepth v t) : readRelaxed t = .ok v :=
  readWithin_of_jsonText h

end JsonShape.Json
