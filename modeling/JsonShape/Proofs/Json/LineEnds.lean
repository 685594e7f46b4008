import JsonShape.Proofs.Json.Containers
import JsonShape.Text.Utf8

/-!
# Reading with other line ends

A carriage return, and a line feed, is a blank between tokens and stands nowhere else: not between
quotes, in a number or in a word.  So a text with unified line ends is read like the text itself.
The two readers go side by side (`Follows`): what one reads, the other reads, too, and what is left
to read is the same with unified line ends (`follows_value`).  Where one fails, the other fails for
the same reason, but it may be at another place (`read_unifyNewlines`).

The readers bound the items of a container by the lengths of their own texts, and a text is shorter
with unified line ends, so each is given a bound of its own.
-/

namespace JsonShape

/-! ### Unified line ends -/

namespace Text

theorem unifyNewlines_cons {c : CodePoint} (hc : c ≠ ('\r' : CodePoint)) (t : Text) :
    unifyNewlines (c :: t) = c :: unifyNewlines t := by
  rw [unifyNewlines, unifyFrom, if_neg hc, Bool.false_and, if_neg (by decide)]
  rfl

theorem unifyNewlines_return (t : Text) :
    unifyNewlines ('\r' :: t) = ('\n' : CodePoint) :: unifyFrom true t := by
  rw [unifyNewlines, unifyFrom, if_pos rfl]

/-- A text is empty, starts with a carriage return, or starts with what is kept as it is. -/
theorem casesReturn {motive : Text → Prop} (nil : motive [])
    (carriage : ∀ t, motive ('\r' :: t))
    (cons : ∀ (c : CodePoint) (t : Text), c ≠ ('\r' : CodePoint) → motive (c :: t)) :
    ∀ t, motive t
  | [] => nil
  | c :: t => if hc : c = ('\r' : CodePoint) then hc ▸ carriage t else cons c t hc

/-- What is no line feed was there before. -/
theorem exists_of_unifyNewlines_eq_cons {c : CodePoint} {t u : Text}
    (h : t.unifyNewlines = c :: u) (hc : c ≠ ('\n' : CodePoint)) :
    ∃ r : Text, t = c :: r ∧ r.unifyNewlines = u := by
  cases t using casesReturn with
  | nil => cases h
  | carriage r =>
    rw [unifyNewlines_return] at h
    exact absurd (List.cons.inj h).1.symm hc
  | cons d r hd =>
    rw [unifyNewlines_cons hd] at h
    obtain ⟨rfl, rfl⟩ := List.cons.inj h
    exact ⟨r, rfl, rfl⟩

theorem unifyNewlines_eq_nil_iff {t : Text} : t.unifyNewlines = [] ↔ t = [] := by
  cases t using casesReturn with
  | nil => exact Iff.rfl
  | carriage t => simp [unifyNewlines_return]
  | cons c t hc => simp [unifyNewlines_cons hc]

/-- At most one line feed is taken away behind a carriage return. -/
theorem length_unifyNewlines_le (t : Text) :
    t.unifyNewlines.length ≤ (unifyFrom true t).length + 1 := by
  cases t with
  | nil => exact Nat.zero_le _
  | cons c t =>
    rw [unifyNewlines, unifyFrom, unifyFrom]
    split
    · exact Nat.le_succ _
    · rw [Bool.false_and, if_neg (by decide), Bool.true_and]
      split
      · exact Nat.le_refl _
      · exact Nat.le_succ _

/-- A text that is shorter is not longer with unified line ends. -/
theorem length_unifyNewlines_of_suffix {r t : Text} (h : r <:+ t) :
    r.unifyNewlines.length ≤ t.unifyNewlines.length := by
  obtain ⟨w, rfl⟩ := h
  induction w with
  | nil => exact Nat.le_refl _
  | cons c w ih =>
    refine Nat.le_trans ih ?_
    rw [List.cons_append]
    by_cases hc : c = ('\r' : CodePoint)
    · rw [hc, unifyNewlines_return]
      exact length_unifyNewlines_le _
    · rw [unifyNewlines_cons hc]
      exact Nat.le_succ _

/-- A word without line ends stands in front of both texts or of none. -/
theorem after?_unifyNewlines {word : Text}
    (hword : ∀ c ∈ word, c ≠ ('\r' : CodePoint) ∧ c ≠ ('\n' : CodePoint)) (t : Text) :
    t.unifyNewlines.after? word = (t.after? word).map unifyNewlines := by
  induction word generalizing t with
  | nil => rw [after?, after?, Option.map_some]
  | cons w word ih =>
    obtain ⟨hw, hrest⟩ := List.forall_mem_cons.1 hword
    cases t using casesReturn with
    | nil => rfl
    | carriage t =>
      rw [unifyNewlines_return, after?, after?, if_neg hw.1.symm, if_neg hw.2.symm]
      rfl
    | cons c t hc =>
      rw [unifyNewlines_cons hc, after?, after?]
      split
      · exact ih hrest t
      · rfl

end Text

namespace Json

open Text

/-! ### Blanks -/

theorem skipBlank_unifyFrom (afterReturn : Bool) (t : Text) :
    skipBlank (unifyFrom afterReturn t) = (skipBlank t).unifyNewlines := by
  induction t generalizing afterReturn with
  | nil => rfl
  | cons c t ih =>
    have hblank {d : CodePoint} (hd : isBlank d = true) (u : Text) :
        skipBlank (d :: u) = skipBlank u := List.dropWhile_cons_of_pos hd
    rw [unifyFrom]
    split
    · next hc =>
      subst hc
      rw [hblank rfl, hblank rfl, ih]
    split
    · next hc =>
      rw [Bool.and_eq_true, decide_eq_true_eq] at hc
      rw [hc.2, hblank rfl, ih]
    · next hr _ =>
      by_cases hc : isBlank c = true
      · rw [hblank hc, hblank hc, ih]
      · have hsolid (u : Text) : skipBlank (c :: u) = c :: u := List.dropWhile_cons_of_neg hc
        rw [hsolid, hsolid, unifyNewlines_cons hr]
        rfl

theorem skipBlank_unifyNewlines (t : Text) :
    skipBlank t.unifyNewlines = (skipBlank t).unifyNewlines :=
  skipBlank_unifyFrom false t

theorem skipBlank_suffix (t : Text) : skipBlank t <:+ t := List.dropWhile_suffix isBlank

/-- Behind blanks both texts end, or go on with the same character. -/
theorem skipBlank_cases (t : Text) :
    (skipBlank t = [] ∧ skipBlank t.unifyNewlines = []) ∨
    ∃ (c : CodePoint) (r : Text), c ≠ ('\r' : CodePoint) ∧ c :: r <:+ t ∧ skipBlank t = c :: r ∧
      skipBlank t.unifyNewlines = c :: r.unifyNewlines := by
  have hunified := skipBlank_unifyNewlines t
  cases h : skipBlank t with
  | nil => exact Or.inl ⟨rfl, by rw [hunified, h]; rfl⟩
  | cons c r =>
    have hsuffix : c :: r <:+ t := h ▸ skipBlank_suffix t
    have hsolid : isBlank c = false := by
      have hhead := List.head?_dropWhile_not isBlank t
      rw [skipBlank] at h
      rw [h] at hhead
      simpa using hhead
    have hc : c ≠ ('\r' : CodePoint) := by
      rintro rfl
      exact absurd hsolid (by decide)
    exact Or.inr ⟨c, r, hc, hsuffix, rfl, by rw [hunified, h, unifyNewlines_cons hc]⟩

/-! ### Answers side by side -/

/-- What an error says, wherever it was met. -/
def ReadError.reason : ReadError → ReadError
  | .missing what _ => .missing what 0
  | .extraData _ => .extraData 0
  | .controlCharacter _ => .controlCharacter 0
  | .unterminatedString _ => .unterminatedString 0
  | .badEscape _ => .badEscape 0
  | .badUnicodeEscape _ => .badUnicodeEscape 0
  | e => e

section Follows

variable {α β : Type} {t : Text}

/-- The second answer is the first one, given for a text with unified line ends: the same was read
from the front of `t`, or reading failed for the same reason. -/
inductive Follows (t : Text) : Except ReadError (α × Text) → Except ReadError (α × Text) → Prop
  | ok (x : α) {r : Text} (hr : r <:+ t) : Follows t (.ok (x, r)) (.ok (x, unifyNewlines r))
  | error {e e' : ReadError} (h : e'.reason = e.reason) : Follows t (.error e) (.error e')

theorem Follows.mono {s : Text} {a b : Except ReadError (α × Text)} (h : Follows s a b)
    (hs : s <:+ t) : Follows t a b := by
  cases h with
  | ok x hr => exact .ok x (hr.trans hs)
  | error h => exact .error h

theorem Follows.bind {a b : Except ReadError (α × Text)}
    {f g : α × Text → Except ReadError (β × Text)} (h : Follows t a b)
    (hf : ∀ (x : α) (r : Text), r <:+ t → Follows t (f (x, r)) (g (x, r.unifyNewlines))) :
    Follows t (a >>= f) (b >>= g) := by
  cases h with
  | ok x hr => exact hf x _ hr
  | error h => exact .error h

end Follows

/-! ### Strings -/

theorem Follows.before {t : Text} {a b : Except ReadError (List Piece × Text)} (h : Follows t a b)
    (p : Piece) : Follows t (p.before a) (p.before b) := by
  cases h with
  | ok ps hr => exact .ok (p :: ps) hr
  | error h => exact .error h

theorem ne_of_hexValue? {c : CodePoint} {n : Nat} (h : c.hexValue? = some n) :
    c ≠ ('\r' : CodePoint) ∧ c ≠ ('\n' : CodePoint) := by
  have hreturn : ('\r' : CodePoint).hexValue? = none := by decide
  have hfeed : ('\n' : CodePoint).hexValue? = none := by decide
  constructor
  · rintro rfl
    rw [hreturn] at h
    cases h
  · rintro rfl
    rw [hfeed] at h
    cases h

/-- A unit has no line end in it. -/
theorem UnitText.unifyNewlines {u : CodePoint} {t r : Text} (h : UnitText u t r) :
    UnitText u t.unifyNewlines r.unifyNewlines := by
  cases h with
  | digits ha hb hc hd =>
    rw [unifyNewlines_cons (by decide), unifyNewlines_cons (by decide),
      unifyNewlines_cons (ne_of_hexValue? ha).1, unifyNewlines_cons (ne_of_hexValue? hb).1,
      unifyNewlines_cons (ne_of_hexValue? hc).1, unifyNewlines_cons (ne_of_hexValue? hd).1]
    exact .digits ha hb hc hd

theorem exists_unitText {u : CodePoint} {t s : Text} (h : UnitText u t.unifyNewlines s) :
    ∃ r : Text, r.unifyNewlines = s ∧ UnitText u t r := by
  generalize hv : t.unifyNewlines = v at h
  cases h with
  | digits ha hb hc hd =>
    obtain ⟨t₁, rfl, h₁⟩ := exists_of_unifyNewlines_eq_cons hv (by decide)
    obtain ⟨t₂, rfl, h₂⟩ := exists_of_unifyNewlines_eq_cons h₁ (by decide)
    obtain ⟨t₃, rfl, h₃⟩ := exists_of_unifyNewlines_eq_cons h₂ (ne_of_hexValue? ha).2
    obtain ⟨t₄, rfl, h₄⟩ := exists_of_unifyNewlines_eq_cons h₃ (ne_of_hexValue? hb).2
    obtain ⟨t₅, rfl, h₅⟩ := exists_of_unifyNewlines_eq_cons h₄ (ne_of_hexValue? hc).2
    obtain ⟨r, rfl, hr⟩ := exists_of_unifyNewlines_eq_cons h₅ (ne_of_hexValue? hd).2
    exact ⟨r, hr, .digits ha hb hc hd⟩

section Pieces

variable {allowed : CodePoint → Bool} {opening : Text}

/-- No unit stands in front with something behind it. -/
def NoUnit (t : Text) : Prop := ∀ u r, UnitText u t r → r = []

theorem NoUnit.unifyNewlines {t : Text} (h : NoUnit t) : NoUnit t.unifyNewlines := by
  intro u s hs
  obtain ⟨r, rfl, hr⟩ := exists_unitText hs
  rw [h u r hr]
  rfl

theorem readPieces_noUnit {t : Text} (h : NoUnit ('\\' :: 'u' :: t)) :
    ∃ left, readPieces allowed opening ('\\' :: 'u' :: t) = .error (.badUnicodeEscape left) := by
  have hq : ('\\' : CodePoint) ≠ ('"' : CodePoint) := by decide
  rw [readPieces.eq_def]
  simp only [if_neg hq, ↓reduceIte]
  split
  · split
    · next hu => exact absurd (h _ _ (.of_unit? _ hu)) (List.cons_ne_nil _ _)
    · exact ⟨_, rfl⟩
  · exact ⟨_, rfl⟩

theorem follows_noUnit {s t : Text} (left : Nat) (h : NoUnit ('\\' :: 'u' :: t)) :
    Follows s (.error (.badUnicodeEscape left))
      (readPieces allowed opening (unifyNewlines ('\\' :: 'u' :: t))) := by
  have hunified := h.unifyNewlines
  rw [unifyNewlines_cons (by decide), unifyNewlines_cons (by decide)] at hunified ⊢
  obtain ⟨left', h'⟩ := @readPieces_noUnit allowed opening _ hunified
  rw [h']
  exact .error rfl

theorem readPieces_noEscape {e : CodePoint} (t : Text) (hu : e ≠ ('u' : CodePoint))
    (he : escape? e = none) :
    readPieces allowed opening ('\\' :: e :: t) = .error (.badEscape (t.length + 2)) := by
  have hq : ('\\' : CodePoint) ≠ ('"' : CodePoint) := by decide
  rw [readPieces.eq_def]
  simp only [if_neg hq, if_neg hu, ↓reduceIte, he]

theorem readPieces_notAllowed {c : CodePoint} (t : Text) (hq : c ≠ ('"' : CodePoint))
    (hb : c ≠ ('\\' : CodePoint)) (hc : ¬ allowed c = true) :
    readPieces allowed opening (c :: t) = .error (.controlCharacter (t.length + 1)) := by
  rw [readPieces.eq_def]
  simp only [if_neg hq, if_neg hb, if_neg hc]

/-- Between quotes a line end is an error, behind a backslash as well. -/
theorem follows_pieces (hr : allowed '\r' = false) (hn : allowed '\n' = false)
    (opening opening' t : Text) :
    Follows t (readPieces allowed opening t) (readPieces allowed opening' t.unifyNewlines) := by
  fun_induction readPieces allowed opening t with
  | case1 => exact .error rfl
  | case2 rest =>
    rw [unifyNewlines_cons (by decide), readPieces_quote]
    exact .ok [] (List.suffix_cons _ _)
  | case3 => exact .error rfl
  | case4 x₁ x₂ x₃ x₄ next rest u hu _ ih =>
    have hunit := UnitText.of_unit? (next :: rest) hu
    have hnext : unifyNewlines (next :: rest) ≠ [] :=
      fun h => List.cons_ne_nil _ _ (unifyNewlines_eq_nil_iff.1 h)
    rw [readPieces_unit hunit.unifyNewlines hnext]
    exact (ih.before _).mono (PieceText.unit hunit).suffix
  | case5 x₁ x₂ x₃ x₄ next rest hu =>
    refine follows_noUnit _ fun u r hunit => ?_
    cases hunit with
    | digits ha hb hc hd => simp [unit?, ha, hb, hc, hd] at hu
  | case6 short hshort =>
    refine follows_noUnit _ fun u r hunit => ?_
    cases hunit with
    | digits ha hb hc hd =>
      cases r with
      | nil => rfl
      | cons next rest => exact absurd rfl (hshort _ _ _ _ _ _)
  | case7 e rest he x hx _ ih =>
    have hreturn : e ≠ ('\r' : CodePoint) := by
      rintro rfl
      cases hx
    rw [unifyNewlines_cons (by decide), unifyNewlines_cons hreturn,
      readPieces_short _ (escape?_eq_some_iff.1 hx)]
    exact (ih.before _).mono ((List.suffix_cons _ _).trans (List.suffix_cons _ _))
  | case8 e rest he hx =>
    rw [unifyNewlines_cons (by decide)]
    by_cases hreturn : e = ('\r' : CodePoint)
    · rw [hreturn, unifyNewlines_return, readPieces_noEscape _ (by decide) (by decide)]
      exact .error rfl
    · rw [unifyNewlines_cons hreturn, readPieces_noEscape _ he hx]
      exact .error rfl
  | case9 c rest hq hb hc ih =>
    have hreturn : c ≠ ('\r' : CodePoint) := by
      rintro rfl
      rw [hr] at hc
      cases hc
    rw [unifyNewlines_cons hreturn, readPieces_plain _ hq hb hc]
    exact (ih.before _).mono (List.suffix_cons _ _)
  | case10 c rest hq hb hc =>
    by_cases hreturn : c = ('\r' : CodePoint)
    · have hfeed : ¬ allowed '\n' = true := by rw [hn]; decide
      rw [hreturn, unifyNewlines_return, readPieces_notAllowed _ (by decide) (by decide) hfeed]
      exact .error rfl
    · rw [unifyNewlines_cons hreturn, readPieces_notAllowed _ hq hb hc]
      exact .error rfl

end Pieces

theorem follows_string (t : Text) :
    Follows t (readString strict.allowed t) (readString strict.allowed t.unifyNewlines) :=
  (follows_pieces (by decide) (by decide) _ _ t).bind fun ps _ hr => .ok (joinPieces ps) hr

/-! ### Numbers and words -/

theorem span_unifyNewlines (t : Text) :
    Numeral.span t.unifyNewlines = ((Numeral.span t).1, (Numeral.span t).2.unifyNewlines) := by
  induction t with
  | nil => rfl
  | cons c t ih =>
    by_cases hc : c = ('\r' : CodePoint)
    · rw [hc, unifyNewlines_return]
      rfl
    · rw [unifyNewlines_cons hc]
      cases hdigit : c.isDigit with
      | true =>
        have hspan (u : Text) :
            Numeral.span (c :: u) = (c :: (Numeral.span u).1, (Numeral.span u).2) := by
          simp [Numeral.span, hdigit]
        rw [hspan, hspan, ih]
      | false =>
        have hspan (u : Text) : Numeral.span (c :: u) = ([], c :: u) := by
          simp [Numeral.span, hdigit]
        rw [hspan, hspan, ← unifyNewlines_cons hc]

theorem takeWhole_unifyNewlines (t : Text) :
    takeWhole t.unifyNewlines = (takeWhole t).map fun x => (x.1, x.2.unifyNewlines) := by
  cases t using casesReturn with
  | nil => rfl
  | carriage t =>
    rw [unifyNewlines_return]
    rfl
  | cons c t hc =>
    have hspan := span_unifyNewlines (c :: t)
    rw [unifyNewlines_cons hc] at hspan ⊢
    rw [takeWhole, takeWhole, hspan]
    split
    · rfl
    split
    · rfl
    · rfl

theorem takeFraction_unifyNewlines (t : Text) :
    takeFraction t.unifyNewlines = ((takeFraction t).1, (takeFraction t).2.unifyNewlines) := by
  cases t using casesReturn with
  | nil => rfl
  | carriage t =>
    rw [unifyNewlines_return]
    rfl
  | cons c t hc =>
    rw [unifyNewlines_cons hc, takeFraction, takeFraction, span_unifyNewlines]
    split
    · obtain ⟨_ | ⟨d, ds⟩, r⟩ := Numeral.span t
      · rw [← unifyNewlines_cons hc]
      · rfl
    · rw [← unifyNewlines_cons hc]

theorem takeSign_unifyNewlines (t : Text) :
    Numeral.takeSign t.unifyNewlines =
      ((Numeral.takeSign t).1, (Numeral.takeSign t).2.unifyNewlines) := by
  cases t using casesReturn with
  | nil => rfl
  | carriage t =>
    rw [unifyNewlines_return]
    rfl
  | cons c t hc =>
    rw [unifyNewlines_cons hc, Numeral.takeSign, Numeral.takeSign]
    split
    · rfl
    split
    · rfl
    · rw [← unifyNewlines_cons hc]

theorem takeExponent_unifyNewlines (t : Text) :
    takeExponent t.unifyNewlines = ((takeExponent t).1, (takeExponent t).2.unifyNewlines) := by
  cases t using casesReturn with
  | nil => rfl
  | carriage t =>
    rw [unifyNewlines_return]
    rfl
  | cons c t hc =>
    rw [unifyNewlines_cons hc, takeExponent, takeExponent, takeSign_unifyNewlines]
    split
    · obtain ⟨negative, u⟩ := Numeral.takeSign t
      dsimp only
      rw [span_unifyNewlines]
      obtain ⟨_ | ⟨d, ds⟩, r⟩ := Numeral.span u
      · rw [← unifyNewlines_cons hc]
      · rfl
    · rw [← unifyNewlines_cons hc]

/-- A number without its sign. -/
def takeUnsigned? (negative : Bool) (t : Text) : Option (NumberToken × Text) :=
  (takeWhole t).map fun x =>
    (⟨negative, x.1, (takeFraction x.2).1, (takeExponent (takeFraction x.2).2).1⟩,
      (takeExponent (takeFraction x.2).2).2)

theorem takeNumber?_cons (c : CodePoint) (t : Text) : takeNumber? (c :: t) =
    if c = '-' then takeUnsigned? true t else takeUnsigned? false (c :: t) := by
  by_cases hc : c = ('-' : CodePoint)
  · simp only [takeNumber?, takeUnsigned?, if_pos hc]
    cases takeWhole t <;> rfl
  · simp only [takeNumber?, takeUnsigned?, if_neg hc]
    cases takeWhole (c :: t) <;> rfl

theorem takeUnsigned?_unifyNewlines (negative : Bool) (t : Text) :
    takeUnsigned? negative t.unifyNewlines =
      (takeUnsigned? negative t).map fun x => (x.1, x.2.unifyNewlines) := by
  rw [takeUnsigned?, takeUnsigned?, takeWhole_unifyNewlines]
  cases takeWhole t with
  | none => rfl
  | some x =>
    simp only [Option.map_some, takeFraction_unifyNewlines, takeExponent_unifyNewlines]

theorem takeNumber?_unifyNewlines (t : Text) :
    takeNumber? t.unifyNewlines = (takeNumber? t).map fun x => (x.1, x.2.unifyNewlines) := by
  cases t using casesReturn with
  | nil => rfl
  | carriage t =>
    rw [unifyNewlines_return]
    rfl
  | cons c t hc =>
    rw [unifyNewlines_cons hc, takeNumber?_cons, takeNumber?_cons]
    split
    · exact takeUnsigned?_unifyNewlines true t
    · rw [← unifyNewlines_cons hc]
      exact takeUnsigned?_unifyNewlines false (c :: t)

theorem follows_bare (t : Text) : Follows t (readBare t) (readBare t.unifyNewlines) := by
  have hword (word : Text) (h : word.all (fun c => c ≠ '\r' && c ≠ '\n') = true) :
      t.unifyNewlines.after? word = (t.after? word).map unifyNewlines := by
    refine after?_unifyNewlines (fun c hc => ?_) t
    simpa using List.all_eq_true.1 h c hc
  have hsuffix {word r : Text} (h : t.after? word = some r) : r <:+ t :=
    eq_append_of_after? h ▸ List.suffix_append _ _
  unfold readBare
  rw [hword "null" (by decide), hword "true" (by decide), hword "false" (by decide),
    hword "NaN" (by decide), hword "Infinity" (by decide), hword "-Infinity" (by decide),
    takeNumber?_unifyNewlines]
  simp only [Option.isSome_map]
  cases hnull : t.after? "null" with
  | some r => exact .ok _ (hsuffix hnull)
  | none =>
  cases htrue : t.after? "true" with
  | some r => exact .ok _ (hsuffix htrue)
  | none =>
  cases hfalse : t.after? "false" with
  | some r => exact .ok _ (hsuffix hfalse)
  | none =>
  dsimp only [Option.map_none]
  split
  · exact .error rfl
  split
  · exact .error rfl
  split
  · exact .error rfl
  cases hnumber : takeNumber? t with
  | none => exact .error rfl
  | some x =>
    obtain ⟨w, -, hw⟩ := numberText_of_takeNumber? hnumber
    dsimp only [Option.map_some]
    cases x.1.number with
    | error e => exact .error rfl
    | ok n => exact .ok _ (hw ▸ List.suffix_append _ _)

/-! ### Containers -/

/-- The bounds are beyond the lengths of the text and of that with unified line ends. -/
def Ample (fuel fuel' : Nat) (t : Text) : Prop :=
  t.length < fuel ∧ t.unifyNewlines.length < fuel'

theorem Ample.mono {fuel fuel' : Nat} {s t : Text} (h : Ample fuel fuel' t) (hs : s <:+ t) :
    Ample fuel fuel' s :=
  ⟨Nat.lt_of_le_of_lt hs.length_le h.1,
    Nat.lt_of_le_of_lt (length_unifyNewlines_of_suffix hs) h.2⟩

theorem Ample.rest {fuel fuel' : Nat} {c : CodePoint} {r t : Text}
    (h : Ample (fuel + 1) (fuel' + 1) t) (hc : c ≠ ('\r' : CodePoint)) (hr : c :: r <:+ t) :
    Ample fuel fuel' r := by
  obtain ⟨hlength, hunified⟩ := h.mono hr
  rw [unifyNewlines_cons hc] at hunified
  exact ⟨Nat.lt_of_succ_lt_succ hlength, Nat.lt_of_succ_lt_succ hunified⟩

/-- The second reader follows the first one as far as the bounds go. -/
def Accords (room room' : Nat) (item item' : ValueReader) : Prop :=
  ∀ t, Ample room room' t → Follows t (item t) (item' t.unifyNewlines)

section Containers

variable {item item' : ValueReader} {room room' : Nat} (hitem : Accords room room' item item')
include hitem

theorem follows_items {fuel fuel' : Nat} {t : Text} (ht : Ample fuel fuel' t)
    (hroom : Ample room room' t) :
    Follows t (readItems item fuel t) (readItems item' fuel' t.unifyNewlines) := by
  induction fuel generalizing fuel' t with
  | zero => exact absurd ht.1 (Nat.not_lt_zero _)
  | succ fuel ih =>
    obtain _ | fuel' := fuel'
    · exact absurd ht.2 (Nat.not_lt_zero _)
    refine (hitem t hroom).bind fun v r hr => ?_
    dsimp only
    rcases skipBlank_cases r with ⟨h, h'⟩ | ⟨c, rest, hc, hsuffix, h, h'⟩ <;> rw [h, h']
    · exact .error rfl
    dsimp only
    have hcons := hsuffix.trans hr
    have hrest := (List.suffix_cons _ _).trans hcons
    split
    · exact .ok _ hrest
    split
    · rw [skipBlank_unifyNewlines]
      have hblank := skipBlank_suffix rest
      have hvs := ih ((ht.rest hc hcons).mono hblank) (hroom.mono (hblank.trans hrest))
      exact (hvs.mono (hblank.trans hrest)).bind fun vs r hr => .ok _ hr
    · exact .error rfl

theorem follows_field {t : Text} (hroom : Ample room room' t) :
    Follows t (readField strict item t) (readField strict item' t.unifyNewlines) := by
  cases t using casesReturn with
  | nil => exact .error rfl
  | carriage t =>
    rw [unifyNewlines_return]
    exact .error rfl
  | cons c t hc =>
    rw [unifyNewlines_cons hc, readField, readField]
    split
    · refine ((follows_string t).mono (List.suffix_cons _ _)).bind fun key r hr => ?_
      dsimp only
      rcases skipBlank_cases r with ⟨h, h'⟩ | ⟨d, rest, -, hsuffix, h, h'⟩ <;> rw [h, h']
      · exact .error rfl
      dsimp only
      have hrest := (List.suffix_cons _ _).trans (hsuffix.trans hr)
      split
      · rw [skipBlank_unifyNewlines]
        have hvalue := (skipBlank_suffix rest).trans hrest
        exact ((hitem _ (hroom.mono hvalue)).mono hvalue).bind fun v r hr => .ok (key, v) hr
      · exact .error rfl
    · exact .error rfl

theorem follows_fields {fuel fuel' : Nat} {t : Text} (ht : Ample fuel fuel' t)
    (hroom : Ample room room' t) :
    Follows t (readFields strict item fuel t) (readFields strict item' fuel' t.unifyNewlines) := by
  induction fuel generalizing fuel' t with
  | zero => exact absurd ht.1 (Nat.not_lt_zero _)
  | succ fuel ih =>
    obtain _ | fuel' := fuel'
    · exact absurd ht.2 (Nat.not_lt_zero _)
    refine (follows_field hitem hroom).bind fun f r hr => ?_
    dsimp only
    rcases skipBlank_cases r with ⟨h, h'⟩ | ⟨c, rest, hc, hsuffix, h, h'⟩ <;> rw [h, h']
    · exact .error rfl
    dsimp only
    have hcons := hsuffix.trans hr
    have hrest := (List.suffix_cons _ _).trans hcons
    split
    · exact .ok _ hrest
    split
    · rw [skipBlank_unifyNewlines]
      have hblank := skipBlank_suffix rest
      have hfs := ih ((ht.rest hc hcons).mono hblank) (hroom.mono (hblank.trans hrest))
      exact (hfs.mono (hblank.trans hrest)).bind fun fs r hr => .ok _ hr
    · exact .error rfl

theorem follows_array {t : Text} (hroom : Ample room room' t) :
    Follows t (readArray item room t) (readArray item' room' t.unifyNewlines) := by
  unfold readArray
  rcases skipBlank_cases t with ⟨h, h'⟩ | ⟨c, rest, hc, hsuffix, h, h'⟩ <;> rw [h, h']
  · exact .error rfl
  dsimp only
  split
  · exact .ok _ ((List.suffix_cons _ _).trans hsuffix)
  · have hvs := follows_items hitem (hroom.mono hsuffix) (hroom.mono hsuffix)
    rw [unifyNewlines_cons hc] at hvs
    exact (hvs.mono hsuffix).bind fun vs r hr => .ok _ hr

theorem follows_object {t : Text} (hroom : Ample room room' t) :
    Follows t (readObject strict item room t) (readObject strict item' room' t.unifyNewlines) := by
  unfold readObject
  rcases skipBlank_cases t with ⟨h, h'⟩ | ⟨c, rest, hc, hsuffix, h, h'⟩ <;> rw [h, h']
  · exact .error rfl
  dsimp only
  split
  · exact .ok _ ((List.suffix_cons _ _).trans hsuffix)
  · have hfs := follows_fields hitem (hroom.mono hsuffix) (hroom.mono hsuffix)
    rw [unifyNewlines_cons hc] at hfs
    exact (hfs.mono hsuffix).bind fun fs r hr => .ok _ hr

end Containers

/-! ### Values -/

section Values

variable {room room' : Nat}

theorem accords_with {inner inner' : Option ValueReader}
    (hinner : Option.Rel (Accords room room') inner inner') :
    Accords room room' (readWith strict inner room) (readWith strict inner' room') := by
  intro t hroom
  cases t using casesReturn with
  | nil => exact .error rfl
  | carriage t =>
    have hbare := follows_bare ('\r' :: t)
    rw [unifyNewlines_return] at hbare ⊢
    exact hbare
  | cons c t hc =>
    have hbare := follows_bare (c :: t)
    have hrest := List.suffix_cons c t
    rw [unifyNewlines_cons hc] at hbare ⊢
    unfold readWith
    dsimp only
    split
    · exact ((follows_string t).mono hrest).bind fun s r hr => .ok _ hr
    split
    · cases hinner with
      | none => exact .error rfl
      | some hitem => exact (follows_array hitem (hroom.mono hrest)).mono hrest
    split
    · cases hinner with
      | none => exact .error rfl
      | some hitem => exact (follows_object hitem (hroom.mono hrest)).mono hrest
    · exact hbare

/-- **Values are read alike**, each reader with a bound of its own. -/
theorem accords_value (depth : Nat) :
    Accords room room' (readValue strict room depth) (readValue strict room' depth) := by
  induction depth with
  | zero => exact accords_with .none
  | succ depth ih => exact accords_with (.some ih)

end Values

theorem head?_unifyNewlines {c : CodePoint} (hr : c ≠ ('\r' : CodePoint))
    (hn : c ≠ ('\n' : CodePoint)) (t : Text) :
    t.unifyNewlines.head? = some c ↔ t.head? = some c := by
  cases t using casesReturn with
  | nil => exact Iff.rfl
  | carriage t =>
    rw [unifyNewlines_return]
    simp [hr.symm, hn.symm]
  | cons d t hd =>
    rw [unifyNewlines_cons hd]
    exact Iff.rfl

/-- **A text is read like that with unified line ends**: to the same value, or not at all, and then
for the same reason. -/
theorem read_unifyNewlines (t : Text) (depth : Nat) :
    (∃ v, read t depth = .ok v ∧ read t.unifyNewlines depth = .ok v) ∨
    ∃ e e', read t depth = .error e ∧ read t.unifyNewlines depth = .error e' ∧
      e'.reason = e.reason := by
  have hmark : t.unifyNewlines.head? = some ('\uFEFF' : CodePoint) ↔
      t.head? = some ('\uFEFF' : CodePoint) :=
    head?_unifyNewlines (by decide) (by decide) t
  rw [read, read, readWithin_eq, readWithin_eq]
  by_cases h : t.head? = some ('\uFEFF' : CodePoint)
  · rw [if_pos h, if_pos (hmark.2 h)]
    exact Or.inr ⟨_, _, rfl, rfl, rfl⟩
  have hroom : Ample (t.length + 1) (t.unifyNewlines.length + 1) t :=
    ⟨Nat.lt_succ_self _, Nat.lt_succ_self _⟩
  have hvalue := accords_value depth _ (hroom.mono (skipBlank_suffix t))
  rw [if_neg h, if_neg (mt hmark.1 h), skipBlank_unifyNewlines]
  revert hvalue
  generalize readValue strict (t.length + 1) depth (skipBlank t) = a
  generalize readValue strict (t.unifyNewlines.length + 1) depth (skipBlank t).unifyNewlines = b
  rintro (@⟨v, r, -⟩ | he)
  · dsimp only [bind, Except.bind, finish]
    rcases skipBlank_cases r with ⟨h, h'⟩ | ⟨c, rest, -, -, h, h'⟩ <;> rw [h, h']
    · exact Or.inl ⟨v, rfl, rfl⟩
    · exact Or.inr ⟨_, _, rfl, rfl, rfl⟩
  · exact Or.inr ⟨_, _, rfl, rfl, he⟩

end Json

end JsonShape
