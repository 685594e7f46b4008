import JsonShape.Proofs.Json.Depth
import JsonShape.Proofs.Json.Grammar

/-!
# Reading scalars

The readers of strings, numbers and bare words take texts of the grammar and nothing else.  A
string ends with its quote, so it is read whatever follows (`readString_of_text`); a number is read
as far as it goes, which is to its end if nothing follows that it could go on with
(`takeNumber?_append`).
-/

namespace JsonShape.Json

/-! ### Strings -/

theorem escape?_eq_some_iff {e c : CodePoint} : escape? e = some c ↔ (e, c) ∈ shortEscapes := by
  constructor
  · intro h
    unfold escape? at h
    repeat' split at h
    all_goals cases h
    all_goals
      subst e
      decide
  · intro h
    have hall : shortEscapes.all (fun p => escape? p.1 = some p.2) = true := by decide
    exact of_decide_eq_true (List.all_eq_true.1 hall _ h)

theorem UnitText.of_unit? {a b c d u : CodePoint} (r : Text) (h : unit? a b c d = some u) :
    UnitText u ('\\' :: 'u' :: a :: b :: c :: d :: r) r := by
  unfold unit? at h
  split at h
  · next ha hb hc hd =>
    rw [← Option.some.inj h]
    exact .digits ha hb hc hd
  · cases h

section Pieces

variable {allowed : CodePoint → Bool} {opening : Text}

theorem readPieces_quote (r : Text) : readPieces allowed opening ('"' :: r) = .ok ([], r) := by
  rw [readPieces.eq_def]
  rfl

theorem readPieces_plain {c : CodePoint} (r : Text) (hq : c ≠ ('"' : CodePoint))
    (hb : c ≠ ('\\' : CodePoint)) (ha : allowed c = true) :
    readPieces allowed opening (c :: r) =
      (Piece.plain c).before (readPieces allowed opening r) := by
  rw [readPieces.eq_def]
  simp only [if_neg hq, if_neg hb, if_pos ha]

theorem readPieces_short {e c : CodePoint} (r : Text) (h : (e, c) ∈ shortEscapes) :
    readPieces allowed opening ('\\' :: e :: r) =
      (Piece.plain c).before (readPieces allowed opening r) := by
  have hall : shortEscapes.all (fun p => p.1 ≠ ('u' : CodePoint)) = true := by decide
  have hu : e ≠ ('u' : CodePoint) := of_decide_eq_true (List.all_eq_true.1 hall _ h)
  have hq : ('\\' : CodePoint) ≠ ('"' : CodePoint) := by decide
  rw [readPieces.eq_def]
  simp only [if_neg hq, if_neg hu, ↓reduceIte, escape?_eq_some_iff.2 h]

/-- The digits of a unit may not be the last thing in a text. -/
theorem readPieces_unit {u : CodePoint} {t r : Text} (h : UnitText u t r) (hr : r ≠ []) :
    readPieces allowed opening t = (Piece.unit u).before (readPieces allowed opening r) := by
  cases h with
  | digits ha hb hc hd =>
    obtain ⟨next, rest, rfl⟩ := List.exists_cons_of_ne_nil hr
    have hq : ('\\' : CodePoint) ≠ ('"' : CodePoint) := by decide
    rw [readPieces.eq_def]
    simp only [if_neg hq, ↓reduceIte, unit?, ha, hb, hc, hd]

end Pieces

theorem PiecesText.ne_nil {ps : List Piece} {t r : Text} (h : PiecesText ps t r) : t ≠ [] := by
  cases h with
  | quote => simp
  | cons h _ =>
    cases h with
    | plain | short => simp
    | unit h =>
      cases h
      simp

theorem readPieces_of_text {allowed : CodePoint → Bool}
    (hallowed : ∀ c, Unescaped c → allowed c = true) {ps : List Piece} {t r : Text}
    (opening : Text) (h : PiecesText ps t r) : readPieces allowed opening t = .ok (ps, r) := by
  induction h with
  | quote => exact readPieces_quote _
  | cons h hs ih =>
    cases h with
    | plain hc =>
      rw [readPieces_plain _ hc.2.1 hc.2.2 (hallowed _ hc), ih]
      rfl
    | short he =>
      rw [readPieces_short _ he, ih]
      rfl
    | unit h =>
      rw [readPieces_unit h hs.ne_nil, ih]
      rfl

theorem Piece.before_eq_ok {p : Piece} {a : Except ReadError (List Piece × Text)}
    {ps : List Piece} {r : Text} (h : p.before a = .ok (ps, r)) :
    ∃ qs, a = .ok (qs, r) ∧ ps = p :: qs := by
  cases a with
  | error e => cases h
  | ok x =>
    cases h
    exact ⟨x.1, rfl, rfl⟩

theorem text_of_readPieces {ps : List Piece} {opening t r : Text}
    (h : readPieces strict.allowed opening t = .ok (ps, r)) : PiecesText ps t r := by
  fun_induction readPieces strict.allowed opening t generalizing ps with
  | case1 | case3 | case5 | case6 | case8 | case10 => cases h
  | case2 rest =>
    cases h
    exact .quote
  | case4 _ _ _ _ _ _ _ hu _ ih =>
    obtain ⟨qs, hqs, rfl⟩ := Piece.before_eq_ok h
    exact .cons (.unit (.of_unit? _ hu)) (ih hqs)
  | case7 _ _ _ _ he _ ih =>
    obtain ⟨qs, hqs, rfl⟩ := Piece.before_eq_ok h
    exact .cons (.short (escape?_eq_some_iff.1 he)) (ih hqs)
  | case9 c rest hq hb ha ih =>
    obtain ⟨qs, hqs, rfl⟩ := Piece.before_eq_ok h
    exact .cons (.plain ⟨of_decide_eq_true ha, hq, hb⟩) (ih hqs)

/-- A string is read whatever follows it. -/
theorem readString_of_text {allowed : CodePoint → Bool}
    (hallowed : ∀ c, Unescaped c → allowed c = true) {s t r : Text}
    (h : StringText s ('"' :: t) r) : readString allowed t = .ok (s, r) := by
  cases h with
  | quoted h =>
    rw [readString, readPieces_of_text hallowed _ h]
    rfl

theorem text_of_readString {s t r : Text} (h : readString strict.allowed t = .ok (s, r)) :
    StringText s ('"' :: t) r := by
  unfold readString at h
  cases hp : readPieces strict.allowed ('"' :: t) t with
  | error e =>
    rw [hp] at h
    cases h
  | ok x =>
    rw [hp] at h
    cases h
    exact .quoted (text_of_readPieces hp)

/-! ### Numbers -/

theorem span_append {ds r : Text} (hds : ds.all CodePoint.isDigit = true)
    (hr : ∀ c ∈ r.head?, CodePoint.isDigit c = false) : Numeral.span (ds ++ r) = (ds, r) := by
  have hall : ∀ c ∈ ds, CodePoint.isDigit c = true := List.all_eq_true.1 hds
  unfold Numeral.span
  rw [List.takeWhile_append_of_pos hall, List.dropWhile_append_of_pos hall]
  cases r with
  | nil => simp
  | cons c r =>
    have hc : ¬ CodePoint.isDigit c = true := by simp [hr c rfl]
    rw [List.takeWhile_cons_of_neg hc, List.dropWhile_cons_of_neg hc, List.append_nil]

theorem all_span (t : Text) : (Numeral.span t).1.all CodePoint.isDigit = true := List.all_takeWhile

theorem span_append_eq (t : Text) : (Numeral.span t).1 ++ (Numeral.span t).2 = t :=
  List.takeWhile_append_dropWhile

theorem takeWhole_append {w r : Text} (h : Whole w)
    (hr : ∀ c ∈ r.head?, CodePoint.isDigit c = false) : takeWhole (w ++ r) = some (w, r) := by
  cases h with
  | zero => rfl
  | @digits c ds hc h0 hds =>
    have hall : (c :: ds).all CodePoint.isDigit = true := by simp [hc, hds]
    rw [List.cons_append, takeWhole, if_neg h0, if_pos hc, ← List.cons_append,
      span_append hall hr]

theorem whole_of_takeWhole {t w r : Text} (h : takeWhole t = some (w, r)) :
    Whole w ∧ t = w ++ r := by
  unfold takeWhole at h
  split at h
  · cases h
  · next c rest =>
    split at h
    · next hc =>
      cases h
      rw [hc]
      exact ⟨.zero, rfl⟩
    split at h
    · next h0 hc =>
      have hspan : Numeral.span (c :: rest) = (w, r) := Option.some.inj h
      have happ := span_append_eq (c :: rest)
      have hall := all_span (c :: rest)
      rw [hspan] at happ hall
      refine ⟨?_, happ.symm⟩
      have hw : w = c :: rest.takeWhile CodePoint.isDigit := by
        rw [Numeral.span, List.takeWhile_cons_of_pos hc] at hspan
        exact (Prod.mk.inj hspan).1.symm
      rw [hw] at hall ⊢
      exact .digits hc h0 (by simp)
    · cases h

theorem takeFraction_append {ds f r : Text} (h : Fraction ds f)
    (hr : ∀ c ∈ r.head?, CodePoint.isDigit c = false ∧ c ≠ ('.' : CodePoint)) :
    takeFraction (f ++ r) = (ds, r) := by
  cases h with
  | none =>
    cases r with
    | nil => rfl
    | cons c r => rw [List.nil_append, takeFraction, if_neg (hr c rfl).2]
  | point hne hds =>
    rw [List.cons_append, takeFraction, if_pos rfl, span_append hds fun c hc => (hr c hc).1]
    split
    · next h => exact absurd (Prod.mk.inj h).1 hne
    · rfl

theorem fraction_of_takeFraction (t : Text) :
    ∃ f, Fraction (takeFraction t).1 f ∧ t = f ++ (takeFraction t).2 := by
  unfold takeFraction
  split
  · exact ⟨[], .none, rfl⟩
  · next c rest =>
    split
    · next hc =>
      split
      · exact ⟨[], .none, rfl⟩
      · next hne =>
        refine ⟨'.' :: (Numeral.span rest).1, .point (fun h => ?_) (all_span rest), ?_⟩
        · exact hne _ (Prod.ext h rfl)
        · rw [List.cons_append, span_append_eq, hc]
    · exact ⟨[], .none, rfl⟩

theorem takeSign_append {negative : Bool} {sign t : Text} (h : ExponentSign negative sign)
    (ht : ∃ c r, t = c :: r ∧ CodePoint.isDigit c = true) :
    Numeral.takeSign (sign ++ t) = (negative, t) := by
  obtain ⟨c, r, rfl, hc⟩ := ht
  cases h with
  | none =>
    have hm : c ≠ ('-' : CodePoint) := by rintro rfl; cases hc
    have hp : c ≠ ('+' : CodePoint) := by rintro rfl; cases hc
    rw [List.nil_append, Numeral.takeSign, if_neg hm, if_neg hp]
  | plus => rfl
  | minus => rfl

theorem sign_of_takeSign (t : Text) : ∃ sign, ExponentSign (Numeral.takeSign t).1 sign ∧
    t = sign ++ (Numeral.takeSign t).2 := by
  unfold Numeral.takeSign
  split
  · exact ⟨[], .none, rfl⟩
  · next c rest =>
    split
    · next hc => exact ⟨['-'], .minus, by rw [hc]; rfl⟩
    split
    · next hc => exact ⟨['+'], .plus, by rw [hc]; rfl⟩
    · exact ⟨[], .none, rfl⟩

theorem takeExponent_append {e : Option Int} {x r : Text} (h : Exponent e x)
    (hr : ∀ c ∈ r.head?, CodePoint.isDigit c = false ∧ c ≠ ('e' : CodePoint) ∧
      c ≠ ('E' : CodePoint)) : takeExponent (x ++ r) = (e, r) := by
  cases h with
  | none =>
    cases r with
    | nil => rfl
    | cons c r =>
      rw [List.nil_append, takeExponent, if_neg]
      exact fun hc => hc.elim (hr c rfl).2.1 (hr c rfl).2.2
  | @mark m negative sign ds hm hs hne hds =>
    obtain ⟨d, rest, rfl⟩ := List.exists_cons_of_ne_nil hne
    have hd : CodePoint.isDigit d = true := List.all_eq_true.1 hds d List.mem_cons_self
    have hsign : Numeral.takeSign (sign ++ (d :: rest ++ r)) = (negative, d :: rest ++ r) :=
      takeSign_append hs ⟨d, rest ++ r, rfl, hd⟩
    rw [List.cons_append, takeExponent, if_pos hm, List.append_assoc, hsign]
    dsimp only
    rw [span_append hds fun c hc => (hr c hc).1]

theorem exponent_of_takeExponent (t : Text) :
    ∃ x, Exponent (takeExponent t).1 x ∧ t = x ++ (takeExponent t).2 := by
  unfold takeExponent
  split
  · exact ⟨[], .none, rfl⟩
  · next c rest =>
    split
    · next hc =>
      dsimp only
      obtain ⟨sign, hs, hrest⟩ := sign_of_takeSign rest
      split
      · exact ⟨[], .none, rfl⟩
      · next ds u hne hspan =>
        have hall := all_span (Numeral.takeSign rest).2
        have happ := span_append_eq (Numeral.takeSign rest).2
        rw [hspan] at hall happ
        refine ⟨c :: (sign ++ ds), .mark hc hs (fun h => ?_) hall, ?_⟩
        · exact hne h
        · rw [List.cons_append, List.append_assoc, happ, ← hrest]
    · exact ⟨[], .none, rfl⟩

/-- Nothing that ends a value is a character of a number. -/
theorem Ends.head {r : Text} (h : Ends r) : ∀ c ∈ r.head?, CodePoint.isDigit c = false ∧
    c ≠ ('.' : CodePoint) ∧ c ≠ ('e' : CodePoint) ∧ c ≠ ('E' : CodePoint) := by
  intro c hc
  have hcases := h c hc
  simp only [isBlank, Bool.or_eq_true, decide_eq_true_eq] at hcases
  rcases hcases with ((((rfl | rfl) | rfl) | rfl) | rfl | rfl | rfl) <;> decide

/-- An exponent is told by its mark. -/
theorem Exponent.head {e : Option Int} {x r : Text} (h : Exponent e x) (hr : Ends r) :
    ∀ c ∈ (x ++ r).head?, CodePoint.isDigit c = false ∧ c ≠ ('.' : CodePoint) := by
  intro c hc
  cases h with
  | none => exact ⟨(hr.head c hc).1, (hr.head c hc).2.1⟩
  | mark hm =>
    rw [← Option.some.inj hc]
    rcases hm with rfl | rfl <;> decide

/-- A fraction is told by its point. -/
theorem Fraction.head {ds f t : Text} (h : Fraction ds f)
    (ht : ∀ c ∈ t.head?, CodePoint.isDigit c = false ∧ c ≠ ('.' : CodePoint)) :
    ∀ c ∈ (f ++ t).head?, CodePoint.isDigit c = false := by
  intro c hc
  cases h with
  | none => exact (ht c hc).1
  | point =>
    rw [← Option.some.inj hc]
    rfl

theorem takeNumber?_signed {u whole v : Text} (negative : Bool)
    (h : takeWhole u = some (whole, v)) :
    takeNumber? (minus negative ++ u) =
      some (⟨negative, whole, (takeFraction v).1, (takeExponent (takeFraction v).2).1⟩,
        (takeExponent (takeFraction v).2).2) := by
  obtain ⟨hw, rfl⟩ := whole_of_takeWhole h
  obtain ⟨c, ds, rfl, hc⟩ := hw.head
  have hminus : c ≠ ('-' : CodePoint) := by rintro rfl; cases hc
  unfold takeNumber?
  cases negative with
  | false =>
    simp only [minus, List.nil_append, List.cons_append, Bool.false_eq_true, if_false,
      if_neg hminus] at h ⊢
    rw [h]
  | true =>
    simp only [minus, List.singleton_append, ↓reduceIte]
    rw [h]

theorem takeNumber?_append {n : NumberToken} {w r : Text} (h : NumberText n w) (hr : Ends r) :
    takeNumber? (w ++ r) = some (n, r) := by
  cases h with
  | @parts negative whole fraction f x exponent hw hf hx =>
    have hxr := hx.head hr
    have hwhole := takeWhole_append hw (hf.head hxr)
    have hexp := takeExponent_append hx fun c hc => ⟨(hr.head c hc).1, (hr.head c hc).2.2⟩
    rw [List.append_assoc, List.append_assoc, List.append_assoc, takeNumber?_signed _ hwhole,
      takeFraction_append hf hxr, hexp]

theorem numberText_of_takeNumber? {t r : Text} {n : NumberToken}
    (h : takeNumber? t = some (n, r)) : ∃ w, NumberText n w ∧ t = w ++ r := by
  unfold takeNumber? at h
  split at h
  next negative u hsign =>
  have ht : t = minus negative ++ u := by
    split at hsign
    · cases hsign
      rfl
    split at hsign <;> cases hsign
    · next hc => rw [hc]; rfl
    · rfl
  split at h
  · cases h
  · next whole v hwhole =>
    obtain ⟨hw, hu⟩ := whole_of_takeWhole hwhole
    obtain ⟨f, hf, hv⟩ := fraction_of_takeFraction v
    obtain ⟨x, hx, hrest⟩ := exponent_of_takeExponent (takeFraction v).2
    simp only [Option.some.injEq, Prod.mk.injEq] at h
    obtain ⟨rfl, rfl⟩ := h
    refine ⟨_, .parts hw hf hx, ?_⟩
    rw [ht, hu, List.append_assoc, List.append_assoc, List.append_assoc, ← hrest, ← hv]

/-- Only the digits of an integer are counted. -/
theorem NumberToken.number_eq_ok_iff {n : NumberToken} {m : Number} :
    n.number = .ok m ↔ (n.IsInteger → n.whole.length ≤ Numeral.maxDigits) ∧ m = n.value := by
  unfold NumberToken.number
  split
  · next hf he =>
    have hn : n.IsInteger := ⟨hf, he⟩
    rw [NumberToken.value, if_pos hn]
    split
    · next hlong => exact iff_of_false nofun fun h => absurd (h.1 hn) (Nat.not_le.2 hlong)
    · next hshort =>
      refine ⟨fun h => ⟨fun _ => Nat.le_of_not_lt hshort, ?_⟩, fun h => ?_⟩
      · cases h
        rfl
      · rw [h.2]
        rfl
  · next hne =>
    have hn : ¬ n.IsInteger := fun h => hne h.1 h.2
    rw [NumberToken.value, if_neg hn]
    refine ⟨fun h => ⟨fun h => absurd h hn, ?_⟩, fun h => ?_⟩
    · cases h
      rfl
    · rw [h.2]

/-! ### Bare words -/

/-- The lengths of integers that are read. -/
def Readable (digits : Nat) : Prop := digits ≤ Numeral.maxDigits

theorem after?_append (w r : Text) : Text.after? (w ++ r) w = some r := by
  induction w with
  | nil => simp [Text.after?]
  | cons c w ih => rw [List.cons_append, Text.after?, if_pos rfl, ih]

theorem eq_append_of_after? {t w r : Text} (h : t.after? w = some r) : t = w ++ r := by
  fun_induction Text.after? t w with
  | case1 t =>
    cases h
    rfl
  | case2 => cases h
  | case3 t c w ih => rw [ih h, List.cons_append]
  | case4 => cases h

theorem after?_cons_of_ne {c d : CodePoint} (t w : Text) (h : c ≠ d) :
    Text.after? (c :: t) (d :: w) = none := by
  rw [Text.after?, if_neg h]

theorem readBare_null (r : Text) : readBare ("null" ++ r) = .ok (.null, r) := by
  rw [readBare, after?_append]

theorem readBare_true (r : Text) : readBare ("true" ++ r) = .ok (.bool true, r) := by
  have hnull : Text.after? ("true" ++ r) "null" = none := rfl
  rw [readBare, hnull, after?_append]

theorem readBare_false (r : Text) : readBare ("false" ++ r) = .ok (.bool false, r) := by
  have hnull : Text.after? ("false" ++ r) "null" = none := rfl
  have htrue : Text.after? ("false" ++ r) "true" = none := rfl
  rw [readBare, hnull, htrue, after?_append]

/-- The words that are looked for before a number is. -/
def bareWords : List Text := ["null", "true", "false", "NaN", "Infinity", "-Infinity"]

theorem readBare_of_no_word {t : Text} (h : ∀ w ∈ bareWords, t.after? w = none) :
    readBare t =
      match takeNumber? t with
      | none => .error (.missing .value t.length)
      | some (n, r) => n.number >>= fun m => .ok (.number m, r) := by
  simp only [bareWords, List.forall_mem_cons] at h
  obtain ⟨hnull, htrue, hfalse, hnan, hinf, hminus, -⟩ := h
  rw [readBare, hnull, htrue, hfalse, hnan, hinf, hminus]
  rfl

/-- A number starts with a digit or with a minus and a digit, which no word does. -/
theorem no_word_before_digit (negative : Bool) {c : CodePoint} (hc : c.isDigit = true) (t : Text) :
    ∀ w ∈ bareWords, Text.after? (minus negative ++ c :: t) w = none := by
  have hdigit : ∀ (d : CodePoint) (u : Text), d.isDigit = false →
      Text.after? (c :: t) (d :: u) = none := by
    intro d u hd
    refine after?_cons_of_ne t u ?_
    rintro rfl
    rw [hc] at hd
    cases hd
  have hsign : ∀ (d : CodePoint) (u : Text), d.isDigit = false → d ≠ ('-' : CodePoint) →
      Text.after? (minus negative ++ c :: t) (d :: u) = none := by
    intro d u hd hm
    cases negative with
    | false => exact hdigit d u hd
    | true => exact after?_cons_of_ne _ u hm.symm
  simp only [bareWords, List.forall_mem_cons]
  refine ⟨hsign _ _ rfl (by decide), hsign _ _ rfl (by decide), hsign _ _ rfl (by decide),
    hsign _ _ rfl (by decide), hsign _ _ rfl (by decide), ?_, nofun⟩
  cases negative with
  | false => exact hdigit _ _ rfl
  | true => exact hdigit _ _ rfl

theorem readBare_number {n : NumberToken} {w r : Text} (h : NumberText n w)
    (hs : n.IsInteger → Readable n.whole.length) (hr : Ends r) :
    readBare (w ++ r) = .ok (.number n.value, r) := by
  have hn := takeNumber?_append h hr
  obtain ⟨negative, c, u, rfl, hc⟩ := h.head
  rw [List.append_assoc, List.cons_append] at hn ⊢
  rw [readBare_of_no_word (no_word_before_digit negative hc _), hn]
  dsimp only
  rw [NumberToken.number_eq_ok_iff.2 ⟨hs, rfl⟩]
  rfl

/-- A dialect reads JSON if it takes what the grammar derives for a scalar. -/
class Dialect.ReadsJson (d : Dialect) : Prop where
  allowed : ∀ c, Unescaped c → d.allowed c = true
  nullWord : ∀ r : Text, d.bare ("null" ++ r) = .ok (.null, r)
  trueWord : ∀ r : Text, d.bare ("true" ++ r) = .ok (.bool true, r)
  falseWord : ∀ r : Text, d.bare ("false" ++ r) = .ok (.bool false, r)
  number : ∀ {n : NumberToken} {w r : Text}, NumberText n w →
    (n.IsInteger → Readable n.whole.length) → Ends r → d.bare (w ++ r) = .ok (.number n.value, r)

instance readsJson_strict : strict.ReadsJson where
  allowed _ h := decide_eq_true h.1
  nullWord := readBare_null
  trueWord := readBare_true
  falseWord := readBare_false
  number := readBare_number

/-- What is read without quotes and brackets is a text of it. -/
theorem value_of_readBare {short : Nat → Prop} (hshort : ∀ k, Readable k → short k) {t r : Text}
    {v : Json} (depth : Nat) (h : readBare t = .ok (v, r)) : Value short depth v t r := by
  unfold readBare at h
  split at h
  · next rest hw =>
    cases h
    rw [eq_append_of_after? hw]
    exact .nullWord
  split at h
  · next rest hw =>
    cases h
    rw [eq_append_of_after? hw]
    exact .trueWord
  split at h
  · next rest hw =>
    cases h
    rw [eq_append_of_after? hw]
    exact .falseWord
  split at h
  · cases h
  split at h
  · cases h
  split at h
  · cases h
  split at h
  · cases h
  · next n rest hn =>
    obtain ⟨w, hw, rfl⟩ := numberText_of_takeNumber? hn
    cases hm : n.number with
    | error e =>
      rw [hm] at h
      cases h
    | ok m =>
      obtain ⟨hs, rfl⟩ := NumberToken.number_eq_ok_iff.1 hm
      rw [hm] at h
      cases h
      exact .number hw fun hi => hshort _ (hs hi)

end JsonShape.Json
