import JsonShape.Json.Reader

/-!
# The JSON grammar

Which texts stand for which values, said without a reader.  A relation `R x t r` of the grammar says
that a text of `x` stands at the front of `t` and that `r` follows it, so that no two texts have to
be put together.  Blanks may stand at every gap, and no longest match is asked for: it is what
follows that shows where a text ends (`Ends`).

`Value short depth` holds of values whose containers nest at most `depth` deep and whose integers
have a number of digits that is `short`; the grammar of JSON itself knows no such bounds (`Spells`).
-/

namespace JsonShape.Json

/-! ### Blanks -/

/-- Nothing but blanks stands before `r`. -/
def Blanks (t r : Text) : Prop := ∃ w : Text, w.all isBlank = true ∧ t = w ++ r

/-- No blank stands in front. -/
def Solid (t : Text) : Prop := ∀ c ∈ t.head?, isBlank c = false

/-- Whether a value may start with the code point: no blank, closing bracket or byte order mark. -/
def StartsValue (c : CodePoint) : Prop :=
  isBlank c = false ∧ c ≠ (']' : CodePoint) ∧ c ≠ ('\uFEFF' : CodePoint)

instance (c : CodePoint) : Decidable (StartsValue c) := by unfold StartsValue; infer_instance

/-- Nothing stands in front that a value could go on with. -/
def Ends (t : Text) : Prop :=
  ∀ c ∈ t.head?, isBlank c = true ∨ c = (',' : CodePoint) ∨ c = (']' : CodePoint) ∨
    c = ('\x7d' : CodePoint)

theorem Blanks.refl (t : Text) : Blanks t t := ⟨[], rfl, rfl⟩

theorem Blanks.cons {c : CodePoint} {t r : Text} (hc : isBlank c = true) (h : Blanks t r) :
    Blanks (c :: t) r := by
  obtain ⟨w, hw, rfl⟩ := h
  exact ⟨c :: w, by simp [hc, hw], rfl⟩

theorem Blanks.suffix {t r : Text} (h : Blanks t r) : r <:+ t := by
  obtain ⟨w, -, rfl⟩ := h
  exact List.suffix_append w r

theorem blanks_skipBlank (t : Text) : Blanks t (skipBlank t) :=
  ⟨t.takeWhile isBlank, List.all_takeWhile, List.takeWhile_append_dropWhile.symm⟩

/-- All blanks are skipped, so only one text without a blank in front can be reached. -/
theorem Blanks.skipBlank_eq {t r : Text} (h : Blanks t r) (hr : Solid r) : skipBlank t = r := by
  obtain ⟨w, hw, rfl⟩ := h
  rw [skipBlank, List.dropWhile_append_of_pos fun c hc => List.all_eq_true.1 hw c hc]
  cases r with
  | nil => rfl
  | cons c r => rw [List.dropWhile_cons_of_neg (by simp [hr c rfl])]

theorem solid_cons {c : CodePoint} (t : Text) (hc : isBlank c = false) : Solid (c :: t) := by
  intro d hd
  rw [← Option.some.inj hd]
  exact hc

theorem ends_nil : Ends [] := by simp [Ends]

theorem ends_cons {c : CodePoint} (t : Text)
    (hc : c = (',' : CodePoint) ∨ c = (']' : CodePoint) ∨ c = ('\x7d' : CodePoint)) :
    Ends (c :: t) := by
  intro d hd
  rw [← Option.some.inj hd]
  exact Or.inr hc

/-- Blanks end a value, too. -/
theorem Blanks.ends {t r : Text} (h : Blanks t r) (hr : Ends r) : Ends t := by
  obtain ⟨w, hw, rfl⟩ := h
  cases w with
  | nil => exact hr
  | cons c w =>
    intro d hd
    rw [← Option.some.inj hd]
    exact Or.inl (List.all_eq_true.1 hw c List.mem_cons_self)

/-! ### Strings -/

/-- The letters that a backslash may stand before, and what they stand for. -/
def shortEscapes : List (CodePoint × CodePoint) :=
  [('"', '"'), ('\\', '\\'), ('/', '/'), ('b', '\x08'), ('f', '\x0C'), ('n', '\n'), ('r', '\r'),
    ('t', '\t')]

/-- A unit spelt as `\u` with four hexadecimal digits of either case. -/
inductive UnitText : CodePoint → Text → Text → Prop
  | digits {a b c d : CodePoint} {w x y z : Nat} {r : Text} (ha : a.hexValue? = some w)
    (hb : b.hexValue? = some x) (hc : c.hexValue? = some y) (hd : d.hexValue? = some z) :
    UnitText (.ofNat (((w * 16 + x) * 16 + y) * 16 + z))
      ('\\' :: 'u' :: a :: b :: c :: d :: r) r

/-- A code point that may stand for itself between quotes. -/
def Unescaped (c : CodePoint) : Prop :=
  0x20 ≤ c.val ∧ c ≠ ('"' : CodePoint) ∧ c ≠ ('\\' : CodePoint)

instance (c : CodePoint) : Decidable (Unescaped c) := by unfold Unescaped; infer_instance

/-- A piece of a string. -/
inductive PieceText : Piece → Text → Text → Prop
  | plain {c : CodePoint} {r : Text} (hc : Unescaped c) : PieceText (.plain c) (c :: r) r
  | short {e c : CodePoint} {r : Text} (h : (e, c) ∈ shortEscapes) :
    PieceText (.plain c) ('\\' :: e :: r) r
  | unit {u : CodePoint} {t r : Text} (h : UnitText u t r) : PieceText (.unit u) t r

/-- The pieces of a string and its closing quote. -/
inductive PiecesText : List Piece → Text → Text → Prop
  | quote {r : Text} : PiecesText [] ('"' :: r) r
  | cons {p : Piece} {ps : List Piece} {t u r : Text} (h : PieceText p t u)
    (hs : PiecesText ps u r) : PiecesText (p :: ps) t r

/-- A string between its quotes. -/
inductive StringText : Text → Text → Text → Prop
  | quoted {ps : List Piece} {t r : Text} (h : PiecesText ps t r) :
    StringText (joinPieces ps) ('"' :: t) r

/-! ### Numbers -/

/-- Digits without needless zeros in front. -/
inductive Whole : Text → Prop
  | zero : Whole ['0']
  | digits {c : CodePoint} {ds : Text} (hc : c.isDigit = true) (h0 : c ≠ ('0' : CodePoint))
    (hds : ds.all CodePoint.isDigit = true) : Whole (c :: ds)

/-- The digits of a fraction and its text. -/
inductive Fraction : Text → Text → Prop
  | none : Fraction [] []
  | point {ds : Text} (hne : ds ≠ []) (hds : ds.all CodePoint.isDigit = true) :
    Fraction ds ('.' :: ds)

/-- A sign that an exponent may have, and whether it is a minus. -/
inductive ExponentSign : Bool → Text → Prop
  | none : ExponentSign false []
  | plus : ExponentSign false ['+']
  | minus : ExponentSign true ['-']

/-- An exponent and its text. -/
inductive Exponent : Option Int → Text → Prop
  | none : Exponent none []
  | mark {m : CodePoint} {negative : Bool} {sign ds : Text}
    (hm : m = ('e' : CodePoint) ∨ m = ('E' : CodePoint)) (hs : ExponentSign negative sign)
    (hne : ds ≠ []) (hds : ds.all CodePoint.isDigit = true) :
    Exponent (some (if negative then -(Numeral.value ds : Int) else Numeral.value ds))
      (m :: (sign ++ ds))

/-- The minus in front of a number, if it is negative. -/
def minus (negative : Bool) : Text := if negative then ['-'] else []

/-- The text of a number. -/
inductive NumberText : NumberToken → Text → Prop
  | parts {negative : Bool} {whole fraction f x : Text} {exponent : Option Int}
    (hw : Whole whole) (hf : Fraction fraction f) (hx : Exponent exponent x) :
    NumberText ⟨negative, whole, fraction, exponent⟩
      (minus negative ++ (whole ++ (f ++ x)))

/-- A number with neither fraction nor exponent. -/
def NumberToken.IsInteger (n : NumberToken) : Prop := n.fraction = [] ∧ n.exponent = none

instance (n : NumberToken) : Decidable n.IsInteger := by
  unfold NumberToken.IsInteger; infer_instance

/-- The integer that the digits before the point stand for. -/
def NumberToken.integer (n : NumberToken) : Int :=
  if n.negative then -(Numeral.value n.whole : Int) else Numeral.value n.whole

/-- The number that a text of a number stands for. -/
def NumberToken.value (n : NumberToken) : Number :=
  if n.IsInteger then .int n.integer else .double n.toDouble

/-! ### Values -/

section Values

variable (short : Nat → Prop)

/-- A name and the colon behind it. -/
inductive NameText : Text → Text → Text → Prop
  | colon {k t u w r : Text} (hk : StringText k t u) (hu : Blanks u (':' :: w))
    (hw : Blanks w r) : NameText k t r

mutual

/-- A value whose containers nest at most as deep as the number says. -/
inductive Value : Nat → Json → Text → Text → Prop
  | nullWord {depth : Nat} {r : Text} : Value depth .null ("null" ++ r) r
  | trueWord {depth : Nat} {r : Text} : Value depth (.bool true) ("true" ++ r) r
  | falseWord {depth : Nat} {r : Text} : Value depth (.bool false) ("false" ++ r) r
  | number {depth : Nat} {n : NumberToken} {w r : Text} (h : NumberText n w)
    (hs : n.IsInteger → short n.whole.length) : Value depth (.number n.value) (w ++ r) r
  | string {depth : Nat} {s t r : Text} (h : StringText s t r) : Value depth (.string s) t r
  | emptyArray {depth : Nat} {t r : Text} (ht : Blanks t (']' :: r)) :
    Value (depth + 1) (.array []) ('[' :: t) r
  | array {depth : Nat} {vs : List Json} {t u r : Text} (ht : Blanks t u)
    (h : Items depth vs u r) : Value (depth + 1) (.array vs) ('[' :: t) r
  | emptyObject {depth : Nat} {t r : Text} (ht : Blanks t ('\x7d' :: r)) :
    Value (depth + 1) (.object []) ('\x7b' :: t) r
  | object {depth : Nat} {fs : List (Text × Json)} {t u r : Text} (ht : Blanks t u)
    (h : Fields depth fs u r) : Value (depth + 1) (.object (upsertAll fs)) ('\x7b' :: t) r

/-- The items of an array and its closing bracket. -/
inductive Items : Nat → List Json → Text → Text → Prop
  | last {depth : Nat} {v : Json} {t u r : Text} (hv : Value depth v t u)
    (hu : Blanks u (']' :: r)) : Items depth [v] t r
  | cons {depth : Nat} {v : Json} {vs : List Json} {t u w x r : Text} (hv : Value depth v t u)
    (hu : Blanks u (',' :: w)) (hw : Blanks w x) (h : Items depth vs x r) :
    Items depth (v :: vs) t r

/-- The fields of an object and its closing brace. -/
inductive Fields : Nat → List (Text × Json) → Text → Text → Prop
  | last {depth : Nat} {k : Text} {v : Json} {t u w r : Text} (hk : NameText k t u)
    (hv : Value depth v u w) (hw : Blanks w ('\x7d' :: r)) : Fields depth [(k, v)] t r
  | cons {depth : Nat} {k : Text} {v : Json} {fs : List (Text × Json)} {t u w x y r : Text}
    (hk : NameText k t u) (hv : Value depth v u w) (hw : Blanks w (',' :: x)) (hx : Blanks x y)
    (h : Fields depth fs y r) : Fields depth ((k, v) :: fs) t r

end

/-- A whole text of one value, with blanks around it. -/
inductive JsonText : Nat → Json → Text → Prop
  | blanks {depth : Nat} {v : Json} {t u w : Text} (ht : Blanks t u)
    (hv : Value short depth v u w) (hw : Blanks w []) : JsonText depth v t

end Values

/-- Integers of any length are short enough. -/
def AnyLength (_ : Nat) : Prop := True

/-- **The text stands for the value in the grammar of JSON.** -/
def Spells (t : Text) (v : Json) : Prop := ∃ depth, JsonText AnyLength depth v t

/-! ### Where texts start and end -/

section Ends

variable {short : Nat → Prop} {depth : Nat}

theorem PieceText.suffix {p : Piece} {t r : Text} (h : PieceText p t r) : r <:+ t := by
  cases h with
  | plain => exact ⟨[_], rfl⟩
  | short => exact ⟨[_, _], rfl⟩
  | unit h =>
    cases h
    exact ⟨[_, _, _, _, _, _], rfl⟩

theorem PiecesText.suffix {ps : List Piece} {t r : Text} (h : PiecesText ps t r) : r <:+ t := by
  induction h with
  | quote => exact List.suffix_cons _ _
  | cons h _ ih => exact ih.trans h.suffix

theorem StringText.suffix {s t r : Text} (h : StringText s t r) : r <:+ t := by
  cases h with
  | quoted h => exact h.suffix.trans (List.suffix_cons _ _)

theorem NameText.suffix {k t r : Text} (h : NameText k t r) : r <:+ t := by
  cases h with
  | colon hk hu hw =>
    exact hw.suffix.trans ((List.suffix_cons _ _).trans (hu.suffix.trans hk.suffix))

mutual

theorem Value.suffix {depth : Nat} {v : Json} {t r : Text} : Value short depth v t r → r <:+ t
  | .nullWord | .trueWord | .falseWord | .number _ _ => List.suffix_append _ _
  | .string h => h.suffix
  | .emptyArray h | .emptyObject h =>
    (List.suffix_cons _ _).trans (h.suffix.trans (List.suffix_cons _ _))
  | .array ht h => h.suffix.trans (ht.suffix.trans (List.suffix_cons _ _))
  | .object ht h => h.suffix.trans (ht.suffix.trans (List.suffix_cons _ _))

theorem Items.suffix {depth : Nat} {vs : List Json} {t r : Text} :
    Items short depth vs t r → r <:+ t
  | .last hv hu => (List.suffix_cons _ _).trans (hu.suffix.trans hv.suffix)
  | .cons hv hu hw h =>
    h.suffix.trans (hw.suffix.trans ((List.suffix_cons _ _).trans (hu.suffix.trans hv.suffix)))

theorem Fields.suffix {depth : Nat} {fs : List (Text × Json)} {t r : Text} :
    Fields short depth fs t r → r <:+ t
  | .last hk hv hw =>
    (List.suffix_cons _ _).trans (hw.suffix.trans (hv.suffix.trans hk.suffix))
  | .cons hk hv hw hx h =>
    h.suffix.trans (hx.suffix.trans ((List.suffix_cons _ _).trans
      (hw.suffix.trans (hv.suffix.trans hk.suffix))))

end

theorem Whole.head {w : Text} (h : Whole w) : ∃ c ds, w = c :: ds ∧ c.isDigit = true := by
  cases h with
  | zero => exact ⟨_, _, rfl, rfl⟩
  | digits hc => exact ⟨_, _, rfl, hc⟩

theorem NumberText.head {n : NumberToken} {w : Text} (h : NumberText n w) :
    ∃ (negative : Bool) (c : CodePoint) (u : Text),
      w = minus negative ++ c :: u ∧ c.isDigit = true := by
  cases h with
  | @parts negative whole fraction f x exponent hw hf hx =>
    obtain ⟨c, ds, rfl, hc⟩ := hw.head
    exact ⟨negative, c, ds ++ (f ++ x), rfl, hc⟩

theorem startsValue_of_isDigit {c : CodePoint} (h : c.isDigit = true) : StartsValue c := by
  refine ⟨?_, ?_, ?_⟩
  · rw [Bool.eq_false_iff]
    intro hb
    simp only [isBlank, Bool.or_eq_true, decide_eq_true_eq] at hb
    rcases hb with (((rfl | rfl) | rfl) | rfl) <;> cases h
  · rintro rfl
    cases h
  · rintro rfl
    cases h

theorem NumberText.starts {n : NumberToken} {w : Text} (h : NumberText n w) (r : Text) :
    ∃ c u, w ++ r = c :: u ∧ StartsValue c := by
  obtain ⟨negative, c, u, rfl, hc⟩ := h.head
  cases negative with
  | false => exact ⟨c, u ++ r, rfl, startsValue_of_isDigit hc⟩
  | true => exact ⟨_, _, rfl, by decide⟩

/-- A name of one letter, with no blanks around its colon. -/
theorem nameText_letter {c : CodePoint} (hc : Unescaped c) (r : Text) :
    NameText [c] ('"' :: c :: '"' :: ':' :: r) r :=
  .colon (.quoted (.cons (.plain hc) .quote)) (.refl _) (.refl _)

/-- A name starts with its quote. -/
theorem NameText.head {k t r : Text} (h : NameText k t r) : ∃ u, t = ('"' : CodePoint) :: u := by
  cases h with
  | colon hk =>
    cases hk with
    | quoted => exact ⟨_, rfl⟩

theorem NameText.length_pos {k t r : Text} (h : NameText k t r) : 0 < t.length := by
  obtain ⟨u, rfl⟩ := h.head
  exact Nat.succ_pos _

theorem Value.head {v : Json} {t r : Text} (h : Value short depth v t r) :
    ∃ c u, t = c :: u ∧ StartsValue c := by
  cases h with
  | nullWord | trueWord | falseWord => exact ⟨_, _, rfl, by decide⟩
  | emptyArray | array | emptyObject | object => exact ⟨_, _, rfl, by decide⟩
  | string h =>
    cases h
    exact ⟨_, _, rfl, by decide⟩
  | number h => exact h.starts r

theorem Value.solid {v : Json} {t r : Text} (h : Value short depth v t r) : Solid t := by
  obtain ⟨c, u, rfl, hc⟩ := h.head
  exact solid_cons u hc.1

theorem Value.length_pos {v : Json} {t r : Text} (h : Value short depth v t r) :
    0 < t.length := by
  obtain ⟨c, u, rfl, -⟩ := h.head
  exact Nat.succ_pos _

theorem Items.head {vs : List Json} {t r : Text} (h : Items short depth vs t r) :
    ∃ c u, t = c :: u ∧ StartsValue c := by
  cases h with
  | last hv => exact hv.head
  | cons hv => exact hv.head

theorem Items.solid {vs : List Json} {t r : Text} (h : Items short depth vs t r) : Solid t := by
  obtain ⟨c, u, rfl, hc⟩ := h.head
  exact solid_cons u hc.1

theorem Fields.head {fs : List (Text × Json)} {t r : Text} (h : Fields short depth fs t r) :
    ∃ u, t = ('"' : CodePoint) :: u := by
  cases h with
  | last hk => exact hk.head
  | cons hk => exact hk.head

theorem Fields.solid {fs : List (Text × Json)} {t r : Text} (h : Fields short depth fs t r) :
    Solid t := by
  obtain ⟨u, rfl⟩ := h.head
  exact solid_cons u rfl

end Ends

end JsonShape.Json
