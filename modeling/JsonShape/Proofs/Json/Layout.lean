import JsonShape.Json.Writer
import JsonShape.Proofs.Json.Relaxed
import JsonShape.Proofs.Json.Writing
import JsonShape.Proofs.Text.Utf8

/-!
# The text of a value is one of the ways of writing it

A writer lays a value out with blanks between its tokens, and escapes code points where it has to or
likes to.  So what it writes is a writing of the value (`written_text`), which is read again
(`readRelaxed_pretty`); and it is ASCII without carriage returns (`lasting_text`), so it is the same
after a file has been read.
-/

namespace JsonShape

/-! ### Numerals -/

namespace Numeral

theorem ofNat_eq (n : Nat) :
    ofNat n =
      (if n < 10 then [] else ofNat (n / 10)) ++ [CodePoint.ofChar (Nat.digitChar (n % 10))] := by
  rw [ofNat, Nat.toDigits_eq_if (by decide)]
  split
  · next h => rw [Nat.mod_eq_of_lt h, List.map_singleton, List.nil_append]
  · rw [List.map_append, List.map_singleton, ofNat]

theorem isDigit_digitChar : ∀ d < 10, (CodePoint.ofChar (Nat.digitChar d)).isDigit = true := by
  decide

theorem digitValue_digitChar : ∀ d < 10, (CodePoint.ofChar (Nat.digitChar d)).digitValue = d := by
  decide

/-- The digits of a number stand for it. -/
theorem value_ofNat (n : Nat) : value (ofNat n) = n := by
  induction n using Nat.strongRecOn with
  | ind n ih =>
    rw [ofNat_eq, value, List.foldl_append, ← value, List.foldl_cons, List.foldl_nil,
      digitValue_digitChar _ (Nat.mod_lt n (by decide))]
    split
    · next h => rw [value, List.foldl_nil]; omega
    · next h => rw [ih (n / 10) (by omega)]; omega

/-- What is true of the digits is true of a numeral. -/
theorem all_ofNat {p : CodePoint → Bool}
    (h : ∀ d < 10, p (CodePoint.ofChar (Nat.digitChar d)) = true) (n : Nat) :
    (ofNat n).all p = true := by
  induction n using Nat.strongRecOn with
  | ind n ih =>
    rw [ofNat_eq, List.all_append, List.all_cons, h _ (Nat.mod_lt n (by decide))]
    split
    · rfl
    · next h => rw [ih (n / 10) (by omega)]; rfl

end Numeral

namespace Json

/-- A number is written without needless zeros. -/
theorem whole_ofNat (n : Nat) : Whole (Numeral.ofNat n) := by
  induction n using Nat.strongRecOn with
  | ind n ih =>
    have hdigit := Numeral.isDigit_digitChar _ (Nat.mod_lt n (by decide))
    rw [Numeral.ofNat_eq]
    split
    · next h =>
      rw [List.nil_append]
      by_cases h0 : CodePoint.ofChar (Nat.digitChar (n % 10)) = ('0' : CodePoint)
      · rw [h0]
        exact .zero
      · exact .digits hdigit h0 rfl
    · next h =>
      have hne : Numeral.ofNat (n / 10) ≠ [('0' : CodePoint)] := fun h0 => by
        have hvalue := Numeral.value_ofNat (n / 10)
        rw [h0] at hvalue
        change 0 = n / 10 at hvalue
        omega
      cases hw : Numeral.ofNat (n / 10) with
      | nil =>
        have hwhole := ih (n / 10) (by omega)
        rw [hw] at hwhole
        cases hwhole
      | cons c ds =>
        have hwhole := ih (n / 10) (by omega)
        rw [hw] at hwhole hne
        cases hwhole with
        | zero => exact absurd rfl hne
        | digits hc h0 hds =>
          refine .digits hc h0 ?_
          change (ds ++ _).all _ = true
          rw [List.all_append, hds, List.all_cons, hdigit]
          rfl

theorem writtenInt_ofInt (i : Int) : WrittenInt i (Numeral.ofInt i) := by
  cases i with
  | ofNat n =>
    have h := @WrittenInt.digits false _ (whole_ofNat n)
    rw [Numeral.value_ofNat] at h
    exact h
  | negSucc n =>
    have h := @WrittenInt.digits true _ (whole_ofNat (n + 1))
    rw [Numeral.value_ofNat] at h
    exact h

/-! ### Strings -/

theorem hexValue?_hexDigit : ∀ n < 16, (CodePoint.hexDigit n).hexValue? = some n := by decide

/-- A unit is written with its four digits. -/
theorem unitText_text {n : Nat} (h : n < 0x10000) (r : Text) :
    UnitText (.ofNat n) (unitText n ++ r) r := by
  have hdigits := @UnitText.digits (CodePoint.hexDigit (n / 16 / 16 / 16 % 16))
    (CodePoint.hexDigit (n / 16 / 16 % 16)) (CodePoint.hexDigit (n / 16 % 16))
    (CodePoint.hexDigit (n % 16)) _ _ _ _ r
    (hexValue?_hexDigit _ (Nat.mod_lt _ (by decide)))
    (hexValue?_hexDigit _ (Nat.mod_lt _ (by decide)))
    (hexValue?_hexDigit _ (Nat.mod_lt _ (by decide)))
    (hexValue?_hexDigit _ (Nat.mod_lt _ (by decide)))
  have hn : ((n / 16 / 16 / 16 % 16 * 16 + n / 16 / 16 % 16) * 16 + n / 16 % 16) * 16 + n % 16 =
      n := by omega
  rw [hn] at hdigits
  exact hdigits

/-- A code point is escaped by a letter, by one unit or two, or stands for itself. -/
theorem escaped_cases (c : CodePoint) :
    (∃ e, (e, c) ∈ shortEscapes ∧ e.isLasting = true ∧ escaped c = [('\\' : CodePoint), e]) ∨
    (c.val < 0x10000 ∧ escaped c = unitText c.val) ∨
    (0x10000 ≤ c.val ∧ escaped c =
      unitText (0xD800 + (c.val - 0x10000) / 0x400) ++
        unitText (0xDC00 + (c.val - 0x10000) % 0x400)) ∨
    (Unescaped c ∧ c.isLasting = true ∧ escaped c = [c]) := by
  by_cases hshort : c ∈ shortEscapes.map Prod.snd
  · left
    simp only [shortEscapes, List.map_cons, List.map_nil, List.mem_cons, List.not_mem_nil,
      or_false] at hshort
    rcases hshort with rfl | rfl | rfl | rfl | rfl | rfl | rfl | rfl <;>
      exact ⟨_, by decide, rfl, rfl⟩
  · right
    simp only [shortEscapes, List.map_cons, List.map_nil, List.mem_cons, List.not_mem_nil,
      or_false, not_or] at hshort
    obtain ⟨hquote, hback, hslash, hb, hf, hn, hr, ht⟩ := hshort
    rw [escaped, if_neg hquote, if_neg hback, if_neg hslash, if_neg hb, if_neg hf, if_neg hn,
      if_neg hr, if_neg ht]
    by_cases hone : c.val < 0x20 ∨ (0x80 ≤ c.val ∧ c.val < 0x10000)
    · exact Or.inl ⟨by omega, if_pos hone⟩
    · rw [if_neg hone]
      by_cases htwo : 0x10000 ≤ c.val
      · exact Or.inr (Or.inl ⟨htwo, if_pos htwo⟩)
      · have hascii : c.val < 0x80 := by omega
        exact Or.inr (Or.inr ⟨⟨by omega, hquote, hback⟩, by simp [CodePoint.isLasting, hascii, hr],
          if_neg htwo⟩)

/-- Every code point is written between quotes in one of its ways. -/
theorem writtenLetter_escaped (c : CodePoint) (r : Text) : WrittenLetter c (escaped c ++ r) r := by
  have hlt : c.val < 0x110000 := c.isLt
  rcases escaped_cases c with ⟨e, he, -, h⟩ | ⟨hone, h⟩ | ⟨htwo, h⟩ | ⟨hc, -, h⟩
  · rw [h]
    exact .short he
  · have hunit := unitText_text hone r
    rw [CodePoint.ofNat_eq rfl] at hunit
    rw [h]
    exact .unit hunit
  · rw [h, List.append_assoc]
    exact .units htwo (unitText_text (by omega) _) (unitText_text (by omega) _)
  · rw [h]
    exact .plain hc

theorem writtenLetters_flatMap (t r : Text) :
    WrittenLetters t (t.flatMap escaped ++ ('"' : CodePoint) :: r) r := by
  induction t with
  | nil => exact .quote
  | cons c t ih =>
    rw [List.flatMap_cons, List.append_assoc]
    exact .cons (writtenLetter_escaped c _) ih

theorem written_quoted (t r : Text) : Written (.string t) (quoted t ++ r) r := by
  rw [quoted, List.append_assoc, List.append_assoc]
  exact .string (writtenLetters_flatMap t r)

/-! ### Values -/

/-- What sets the parts of a value apart: spaces and line feeds, and a colon behind a name. -/
structure Layout.Spaced (l : Layout) : Prop where
  lineStart : ∀ depth, ∀ c ∈ l.lineStart depth, c = (' ' : CodePoint) ∨ c = ('\n' : CodePoint)
  afterKey : ∃ w : Text, (∀ c ∈ w, c = (' ' : CodePoint)) ∧ l.afterKey = (':' : CodePoint) :: w

theorem spaced_indented : indented.Spaced where
  lineStart depth c hc := by
    rcases List.mem_append.1 hc with hc | hc
    · exact Or.inr (List.mem_singleton.1 hc)
    · exact Or.inl (List.eq_of_mem_replicate hc)
  afterKey := ⟨[' '], fun _ h => List.mem_singleton.1 h, rfl⟩

section Values

variable {l : Layout} (hl : l.Spaced)
include hl

theorem Layout.Spaced.blanks_lineStart (depth : Nat) (r : Text) :
    Blanks (l.lineStart depth ++ r) r := by
  refine ⟨_, List.all_eq_true.2 fun c hc => ?_, rfl⟩
  rcases hl.lineStart depth c hc with rfl | rfl <;> rfl

theorem Layout.Spaced.writtenName (k r : Text) :
    WrittenName k (quoted k ++ (l.afterKey ++ r)) r := by
  obtain ⟨w, hw, hkey⟩ := hl.afterKey
  rw [hkey, quoted, List.append_assoc, List.append_assoc]
  refine .colon (writtenLetters_flatMap k _) (.refl _) ⟨w, List.all_eq_true.2 fun c hc => ?_, rfl⟩
  rw [hw c hc]
  rfl

mutual

/-- **What is written for a value is a writing of it.** -/
theorem written_text (depth : Nat) (r : Text) :
    (v : Json) → v.Plain → Written v (text l depth v ++ r) r
  | .null, _ => .null
  | .bool true, _ => .true
  | .bool false, _ => .false
  | .number (.int i), _ => .int (writtenInt_ofInt i)
  | .number (.double _), h => h.elim
  | .string s, _ => written_quoted s r
  | .array [], _ => .emptyArray (.refl _)
  | .array (x :: xs), h => by
    simp only [text, List.append_assoc]
    exact .array (hl.blanks_lineStart _ _)
      (written_itemsText _ _ r xs h.2 (written_text _ _ x h.1))
  | .object [], _ => .emptyObject (.refl _)
  | .object ((k, x) :: fs), h => by
    simp only [text, List.append_assoc]
    exact .object (hl.blanks_lineStart _ _)
      (written_fieldsText _ _ r fs h.2.2.2 (hl.writtenName k _) (written_text _ _ x h.2.2.1))

/-- Further items follow one that is written. -/
theorem written_itemsText (depth outer : Nat) (r : Text) {v : Json} {t : Text} :
    (xs : List Json) → PlainItems xs →
      Written v t (itemsText l depth xs ++ (l.lineStart outer ++ ("]" ++ r))) →
      WrittenItems (v :: xs) t r
  | [], _, hv => .last hv (hl.blanks_lineStart _ _)
  | x :: xs, h, hv => by
    simp only [itemsText, List.append_assoc] at hv
    exact .cons hv (.refl _) (hl.blanks_lineStart _ _)
      (written_itemsText _ _ r xs h.2 (written_text _ _ x h.1))

/-- Further fields follow one that is written. -/
theorem written_fieldsText (depth outer : Nat) (r : Text) {k : Text} {v : Json} {t u : Text} :
    (fs : List (Text × Json)) → PlainFields fs → WrittenName k t u →
      Written v u (fieldsText l depth fs ++ (l.lineStart outer ++ ("\x7d" ++ r))) →
      WrittenFields ((k, v) :: fs) t r
  | [], _, hk, hv => .last hk hv (hl.blanks_lineStart _ _)
  | (k', x) :: fs, h, hk, hv => by
    simp only [fieldsText, List.append_assoc] at hv
    exact .cons hk hv (.refl _) (hl.blanks_lineStart _ _)
      (written_fieldsText _ _ r fs h.2.2 (hl.writtenName k' _) (written_text _ _ x h.2.1))

end

end Values

/-- **A file gives the value again that was written to it.** -/
theorem readRelaxed_pretty {v : Json} (hplain : v.Plain) (hdepth : v.nesting ≤ maxRelaxedDepth) :
    readRelaxed v.pretty = .ok v := by
  have hwritten := written_text spaced_indented 0 [] v hplain
  rw [List.append_nil] at hwritten
  exact readRelaxed_of_jsonText (.blanks (.refl _) (value_of_written hwritten hplain hdepth)
    (.refl _))

/-! ### ASCII -/

theorem isLasting_hexDigit : ∀ n < 16, (CodePoint.hexDigit n).isLasting = true := by decide

theorem lasting_hex (w n : Nat) : (Numeral.hex w n).all CodePoint.isLasting = true := by
  induction w generalizing n with
  | zero => rfl
  | succ w ih =>
    rw [Numeral.hex, List.all_append, ih, List.all_cons,
      isLasting_hexDigit _ (Nat.mod_lt n (by decide))]
    rfl

theorem lasting_ofNat (n : Nat) : (Numeral.ofNat n).all CodePoint.isLasting = true :=
  Numeral.all_ofNat (by decide) n

theorem lasting_ofInt (i : Int) : (Numeral.ofInt i).all CodePoint.isLasting = true := by
  cases i with
  | ofNat n => exact lasting_ofNat n
  | negSucc n => rw [Numeral.ofInt, List.all_append, lasting_ofNat]; rfl

theorem lasting_unitText (n : Nat) : (unitText n).all CodePoint.isLasting = true := by
  rw [unitText, List.all_append, lasting_hex]
  rfl

theorem lasting_escaped (c : CodePoint) : (escaped c).all CodePoint.isLasting = true := by
  rcases escaped_cases c with ⟨e, -, he, h⟩ | ⟨-, h⟩ | ⟨-, h⟩ | ⟨-, hc, h⟩ <;> rw [h]
  · rw [List.all_cons, List.all_cons, he]
    rfl
  · exact lasting_unitText _
  · rw [List.all_append, lasting_unitText, lasting_unitText]
    rfl
  · rw [List.all_cons, hc]
    rfl

theorem lasting_quoted (t : Text) : (quoted t).all CodePoint.isLasting = true := by
  have hletters : (t.flatMap escaped).all CodePoint.isLasting = true :=
    List.all_eq_true.2 fun c hc =>
      let ⟨d, _, hd⟩ := List.mem_flatMap.1 hc
      List.all_eq_true.1 (lasting_escaped d) c hd
  rw [quoted, List.all_append, List.all_append, hletters]
  rfl

theorem lasting_zeros (n : Nat) : (Numeral.zeros n).all CodePoint.isLasting = true :=
  List.all_eq_true.2 fun _ hc => List.eq_of_mem_replicate hc ▸ rfl

theorem lasting_of_subset {s t : Text} (hs : s ⊆ t) (h : t.all CodePoint.isLasting = true) :
    s.all CodePoint.isLasting = true :=
  List.all_eq_true.2 fun c hc => List.all_eq_true.1 h c (hs hc)

theorem lasting_exponentText (e : Int) :
    (Double.exponentText e).all CodePoint.isLasting = true := by
  rw [Double.exponentText, Numeral.padded, List.all_append, List.all_append, lasting_zeros,
    lasting_ofNat]
  split <;> rfl

theorem lasting_layout {ds : Text} (h : ds.all CodePoint.isLasting = true) (point : Int) :
    (Double.layout ds point).all CodePoint.isLasting = true := by
  have htake (n : Nat) := lasting_of_subset (ds.take_subset n) h
  have hdrop (n : Nat) := lasting_of_subset (ds.drop_subset n) h
  unfold Double.layout
  repeat' split
  all_goals simp only [List.all_append, h, htake, hdrop, lasting_zeros, lasting_exponentText]
  all_goals rfl

theorem trimZeros_subset (ds : Text) : Double.trimZeros ds ⊆ ds := fun _ hc =>
  List.mem_reverse.1 ((List.dropWhile_sublist _).subset (List.mem_reverse.1 hc))

theorem lasting_double (d : Double) : d.text.all CodePoint.isLasting = true := by
  unfold Double.text
  split
  · rfl
  · split <;> rfl
  · next negative m e _ =>
    have hdigits := lasting_of_subset (trimZeros_subset _) (lasting_ofNat (Double.shortest m e).1)
    cases negative <;> dsimp only <;> split
    · rfl
    · exact lasting_layout hdigits _
    · rfl
    · exact lasting_layout hdigits _

section Values

variable {l : Layout} (hl : l.Spaced)
include hl

theorem Layout.Spaced.lasting_lineStart (depth : Nat) :
    (l.lineStart depth).all CodePoint.isLasting = true := by
  refine List.all_eq_true.2 fun c hc => ?_
  rcases hl.lineStart depth c hc with rfl | rfl <;> rfl

theorem Layout.Spaced.lasting_afterKey : l.afterKey.all CodePoint.isLasting = true := by
  obtain ⟨w, hw, hkey⟩ := hl.afterKey
  rw [hkey, List.all_cons, Bool.and_eq_true]
  refine ⟨rfl, List.all_eq_true.2 fun c hc => ?_⟩
  rw [hw c hc]
  rfl

mutual

/-- **What is written for a value is ASCII,** and a file gives it back as it is. -/
theorem lasting_text (depth : Nat) :
    (v : Json) → (text l depth v).all CodePoint.isLasting = true
  | .null | .bool true | .bool false | .array [] | .object [] => rfl
  | .number (.int i) => lasting_ofInt i
  | .number (.double d) => lasting_double d
  | .string s => lasting_quoted s
  | .array (x :: xs) => by
    simp only [text, List.all_append, hl.lasting_lineStart, lasting_text _ x,
      lasting_itemsText _ xs]
    rfl
  | .object ((k, x) :: fs) => by
    simp only [text, List.all_append, hl.lasting_lineStart, hl.lasting_afterKey, lasting_quoted,
      lasting_text _ x, lasting_fieldsText _ fs]
    rfl

theorem lasting_itemsText (depth : Nat) :
    (xs : List Json) → (itemsText l depth xs).all CodePoint.isLasting = true
  | [] => rfl
  | x :: xs => by
    simp only [itemsText, List.all_append, hl.lasting_lineStart, lasting_text _ x,
      lasting_itemsText _ xs]
    rfl

theorem lasting_fieldsText (depth : Nat) :
    (fs : List (Text × Json)) → (fieldsText l depth fs).all CodePoint.isLasting = true
  | [] => rfl
  | (k, x) :: fs => by
    simp only [fieldsText, List.all_append, hl.lasting_lineStart, hl.lasting_afterKey,
      lasting_quoted, lasting_text _ x, lasting_fieldsText _ fs]
    rfl

end

end Values

theorem lasting_pretty (v : Json) : v.pretty.all CodePoint.isLasting = true :=
  lasting_text spaced_indented 0 v

end Json

end JsonShape
