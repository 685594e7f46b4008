import JsonShape.Number.Power
import JsonShape.Proofs.Json.Accept

/-!
# All the ways of writing a value

A value may be written in many ways: any blanks may stand between its tokens, each code point of a
string is written as itself, as its short escape, or by its units in hexadecimal digits, and zero
may have a minus.  `Written` says what those ways are, from the side of the value.  A text written
in any of them is one of the grammar (`value_of_written`), so it is read as the value it was written
for.
-/

namespace JsonShape

namespace Json

/-! ### Values that can be written -/

mutual

/-- Integers that are short enough, texts without surrogates, and different names. -/
def Plain : Json → Prop
  | .null | .bool _ => True
  | .number (.int i) => i.natAbs < tenTo Numeral.maxDigits
  | .number (.double _) => False
  | .string s => s.hasSurrogate = false
  | .array items => PlainItems items
  | .object fields => (fields.map Prod.fst).Nodup ∧ PlainFields fields

def PlainItems : List Json → Prop
  | [] => True
  | v :: vs => Plain v ∧ PlainItems vs

def PlainFields : List (Text × Json) → Prop
  | [] => True
  | (k, v) :: fs => k.hasSurrogate = false ∧ Plain v ∧ PlainFields fs

end

mutual

/-- How many containers stand inside of one another. -/
def nesting : Json → Nat
  | .array items => nestingItems items + 1
  | .object fields => nestingFields fields + 1
  | _ => 0

def nestingItems : List Json → Nat
  | [] => 0
  | v :: vs => max (nesting v) (nestingItems vs)

def nestingFields : List (Text × Json) → Nat
  | [] => 0
  | (_, v) :: fs => max (nesting v) (nestingFields fs)

end

/-! ### The ways of writing -/

/-- The first of the two units of a code point above U+FFFF. -/
def highUnit (c : CodePoint) : CodePoint := .ofNat (0xD800 + (c.val - 0x10000) / 0x400)

/-- The second of the two units. -/
def lowUnit (c : CodePoint) : CodePoint := .ofNat (0xDC00 + (c.val - 0x10000) % 0x400)

/-- A code point between quotes. -/
inductive WrittenLetter : CodePoint → Text → Text → Prop
  | plain {c : CodePoint} {r : Text} (hc : Unescaped c) : WrittenLetter c (c :: r) r
  | short {e c : CodePoint} {r : Text} (h : (e, c) ∈ shortEscapes) :
    WrittenLetter c ('\\' :: e :: r) r
  | unit {c : CodePoint} {t r : Text} (h : UnitText c t r) : WrittenLetter c t r
  | units {c : CodePoint} {t u r : Text} (hc : 0x10000 ≤ c.val) (hhigh : UnitText (highUnit c) t u)
    (hlow : UnitText (lowUnit c) u r) : WrittenLetter c t r

/-- The code points of a string and its closing quote. -/
inductive WrittenLetters : Text → Text → Text → Prop
  | quote {r : Text} : WrittenLetters [] ('"' :: r) r
  | cons {c : CodePoint} {s t u r : Text} (h : WrittenLetter c t u) (hs : WrittenLetters s u r) :
    WrittenLetters (c :: s) t r

/-- An integer; zero may have a minus. -/
inductive WrittenInt : Int → Text → Prop
  | digits {negative : Bool} {ds : Text} (h : Whole ds) :
    WrittenInt (if negative then -(Numeral.value ds : Int) else Numeral.value ds)
      (minus negative ++ ds)

/-- A name between quotes and the colon behind it. -/
inductive WrittenName : Text → Text → Text → Prop
  | colon {k t u w r : Text} (hk : WrittenLetters k t u) (hu : Blanks u (':' :: w))
    (hw : Blanks w r) : WrittenName k ('"' :: t) r

mutual

/-- The value is written at the front of a text. -/
inductive Written : Json → Text → Text → Prop
  | null {r : Text} : Written .null ("null" ++ r) r
  | true {r : Text} : Written (.bool Bool.true) ("true" ++ r) r
  | false {r : Text} : Written (.bool Bool.false) ("false" ++ r) r
  | int {i : Int} {w r : Text} (h : WrittenInt i w) : Written (.number (.int i)) (w ++ r) r
  | string {s t r : Text} (h : WrittenLetters s t r) : Written (.string s) ('"' :: t) r
  | emptyArray {t r : Text} (ht : Blanks t (']' :: r)) : Written (.array []) ('[' :: t) r
  | array {vs : List Json} {t u r : Text} (ht : Blanks t u) (h : WrittenItems vs u r) :
    Written (.array vs) ('[' :: t) r
  | emptyObject {t r : Text} (ht : Blanks t ('\x7d' :: r)) : Written (.object []) ('\x7b' :: t) r
  | object {fs : List (Text × Json)} {t u r : Text} (ht : Blanks t u) (h : WrittenFields fs u r) :
    Written (.object fs) ('\x7b' :: t) r

/-- The items of an array in their order, and its closing bracket. -/
inductive WrittenItems : List Json → Text → Text → Prop
  | last {v : Json} {t u r : Text} (hv : Written v t u) (hu : Blanks u (']' :: r)) :
    WrittenItems [v] t r
  | cons {v : Json} {vs : List Json} {t u w x r : Text} (hv : Written v t u)
    (hu : Blanks u (',' :: w)) (hw : Blanks w x) (h : WrittenItems vs x r) :
    WrittenItems (v :: vs) t r

/-- The fields of an object in their order, and its closing brace. -/
inductive WrittenFields : List (Text × Json) → Text → Text → Prop
  | last {k : Text} {v : Json} {t u w r : Text} (hk : WrittenName k t u) (hv : Written v u w)
    (hw : Blanks w ('\x7d' :: r)) : WrittenFields [(k, v)] t r
  | cons {k : Text} {v : Json} {fs : List (Text × Json)} {t u w x y r : Text}
    (hk : WrittenName k t u) (hv : Written v u w) (hw : Blanks w (',' :: x)) (hx : Blanks x y)
    (h : WrittenFields fs y r) : WrittenFields ((k, v) :: fs) t r

end

/-- The value is written as the text, with blanks around it. -/
inductive WrittenAs (v : Json) (t : Text) : Prop
  | blanks {u w : Text} (ht : Blanks t u) (hv : Written v u w) (hw : Blanks w [])

/-! ### Strings -/

section Strings

variable {c : CodePoint}

theorem val_ofNat {n : Nat} (h : n < 0x110000) : (CodePoint.ofNat n).val = n := by
  rw [CodePoint.ofNat, dif_pos h]

/-- The two units of a code point stand for it again. -/
theorem ofSurrogates_units (hc : 0x10000 ≤ c.val) :
    CodePoint.ofSurrogates (highUnit c) (lowUnit c) = c := by
  have hlt : c.val < 0x110000 := c.isLt
  have hhigh : (highUnit c).val = 0xD800 + (c.val - 0x10000) / 0x400 := val_ofNat (by omega)
  have hlow : (lowUnit c).val = 0xDC00 + (c.val - 0x10000) % 0x400 := val_ofNat (by omega)
  refine Fin.ext ?_
  rw [CodePoint.ofSurrogates, hhigh, hlow, val_ofNat] <;> omega

theorem isHighSurrogate_highUnit (hc : 0x10000 ≤ c.val) : (highUnit c).isHighSurrogate = true := by
  have hlt : c.val < 0x110000 := c.isLt
  have hhigh : (highUnit c).val = 0xD800 + (c.val - 0x10000) / 0x400 := val_ofNat (by omega)
  simp only [CodePoint.isHighSurrogate, hhigh, Bool.and_eq_true, decide_eq_true_eq]
  omega

theorem isLowSurrogate_lowUnit (c : CodePoint) : (lowUnit c).isLowSurrogate = true := by
  have hlow : (lowUnit c).val = 0xDC00 + (c.val - 0x10000) % 0x400 := val_ofNat (by omega)
  simp only [CodePoint.isLowSurrogate, hlow, Bool.and_eq_true, decide_eq_true_eq]
  omega

theorem joinPieces_units (hc : 0x10000 ≤ c.val) (ps : List Piece) :
    joinPieces (.unit (highUnit c) :: .unit (lowUnit c) :: ps) = c :: joinPieces ps := by
  rw [joinPieces, isHighSurrogate_highUnit hc, isLowSurrogate_lowUnit, Bool.and_self,
    if_pos rfl, ofSurrogates_units hc]

/-- A unit that is no surrogate is not joined to what follows it. -/
theorem joinPieces_unit (hc : c.isSurrogate = false) (ps : List Piece) :
    joinPieces (.unit c :: ps) = c :: joinPieces ps := by
  have hhigh : c.isHighSurrogate = false := by
    simp only [CodePoint.isSurrogate, CodePoint.isHighSurrogate, Bool.and_eq_false_iff,
      decide_eq_false_iff_not] at hc ⊢
    omega
  cases ps with
  | nil => rfl
  | cons p ps =>
    cases p with
    | plain d => rfl
    | unit d => rw [joinPieces, hhigh, Bool.false_and, if_neg (by decide)]

/-- A written string is the join of the pieces that it is read as. -/
theorem pieces_of_written {s t r : Text} (h : WrittenLetters s t r) (hs : s.hasSurrogate = false) :
    ∃ ps, PiecesText ps t r ∧ joinPieces ps = s := by
  induction h with
  | quote => exact ⟨[], .quote, rfl⟩
  | @cons c s t u r h _ ih =>
    rw [Text.hasSurrogate, List.any_cons, Bool.or_eq_false_iff] at hs
    obtain ⟨ps, hps, rfl⟩ := ih hs.2
    cases h with
    | plain hc => exact ⟨.plain c :: ps, .cons (.plain hc) hps, rfl⟩
    | short he => exact ⟨.plain c :: ps, .cons (.short he) hps, rfl⟩
    | unit hu => exact ⟨.unit c :: ps, .cons (.unit hu) hps, joinPieces_unit hs.1 ps⟩
    | units hc hhigh hlow =>
      exact ⟨.unit (highUnit c) :: .unit (lowUnit c) :: ps,
        .cons (.unit hhigh) (.cons (.unit hlow) hps), joinPieces_units hc ps⟩

theorem stringText_of_written {s t r : Text} (h : WrittenLetters s t r)
    (hs : s.hasSurrogate = false) : StringText s ('"' :: t) r := by
  obtain ⟨ps, hps, rfl⟩ := pieces_of_written h hs
  exact .quoted hps

theorem nameText_of_written {k t r : Text} (h : WrittenName k t r) (hk : k.hasSurrogate = false) :
    NameText k t r := by
  cases h with
  | colon h hu hw => exact .colon (stringText_of_written h hk) hu hw

end Strings

/-! ### Integers -/

/-- Each digit behind a number multiplies it by ten. -/
theorem mul_tenTo_le_foldl (ds : Text) (n : Nat) :
    n * tenTo ds.length ≤ ds.foldl (fun n c => 10 * n + c.digitValue) n := by
  induction ds generalizing n with
  | nil => simp [tenTo]
  | cons c ds ih =>
    calc n * tenTo (ds.length + 1)
      _ = 10 * n * tenTo ds.length := by
        show n * (tenTo ds.length * 10) = _
        rw [Nat.mul_comm (tenTo _), ← Nat.mul_assoc, Nat.mul_comm n]
      _ ≤ (10 * n + c.digitValue) * tenTo ds.length :=
        Nat.mul_le_mul_right _ (Nat.le_add_right _ _)
      _ ≤ _ := ih _

theorem tenTo_lt_tenTo {m n : Nat} (h : tenTo m < tenTo n) : m < n := by
  refine Nat.lt_of_not_le fun hle => ?_
  exact absurd (Nat.pow_le_pow_right (by decide) hle) (Nat.not_le.2 h)

/-- A number without needless zeros has no more digits than its size asks for. -/
theorem Whole.length_le {ds : Text} (h : Whole ds) {k : Nat} (hk : 0 < k)
    (hlt : Numeral.value ds < tenTo k) : ds.length ≤ k := by
  cases h with
  | zero => exact hk
  | @digits c ds hc h0 hds =>
    have hpos : 1 ≤ c.digitValue := by
      have hne : c.val ≠ 0x30 := fun h => h0 (Fin.ext h)
      simp only [CodePoint.isDigit, Bool.and_eq_true, decide_eq_true_eq] at hc
      rw [CodePoint.digitValue]
      omega
    have hfold := mul_tenTo_le_foldl ds (10 * 0 + c.digitValue)
    have hvalue : tenTo ds.length ≤ Numeral.value (c :: ds) :=
      Nat.le_trans (Nat.le_mul_of_pos_left _ (by omega)) hfold
    exact tenTo_lt_tenTo (Nat.lt_of_le_of_lt hvalue hlt)

theorem value_of_writtenInt {i : Int} {w : Text} (h : WrittenInt i w)
    (hi : i.natAbs < tenTo Numeral.maxDigits) (depth : Nat) (r : Text) :
    Value Readable depth (.number (.int i)) (w ++ r) r := by
  cases h with
  | @digits negative ds hds =>
    have hsize : Numeral.value ds < tenTo Numeral.maxDigits := by
      cases negative <;> simpa using hi
    have htext : NumberText ⟨negative, ds, [], none⟩ (minus negative ++ (ds ++ ([] ++ []))) :=
      .parts hds .none .none
    rw [List.append_nil, List.append_nil] at htext
    exact .number htext fun _ => hds.length_le (by decide) hsize

/-! ### Containers -/

theorem upsert_of_not_mem {k : Text} {v : Json} {l : List (Text × Json)}
    (h : k ∉ l.map Prod.fst) : upsert k v l = l ++ [(k, v)] := by
  induction l with
  | nil => rfl
  | cons e l ih =>
    rw [List.map_cons, List.mem_cons, not_or] at h
    rw [upsert, if_neg (Ne.symm h.1), ih h.2, List.cons_append]

/-- Entries of new and different names are put behind those that are there. -/
theorem foldl_upsert_of_nodup {l m : List (Text × Json)} (h : ((m ++ l).map Prod.fst).Nodup) :
    l.foldl (fun m e => upsert e.1 e.2 m) m = m ++ l := by
  induction l generalizing m with
  | nil => simp
  | cons e l ih =>
    have happ : m ++ e :: l = (m ++ [e]) ++ l := by simp
    have hnew : e.1 ∉ m.map Prod.fst := by
      rw [List.map_append, List.map_cons] at h
      exact fun he => (List.nodup_append.1 h).2.2 _ he _ List.mem_cons_self rfl
    rw [List.foldl_cons, upsert_of_not_mem hnew, happ, ih (happ ▸ h)]

/-- Nothing is overwritten where all names are different. -/
theorem upsertAll_of_nodup {fs : List (Text × Json)} (h : (fs.map Prod.fst).Nodup) :
    upsertAll fs = fs :=
  foldl_upsert_of_nodup h

/-- There is room for one container less inside of a container. -/
theorem exists_add_one {n depth : Nat} (h : n + 1 ≤ depth) : ∃ d, depth = d + 1 ∧ n ≤ d :=
  ⟨depth - 1, by omega, by omega⟩

mutual

/-- What is written for a value is a text of it. -/
theorem value_of_written {v : Json} {t r : Text} {depth : Nat} :
    Written v t r → Plain v → nesting v ≤ depth → Value Readable depth v t r
  | .null, _, _ => .nullWord
  | .true, _, _ => .trueWord
  | .false, _, _ => .falseWord
  | .int h, hi, _ => value_of_writtenInt h hi depth r
  | .string h, hs, _ => .string (stringText_of_written h hs)
  | .emptyArray ht, _, hd => by
    obtain ⟨d, rfl, -⟩ := exists_add_one hd
    exact .emptyArray ht
  | .emptyObject ht, _, hd => by
    obtain ⟨d, rfl, -⟩ := exists_add_one hd
    exact .emptyObject ht
  | .array ht h, hplain, hd => by
    obtain ⟨d, rfl, hin⟩ := exists_add_one hd
    exact .array ht (items_of_written h hplain hin)
  | .object ht h, hplain, hd => by
    obtain ⟨d, rfl, hin⟩ := exists_add_one hd
    have hvalue := Value.object ht (fields_of_written h hplain.2 hin)
    rw [upsertAll_of_nodup hplain.1] at hvalue
    exact hvalue

theorem items_of_written {vs : List Json} {t r : Text} {depth : Nat} :
    WrittenItems vs t r → PlainItems vs → nestingItems vs ≤ depth → Items Readable depth vs t r
  | .last hv hu, hplain, hd =>
    .last (value_of_written hv hplain.1 (Nat.le_trans (Nat.le_max_left _ _) hd)) hu
  | .cons hv hu hw h, hplain, hd =>
    .cons (value_of_written hv hplain.1 (Nat.le_trans (Nat.le_max_left _ _) hd)) hu hw
      (items_of_written h hplain.2 (Nat.le_trans (Nat.le_max_right _ _) hd))

theorem fields_of_written {fs : List (Text × Json)} {t r : Text} {depth : Nat} :
    WrittenFields fs t r → PlainFields fs → nestingFields fs ≤ depth →
      Fields Readable depth fs t r
  | .last hk hv hw, hplain, hd =>
    .last (nameText_of_written hk hplain.1)
      (value_of_written hv hplain.2.1 (Nat.le_trans (Nat.le_max_left _ _) hd)) hw
  | .cons hk hv hw hx h, hplain, hd =>
    .cons (nameText_of_written hk hplain.1)
      (value_of_written hv hplain.2.1 (Nat.le_trans (Nat.le_max_left _ _) hd)) hw hx
      (fields_of_written h hplain.2.2 (Nat.le_trans (Nat.le_max_right _ _) hd))

end

end Json

/-! ### Documents -/

namespace Document

open Json

/-- **Reading undoes every way of writing.**  A document without doubles, whose integers can be read
and whose strings have no surrogates, is found again in whatever text it is written as, with its
items and fields in their order, and so is the tree of what was read. -/
theorem reads_every_writing {d : Document} {t : Text} {depth : Nat} (hplain : d.root.Plain)
    (hdepth : d.root.nesting ≤ depth) (h : WrittenAs d.root t) :
    ofText? t depth = .ok d ∧ Json.ofDatum? (Datum.ofJson d.root) = .ok d.root := by
  refine ⟨?_, Json.ofDatum?_ofJson d.root⟩
  cases h with
  | blanks ht hv hw =>
    have hvalue := value_of_written hv hplain hdepth
    exact ofText?_eq_ok_iff.2 (read_of_jsonText (.blanks ht hvalue hw))

/-- A minus before zero, a blank before the comma, and the two units of a code point in digits of
either case. -/
theorem reads_every_writing_units :
    ofText? "\x7b\"k\": [-0 ,\"\\uD83D\\ude00\"]\x7d" 2 =
      .ok (.object [("k", .array [.number (.int 0), .string [0x1F600]])]) := by
  have hhigh : UnitText (highUnit 0x1F600) "\\uD83D\\ude00\"]\x7d" "\\ude00\"]\x7d" :=
    @UnitText.digits 'D' '8' '3' 'D' 13 8 3 13 _ rfl rfl rfl rfl
  have hlow : UnitText (lowUnit 0x1F600) "\\ude00\"]\x7d" "\"]\x7d" :=
    @UnitText.digits 'd' 'e' '0' '0' 13 14 0 0 _ rfl rfl rfl rfl
  have hunits : WrittenLetters [0x1F600] "\\uD83D\\ude00\"]\x7d" "]\x7d" :=
    .cons (.units (by decide) hhigh hlow) .quote
  have hzero : WrittenInt 0 "-0" := @WrittenInt.digits true ['0'] .zero
  have hblank : Blanks " ,\"\\uD83D\\ude00\"]\x7d" ",\"\\uD83D\\ude00\"]\x7d" := .cons rfl (.refl _)
  have harray : Written (.array [.number (.int 0), .string [0x1F600]])
      "[-0 ,\"\\uD83D\\ude00\"]\x7d" "\x7d" :=
    .array (.refl _) (.cons (.int hzero) hblank (.refl _) (.last (.string hunits) (.refl _)))
  have hname : WrittenName "k" "\"k\": [-0 ,\"\\uD83D\\ude00\"]\x7d"
      "[-0 ,\"\\uD83D\\ude00\"]\x7d" :=
    .colon (.cons (.plain (by decide)) .quote) (.refl _) (.cons rfl (.refl _))
  have hwritten : WrittenAs
      (Document.object [("k", .array [.number (.int 0), .string [0x1F600]])]).root
      "\x7b\"k\": [-0 ,\"\\uD83D\\ude00\"]\x7d" :=
    .blanks (.refl _) (.object (.refl _) (.last hname harray (.refl _))) (.refl _)
  refine (reads_every_writing ?_ (by decide) hwritten).1
  exact ⟨by simp, rfl, ⟨tenTo_pos _, rfl, trivial⟩, trivial⟩

end Document

end JsonShape
