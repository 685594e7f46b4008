import JsonShape.Proofs.Yaml.Cursor
import JsonShape.Yaml.Scalar
import JsonShape.Yaml.Writer

/-!
# Quoted scalars

What may stand between quotes for a text: `DoubleWritten t w r` and `SingleWritten t w r` say that
`w` starts with a way of writing `t` and its closing quote, and that `r` follows.  Where a line is
folded is left open, so nothing here depends on the column at which a writer folds.  What is written
is a way of writing (`doubleWritten_escapedText`, `singleWritten_foldedText`), and every way of
writing is read (`doubleQuoted_of_written`, `singleQuoted_of_written`).
-/

namespace JsonShape.Yaml

variable {t w r : Text} {c : Cursor}

/-! ### Gaps -/

theorem isBlank_of_isPrintable {x : CodePoint} (h : isPrintable x = true)
    (hx : x ≠ (' ' : CodePoint)) : isBlank x = false := by
  have htab : x ≠ ('\t' : CodePoint) := by rintro rfl; revert h; decide
  simp [isBlank, hx, htab]

/-- Something stands in front, and neither a blank nor a break. -/
def Inked (t : Text) : Prop := ∃ x v, t = x :: v ∧ isBlank x = false ∧ isBreak x = false

theorem Inked.not_isBlank (h : Inked t) : ∀ x ∈ t.head?, isBlank x = false := by
  obtain ⟨y, v, rfl, hy, -⟩ := h
  intro x hx
  exact Option.some.inj hx ▸ hy

theorem Inked.not_isBreak (h : Inked t) : ∀ x ∈ t.head?, isBreak x = false := by
  obtain ⟨y, v, rfl, -, hy⟩ := h
  intro x hx
  exact Option.some.inj hx ▸ hy

theorem inked_of_isPrintable {x : CodePoint} (h : isPrintable x = true)
    (hx : x ≠ (' ' : CodePoint)) (v : Text) : Inked (x :: v) :=
  ⟨x, v, rfl, isBlank_of_isPrintable h hx, isBreak_of_isPrintable h⟩

theorem atSeparator_of_ne {x : CodePoint} (hdash : x ≠ '-') (hpoint : x ≠ '.') (t : Text) :
    Cursor.atSeparator (x :: t) = false := by
  rcases t with _ | ⟨y, _ | ⟨z, t⟩⟩
  · rfl
  · rfl
  · simp [Cursor.atSeparator, Cursor.atMarker, hdash, hpoint]

/-- Blanks that no break follows are read as they are. -/
theorem quotedGap_eq_ok {s v : Text} (h : c.rest = s ++ v) (hs : s.all isBlank = true)
    (hv : Inked v) : quotedGap c = .ok (s, c.advance s.length) := by
  have hrest : (c.advance s.length).rest = v := by
    rw [Cursor.rest_advance, h, List.drop_left]
  rw [quotedGap, Cursor.span_eq isBlank h hs hv.not_isBlank]
  dsimp only
  rw [Cursor.takeBreak?_eq_none (hrest ▸ hv.not_isBreak), if_neg]
  obtain ⟨x, u, rfl, -⟩ := hv
  rw [hrest]
  exact List.cons_ne_nil x u

/-- After spaces something stands that is no break. -/
def EndsInked (t : Text) : Prop := ∃ n v, t = Text.spaces n ++ v ∧ Inked v

theorem all_isBlank_spaces (n : Nat) : (Text.spaces n).all isBlank = true :=
  List.all_eq_true.2 fun _ hx => List.eq_of_mem_replicate hx ▸ rfl

theorem Inked.endsInked (h : Inked t) : EndsInked t := ⟨0, t, rfl, h⟩

theorem EndsInked.space (h : EndsInked t) : EndsInked ((' ' : CodePoint) :: t) := by
  obtain ⟨n, v, rfl, hv⟩ := h
  exact ⟨n + 1, v, rfl, hv⟩

theorem EndsInked.inked (h : EndsInked t) (ht : ∀ x ∈ t.head?, x ≠ (' ' : CodePoint)) :
    Inked t := by
  obtain ⟨n, v, rfl, hv⟩ := h
  cases n with
  | zero => exact hv
  | succ n => exact absurd rfl (ht _ rfl)

/-- A reader that takes the blanks of a line at once takes them one by one. -/
theorem read_space {read : Nat → Cursor → Except Fault (Text × Cursor)}
    (hread : ∀ {fuel c x v s d}, c.rest = x :: v → isBlank x = true → quotedGap c = .ok (s, d) →
      read (fuel + 1) c = prepend s (read fuel d))
    {fuel : Nat} (h : c.rest = (' ' : CodePoint) :: w) (hw : EndsInked w)
    (ih : ∀ {fuel}, w.length < fuel → ∃ d, read fuel c.next = .ok (t, d) ∧ d.rest = r)
    (hfuel : w.length < fuel) :
    ∃ d, read (fuel + 1) c = .ok ((' ' : CodePoint) :: t, d) ∧ d.rest = r := by
  obtain ⟨n, v, rfl, hv⟩ := hw
  have hnext : c.next.rest = Text.spaces n ++ v := by rw [Cursor.rest_next, h]; rfl
  rw [hread h rfl (quotedGap_eq_ok (s := Text.spaces (n + 1)) h (all_isBlank_spaces _) hv)]
  cases n with
  | zero =>
    obtain ⟨d, hd, hr⟩ := ih hfuel
    exact ⟨d, congrArg (prepend [' ']) hd, hr⟩
  | succ n =>
    obtain ⟨d, hd, hr⟩ := ih (Nat.lt_succ_of_lt hfuel)
    -- what is read here starts with the same blanks, and is read to the same place
    rw [hread hnext rfl (quotedGap_eq_ok hnext (all_isBlank_spaces _) hv)] at hd
    change ∃ d, prepend (' ' :: Text.spaces (n + 1))
      (read fuel (c.next.advance (Text.spaces (n + 1)).length)) = _ ∧ _
    cases hmore : read fuel (c.next.advance (Text.spaces (n + 1)).length) with
    | error f => rw [hmore] at hd; cases hd
    | ok found =>
      rw [hmore] at hd
      cases hd
      exact ⟨_, rfl, hr⟩

/-- The indentation of a line that something stands in. -/
theorem quotedBreaks_indent (fuel : Nat) (h : c.rest = foldIndent ++ w) (hw : Inked w) :
    quotedBreaks (fuel + 1) c = .ok ([], c.advance 2) := by
  have hrest : (c.advance 2).rest = w := by rw [Cursor.rest_advance, h]; rfl
  have hspan := Cursor.span_eq isBlank h (by decide) hw.not_isBlank
  rw [quotedBreaks, if_neg]
  · dsimp only
    rw [Cursor.skip, hspan]
    dsimp only
    rw [Cursor.takeBreak?_eq_none]
    · rfl
    · exact hrest ▸ hw.not_isBreak
  · rw [h]
    exact Bool.eq_false_iff.1 (atSeparator_of_ne (by decide) (by decide) _)

/-- What all written lines consist of: printable ASCII and line feeds. -/
def isWritten (c : CodePoint) : Bool := isPrintable c || c = '\n'

theorem isWritten_of_isPrintable {x : CodePoint} (h : isPrintable x = true) :
    isWritten x = true := by
  rw [isWritten, h]
  rfl

/-! ### Double quotes -/

/-- A text between double quotes, with its closing quote: code points stand for themselves or are
escaped, and a line may be ended after a backslash, if the next one does not start with a space. -/
inductive DoubleWritten : Text → Text → Text → Prop
  | quote {r : Text} : DoubleWritten [] ('"' :: r) r
  | plain {x : CodePoint} {t w r : Text} (hx : isEscaped x = false) (h : DoubleWritten t w r) :
    DoubleWritten (x :: t) (x :: w) r
  | escape {x : CodePoint} {t w r : Text} (h : DoubleWritten t w r) :
    DoubleWritten (x :: t) (escapeText x ++ w) r
  | keptSpace {t w r : Text} (h : DoubleWritten t w r) :
    DoubleWritten (' ' :: t) ('\\' :: ' ' :: w) r
  | fold {t w r : Text} (h : DoubleWritten t w r) (hw : ∀ x ∈ w.head?, x ≠ (' ' : CodePoint)) :
    DoubleWritten t ("\\\n" ++ (foldIndent ++ w)) r

theorem isPrintable_of_not_isEscaped {x : CodePoint} (h : isEscaped x = false) :
    isPrintable x = true ∧ x ≠ ('"' : CodePoint) ∧ x ≠ ('\\' : CodePoint) := by
  simp only [isEscaped, Bool.or_eq_false_iff, decide_eq_false_iff_not, Bool.not_eq_false'] at h
  exact ⟨h.2, h.1.1, h.1.2⟩

/-- An escape is a letter that is known, or a letter and as many digits as it asks for. -/
theorem escapeText_cases (x : CodePoint) :
    (∃ e, escapeText x = [('\\' : CodePoint), e] ∧ escape? e = some x ∧ isPrintable e = true) ∨
    ∃ e n, escapeText x = ('\\' : CodePoint) :: e :: capitalHex n x.val ∧ escape? e = none ∧
      escapeLength? e = some n ∧ x.val < Nat.pow 16 n := by
  rw [escapeText]
  split
  · next e he =>
    obtain ⟨l₁, l₂, hsplit, -⟩ := List.lookup_eq_some_iff.1 he
    have hall : shortEscapes.all
        (fun p => escape? p.2 = some p.1 && isPrintable p.2) = true := by decide
    have hmem : (x, e) ∈ shortEscapes := by rw [hsplit]; simp
    have he := List.all_eq_true.1 hall _ hmem
    rw [Bool.and_eq_true, decide_eq_true_eq] at he
    exact Or.inl ⟨e, rfl, he⟩
  · right
    split
    · next hx => exact ⟨'x', 2, rfl, by decide, by decide, Nat.lt_of_lt_of_le hx (by decide)⟩
    split
    · next hx => exact ⟨'u', 4, rfl, by decide, by decide, Nat.lt_of_lt_of_le hx (by decide)⟩
    · exact ⟨'U', 8, rfl, by decide, by decide, Nat.lt_of_lt_of_le x.isLt (by decide)⟩

theorem length_capitalHex (n m : Nat) : (capitalHex n m).length = n := by
  rw [capitalHex, List.length_map]
  induction n generalizing m with
  | zero => rfl
  | succ n ih => rw [Numeral.hex, List.length_append, ih]; rfl

theorem hexValue?_upperAscii_hexDigit :
    ∀ n < 16, (CodePoint.hexDigit n).upperAscii.hexValue? = some n := by decide

/-- Digits spell the number that they are written for. -/
theorem hexNumber?_capitalHex (n m : Nat) :
    hexNumber? (capitalHex n m) = some (m % Nat.pow 16 n) := by
  induction n generalizing m with
  | zero => exact congrArg some (Nat.mod_one m).symm
  | succ n ih =>
    have hpow : Nat.pow 16 (n + 1) = 16 * Nat.pow 16 n := Nat.mul_comm _ _
    have hdigit := hexValue?_upperAscii_hexDigit (m % 16) (Nat.mod_lt m (by decide))
    have hfront := ih (m / 16)
    rw [capitalHex, hexNumber?] at hfront ⊢
    rw [Numeral.hex, List.map_append, List.foldl_append, hfront, List.map_singleton,
      List.foldl_cons, List.foldl_nil, Option.bind_some, hdigit, Option.map_some, hpow,
      Nat.mod_mul, Nat.add_comm]

/-- A code point is spelt by its digits. -/
theorem spelt_capitalHex {n : Nat} {x : CodePoint} (h : x.val < Nat.pow 16 n) (r : Text) :
    spelt n (capitalHex n x.val ++ r) = .ok x := by
  have htake : (capitalHex n x.val ++ r).take n = capitalHex n x.val := by
    rw [List.take_append_of_le_length (Nat.le_of_eq (length_capitalHex n _).symm),
      List.take_of_length_le (Nat.le_of_eq (length_capitalHex n _))]
  rw [spelt, if_neg (by rw [List.length_append, length_capitalHex]; omega), htake,
    hexNumber?_capitalHex, Nat.mod_eq_of_lt h]
  exact dif_pos x.isLt

/-- Blanks are not followed by a break. -/
theorem DoubleWritten.endsInked (h : DoubleWritten t w r) : EndsInked w := by
  have hbackslash (v : Text) : Inked (('\\' : CodePoint) :: v) := ⟨_, v, rfl, by decide, by decide⟩
  induction h with
  | quote => exact Inked.endsInked ⟨_, _, rfl, by decide, by decide⟩
  | @plain x t w r hx h ih =>
    by_cases hspace : x = (' ' : CodePoint)
    · exact hspace ▸ ih.space
    · exact (inked_of_isPrintable (isPrintable_of_not_isEscaped hx).1 hspace w).endsInked
  | @escape x t w r h ih =>
    obtain ⟨e, he, -⟩ | ⟨e, n, he, -⟩ := escapeText_cases x <;> rw [he]
    · exact (hbackslash _).endsInked
    · exact (hbackslash _).endsInked
  | keptSpace => exact (hbackslash _).endsInked
  | fold => exact (hbackslash _).endsInked

theorem prepend_nil (found : Except Fault (Text × Cursor)) : prepend [] found = found := by
  cases found <;> rfl

theorem doubleQuoted_blank {fuel : Nat} {x : CodePoint} {v s : Text} {d : Cursor}
    (h : c.rest = x :: v) (hx : isBlank x = true) (hgap : quotedGap c = .ok (s, d)) :
    doubleQuoted (fuel + 1) c = prepend s (doubleQuoted fuel d) := by
  have hquote : x ≠ ('"' : CodePoint) := by rintro rfl; revert hx; decide
  have hbackslash : x ≠ ('\\' : CodePoint) := by rintro rfl; revert hx; decide
  rw [doubleQuoted, h]
  dsimp only
  rw [if_neg hquote, if_neg hbackslash, if_pos (by rw [hx]; rfl), hgap]

theorem doubleQuoted_escape (fuel : Nat) {x : CodePoint} (h : c.rest = escapeText x ++ w) :
    ∃ n, (c.advance n).rest = w ∧
      doubleQuoted (fuel + 1) c = prepend [x] (doubleQuoted fuel (c.advance n)) := by
  obtain ⟨e, he, hx, -⟩ | ⟨e, n, he, hnone, hn, hx⟩ := escapeText_cases x <;>
    rw [he, List.cons_append, List.cons_append] at h
  · refine ⟨2, by rw [Cursor.rest_advance, h]; rfl, ?_⟩
    rw [doubleQuoted, h]
    dsimp only
    rw [if_neg (by decide), if_pos rfl, hx]
  · refine ⟨n + 2, ?_, ?_⟩
    · rw [Cursor.rest_advance, h, List.drop_succ_cons, List.drop_succ_cons,
        List.drop_left' (length_capitalHex n _)]
    · rw [doubleQuoted, h]
      dsimp only
      rw [if_neg (by decide), if_pos rfl, hnone, hn]
      dsimp only
      rw [spelt_capitalHex hx]

theorem doubleQuoted_fold (fuel : Nat) (h : c.rest = "\\\n" ++ (foldIndent ++ w)) (hw : Inked w) :
    ∃ d : Cursor, d.rest = w ∧ doubleQuoted (fuel + 1) c = doubleQuoted fuel d := by
  have hnext : c.next.rest = ('\n' : CodePoint) :: (foldIndent ++ w) := by
    rw [Cursor.rest_next, h]; rfl
  have hbreak := Cursor.takeBreak?_of_lineFeed hnext
  refine ⟨Cursor.advance 2 ⟨foldIndent ++ w, c.next.index + 1, c.next.line + 1, 0⟩,
    by rw [Cursor.rest_advance]; rfl, ?_⟩
  have hbreaks := quotedBreaks_indent (c.next.skipBreak.rest.length) (c := c.next.skipBreak)
    (by rw [Cursor.skipBreak, hbreak]; rfl) hw
  have hfold : c.rest = ('\\' : CodePoint) :: '\n' :: (foldIndent ++ w) := h
  have hescape : escape? '\n' = none ∧ escapeLength? '\n' = none := by decide
  rw [doubleQuoted, hfold]
  dsimp only
  rw [if_neg (by decide), if_pos rfl, hescape.1, hescape.2]
  dsimp only
  rw [if_pos (by decide), hbreaks]
  change prepend [] _ = _
  rw [prepend_nil, Cursor.skipBreak, hbreak]
  rfl

/-- **Every way of writing between double quotes is read.** -/
theorem doubleQuoted_of_written (h : DoubleWritten t w r) :
    ∀ {c : Cursor} {fuel : Nat}, c.rest = w → w.length < fuel →
      ∃ d, doubleQuoted fuel c = .ok (t, d) ∧ d.rest = r := by
  induction h with
  | @quote r =>
    intro c fuel hc hfuel
    obtain ⟨fuel, rfl⟩ := Nat.exists_eq_add_of_lt hfuel
    exact ⟨c.next, by rw [doubleQuoted, hc]; rfl, by rw [Cursor.rest_next, hc]; rfl⟩
  | @plain x t w r hx h ih =>
    intro c fuel hc hfuel
    obtain ⟨fuel, rfl⟩ := Nat.exists_eq_add_one_of_ne_zero (Nat.ne_zero_of_lt hfuel)
    have hnext : c.next.rest = w := by rw [Cursor.rest_next, hc]; rfl
    rw [List.length_cons, Nat.add_lt_add_iff_right] at hfuel
    by_cases hspace : x = (' ' : CodePoint)
    · rw [hspace] at hc ⊢
      exact read_space doubleQuoted_blank hc h.endsInked (ih hnext) hfuel
    · obtain ⟨hprint, hquote, hbackslash⟩ := isPrintable_of_not_isEscaped hx
      obtain ⟨d, hd, hr⟩ := ih hnext hfuel
      refine ⟨d, ?_, hr⟩
      rw [doubleQuoted, hc]
      dsimp only
      rw [if_neg hquote, if_neg hbackslash, if_neg, hd]
      · rfl
      · rw [isBlank_of_isPrintable hprint hspace, isBreak_of_isPrintable hprint]
        decide
  | @escape x t w r h ih =>
    intro c fuel hc hfuel
    obtain ⟨fuel, rfl⟩ := Nat.exists_eq_add_one_of_ne_zero (Nat.ne_zero_of_lt hfuel)
    obtain ⟨n, hrest, hread⟩ := doubleQuoted_escape fuel hc
    have hlength : 0 < (escapeText x).length := by
      obtain ⟨e, he, -⟩ | ⟨e, n, he, -⟩ := escapeText_cases x <;> rw [he] <;> exact Nat.succ_pos _
    rw [List.length_append] at hfuel
    have hless : w.length < fuel := by omega
    obtain ⟨d, hd, hr⟩ := ih hrest hless
    exact ⟨d, by rw [hread, hd]; rfl, hr⟩
  | @keptSpace t w r h ih =>
    intro c fuel hc hfuel
    obtain ⟨fuel, rfl⟩ := Nat.exists_eq_add_one_of_ne_zero (Nat.ne_zero_of_lt hfuel)
    rw [List.length_cons, List.length_cons] at hfuel
    have hrest : (c.advance 2).rest = w := by rw [Cursor.rest_advance, hc]; rfl
    have hless : w.length < fuel := by omega
    obtain ⟨d, hd, hr⟩ := ih hrest hless
    refine ⟨d, ?_, hr⟩
    rw [doubleQuoted, hc]
    change prepend [' '] (doubleQuoted fuel (c.advance 2)) = _
    rw [hd]
    rfl
  | @fold t w r h hw ih =>
    intro c fuel hc hfuel
    obtain ⟨fuel, rfl⟩ := Nat.exists_eq_add_one_of_ne_zero (Nat.ne_zero_of_lt hfuel)
    have hinked : Inked w := h.endsInked.inked hw
    obtain ⟨d, hrest, hread⟩ := doubleQuoted_fold fuel hc hinked
    rw [List.length_append, List.length_append] at hfuel
    have hindent : (Text.ofString "\\\n").length = 2 := rfl
    rw [hread]
    exact ih hrest (by omega)

theorem DoubleWritten.head_ne_space (h : DoubleWritten t w r)
    (ht : ∀ x ∈ t.head?, x ≠ (' ' : CodePoint)) : ∀ x ∈ w.head?, x ≠ (' ' : CodePoint) := by
  intro y hy
  cases h with
  | quote => cases hy; decide
  | plain hx h => cases hy; exact ht _ rfl
  | @escape x t w r h =>
    obtain ⟨e, he, -⟩ | ⟨e, n, he, -⟩ := escapeText_cases x <;> rw [he] at hy <;> cases hy <;>
      decide
  | keptSpace h => cases hy; decide
  | fold h hw => cases hy; decide

theorem foldBefore_of_ne {x : CodePoint} (hx : x ≠ (' ' : CodePoint)) :
    foldBefore (some x) = "\\\n" ++ foldIndent := by
  have hne : some x ≠ some (' ' : CodePoint) := fun h => hx (Option.some.inj h)
  exact (congrArg _ (if_neg hne)).trans (List.append_nil _)

/-- A line may be ended before a code point that stands for itself. -/
theorem DoubleWritten.foldBefore_plain {x : CodePoint} (hx : isEscaped x = false)
    (h : DoubleWritten t w r) : DoubleWritten (x :: t) (foldBefore (some x) ++ x :: w) r := by
  by_cases hspace : x = (' ' : CodePoint)
  · rw [hspace]
    exact .fold (.keptSpace h) fun y hy => by cases hy; decide
  · rw [foldBefore_of_ne hspace, List.append_assoc]
    exact .fold (.plain hx h) fun y hy => by cases hy; exact hspace

/-- Wherever a writer stands, it writes `t` in some way after what is pending. -/
def WritesOn (r t : Text) : Prop := ∀ first pending column, ∃ w,
  escapedText first pending column t = pending ++ w ∧
    DoubleWritten t (w ++ ('"' : CodePoint) :: r) r

/-- Right after a line has been ended the next one is not. -/
theorem escapedText_space_of_start (t : Text) :
    escapedText false [] (columnAfterFold (some ' ')) (' ' :: t) =
      escapedText false [' '] (columnAfterFold (some ' ')) t := by
  have hcolumn : decide (maxColumn < columnAfterFold (some ' ') + 0) = false := by decide
  rw [escapedText, if_neg (by decide), List.length_nil, hcolumn, Bool.and_false,
    if_neg Bool.false_ne_true, List.nil_append]

/-- After an escape a line may be ended. -/
theorem WritesOn.folded {x : CodePoint} (h : WritesOn r t) (hx : WritesOn r (x :: t)) : ∃ w,
    foldBefore (some x) ++ escapedText false [] (columnAfterFold (some x)) (x :: t) = w ∧
      DoubleWritten (x :: t) (w ++ ('"' : CodePoint) :: r) r := by
  by_cases hspace : x = (' ' : CodePoint)
  · obtain ⟨w, hw, h⟩ := h false [' '] (columnAfterFold (some ' '))
    refine ⟨_, rfl, ?_⟩
    rw [hspace, escapedText_space_of_start, hw, List.append_assoc]
    exact h.foldBefore_plain (by decide)
  · obtain ⟨w, hw, h⟩ := hx false [] (columnAfterFold (some x))
    refine ⟨_, rfl, ?_⟩
    rw [hw, foldBefore_of_ne hspace, List.nil_append, List.append_assoc, List.append_assoc]
    exact .fold h (h.head_ne_space fun y hy => by cases hy; exact hspace)

/-- What may be done for one code point: it is escaped or not, and the line may be ended after it or
before it. -/
theorem WritesOn.cons (h : WritesOn r t) (htail : WritesOn r t.tail) (x : CodePoint) :
    WritesOn r (x :: t) := by
  intro first pending column
  rw [escapedText]
  dsimp only
  by_cases hx : isEscaped x = true
  · rw [if_pos hx]
    split
    · next hfold =>
      cases t with
      | nil => simp at hfold
      | cons y t =>
        obtain ⟨w, hw, h⟩ := WritesOn.folded (t := t) htail h
        rw [List.head?_cons, List.append_assoc, hw, List.append_assoc]
        refine ⟨_, rfl, ?_⟩
        rw [List.append_assoc]
        exact .escape h
    · obtain ⟨w, hw, h⟩ := h false [] (column + (pending ++ escapeText x).length)
      rw [hw, List.nil_append, List.append_assoc]
      refine ⟨_, rfl, ?_⟩
      rw [List.append_assoc]
      exact .escape h
  · rw [Bool.not_eq_true] at hx
    rw [hx, if_neg Bool.false_ne_true]
    split
    · obtain ⟨w, hw, h⟩ := h false [x] (columnAfterFold (some x))
      rw [hw, List.append_assoc]
      refine ⟨_, rfl, ?_⟩
      rw [List.append_assoc]
      exact h.foldBefore_plain hx
    · obtain ⟨w, hw, h⟩ := h false (pending ++ [x]) column
      rw [hw, List.append_assoc]
      exact ⟨_, rfl, .plain hx h⟩

theorem writesOn (r t : Text) : WritesOn r t := by
  suffices h : WritesOn r t ∧ WritesOn r t.tail from h.1
  have hnil : WritesOn r [] := fun _ pending _ => ⟨[], (List.append_nil pending).symm, .quote⟩
  induction t with
  | nil => exact ⟨hnil, hnil⟩
  | cons x t ih => exact ⟨ih.1.cons ih.2 x, ih.1⟩

/-- **What is written between double quotes is a way of writing.** -/
theorem doubleWritten_escapedText (column : Nat) (t r : Text) :
    DoubleWritten t (escapedText true [] column t ++ ('"' : CodePoint) :: r) r := by
  obtain ⟨w, hw, h⟩ := writesOn r t true [] column
  rw [hw]
  exact h

theorem isPrintable_hexDigit : ∀ n < 16, isPrintable (CodePoint.hexDigit n).upperAscii = true := by
  decide

theorem isPrintable_capitalHex (n m : Nat) : (capitalHex n m).all isPrintable = true := by
  rw [capitalHex, List.all_map]
  induction n generalizing m with
  | zero => rfl
  | succ n ih =>
    rw [Numeral.hex, List.all_append, ih, List.all_cons, List.all_nil, Bool.and_true]
    exact isPrintable_hexDigit _ (Nat.mod_lt m (by decide))

theorem isPrintable_escapeText (x : CodePoint) : (escapeText x).all isPrintable = true := by
  obtain ⟨e, he, -, hprint⟩ | ⟨e, n, he, -, hn, -⟩ := escapeText_cases x <;> rw [he]
  · rw [List.all_cons, List.all_cons, hprint]
    rfl
  · have hprint : isPrintable e = true := by
      rw [escapeLength?] at hn
      split at hn
      · next he => rw [he]; rfl
      split at hn
      · next he => rw [he]; rfl
      split at hn
      · next he => rw [he]; rfl
      · cases hn
    rw [List.all_cons, List.all_cons, hprint, isPrintable_capitalHex]
    rfl

/-- Everything up to the end of the scalar is written. -/
theorem DoubleWritten.split (h : DoubleWritten t w r) :
    ∃ v, w = v ++ r ∧ v.all isWritten = true := by
  induction h with
  | @quote r => exact ⟨['"'], rfl, rfl⟩
  | @plain x t w r hx h ih =>
    obtain ⟨v, rfl, hv⟩ := ih
    refine ⟨x :: v, rfl, ?_⟩
    rw [List.all_cons, hv, isWritten_of_isPrintable (isPrintable_of_not_isEscaped hx).1]
    rfl
  | @escape x t w r h ih =>
    obtain ⟨v, rfl, hv⟩ := ih
    refine ⟨escapeText x ++ v, (List.append_assoc ..).symm, ?_⟩
    have hescape := List.all_eq_true.1 (isPrintable_escapeText x)
    rw [List.all_append, hv, Bool.and_true]
    exact List.all_eq_true.2 fun y hy => isWritten_of_isPrintable (hescape y hy)
  | @keptSpace t w r h ih =>
    obtain ⟨v, rfl, hv⟩ := ih
    exact ⟨'\\' :: ' ' :: v, rfl, hv⟩
  | @fold t w r h hw ih =>
    obtain ⟨v, rfl, hv⟩ := ih
    exact ⟨"\\\n" ++ (foldIndent ++ v), by simp, hv⟩

/-! ### Folded lines -/

/-- A run of line feeds. -/
def feeds (n : Nat) : Text := List.replicate n '\n'

/-- A space is kept, or the line is ended for it. -/
theorem foldedText_space (doubled : Bool) (before : Option CodePoint) (column : Nat) (t : Text) :
    (foldsHere before t = true ∧ foldedText doubled before column (' ' :: t) =
      ('\n' : CodePoint) :: (foldIndent ++ foldedText doubled (some ' ') foldIndent.length t)) ∨
    foldedText doubled before column (' ' :: t) =
      (' ' : CodePoint) :: foldedText doubled (some ' ') (column + 1) t := by
  have hquote : (' ' : CodePoint) ≠ '\'' := by decide
  rw [foldedText]
  split
  · next h =>
    simp only [Bool.and_eq_true] at h
    exact Or.inl ⟨h.2, rfl⟩
  · right
    rw [if_neg (by decide : (' ' : CodePoint) ≠ '\n'), if_neg]
    simp [hquote]

/-- Other code points but quotes are written as they are. -/
theorem foldedText_cons {doubled : Bool} {x : CodePoint} (hspace : x ≠ ' ') (hfeed : x ≠ '\n')
    (hquote : doubled = true → x ≠ '\'') (before : Option CodePoint) (column : Nat) (t : Text) :
    foldedText doubled before column (x :: t) =
      x :: foldedText doubled (some x) (column + 1) t := by
  rw [foldedText]
  cases doubled with
  | false => simp [hspace, hfeed]
  | true => simp [hspace, hfeed, hquote rfl]

theorem foldedText_quote (before : Option CodePoint) (column : Nat) (t : Text) :
    foldedText true before column ('\'' :: t) =
      ('\'' : CodePoint) :: '\'' :: foldedText true (some '\'') (column + 2) t := by
  have hspace : ('\'' : CodePoint) ≠ ' ' := by decide
  have hfeed : ('\'' : CodePoint) ≠ '\n' := by decide
  rw [foldedText]
  simp only [hspace, hfeed, decide_false, Bool.false_and, Bool.false_eq_true, if_false, decide_true,
    Bool.and_self, if_true]
  rfl

theorem foldedText_feed (doubled : Bool) (before : Option CodePoint) (column : Nat) (t : Text) :
    foldedText doubled before column ('\n' :: t) =
      feeds (if before = some ('\n' : CodePoint) then 1 else 2) ++
        (if t.head? = some ('\n' : CodePoint) then foldedText doubled (some '\n') 0 t
        else foldIndent ++ foldedText doubled (some '\n') foldIndent.length t) := by
  have hspace : ('\n' : CodePoint) ≠ ' ' := by decide
  have hfeeds : (if before = some ('\n' : CodePoint) then "\n" else "\n\n" : Text) =
      feeds (if before = some ('\n' : CodePoint) then 1 else 2) := by split <;> rfl
  rw [foldedText, ← hfeeds]
  simp only [hspace, decide_false, Bool.false_and, Bool.false_eq_true, if_false, if_true]
  split
  · rfl
  · exact List.append_assoc _ _ _

/-- A run of line feeds has one more of them in front. -/
theorem foldedText_feeds (doubled : Bool) (before : Option CodePoint) (column n : Nat)
    (ht : t.head? ≠ some ('\n' : CodePoint)) :
    foldedText doubled before column (feeds (n + 1) ++ t) =
      feeds (if before = some ('\n' : CodePoint) then n + 1 else n + 2) ++
        (foldIndent ++ foldedText doubled (some '\n') foldIndent.length t) := by
  induction n generalizing before column with
  | zero => exact (foldedText_feed doubled before column t).trans (by rw [if_neg ht])
  | succ n ih =>
    refine (foldedText_feed doubled before column (feeds (n + 1) ++ t)).trans ?_
    rw [if_pos (show (feeds (n + 1) ++ t).head? = some ('\n' : CodePoint) from rfl), ih, if_pos rfl]
    split <;> rfl

/-! ### Single quotes -/

/-- A text between single quotes, with its closing quote: quotes are doubled, and breaks stand for
what they are folded to. -/
inductive SingleWritten : Text → Text → Text → Prop
  | quote {r : Text} (hr : r.head? ≠ some ('\'' : CodePoint)) : SingleWritten [] ('\'' :: r) r
  | doubled {t w r : Text} (h : SingleWritten t w r) :
    SingleWritten ('\'' :: t) ('\'' :: '\'' :: w) r
  | plain {x : CodePoint} {t w r : Text} (hx : isPrintable x = true)
    (hquote : x ≠ ('\'' : CodePoint)) (hspace : x ≠ (' ' : CodePoint)) (h : SingleWritten t w r) :
    SingleWritten (x :: t) (x :: w) r
  | space {t w r : Text} (h : SingleWritten t w r) (hw : w.head? ≠ some ('\n' : CodePoint)) :
    SingleWritten (' ' :: t) (' ' :: w) r
  | lines {t w r : Text} (n : Nat) (h : SingleWritten t w r) (hw : Inked w) :
    SingleWritten (folded '\n' (feeds n) ++ t) ('\n' :: (feeds n ++ (foldIndent ++ w))) r

/-- Line feeds, and the indentation of the line after them. -/
theorem quotedBreaks_feeds (hw : Inked w) {n fuel : Nat} (hfuel : n < fuel)
    (h : c.rest = feeds n ++ (foldIndent ++ w)) :
    ∃ d, quotedBreaks fuel c = .ok (feeds n, d) ∧ d.rest = w := by
  induction n generalizing c fuel with
  | zero =>
    obtain ⟨fuel, rfl⟩ := Nat.exists_eq_add_one_of_ne_zero (Nat.ne_zero_of_lt hfuel)
    exact ⟨_, quotedBreaks_indent fuel h hw, by rw [Cursor.rest_advance, h]; rfl⟩
  | succ n ih =>
    obtain ⟨fuel, rfl⟩ := Nat.exists_eq_add_one_of_ne_zero (Nat.ne_zero_of_lt hfuel)
    change c.rest = ('\n' : CodePoint) :: (feeds n ++ (foldIndent ++ w)) at h
    have hseparator : Cursor.atSeparator c.rest = false := by
      rw [h]
      exact atSeparator_of_ne (by decide) (by decide) _
    have hskip : c.skip isBlank = c :=
      Cursor.skip_eq_self isBlank (by rw [h]; rintro x hx; cases hx; rfl)
    obtain ⟨d, hd, hr⟩ := ih (c := ⟨_, c.index + 1, c.line + 1, 0⟩) (Nat.lt_of_succ_lt_succ hfuel)
      rfl
    refine ⟨d, ?_, hr⟩
    rw [quotedBreaks, hseparator, if_neg Bool.false_ne_true]
    dsimp only
    rw [hskip, Cursor.takeBreak?_of_lineFeed h]
    dsimp only
    rw [hd]
    rfl

theorem quotedGap_feeds (hw : Inked w) {n : Nat}
    (h : c.rest = ('\n' : CodePoint) :: (feeds n ++ (foldIndent ++ w))) :
    ∃ d, quotedGap c = .ok (folded '\n' (feeds n), d) ∧ d.rest = w := by
  have hspan : c.span isBlank = ([], c) :=
    Cursor.span_eq isBlank (w := []) (r := c.rest) rfl rfl (by rw [h]; rintro x hx; cases hx; rfl)
  have hfuel : n < (feeds n ++ (foldIndent ++ w)).length + 1 := by
    rw [List.length_append, feeds, List.length_replicate]
    omega
  obtain ⟨d, hd, hr⟩ := quotedBreaks_feeds hw (c := ⟨_, c.index + 1, c.line + 1, 0⟩) hfuel rfl
  refine ⟨d, ?_, hr⟩
  rw [quotedGap, hspan]
  dsimp only
  rw [if_neg (by rw [h]; exact List.cons_ne_nil _ _), Cursor.takeBreak?_of_lineFeed h]
  dsimp only
  rw [hd]

/-- Blanks that a line does not start with are not followed by a break. -/
theorem SingleWritten.endsInked (h : SingleWritten t w r)
    (hw : w.head? ≠ some ('\n' : CodePoint)) : EndsInked w := by
  induction h with
  | quote => exact Inked.endsInked ⟨_, _, rfl, by decide, by decide⟩
  | doubled => exact Inked.endsInked ⟨_, _, rfl, by decide, by decide⟩
  | plain hx hquote hspace => exact (inked_of_isPrintable hx hspace _).endsInked
  | space h hw' ih => exact (ih hw').space
  | lines => exact absurd rfl hw

theorem singleQuoted_gap {fuel : Nat} {x : CodePoint} {v s : Text} {d : Cursor}
    (h : c.rest = x :: v) (hx : (isBlank x || isBreak x) = true)
    (hgap : quotedGap c = .ok (s, d)) :
    singleQuoted (fuel + 1) c = prepend s (singleQuoted fuel d) := by
  have hquote : x ≠ ('\'' : CodePoint) := by rintro rfl; revert hx; decide
  rw [singleQuoted, h]
  dsimp only
  rw [if_neg hquote, if_pos hx, hgap]

/-- **Every way of writing between single quotes is read.** -/
theorem singleQuoted_of_written (h : SingleWritten t w r) :
    ∀ {c : Cursor} {fuel : Nat}, c.rest = w → w.length < fuel →
      ∃ d, singleQuoted fuel c = .ok (t, d) ∧ d.rest = r := by
  induction h with
  | @quote r hr =>
    intro c fuel hc hfuel
    obtain ⟨fuel, rfl⟩ := Nat.exists_eq_add_one_of_ne_zero (Nat.ne_zero_of_lt hfuel)
    refine ⟨c.next, ?_, by rw [Cursor.rest_next, hc]; rfl⟩
    rw [singleQuoted, hc]
    dsimp only
    rw [if_pos rfl, if_neg hr]
  | @doubled t w r h ih =>
    intro c fuel hc hfuel
    obtain ⟨fuel, rfl⟩ := Nat.exists_eq_add_one_of_ne_zero (Nat.ne_zero_of_lt hfuel)
    rw [List.length_cons, List.length_cons] at hfuel
    have hrest : (c.advance 2).rest = w := by rw [Cursor.rest_advance, hc]; rfl
    have hless : w.length < fuel := by omega
    obtain ⟨d, hd, hr⟩ := ih hrest hless
    refine ⟨d, ?_, hr⟩
    rw [singleQuoted, hc]
    dsimp only
    rw [if_pos rfl, if_pos (List.head?_cons ..), hd]
    rfl
  | @plain x t w r hx hquote hspace h ih =>
    intro c fuel hc hfuel
    obtain ⟨fuel, rfl⟩ := Nat.exists_eq_add_one_of_ne_zero (Nat.ne_zero_of_lt hfuel)
    have hnext : c.next.rest = w := by rw [Cursor.rest_next, hc]; rfl
    rw [List.length_cons, Nat.add_lt_add_iff_right] at hfuel
    obtain ⟨d, hd, hr⟩ := ih hnext hfuel
    refine ⟨d, ?_, hr⟩
    rw [singleQuoted, hc]
    dsimp only
    rw [if_neg hquote, if_neg, hd]
    · rfl
    · rw [isBlank_of_isPrintable hx hspace, isBreak_of_isPrintable hx]
      decide
  | @space t w r h hw ih =>
    intro c fuel hc hfuel
    obtain ⟨fuel, rfl⟩ := Nat.exists_eq_add_one_of_ne_zero (Nat.ne_zero_of_lt hfuel)
    have hnext : c.next.rest = w := by rw [Cursor.rest_next, hc]; rfl
    rw [List.length_cons, Nat.add_lt_add_iff_right] at hfuel
    exact read_space (fun h hx => singleQuoted_gap h (by rw [hx]; rfl)) hc (h.endsInked hw)
      (ih hnext) hfuel
  | @lines t w r n h hw ih =>
    intro c fuel hc hfuel
    obtain ⟨fuel, rfl⟩ := Nat.exists_eq_add_one_of_ne_zero (Nat.ne_zero_of_lt hfuel)
    obtain ⟨d, hgap, hrest⟩ := quotedGap_feeds hw hc
    rw [List.length_cons, List.length_append, List.length_append] at hfuel
    have hless : w.length < fuel := by omega
    obtain ⟨e, he, hr⟩ := ih hrest hless
    exact ⟨e, by rw [singleQuoted_gap hc rfl hgap, he]; rfl, hr⟩

/-- Everything up to the end of the scalar is written. -/
theorem SingleWritten.split (h : SingleWritten t w r) :
    ∃ v, w = v ++ r ∧ v.all isWritten = true := by
  induction h with
  | quote => exact ⟨['\''], rfl, rfl⟩
  | doubled h ih =>
    obtain ⟨v, rfl, hv⟩ := ih
    exact ⟨'\'' :: '\'' :: v, rfl, hv⟩
  | @plain x t w r hx hquote hspace h ih =>
    obtain ⟨v, rfl, hv⟩ := ih
    refine ⟨x :: v, rfl, ?_⟩
    rw [List.all_cons, hv, isWritten_of_isPrintable hx]
    rfl
  | space h hw ih =>
    obtain ⟨v, rfl, hv⟩ := ih
    exact ⟨' ' :: v, rfl, hv⟩
  | lines n h hw ih =>
    obtain ⟨v, rfl, hv⟩ := ih
    refine ⟨'\n' :: (feeds n ++ (foldIndent ++ v)), by simp, ?_⟩
    have hfeeds : (feeds n).all isWritten = true :=
      List.all_eq_true.2 fun _ hx => List.eq_of_mem_replicate hx ▸ rfl
    rw [List.all_cons, List.all_append, hfeeds]
    exact hv

theorem needsEscapes_cons {x : CodePoint} (h : needsEscapes (x :: t) = false) :
    isSpecial x = false ∧ (x = ' ' → t.head? ≠ some ('\n' : CodePoint)) ∧
      (x = '\n' → t.head? ≠ some (' ' : CodePoint)) ∧ needsEscapes t = false := by
  cases t with
  | nil =>
    simp only [needsEscapes, Bool.or_eq_false_iff, List.any_cons] at h
    exact ⟨h.1.1.1, fun _ => nofun, fun _ => nofun, rfl⟩
  | cons y t =>
    simp only [needsEscapes, Bool.or_eq_false_iff, List.any_cons, hasPair, Bool.and_eq_false_iff,
      isLineFeed, needsEscapes.isSpaceChar, decide_eq_false_iff_not] at h
    obtain ⟨⟨⟨hx, hy, ht⟩, hspace, hpair⟩, hfeed, hpair'⟩ := h
    refine ⟨hx, ?_, ?_, ?_⟩
    · rintro rfl hy
      exact hspace.elim (fun h => h rfl) fun h => h (Option.some.inj hy)
    · rintro rfl hy
      exact hfeed.elim (fun h => h rfl) fun h => h (Option.some.inj hy)
    · simp only [needsEscapes, Bool.or_eq_false_iff, List.any_cons]
      exact ⟨⟨⟨hy, ht⟩, hpair⟩, hpair'⟩

theorem needsEscapes_of_append {s : Text} (h : needsEscapes (s ++ t) = false) :
    needsEscapes t = false := by
  induction s with
  | nil => exact h
  | cons x s ih => exact ih (needsEscapes_cons h).2.2.2

theorem isPrintable_of_not_isSpecial {x : CodePoint} (h : isSpecial x = false)
    (hx : x ≠ ('\n' : CodePoint)) : isPrintable x = true := by
  simpa [isSpecial, isPrintable, hx] using h

/-- The line feeds that a text starts with. -/
theorem exists_feeds (t : Text) :
    ∃ n u, t = feeds n ++ u ∧ u.head? ≠ some ('\n' : CodePoint) := by
  induction t with
  | nil => exact ⟨0, [], rfl, nofun⟩
  | cons x t ih =>
    by_cases hx : x = ('\n' : CodePoint)
    · obtain ⟨n, u, rfl, hu⟩ := ih
      exact ⟨n + 1, u, by rw [hx]; rfl, hu⟩
    · exact ⟨0, x :: t, rfl, fun h => hx (Option.some.inj h)⟩

theorem head_ne_space_of_feeds {n : Nat} (h : needsEscapes (feeds (n + 1) ++ t) = false) :
    t.head? ≠ some (' ' : CodePoint) := by
  induction n with
  | zero => exact (needsEscapes_cons h).2.2.1 rfl
  | succ n ih => exact ih (needsEscapes_cons h).2.2.2

/-- What starts neither with a space nor with a line feed is written so. -/
theorem inked_foldedText (before : Option CodePoint) (column : Nat) (r : Text)
    (h : needsEscapes t = false) (hspace : t.head? ≠ some (' ' : CodePoint))
    (hfeed : t.head? ≠ some ('\n' : CodePoint)) :
    Inked (foldedText true before column t ++ ('\'' : CodePoint) :: r) := by
  cases t with
  | nil => exact ⟨_, _, rfl, by decide, by decide⟩
  | cons x t =>
    have hx : x ≠ ' ' := fun hx => hspace (congrArg some hx)
    have hx' : x ≠ '\n' := fun hx => hfeed (congrArg some hx)
    by_cases hquote : x = '\''
    · rw [hquote, foldedText_quote]
      exact ⟨_, _, rfl, by decide, by decide⟩
    · rw [foldedText_cons hx hx' fun _ => hquote]
      exact inked_of_isPrintable (isPrintable_of_not_isSpecial (needsEscapes_cons h).1 hx') hx _

/-- After a space no line is ended. -/
theorem foldedText_after_space (column : Nat) (r : Text) (h : needsEscapes t = false)
    (ht : t.head? ≠ some ('\n' : CodePoint)) :
    (foldedText true (some ' ') column t ++ ('\'' : CodePoint) :: r).head? ≠
      some ('\n' : CodePoint) := by
  by_cases hspace : t.head? = some (' ' : CodePoint)
  · obtain ⟨u, rfl⟩ : ∃ u, t = (' ' : CodePoint) :: u := List.head?_eq_some_iff.1 hspace
    obtain ⟨hfolds, -⟩ | hkept := foldedText_space true (some ' ') column u
    · exact absurd hfolds (by simp [foldsHere])
    · rw [hkept]
      exact fun h => absurd (Option.some.inj h) (by decide)
  · obtain ⟨x, v, hv, -, hx⟩ := inked_foldedText (some ' ') column r h hspace ht
    rw [hv]
    rintro heq
    obtain rfl := Option.some.inj heq
    revert hx
    decide

/-- **What is written between single quotes is a way of writing.** -/
theorem singleWritten_foldedText (h : needsEscapes t = false) (before : Option CodePoint)
    (hbefore : before = some ('\n' : CodePoint) → t.head? ≠ some ('\n' : CodePoint))
    (column : Nat) (hr : r.head? ≠ some ('\'' : CodePoint)) :
    SingleWritten t (foldedText true before column t ++ ('\'' : CodePoint) :: r) r := by
  -- by length, for a run of line feeds is written at once
  induction hn : t.length using Nat.strongRecOn generalizing t before column with
  | ind n ih =>
    have hshorter {u : Text} (hu : u.length < n) (h : needsEscapes u = false) {y : CodePoint}
        (hy : y = '\n' → u.head? ≠ some ('\n' : CodePoint)) (column : Nat) :
        SingleWritten u (foldedText true (some y) column u ++ ('\'' : CodePoint) :: r) r :=
      ih u.length hu h (some y) (fun heq => hy (Option.some.inj heq)) column rfl
    cases t with
    | nil => exact .quote hr
    | cons x t =>
      subst hn
      obtain ⟨hspecial, hspaced, -, ht⟩ := needsEscapes_cons h
      have hless : t.length < (x :: t).length := Nat.lt_succ_self _
      by_cases hspace : x = ' '
      · subst hspace
        have hnext := hshorter hless ht (y := ' ') (fun heq => absurd heq (by decide))
        obtain ⟨hfolds, hw⟩ | hw := foldedText_space true before column t
        · rw [hw]
          have hend : t.head? ≠ some (' ' : CodePoint) := by
            rintro heq
            simp [foldsHere, heq] at hfolds
          exact .lines 0 (hnext _) (inked_foldedText _ _ r ht hend (hspaced rfl))
        · rw [hw]
          exact .space (hnext _) (foldedText_after_space _ r ht (hspaced rfl))
      · by_cases hfeed : x = '\n'
        · subst hfeed
          obtain ⟨n, u, rfl, hu⟩ := exists_feeds t
          have hbefore : before ≠ some ('\n' : CodePoint) := fun heq => hbefore heq rfl
          have hend := head_ne_space_of_feeds h
          have hu' := needsEscapes_of_append ht
          have hwritten := foldedText_feeds true before column n hu
          rw [if_neg hbefore] at hwritten
          have hless : u.length < (('\n' : CodePoint) :: (feeds n ++ u)).length := by
            rw [List.length_cons, List.length_append]
            omega
          have hnext := hshorter hless hu' (y := '\n') (fun _ => hu) foldIndent.length
          have hinked := inked_foldedText (some '\n') foldIndent.length r hu' hend hu
          have hlines := SingleWritten.lines (n + 1) hnext hinked
          change SingleWritten _ (foldedText true before column (feeds (n + 1) ++ u) ++ _) r
          rw [hwritten, List.append_assoc, List.append_assoc]
          exact hlines
        · by_cases hquote : x = '\''
          · subst hquote
            rw [foldedText_quote]
            exact .doubled (hshorter hless ht (fun heq => absurd heq (by decide)) _)
          · rw [foldedText_cons hspace hfeed fun _ => hquote]
            exact .plain (isPrintable_of_not_isSpecial hspecial hfeed) hquote hspace
              (hshorter hless ht (fun heq => absurd heq hfeed) _)

end JsonShape.Yaml
