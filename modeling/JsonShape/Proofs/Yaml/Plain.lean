import JsonShape.Proofs.Yaml.Quoted

/-!
# Plain scalars

A plain scalar is a row of words.  `PlainWritten t w` says that `w` is a way of writing `t`: the
words as they are, and for a single space between two of them perhaps a new line.  What is written
for a text that needs no quotes is such a way (`plainWritten_foldedText`), and every such way is
read up to the end of its last line (`plainScalar_of_written`).
-/

namespace JsonShape.Yaml

variable {t u w q : Text} {c : Cursor}

/-! ### Words -/

/-- A code point of a word. -/
def isInk (x : CodePoint) : Bool := isPrintable x && x ≠ ' '

/-- A word of a plain scalar: no comment starts with it, and it ends no key. -/
structure IsWord (u : Text) : Prop where
  ne_nil : u ≠ []
  ink : u.all isInk = true
  head : u.head? ≠ some ('#' : CodePoint)
  last : u.getLast? ≠ some (':' : CodePoint)

/-- A row of words, and what is written for it. -/
inductive PlainWritten : Text → Text → Prop
  | word {u : Text} (hu : IsWord u) : PlainWritten u u
  | spaces {u t w : Text} (hu : IsWord u) (n : Nat) (h : PlainWritten t w) :
    PlainWritten (u ++ (Text.spaces (n + 1) ++ t)) (u ++ (Text.spaces (n + 1) ++ w))
  | fold {u t w : Text} (hu : IsWord u) (h : PlainWritten t w) :
    PlainWritten (u ++ ((' ' : CodePoint) :: t)) (u ++ (('\n' : CodePoint) :: (foldIndent ++ w)))

theorem isInk_iff {x : CodePoint} :
    isInk x = true ↔ isPrintable x = true ∧ x ≠ (' ' : CodePoint) := by
  rw [isInk, Bool.and_eq_true, decide_eq_true_eq]

theorem IsWord.isPrintable (hu : IsWord u) : u.all isPrintable = true :=
  List.all_eq_true.2 fun x hx => (isInk_iff.1 (List.all_eq_true.1 hu.ink x hx)).1

theorem PlainWritten.isWritten (h : PlainWritten t w) : w.all isWritten = true := by
  have hword {u : Text} (hu : IsWord u) : u.all Yaml.isWritten = true :=
    List.all_eq_true.2 fun x hx =>
      isWritten_of_isPrintable (List.all_eq_true.1 hu.isPrintable x hx)
  have hspaces (n : Nat) : (Text.spaces n).all Yaml.isWritten = true :=
    List.all_eq_true.2 fun _ hx => List.eq_of_mem_replicate hx ▸ rfl
  induction h with
  | word hu => exact hword hu
  | spaces hu n h ih => rw [List.all_append, List.all_append, hword hu, hspaces, ih]; rfl
  | fold hu h ih => rw [List.all_append, hword hu]; exact ih

/-- A word ends where the line does, or at a space. -/
theorem plainStops_gap {x : CodePoint} (hx : isSpace x = true ∨ isBreak x = true) (v : Text) :
    plainStops false (x :: v) = true := by
  rw [plainStops]
  rcases hx with hx | hx
  · have hblank : isBlank x = true := by
      rw [isBlank, Bool.or_eq_true]
      exact Or.inl hx
    simp [hblank]
  · simp [hx]

/-- A word is taken as a whole. -/
theorem plainLength_word (hink : u.all isInk = true) (hlast : u.getLast? ≠ some (':' : CodePoint))
    (hq : plainStops false q = true) : plainLength false (u ++ q) = u.length := by
  induction u with
  | nil =>
    cases q with
    | nil => rfl
    | cons x v => exact if_pos hq
  | cons x u ih =>
    rw [List.all_cons, Bool.and_eq_true] at hink
    obtain ⟨hprint, hspace⟩ := isInk_iff.1 hink.1
    have hlast' : u.getLast? ≠ some (':' : CodePoint) := fun h =>
      hlast (by rw [List.getLast?_cons, h]; rfl)
    have hstops : plainStops false (x :: (u ++ q)) = false := by
      rw [plainStops, isBreak_of_isPrintable hprint, isBlank_of_isPrintable hprint hspace]
      cases u with
      | nil =>
        have hx : x ≠ ':' := fun h => hlast (congrArg some h)
        simp [hx]
      | cons y u =>
        rw [List.all_cons, Bool.and_eq_true] at hink
        obtain ⟨hprint', hspace'⟩ := isInk_iff.1 hink.2.1
        simp [atBreakOr, isBreak_of_isPrintable hprint', isBlank_of_isPrintable hprint' hspace']
    rw [List.cons_append, plainLength, hstops, if_neg Bool.false_ne_true, ih hink.2 hlast',
      List.length_cons]

/-- A word is read together with the gap after it. -/
theorem plainWords_word (indent : Int) (fuel : Nat) {v : Text} (hu : IsWord u)
    (hv : plainStops false v = true) (h : c.rest = u ++ v) (s : Text) (newLine : Bool) :
    plainWords false indent (fuel + 1) ⟨s, c, newLine⟩ =
      let after := plainGap (c.advance u.length)
      if after.text = [] || ((after.cursor.column : Int) < indent : Bool) then
        (s ++ u, after.cursor, after.newLine)
      else
        let more := plainWords false indent fuel after
        (s ++ u ++ more.1, more.2.1, more.2.2) := by
  have hlength : plainLength false (u ++ v) = u.length := plainLength_word hu.ink hu.last hv
  have hcomment : atComment (u ++ v) = false := by
    obtain ⟨x, u, rfl⟩ := List.exists_cons_of_ne_nil hu.ne_nil
    exact decide_eq_false hu.head
  have hzero : u.length ≠ 0 := fun hzero => hu.ne_nil (List.length_eq_zero_iff.1 hzero)
  rw [plainWords]
  dsimp only
  rw [h, hlength, hcomment, if_neg (by simpa using hzero), List.take_left]
  rfl

/-! ### Gaps -/

/-- Neither a space nor a break stands in front. -/
def NoGap (v : Text) : Prop := ∀ x ∈ v.head?, isSpace x = false ∧ isBreak x = false

theorem all_isSpace_spaces (n : Nat) : (Text.spaces n).all isSpace = true :=
  List.all_eq_true.2 fun _ hx => List.eq_of_mem_replicate hx ▸ rfl

theorem all_isPrintable_spaces (n : Nat) : (Text.spaces n).all isPrintable = true :=
  List.all_eq_true.2 fun _ hx => List.eq_of_mem_replicate hx ▸ rfl

/-- Spaces inside a line. -/
theorem plainGap_spaces {v : Text} (hv : NoGap v) (n : Nat) (h : c.rest = Text.spaces n ++ v) :
    plainGap c = ⟨Text.spaces n, ⟨v, c.index + n, c.line, c.column + n⟩, false⟩ := by
  have hspan := Cursor.span_eq isSpace h (all_isSpace_spaces n) fun x hx => (hv x hx).1
  have hadvance := Cursor.advance_of_isPrintable h (all_isPrintable_spaces n)
  have hlength : (Text.spaces n).length = n := List.length_replicate
  rw [hlength] at hspan hadvance
  rw [plainGap, hspan]
  dsimp only
  rw [hadvance, Cursor.takeBreak?_eq_none fun x hx => (hv x hx).2]

/-- The end of a line, and the indentation of the next one. -/
theorem plainGap_line {v : Text} (hv : NoGap v) (n : Nat)
    (hseparator : Cursor.atSeparator (Text.spaces n ++ v) = false)
    (h : c.rest = ('\n' : CodePoint) :: (Text.spaces n ++ v)) :
    ∃ d, plainGap c = ⟨" ", d, true⟩ ∧ d.rest = v ∧ d.column = n := by
  have hspan : c.span isSpace = ([], c) :=
    Cursor.span_eq isSpace (w := []) (r := c.rest) rfl rfl
      (by rw [h]; rintro x hx; cases hx; rfl)
  let start : Cursor := ⟨Text.spaces n ++ v, c.index + 1, c.line + 1, 0⟩
  have hskip : start.skip isSpace = ⟨v, start.index + n, start.line, n⟩ := by
    have hadvance := Cursor.advance_of_isPrintable (c := start) rfl (all_isPrintable_spaces n)
    rw [Cursor.skip, Cursor.span_eq isSpace (c := start) rfl (all_isSpace_spaces n) fun x hx =>
      (hv x hx).1, hadvance]
    simp [start, Text.spaces]
  refine ⟨⟨v, start.index + n, start.line, n⟩, ?_, rfl, rfl⟩
  rw [plainGap, hspan]
  dsimp only
  rw [Cursor.takeBreak?_of_lineFeed h]
  dsimp only
  rw [hseparator, if_neg Bool.false_ne_true, plainBreaks, hskip,
    Cursor.takeBreak?_eq_none fun x hx => (hv x hx).2]
  rfl

/-! ### Reading -/

/-- Where a line starts with a letter, if the text is not at its end. -/
def LineStart (q : Text) : Prop := ∀ x ∈ q.head?, x.isLetter = true

theorem noGap_of_isInk {x : CodePoint} (hx : isInk x = true) (v : Text) : NoGap (x :: v) := by
  rintro y ⟨⟩
  obtain ⟨hprint, hspace⟩ := isInk_iff.1 hx
  exact ⟨decide_eq_false hspace, isBreak_of_isPrintable hprint⟩

theorem isInk_of_isLetter {x : CodePoint} (hx : x.isLetter = true) :
    isInk x = true ∧ x ≠ '-' ∧ x ≠ '.' := by
  have hdash : x ≠ ('-' : CodePoint) := by rintro rfl; revert hx; decide
  have hpoint : x ≠ ('.' : CodePoint) := by rintro rfl; revert hx; decide
  have hspace : x ≠ (' ' : CodePoint) := by rintro rfl; revert hx; decide
  simp only [CodePoint.isLetter, CodePoint.isLower, CodePoint.isUpper, Bool.or_eq_true,
    Bool.and_eq_true, decide_eq_true_eq] at hx
  refine ⟨isInk_iff.2 ⟨?_, hspace⟩, hdash, hpoint⟩
  simp only [isPrintable, Bool.and_eq_true, decide_eq_true_eq]
  omega

theorem LineStart.head_ne (hq : LineStart q) {x : CodePoint} (hx : x.isLetter = false) :
    q.head? ≠ some x := by
  intro h
  rw [hq x h] at hx
  cases hx

theorem LineStart.noGap (hq : LineStart q) : NoGap q := by
  cases q with
  | nil => exact nofun
  | cons x v => exact noGap_of_isInk (isInk_of_isLetter (hq x rfl)).1 v

theorem LineStart.atSeparator (hq : LineStart q) : Cursor.atSeparator q = false := by
  cases q with
  | nil => rfl
  | cons x v =>
    obtain ⟨-, hdash, hpoint⟩ := isInk_of_isLetter (hq x rfl)
    exact atSeparator_of_ne hdash hpoint v

/-- A word stands in front. -/
theorem PlainWritten.noGap (h : PlainWritten t w) (r : Text) : NoGap (w ++ r) := by
  have hword {u : Text} (hu : IsWord u) (r : Text) : NoGap (u ++ r) := by
    obtain ⟨x, v, rfl⟩ := List.exists_cons_of_ne_nil hu.ne_nil
    have hink := hu.ink
    rw [List.all_cons, Bool.and_eq_true] at hink
    exact noGap_of_isInk hink.1 _
  cases h with
  | word hu => exact hword hu r
  | spaces hu => rw [List.append_assoc]; exact hword hu _
  | fold hu => rw [List.append_assoc]; exact hword hu _

/-- **Every row of words is read,** up to the next line. -/
theorem plainWords_of_written (h : PlainWritten t w) (hq : LineStart q) :
    ∀ {c : Cursor} {fuel : Nat} (s : Text) (newLine : Bool),
      c.rest = w ++ ('\n' : CodePoint) :: q → w.length < fuel →
      ∃ d, plainWords false 1 fuel ⟨s, c, newLine⟩ = (s ++ t, d, true) ∧ d.rest = q ∧
        d.column = 0 := by
  have hadvance {u v : Text} {c : Cursor} (hu : IsWord u) (h : c.rest = u ++ v) :
      c.advance u.length = ⟨v, c.index + u.length, c.line, c.column + u.length⟩ :=
    Cursor.advance_of_isPrintable h hu.isPrintable
  induction h with
  | @word u hu =>
    intro c fuel s newLine hc hfuel
    obtain ⟨fuel, rfl⟩ := Nat.exists_eq_add_one_of_ne_zero (Nat.ne_zero_of_lt hfuel)
    obtain ⟨d, hgap, hrest, hd⟩ := plainGap_line hq.noGap 0 hq.atSeparator
      (c := c.advance u.length) (by rw [hadvance hu hc]; rfl)
    refine ⟨d, ?_, hrest, hd⟩
    rw [plainWords_word 1 fuel hu (plainStops_gap (Or.inr rfl) _) hc, hgap]
    dsimp only
    rw [if_pos (by simp [hd])]
  | @spaces u t w hu n h ih =>
    intro c fuel s newLine hc hfuel
    obtain ⟨fuel, rfl⟩ := Nat.exists_eq_add_one_of_ne_zero (Nat.ne_zero_of_lt hfuel)
    rw [List.append_assoc, List.append_assoc] at hc
    have hpositive := List.length_pos_iff.2 hu.ne_nil
    have hgap := plainGap_spaces (h.noGap (('\n' : CodePoint) :: q)) (n + 1)
      (c := c.advance u.length) (by rw [hadvance hu hc])
    rw [List.length_append, List.length_append] at hfuel
    have hless : w.length < fuel := by omega
    obtain ⟨d, hd, hrest, hcolumn⟩ := ih (c := ⟨_, _, _, _⟩) (Text.spaces (n + 1)) false rfl hless
    refine ⟨d, ?_, hrest, hcolumn⟩
    rw [plainWords_word 1 fuel hu (plainStops_gap (Or.inl rfl) _) hc, hgap]
    dsimp only
    rw [hd, if_neg, List.append_assoc]
    have hspaces : Text.spaces (n + 1) ≠ [] := List.cons_ne_nil _ _
    simp only [Bool.or_eq_true, decide_eq_true_eq, hspaces, false_or]
    omega
  | @fold u t w hu h ih =>
    intro c fuel s newLine hc hfuel
    obtain ⟨fuel, rfl⟩ := Nat.exists_eq_add_one_of_ne_zero (Nat.ne_zero_of_lt hfuel)
    rw [List.append_assoc, List.cons_append, List.append_assoc] at hc
    obtain ⟨e, hgap, hstart, he⟩ := plainGap_line (h.noGap (('\n' : CodePoint) :: q)) 2
      (atSeparator_of_ne (by decide) (by decide) _) (c := c.advance u.length)
      (by rw [hadvance hu hc]; rfl)
    rw [List.length_append, List.length_cons, List.length_append] at hfuel
    have hless : w.length < fuel := by omega
    obtain ⟨d, hd, hrest, hcolumn⟩ := ih " " true hstart hless
    refine ⟨d, ?_, hrest, hcolumn⟩
    rw [plainWords_word 1 fuel hu (plainStops_gap (Or.inr rfl) _) hc, hgap]
    dsimp only
    rw [hd, if_neg, List.append_assoc]
    · rfl
    · have hspace : (" " : Text) ≠ [] := List.cons_ne_nil _ _
      simp only [Bool.or_eq_true, decide_eq_true_eq, hspace, false_or]
      omega

/-- A row of words on the lines of a value is a plain scalar. -/
theorem plainScalar_of_written (h : PlainWritten t w) (hq : LineStart q)
    (hc : c.rest = w ++ ('\n' : CodePoint) :: q) :
    ∃ d, plainScalar false 1 c = (t, d, true) ∧ d.rest = q ∧ d.column = 0 := by
  refine plainWords_of_written h hq [] false hc ?_
  rw [hc, List.length_append]
  omega

/-- A word before a colon and a space is a plain scalar of its own. -/
theorem plainScalar_key (indent : Int) (hu : IsWord u) {v : Text}
    (hc : c.rest = u ++ (':' : CodePoint) :: ' ' :: v) :
    plainScalar false indent c = (u,
      ⟨(':' : CodePoint) :: ' ' :: v, c.index + u.length, c.line, c.column + u.length⟩, false) := by
  have hgap := plainGap_spaces (c := c.advance u.length) (v := (':' : CodePoint) :: ' ' :: v)
    (noGap_of_isInk (by decide) _) 0 (by rw [Cursor.advance_of_isPrintable hc hu.isPrintable]; rfl)
  rw [Cursor.advance_of_isPrintable hc hu.isPrintable] at hgap
  rw [plainScalar, plainWords_word indent _ hu rfl hc,
    Cursor.advance_of_isPrintable hc hu.isPrintable, hgap]
  rfl

/-! ### What is written -/

/-- A text that may be written plainly, its type apart. -/
structure PlainText (t : Text) : Prop where
  ne_nil : t ≠ []
  printable : t.all isPrintable = true
  head : t.head? ≠ some (' ' : CodePoint)
  last : t.getLast? ≠ some (' ' : CodePoint)
  /-- Neither a key ends in it nor a comment starts. -/
  clear : hasIndicator (' ' :: t) = false

theorem hasIndicator_cons {x y : CodePoint} (h : hasIndicator (x :: y :: t) = false) :
    (y = ':' → atWhite t = false) ∧ (x = ' ' → y ≠ '#') ∧ hasIndicator (y :: t) = false := by
  simp only [hasIndicator, Bool.or_eq_false_iff, Bool.and_eq_false_iff,
    decide_eq_false_iff_not] at h
  obtain ⟨⟨hcolon, hmark⟩, h⟩ := h
  refine ⟨fun hy => hcolon.resolve_left (not_not_intro hy), ?_, h⟩
  rintro hx hy
  exact (hmark.resolve_left (not_not_intro hy)).1 hx

theorem hasIndicator_of_append {s : Text} (h : hasIndicator (s ++ t) = false) :
    hasIndicator t = false := by
  induction s with
  | nil => exact h
  | cons x s ih =>
    cases hst : s ++ t with
    | nil => rw [(List.append_eq_nil_iff.1 hst).2]; rfl
    | cons y v =>
      rw [List.cons_append, hst] at h
      exact ih (hst ▸ (hasIndicator_cons h).2.2)

/-- A word before a gap does not end with a colon. -/
theorem getLast?_ne_colon {x : CodePoint} (h : hasIndicator (x :: (u ++ t)) = false)
    (ht : atWhite t = true) : u.getLast? ≠ some (':' : CodePoint) := by
  induction u generalizing x with
  | nil => exact nofun
  | cons y u ih =>
    obtain ⟨hcolon, -, hrest⟩ := hasIndicator_cons h
    cases u with
    | nil =>
      intro hy
      exact Bool.false_ne_true ((hcolon (Option.some.inj hy)).symm.trans ht)
    | cons z u =>
      rw [List.getLast?_cons_cons]
      exact ih hrest

/-- The spaces that a text starts with. -/
theorem exists_spaces (t : Text) :
    ∃ n v, t = Text.spaces n ++ v ∧ v.head? ≠ some (' ' : CodePoint) := by
  induction t with
  | nil => exact ⟨0, [], rfl, nofun⟩
  | cons x t ih =>
    by_cases hx : x = (' ' : CodePoint)
    · obtain ⟨n, v, rfl, hv⟩ := ih
      exact ⟨n + 1, v, by rw [hx]; rfl, hv⟩
    · exact ⟨0, x :: t, rfl, fun h => hx (Option.some.inj h)⟩

/-- The first word of a text, and the spaces after it if it is not the last. -/
theorem exists_word (t : Text) : ∃ u, (∀ x ∈ u, x ≠ (' ' : CodePoint)) ∧
    (t = u ∨ ∃ n v, t = u ++ (Text.spaces (n + 1) ++ v) ∧ v.head? ≠ some (' ' : CodePoint)) := by
  induction t with
  | nil => exact ⟨[], nofun, Or.inl rfl⟩
  | cons x t ih =>
    by_cases hx : x = (' ' : CodePoint)
    · obtain ⟨n, v, rfl, hv⟩ := exists_spaces t
      exact ⟨[], nofun, Or.inr ⟨n, v, by rw [hx]; rfl, hv⟩⟩
    · obtain ⟨u, hu, ih⟩ := ih
      refine ⟨x :: u, List.forall_mem_cons.2 ⟨hx, hu⟩, ih.imp (congrArg _) ?_⟩
      rintro ⟨n, v, rfl, hv⟩
      exact ⟨n, v, rfl, hv⟩

/-- The first word of a plain text. -/
theorem PlainText.isWord {v : Text} (h : PlainText (u ++ v)) (hu : ∀ x ∈ u, x ≠ (' ' : CodePoint))
    (hne : u ≠ []) (hv : atWhite v = true) : IsWord u := by
  have hprintable := List.all_eq_true.1 h.printable
  refine ⟨hne, ?_, ?_, getLast?_ne_colon h.clear hv⟩
  · exact List.all_eq_true.2 fun x hx =>
      isInk_iff.2 ⟨hprintable x (List.mem_append_left v hx), hu x hx⟩
  · obtain ⟨x, u, rfl⟩ := List.exists_cons_of_ne_nil hne
    exact fun hx => (hasIndicator_cons h.clear).2.1 rfl (Option.some.inj hx)

/-- What follows the first word of a plain text is one again. -/
theorem PlainText.rest {v : Text} {n : Nat} (h : PlainText (u ++ (Text.spaces (n + 1) ++ v)))
    (hv : v.head? ≠ some (' ' : CodePoint)) : PlainText v := by
  have hspaces : u ++ (Text.spaces (n + 1) ++ v) =
      (u ++ Text.spaces n) ++ ((' ' : CodePoint) :: v) := by
    rw [Text.spaces, List.replicate_succ', List.append_assoc, List.append_assoc]
    rfl
  rw [hspaces] at h
  have hne : v ≠ [] := by
    rintro rfl
    exact h.last List.getLast?_concat
  refine ⟨hne, ?_, hv, ?_, ?_⟩
  · have hprintable := h.printable
    rw [List.all_append, List.all_cons, Bool.and_eq_true, Bool.and_eq_true] at hprintable
    exact hprintable.2.2
  · have hlast := h.last
    obtain ⟨x, v, rfl⟩ := List.exists_cons_of_ne_nil hne
    rw [List.getLast?_append, List.getLast?_cons_cons] at hlast
    intro h
    rw [h] at hlast
    exact hlast rfl
  · exact hasIndicator_of_append (s := ' ' :: (u ++ Text.spaces n)) h.clear

theorem foldedText_word (hu : u.all isInk = true) (before : Option CodePoint) (column : Nat)
    (t : Text) : ∃ before' column', foldedText false before column (u ++ t) =
      u ++ foldedText false before' column' t := by
  induction u generalizing before column with
  | nil => exact ⟨before, column, rfl⟩
  | cons x u ih =>
    rw [List.all_cons, Bool.and_eq_true] at hu
    obtain ⟨hprint, hspace⟩ := isInk_iff.1 hu.1
    have hfeed : x ≠ ('\n' : CodePoint) := by rintro rfl; revert hprint; decide
    obtain ⟨before', column', ih⟩ := ih hu.2 (some x) (column + 1)
    refine ⟨before', column', ?_⟩
    rw [List.cons_append, foldedText_cons hspace hfeed (fun h => Bool.noConfusion h), ih]
    rfl

/-- After a space, spaces are kept. -/
theorem foldedText_spaces (n column : Nat) (t : Text) : ∃ column',
    foldedText false (some ' ') column (Text.spaces n ++ t) =
      Text.spaces n ++ foldedText false (some ' ') column' t := by
  induction n generalizing column with
  | zero => exact ⟨column, rfl⟩
  | succ n ih =>
    obtain ⟨column', ih⟩ := ih (column + 1)
    refine ⟨column', ?_⟩
    obtain ⟨hfolds, -⟩ | hkept := foldedText_space false (some ' ') column (Text.spaces n ++ t)
    · exact absurd hfolds (by simp [foldsHere])
    · change foldedText false (some ' ') column (' ' :: (Text.spaces n ++ t)) = _
      rw [hkept, ih]
      rfl

/-- **What is written plainly is a row of words.** -/
theorem plainWritten_foldedText (h : PlainText t) (before : Option CodePoint) (column : Nat) :
    PlainWritten t (foldedText false before column t) := by
  -- by length, for a word and the gap after it are written before the rest
  induction hn : t.length using Nat.strongRecOn generalizing t before column with
  | ind n ih =>
    obtain ⟨u, hu, rfl | ⟨m, v, rfl, hv⟩⟩ := exists_word t
    · have hword : IsWord t :=
        PlainText.isWord (v := []) ((List.append_nil t).symm ▸ h) hu h.ne_nil rfl
      obtain ⟨before', column', hwritten⟩ := foldedText_word hword.ink before column []
      rw [List.append_nil] at hwritten
      rw [hwritten]
      exact (List.append_nil t).symm ▸ .word hword
    · have hne : u ≠ [] := by
        rintro rfl
        exact h.head rfl
      have hword : IsWord u := h.isWord hu hne rfl
      have hless : v.length < n := by
        rw [← hn, List.length_append, List.length_append, Text.spaces, List.length_replicate]
        omega
      have hrest := fun before column => ih v.length hless (h.rest hv) before column rfl
      obtain ⟨before', column', hwritten⟩ :=
        foldedText_word hword.ink before column (Text.spaces (m + 1) ++ v)
      rw [hwritten]
      obtain ⟨hfolds, hgap⟩ | hgap := foldedText_space false before' column' (Text.spaces m ++ v)
      · -- a line ends at a single space
        obtain rfl : m = 0 := by
          cases m with
          | zero => rfl
          | succ m => simp [foldsHere, Text.spaces, List.replicate_succ] at hfolds
        change foldedText false before' column' (Text.spaces (0 + 1) ++ v) = _ at hgap
        rw [hgap]
        exact .fold hword (hrest _ _)
      · obtain ⟨column', hspaces⟩ := foldedText_spaces m (column' + 1) v
        change foldedText false before' _ (Text.spaces (m + 1) ++ v) = _ at hgap
        rw [hgap, hspaces]
        exact .spaces hword m (hrest _ _)

end JsonShape.Yaml
