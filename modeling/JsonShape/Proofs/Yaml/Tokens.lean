import JsonShape.Proofs.Yaml.Plain
import JsonShape.Yaml.Token

/-!
# The tokens of a written mapping

`ValueWritten t plain w r` says that `w` starts with a scalar in one of the three styles, which is
read as `t`, and that `r` follows.  Entries of a mapping are written line by line
(`EntriesWritten`), and each of them is taken in three steps: the key, its colon, and the value
(`Lexer.run_entry`).  So the tokens of a written mapping are those of its entries
(`EntriesWritten.scan`).
-/

namespace JsonShape.Yaml

variable {t w q r : Text} {c : Cursor}

/-! ### Values -/

/-- Whether a plain scalar, and no other token, starts here in a block. -/
def opensPlain : Text → Bool
  | [] => false
  | x :: v => isInk x && !Lexer.isIndicator x && (!(x = '-' || x = '?' || x = ':') || !atGap v)

theorem exists_of_opensPlain (h : opensPlain w = true) :
    ∃ x v, w = x :: v ∧ isInk x = true ∧ Lexer.isIndicator x = false ∧
      (x = '-' ∨ x = '?' ∨ x = ':' → atGap v = false) := by
  cases w with
  | nil => cases h
  | cons x v =>
    rw [opensPlain, Bool.and_eq_true, Bool.and_eq_true, Bool.not_eq_true'] at h
    refine ⟨x, v, rfl, h.1.1, h.1.2, ?_⟩
    rintro (rfl | rfl | rfl) <;> simpa using h.2

theorem opensPlain_append (h : opensPlain w = true) (r : Text) : opensPlain (w ++ r) = true := by
  obtain ⟨x, v, rfl, hink, hindicator, hgap⟩ := exists_of_opensPlain h
  rw [List.cons_append, opensPlain, hink, hindicator]
  cases hodd : (decide (x = '-') || decide (x = '?') || decide (x = ':')) with
  | false => rfl
  | true =>
    simp only [Bool.or_eq_true, decide_eq_true_eq, or_assoc] at hodd
    cases v with
    | nil => exact absurd (hgap hodd) (by decide)
    | cons y v =>
      have hrest : atGap (y :: v ++ r) = false := hgap hodd
      rw [hrest]
      rfl

/-- A scalar in one of the three styles, and whether it is plain. -/
inductive ValueWritten : Text → Bool → Text → Text → Prop
  | plain {t w r : Text} (h : PlainWritten t w) (hopens : opensPlain w = true) :
    ValueWritten t true (w ++ r) r
  | single {t w r : Text} (h : SingleWritten t w r) : ValueWritten t false ('\'' :: w) r
  | double {t w r : Text} (h : DoubleWritten t w r) : ValueWritten t false ('"' :: w) r

/-- What the code point at the start of a plain scalar is not. -/
theorem not_startsOdd {x : CodePoint} (h : startsOdd (x :: t) = false) :
    Lexer.isIndicator x = false ∧ (x = '-' ∨ x = '?' ∨ x = ':' → atWhite t = false) := by
  simp only [startsOdd, Bool.or_eq_false_iff, Bool.and_eq_false_iff, decide_eq_false_iff_not] at h
  constructor
  · rw [Bool.eq_false_iff]
    intro hx
    refine Bool.eq_false_iff.1 h.1 (List.contains_iff_mem.2 ?_)
    simp only [Lexer.isIndicator, isBracket, Bool.or_eq_true, decide_eq_true_eq, or_assoc] at hx
    rcases hx with rfl | rfl | rfl | rfl | rfl | rfl | rfl | rfl | rfl | rfl | rfl | rfl | rfl |
      rfl | rfl | rfl <;> decide
  · intro hx
    refine h.2.resolve_left fun hnone => ?_
    rcases hx with rfl | rfl | rfl
    · exact hnone.2 rfl
    · exact hnone.1.1 rfl
    · exact hnone.1.2 rfl

/-- What needs no quotes may be written plainly. -/
theorem plainText_of_not_needsQuotes (h : needsEscapes t = false) (hq : needsQuotes t = false) :
    PlainText t ∧ startsOdd t = false := by
  simp only [needsQuotes, needsEscapes, Bool.or_eq_false_iff, decide_eq_false_iff_not] at h hq
  obtain ⟨⟨⟨⟨⟨⟨⟨⟨hne, hfeeds⟩, hhead⟩, hlast⟩, -⟩, -⟩, hodd⟩, hindicator⟩, -⟩ := hq
  refine ⟨⟨hne, ?_, hhead, hlast, ?_⟩, hodd⟩
  · refine List.all_eq_true.2 fun x hx => isPrintable_of_not_isSpecial ?_ ?_
    · exact Bool.eq_false_iff.2 fun hspecial =>
        Bool.eq_false_iff.1 h.1.1 (List.any_eq_true.2 ⟨x, hx, hspecial⟩)
    · rintro rfl
      exact Bool.eq_false_iff.1 hfeeds (List.any_eq_true.2 ⟨_, hx, rfl⟩)
  · obtain ⟨x, v, rfl⟩ := List.exists_cons_of_ne_nil hne
    obtain ⟨hopens, hwhite⟩ := not_startsOdd hodd
    have hcomment : x ≠ '#' := by
      rintro rfl
      cases hopens
    have hcolon : x ≠ ':' ∨ atWhite v = false := by
      by_cases hx : x = ':'
      · exact Or.inr (hwhite (Or.inr (Or.inr hx)))
      · exact Or.inl hx
    simp only [hasIndicator, Bool.or_eq_false_iff, Bool.and_eq_false_iff, decide_eq_false_iff_not]
    exact ⟨⟨hcolon, Or.inl hcomment⟩, hindicator⟩

/-- A plain scalar starts where it is written. -/
theorem opensPlain_foldedText (h : PlainText t) (hodd : startsOdd t = false)
    (before : Option CodePoint) (column : Nat) :
    opensPlain (foldedText false before column t) = true := by
  have hink {x : CodePoint} {v : Text} (hprint : isPrintable x = true) (hx : x ≠ (' ' : CodePoint))
      (before : Option CodePoint) (column : Nat) :
      foldedText false before column (x :: v) = x :: foldedText false (some x) (column + 1) v :=
    foldedText_cons hx (by rintro rfl; revert hprint; decide) (fun h => Bool.noConfusion h) _ _ _
  obtain ⟨x, v, rfl⟩ := List.exists_cons_of_ne_nil h.ne_nil
  obtain ⟨hopens, hwhite⟩ := not_startsOdd hodd
  have hprintable := h.printable
  rw [List.all_cons, Bool.and_eq_true] at hprintable
  have hspace : x ≠ (' ' : CodePoint) := fun hx => h.head (congrArg some hx)
  rw [hink hprintable.1 hspace, opensPlain, hopens, isInk_iff.2 ⟨hprintable.1, hspace⟩]
  by_cases hx : x = '-' ∨ x = '?' ∨ x = ':'
  · have hv := hwhite hx
    cases v with
    | nil => cases hv
    | cons y v =>
      simp only [atWhite, Bool.or_eq_false_iff, decide_eq_false_iff_not] at hv
      have hprint : isPrintable y = true := by
        have hv := hprintable.2
        rw [List.all_cons, Bool.and_eq_true] at hv
        exact hv.1
      rw [hink hprint hv.1, atGap, atBreakOr, isBreak_of_isPrintable hprint,
        isBlank_of_isPrintable hprint hv.1]
      simp
  · simp only [not_or] at hx
    simp [hx]

/-- Whether a text is written plainly. -/
def isPlain (t : Text) : Bool := !needsEscapes t && !needsQuotes t

/-- **A text is written in one of the styles.** -/
theorem valueWritten_scalarText (column : Nat) (t : Text)
    (hr : r.head? ≠ some ('\'' : CodePoint)) :
    ValueWritten t (isPlain t) (scalarText column t ++ r) r := by
  rw [scalarText, isPlain]
  cases hescapes : needsEscapes t with
  | true =>
    rw [if_pos rfl, List.append_assoc, List.append_assoc]
    exact .double (doubleWritten_escapedText (column + 1) t r)
  | false =>
    rw [if_neg Bool.false_ne_true]
    cases hquotes : needsQuotes t with
    | true =>
      rw [if_pos rfl, List.append_assoc, List.append_assoc]
      exact .single (singleWritten_foldedText hescapes none nofun (column + 1) hr)
    | false =>
      obtain ⟨hplain, hodd⟩ := plainText_of_not_needsQuotes hescapes hquotes
      rw [if_neg Bool.false_ne_true]
      exact .plain (plainWritten_foldedText hplain none column)
        (opensPlain_foldedText hplain hodd none column)

/-- Everything up to the end of the value is written. -/
theorem ValueWritten.split {plain : Bool} (h : ValueWritten t plain w r) :
    ∃ v, w = v ++ r ∧ v.all isWritten = true := by
  obtain ⟨h, -⟩ | h | h := h
  · exact ⟨_, rfl, h.isWritten⟩
  · obtain ⟨v, rfl, hv⟩ := h.split
    exact ⟨'\'' :: v, rfl, hv⟩
  · obtain ⟨v, rfl, hv⟩ := h.split
    exact ⟨'"' :: v, rfl, hv⟩

/-! ### Single steps -/

namespace Lexer

variable {l m : Lexer}

/-- No block ends right of its column. -/
theorem unwind_eq_self {column : Int} (h : l.indent ≤ column) : l.unwind column = l := by
  have hclosing : closing column l.indent l.indents = (0, l.indent, l.indents) := by
    cases l.indents with
    | nil => rfl
    | cons outer outers => rw [closing, if_neg (by omega)]
  rw [unwind, hclosing]
  split
  · dsimp only
    rw [List.replicate_zero, List.append_nil]
  · rfl

/-- The state at the next token, where all keys may still end and no block does. -/
structure Ready (l m : Lexer) : Prop where
  dropStale : l.toNext.dropStale = .ok m
  indent : m.indent ≤ m.cursor.column
  inBlock : m.inBlock = true
  /-- No document starts or ends there. -/
  inside : m.cursor.column = 0 → Cursor.atSeparator m.cursor.rest = false

theorem fetch_of_ready (h : Ready l m) {x : CodePoint} {v : Text} (hx : m.cursor.rest = x :: v) :
    l.fetch =
      if x = '%' && m.cursor.column = 0 then m.fetchDirective
      else if x = '[' then m.fetchFlowStart .flowSequenceStart
      else if x = '\x7b' then m.fetchFlowStart .flowMappingStart
      else if x = ']' then m.fetchFlowEnd .flowSequenceEnd
      else if x = '\x7d' then m.fetchFlowEnd .flowMappingEnd
      else if x = ',' then m.fetchFlowEntry
      else if x = '-' && atGap v then m.fetchBlockEntry
      else if x = '?' && atGap v then m.fetchKey
      else if x = ':' && atGap v then m.fetchValue
      else if x = '*' then m.fetchAnchor .alias
      else if x = '&' then m.fetchAnchor .anchor
      else if x = '!' then m.fetchTag
      else if x = '|' then m.fetchBlockScalar false
      else if x = '>' then m.fetchBlockScalar true
      else if x = '\'' then m.fetchQuoted singleQuoted
      else if x = '"' then m.fetchQuoted doubleQuoted
      else if m.startsPlain x v then m.fetchPlain
      else .error .malformed := by
  have hmarker (mark : CodePoint) (hmark : mark = '-' ∨ mark = '.') :
      (decide (m.cursor.column = 0) && Cursor.atMarker mark (x :: v)) = false := by
    rw [Bool.and_eq_false_iff, decide_eq_false_iff_not]
    by_cases hcolumn : m.cursor.column = 0
    · have hinside := h.inside hcolumn
      rw [hx, Cursor.atSeparator, Bool.or_eq_false_iff] at hinside
      rcases hmark with rfl | rfl
      · exact Or.inr hinside.1
      · exact Or.inr hinside.2
    · exact Or.inl hcolumn
  rw [fetch, h.dropStale]
  dsimp only [bind, Except.bind]
  rw [unwind_eq_self h.indent, hx]
  simp only [hmarker _ (Or.inl rfl), hmarker _ (Or.inr rfl), h.inBlock, Bool.and_true,
    Bool.not_true, Bool.false_or, Bool.false_eq_true, if_false, decide_eq_true_eq]

theorem fetch_plain (h : Ready l m) (hopens : opensPlain m.cursor.rest = true) :
    l.fetch = m.fetchPlain := by
  obtain ⟨x, v, hrest, hink, hindicator, hgap⟩ := exists_of_opensPlain hopens
  obtain ⟨hprint, hspace⟩ := isInk_iff.1 hink
  have hblank := isBlank_of_isPrintable hprint hspace
  have hbreak := isBreak_of_isPrintable hprint
  have hstarts : m.startsPlain x v = true := by
    rw [startsPlain, hindicator, hbreak, hblank, h.inBlock]
    grind
  simp only [isIndicator, isBracket, Bool.or_eq_false_iff, decide_eq_false_iff_not] at hindicator
  rw [fetch_of_ready h hrest, hstarts]
  grind

theorem fetch_single (h : Ready l m) {v : Text} (hx : m.cursor.rest = ('\'' : CodePoint) :: v) :
    l.fetch = m.fetchQuoted singleQuoted := by
  rw [fetch_of_ready h hx]
  rfl

theorem fetch_double (h : Ready l m) {v : Text} (hx : m.cursor.rest = ('"' : CodePoint) :: v) :
    l.fetch = m.fetchQuoted doubleQuoted := by
  rw [fetch_of_ready h hx]
  rfl

theorem fetch_colon (h : Ready l m) {v : Text} (hx : m.cursor.rest = (':' : CodePoint) :: v)
    (hv : atGap v = true) : l.fetch = m.fetchValue := by
  rw [fetch_of_ready h hx, hv]
  rfl

/-! ### Gaps -/

/-- Nothing is skipped where a token starts. -/
theorem skipGaps_eq_self (fuel : Nat) (hgap : NoGap c.rest) (hcomment : atComment c.rest = false) :
    skipGaps (fuel + 1) c = (c, false) := by
  rw [skipGaps, Cursor.skip_eq_self isSpace fun x hx => (hgap x hx).1, hcomment,
    if_neg Bool.false_ne_true, Cursor.takeBreak?_eq_none fun x hx => (hgap x hx).2]

theorem skipGaps_space (fuel : Nat) {v : Text} (h : c.rest = (' ' : CodePoint) :: v)
    (hgap : NoGap v) (hcomment : atComment v = false) :
    skipGaps (fuel + 1) c = (⟨v, c.index + 1, c.line, c.column + 1⟩, false) := by
  have hskip : c.skip isSpace = ⟨v, c.index + 1, c.line, c.column + 1⟩ := by
    rw [Cursor.skip, Cursor.span_eq isSpace (w := [' ']) h rfl fun x hx => (hgap x hx).1]
    exact Cursor.advance_of_isPrintable (w := [' ']) h rfl
  rw [skipGaps, hskip]
  dsimp only
  rw [hcomment, if_neg Bool.false_ne_true, Cursor.takeBreak?_eq_none fun x hx => (hgap x hx).2]

theorem skipGaps_feed (fuel : Nat) (h : c.rest = ('\n' : CodePoint) :: q) (hq : LineStart q) :
    skipGaps (fuel + 2) c = (⟨q, c.index + 1, c.line + 1, 0⟩, true) := by
  have hskip : c.skip isSpace = c :=
    Cursor.skip_eq_self isSpace (by rw [h]; rintro x ⟨⟩; rfl)
  have hcomment : atComment c.rest = false := by rw [h]; rfl
  have hcomment' : atComment q = false := decide_eq_false (hq.head_ne (by decide))
  rw [skipGaps, hskip, hcomment, if_neg Bool.false_ne_true, Cursor.takeBreak?_of_lineFeed h]
  dsimp only
  rw [skipGaps_eq_self fuel hq.noGap hcomment']

theorem toNext_of_skipGaps (hmark : l.cursor.rest.head? ≠ some byteOrderMark) {crossed : Bool}
    (h : skipGaps (l.cursor.rest.length + 1) l.cursor = (c, crossed)) :
    l.toNext = { l with
      cursor := c
      keyAllowed := l.keyAllowed || (crossed && l.inBlock) } := by
  rw [toNext]
  simp only [hmark, decide_false, Bool.and_false, Bool.false_eq_true, if_false, h]

/-- Where a token starts, the next token starts. -/
theorem toNext_eq_self (hmark : l.cursor.rest.head? ≠ some byteOrderMark)
    (hgap : NoGap l.cursor.rest) (hcomment : atComment l.cursor.rest = false) : l.toNext = l := by
  rw [toNext_of_skipGaps hmark (skipGaps_eq_self _ hgap hcomment), Bool.false_and, Bool.or_false]

/-! ### Entries -/

/-- The key of an entry: letters, and not too many of them for a key. -/
structure IsKey (key : Text) : Prop where
  ne_nil : key ≠ []
  letters : key.all CodePoint.isLetter = true
  length : key.length ≤ 1024

/-- At the start of a line outside the mapping, or in it once it is open. -/
def lineState (opened : Bool) (ts : List Token) (q : Text) (index line : Nat) : Lexer where
  cursor := ⟨q, index, line, 0⟩
  tokens := ts
  flow := 0
  indent := if opened then 0 else -1
  indents := if opened then [-1] else []
  keyAllowed := true
  keys := []

/-- After the key of such a line. -/
def keyState (opened : Bool) (ts : List Token) (key q : Text) (index line : Nat) : Lexer :=
  { lineState opened (ts ++ [.scalar key true]) q index line with
    cursor := ⟨q, index + key.length, line, key.length⟩
    keyAllowed := false
    keys := [(0, ⟨ts.length, opened, index, line, 0⟩)] }

/-- In an entry, after its colon. -/
def valueState (ts : List Token) (c : Cursor) : Lexer :=
  { lineState true ts [] 0 0 with cursor := c, keyAllowed := false }

/-- What comes before the key of an entry. -/
def opening (opened : Bool) : List Token := if opened then [.key] else [.blockMappingStart, .key]

def AtLine (opened : Bool) (ts : List Token) (q : Text) (l : Lexer) : Prop :=
  ∃ index line, l.toNext = lineState opened ts q index line

variable {opened : Bool} {ts : List Token} {key : Text}

theorem IsKey.lineStart (h : IsKey key) (v : Text) : LineStart (key ++ v) := by
  obtain ⟨x, u, rfl⟩ := List.exists_cons_of_ne_nil h.ne_nil
  rintro y ⟨⟩
  exact List.all_eq_true.1 h.letters x List.mem_cons_self

theorem IsKey.isWord (h : IsKey key) : IsWord key := by
  have hletters := List.all_eq_true.1 h.letters
  refine ⟨h.ne_nil, ?_, fun hx => ?_, fun hx => ?_⟩
  · exact List.all_eq_true.2 fun x hx => (isInk_of_isLetter (hletters x hx)).1
  · have hletter := hletters _ (List.mem_of_mem_head? hx)
    revert hletter
    decide
  · have hletter := hletters _ (List.mem_of_getLast? hx)
    revert hletter
    decide

theorem opensPlain_of_isLetter {x : CodePoint} (hx : x.isLetter = true) (v : Text) :
    opensPlain (x :: v) = true := by
  have hne (y : CodePoint) (hy : y.isLetter = false) : x ≠ y := by
    rintro rfl
    rw [hx] at hy
    cases hy
  simp (disch := decide) [opensPlain, (isInk_of_isLetter hx).1, isIndicator, isBracket, hne]

theorem fetch_key (h : AtLine opened ts (key ++ (':' : CodePoint) :: ' ' :: w) l)
    (hkey : IsKey key) : ∃ index line,
      l.fetch = .ok (keyState opened ts key ((':' : CodePoint) :: ' ' :: w) index line) := by
  obtain ⟨index, line, hl⟩ := h
  have hready :
      Ready l (lineState opened ts (key ++ (':' : CodePoint) :: ' ' :: w) index line) := by
    refine ⟨by rw [hl]; rfl, ?_, rfl, fun _ => (hkey.lineStart _).atSeparator⟩
    cases opened
    · exact (by decide : (-1 : Int) ≤ 0)
    · exact Int.le_refl 0
  have hsave (q : Text) : (lineState opened ts q index line).saveKey = .ok
      { lineState opened ts q index line with
        keys := [(0, ⟨ts.length, opened, index, line, 0⟩)] } := by
    cases opened <;> rfl
  refine ⟨index, line, ?_⟩
  rw [fetch_plain hready, fetchPlain, hsave]
  · have hscalar (indent : Int) := plainScalar_key indent hkey.isWord
      (c := ⟨key ++ (':' : CodePoint) :: ' ' :: w, index, line, 0⟩) rfl
    rw [Nat.zero_add] at hscalar
    dsimp only [bind, Except.bind, lineState, inBlock] at hscalar ⊢
    rw [decide_eq_true rfl, Bool.not_true, hscalar]
    rfl
  · obtain ⟨x, u, rfl⟩ := List.exists_cons_of_ne_nil hkey.ne_nil
    exact opensPlain_of_isLetter (List.all_eq_true.1 hkey.letters x List.mem_cons_self) _

/-- The colon makes a key of what stands before it. -/
theorem fetch_value (opened : Bool) (ts : List Token) (w : Text) (hkey : IsKey key)
    (index line : Nat) :
    ∃ c, c.rest = (' ' : CodePoint) :: w ∧
      (keyState opened ts key ((':' : CodePoint) :: ' ' :: w) index line).fetch =
        .ok (valueState (ts ++ (opening opened ++ [.scalar key true, .value])) c) := by
  generalize hl : keyState opened ts key ((':' : CodePoint) :: ' ' :: w) index line = l
  have hnext : l.toNext = l := by
    rw [← hl]
    exact toNext_eq_self (fun hmark => absurd (Option.some.inj hmark) (by decide))
      (noGap_of_isInk (by decide) _) rfl
  have hready : Ready l l := by
    rw [← hl] at hnext ⊢
    refine ⟨?_, ?_, rfl, fun _ => atSeparator_of_ne (by decide) (by decide) _⟩
    · have hlength := hkey.length
      have hstale :
          isStale (keyState opened ts key ((':' : CodePoint) :: ' ' :: w) index line).cursor
            ⟨ts.length, opened, index, line, 0⟩ = false := by
        simp [isStale, keyState]
        omega
      rw [hnext, dropStale, keyState]
      rw [keyState] at hstale
      simp [hstale]
    · cases opened
      · exact (by omega : (-1 : Int) ≤ (key.length : Int))
      · exact (by omega : (0 : Int) ≤ (key.length : Int))
  refine ⟨l.cursor.next, by rw [Cursor.rest_next, ← hl]; rfl, ?_⟩
  rw [fetch_colon hready (v := ' ' :: w) (by rw [← hl]; rfl) rfl, ← hl]
  cases opened <;>
    simp [fetchValue, keyState, lineState, valueState, insert, openAt, push, inBlock, opening]

/-- A value starts with neither a gap nor a comment. -/
theorem noGap_of_valueWritten {plain : Bool} (h : ValueWritten t plain w r) :
    NoGap w ∧ atComment w = false := by
  obtain ⟨h, hopens⟩ | h | h := h
  · obtain ⟨x, v, rfl, hink, hindicator, -⟩ := exists_of_opensPlain hopens
    refine ⟨noGap_of_isInk hink _, decide_eq_false fun hmark => ?_⟩
    rw [Option.some.inj hmark] at hindicator
    cases hindicator
  · exact ⟨noGap_of_isInk (by decide) _, rfl⟩
  · exact ⟨noGap_of_isInk (by decide) _, rfl⟩

/-- After a plain value the next line is reached. -/
theorem atLine_of_newLine {ts : List Token} (hq : LineStart q) (hrest : c.rest = q)
    (hcolumn : c.column = 0) : AtLine true ts q { valueState ts c with keyAllowed := true } := by
  obtain ⟨rest, index, line, column⟩ := c
  obtain rfl := hrest
  obtain rfl := hcolumn
  refine ⟨index, line, ?_⟩
  exact toNext_eq_self (hq.head_ne (by decide)) hq.noGap (decide_eq_false (hq.head_ne (by decide)))

/-- After a quoted value the line ends. -/
theorem atLine_of_feed {ts : List Token} (hq : LineStart q)
    (hc : c.rest = ('\n' : CodePoint) :: q) : AtLine true ts q (valueState ts c) := by
  have hfuel : c.rest.length + 1 = q.length + 2 := congrArg (fun s => List.length s + 1) hc
  have hmark : c.rest.head? ≠ some byteOrderMark := by
    rw [hc]
    exact fun hmark => absurd (Option.some.inj hmark) (by decide)
  refine ⟨c.index + 1, c.line + 1, ?_⟩
  rw [toNext_of_skipGaps (l := valueState ts c) hmark
    ((congrArg (skipGaps · c) hfuel).trans (skipGaps_feed q.length hc hq))]
  rfl

theorem fetchQuoted_eq_ok {read : Nat → Cursor → Except Fault (Text × Cursor)} {d : Cursor}
    (h : read (c.rest.length + 1) c.next = .ok (t, d)) :
    fetchQuoted read (valueState ts c) = .ok (valueState (ts ++ [.scalar t false]) d) := by
  change (read (c.rest.length + 1) c.next >>= _) = _
  rw [h]
  rfl

theorem fetchPlain_eq_ok {d : Cursor} (h : plainScalar false 1 c = (t, d, true)) :
    fetchPlain (valueState ts c) =
      .ok { valueState (ts ++ [.scalar t true]) d with keyAllowed := true } := by
  have hsave : (valueState ts c).saveKey = .ok (valueState ts c) := rfl
  have hscalar : plainScalar (!(valueState ts c).inBlock) ((valueState ts c).indent + 1)
      (valueState ts c).cursor = (t, d, true) := h
  rw [fetchPlain, hsave]
  dsimp only [bind, Except.bind]
  rw [hscalar]
  rfl

/-- **A value is taken as one token.** -/
theorem fetch_scalar (ts : List Token) {plain : Bool}
    (h : ValueWritten t plain w (('\n' : CodePoint) :: q)) (hq : LineStart q)
    (hc : c.rest = (' ' : CodePoint) :: w) :
    ∃ l, (valueState ts c).fetch = .ok l ∧ l.tokens = ts ++ [.scalar t plain] ∧
      AtLine true (ts ++ [.scalar t plain]) q l := by
  obtain ⟨hgap, hcomment⟩ := noGap_of_valueWritten h
  have hready : Ready (valueState ts c) (valueState ts ⟨w, c.index + 1, c.line, c.column + 1⟩) := by
    refine ⟨?_, (by omega : (0 : Int) ≤ ((c.column + 1 : Nat) : Int)), rfl, nofun⟩
    rw [toNext_of_skipGaps (l := valueState ts c) ?_ (skipGaps_space _ hc hgap hcomment)]
    · rfl
    · change c.rest.head? ≠ _
      rw [hc]
      exact fun hmark => absurd (Option.some.inj hmark) (by decide)
  -- the value without what it opens with
  have hless : w.tail.length < w.length + 1 := by
    rw [List.length_tail]
    omega
  obtain ⟨h, hopens⟩ | h | h := h
  · obtain ⟨d, hd, hrest, hcolumn⟩ := plainScalar_of_written h hq
      (c := ⟨_, c.index + 1, c.line, c.column + 1⟩) rfl
    refine ⟨_, ?_, rfl, atLine_of_newLine hq hrest hcolumn⟩
    rw [fetch_plain hready (opensPlain_append hopens _), fetchPlain_eq_ok hd]
  · obtain ⟨d, hd, hr⟩ := singleQuoted_of_written h
      (Cursor.rest_next ⟨('\'' : CodePoint) :: _, c.index + 1, c.line, c.column + 1⟩) hless
    refine ⟨_, ?_, rfl, atLine_of_feed hq hr⟩
    rw [fetch_single hready rfl, fetchQuoted_eq_ok hd]
  · obtain ⟨d, hd, hr⟩ := doubleQuoted_of_written h
      (Cursor.rest_next ⟨('"' : CodePoint) :: _, c.index + 1, c.line, c.column + 1⟩) hless
    refine ⟨_, ?_, rfl, atLine_of_feed hq hr⟩
    rw [fetch_double hready rfl, fetchQuoted_eq_ok hd]

/-! ### Runs -/

theorem run_succ {u : Token} (h : l.fetch = .ok m) (hm : m.tokens.getLast? = some u)
    (hu : u ≠ .streamEnd) (fuel : Nat) : l.run (fuel + 1) = m.run fuel := by
  rw [run, h]
  dsimp only
  rw [hm]
  split
  · next hlast => exact absurd (Option.some.inj hlast) hu
  · rfl

/-- **An entry is taken in three steps.** -/
theorem run_entry {plain : Bool} (h : AtLine opened ts (key ++ (':' : CodePoint) :: ' ' :: w) l)
    (hkey : IsKey key) (hw : ValueWritten t plain w (('\n' : CodePoint) :: q)) (hq : LineStart q) :
    ∃ m, AtLine true (ts ++ (opening opened ++ [.scalar key true, .value, .scalar t plain])) q m ∧
      ∀ fuel, l.run (fuel + 3) = m.run fuel := by
  obtain ⟨index, line, hfirst⟩ := fetch_key h hkey
  obtain ⟨c, hc, hsecond⟩ := fetch_value opened ts w hkey index line
  obtain ⟨m, hthird, hm, hline⟩ :=
    fetch_scalar (ts ++ (opening opened ++ [.scalar key true, .value])) hw hq hc
  have htokens : ts ++ (opening opened ++ [.scalar key true, .value]) ++ [.scalar t plain] =
      ts ++ (opening opened ++ [.scalar key true, .value, .scalar t plain]) := by simp
  have hvalue : (ts ++ (opening opened ++ [Token.scalar key true, .value])).getLast? =
      some .value := by
    rw [List.getLast?_append, List.getLast?_append]
    rfl
  refine ⟨m, htokens ▸ hline, fun fuel => ?_⟩
  calc l.run (fuel + 3)
    _ = _ := run_succ hfirst List.getLast?_concat Token.noConfusion (fuel + 2)
    _ = _ := run_succ hsecond hvalue Token.noConfusion (fuel + 1)
    _ = _ := run_succ hthird (hm ▸ List.getLast?_concat) Token.noConfusion fuel

/-- At the end of the text the mapping ends. -/
theorem run_end (h : AtLine true ts [] l) (fuel : Nat) :
    l.run (fuel + 1) = ts ++ [.blockEnd, .streamEnd] := by
  obtain ⟨index, line, hl⟩ := h
  have hfetch : l.fetch = .ok { lineState true (ts ++ [.blockEnd, .streamEnd]) [] index line with
      indent := -1
      indents := [] } := by
    have hunwind : (lineState true ts [] index line).unwind 0 = lineState true ts [] index line :=
      unwind_eq_self (Int.le_refl 0)
    have hstale : (lineState true ts [] index line).dropStale =
        .ok (lineState true ts [] index line) := rfl
    rw [fetch, hl, hstale]
    change ((lineState true ts [] index line).unwind 0).fetchEnd = _
    rw [hunwind]
    change Except.ok { lineState true (ts ++ [.blockEnd] ++ [.streamEnd]) [] index line with
      indent := -1
      indents := [] } = _
    rw [List.append_assoc]
    rfl
  rw [run, hfetch]
  dsimp only [lineState]
  simp

end Lexer

/-! ### Mappings -/

/-- An entry of a mapping: a key and a scalar, which may be plain. -/
structure Item where
  key : Text
  text : Text
  plain : Bool

/-- The tokens of an entry. -/
def Item.tokens (e : Item) : List Token :=
  [.key, .scalar e.key true, .value, .scalar e.text e.plain]

/-- The lines of a mapping. -/
inductive EntriesWritten : List Item → Text → Prop
  | nil : EntriesWritten [] []
  | cons {e : Item} {es : List Item} {w q : Text} (hkey : Lexer.IsKey e.key)
    (hw : ValueWritten e.text e.plain w ('\n' :: q)) (h : EntriesWritten es q) :
    EntriesWritten (e :: es) (e.key ++ (':' : CodePoint) :: ' ' :: w)

namespace EntriesWritten

variable {e : Item} {es : List Item}

theorem lineStart (h : EntriesWritten es w) : LineStart w := by
  cases h with
  | nil => exact nofun
  | cons hkey => exact hkey.lineStart _

theorem run (h : EntriesWritten es w) {ts : List Token} {l : Lexer} (hl : Lexer.AtLine true ts w l)
    (fuel : Nat) : l.run (fuel + 3 * es.length + 1) =
      ts ++ (es.flatMap Item.tokens ++ [.blockEnd, .streamEnd]) := by
  induction h generalizing ts l with
  | nil => exact Lexer.run_end hl fuel
  | @cons e es w q hkey hw h ih =>
    obtain ⟨m, hm, hrun⟩ := Lexer.run_entry hl hkey hw h.lineStart
    have hfuel : fuel + 3 * (e :: es).length + 1 = (fuel + 3 * es.length + 1) + 3 := by
      rw [List.length_cons]
      omega
    rw [hfuel, hrun, ih hm]
    simp [Item.tokens, Lexer.opening]

/-- Each entry takes three tokens' worth of text at least. -/
theorem length_le (h : EntriesWritten es w) : 3 * es.length ≤ w.length := by
  induction h with
  | nil => exact Nat.le_refl 0
  | @cons e es w q hkey hw h ih =>
    obtain ⟨v, rfl, -⟩ := hw.split
    have hpositive := List.length_pos_iff.2 hkey.ne_nil
    simp only [List.length_append, List.length_cons]
    omega

theorem isWritten (h : EntriesWritten es w) : w.all isWritten = true := by
  induction h with
  | nil => rfl
  | @cons e es w q hkey hw h ih =>
    obtain ⟨v, rfl, hv⟩ := hw.split
    have hletters : e.key.all Yaml.isWritten = true := List.all_eq_true.2 fun x hx =>
      isWritten_of_isPrintable (isInk_iff.1 (isInk_of_isLetter
        (List.all_eq_true.1 hkey.letters x hx)).1).1
    rw [List.all_append, hletters, List.all_cons, List.all_cons, List.all_append, hv, List.all_cons,
      ih]
    rfl

/-- **The tokens of a written mapping** are those of its entries. -/
theorem scan (h : EntriesWritten (e :: es) w) :
    Token.scan w =
      .blockMappingStart :: ((e :: es).flatMap Item.tokens ++ [.blockEnd, .streamEnd]) := by
  have hallowed : w.all isAllowed = true := by
    refine List.all_eq_true.2 fun x hx => ?_
    have hwritten := List.all_eq_true.1 h.isWritten x hx
    rw [Yaml.isWritten, Bool.or_eq_true, decide_eq_true_eq] at hwritten
    rcases hwritten with hprint | rfl
    · exact isAllowed_of_isPrintable hprint
    · rfl
  have hlength := h.length_le
  cases h with
  | @cons e es w q hkey hw h =>
    have hline := hkey.lineStart ((':' : CodePoint) :: ' ' :: w)
    have hstart : Lexer.AtLine false [] (e.key ++ (':' : CodePoint) :: ' ' :: w)
        (Lexer.start (e.key ++ (':' : CodePoint) :: ' ' :: w)) := by
      refine ⟨0, 0, ?_⟩
      rw [Lexer.toNext_eq_self (hline.head_ne (by decide)) hline.noGap
        (decide_eq_false (hline.head_ne (by decide)))]
      rfl
    obtain ⟨m, hm, hrun⟩ := Lexer.run_entry hstart hkey hw h.lineStart
    obtain ⟨fuel, hfuel⟩ : ∃ fuel, (e.key ++ (':' : CodePoint) :: ' ' :: w).length + 2 =
        (fuel + 3 * es.length + 1) + 3 := by
      refine ⟨(e.key ++ (':' : CodePoint) :: ' ' :: w).length - 3 * es.length - 2, ?_⟩
      rw [List.length_cons] at hlength
      omega
    rw [Token.scan, if_pos hallowed, hfuel, hrun, h.run hm]
    rfl

end EntriesWritten

end JsonShape.Yaml
