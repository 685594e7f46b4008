import JsonShape.Terminal.Wrap

/-!
# What a layout holds

What is true of all characters of a text, of the space and of the ellipsis, is true of all
characters of the lines that the text is laid out in (`Styled.forall_mem_wrap`): a layout brings in
nothing else.  No more does it bring in styles (`Styled.StylesAre.wrap`).
-/

namespace JsonShape

variable {P : CodePoint → Prop}

/-! ### Graphemes -/

namespace Grapheme

variable {gs : List Grapheme}

theorem forall_mem_ofText {t : Text} (h : ∀ c ∈ t, P c) : ∀ g ∈ ofText t, ∀ c ∈ g.text, P c := by
  intro g hg c hc
  rw [← toText_ofText t] at h
  exact h c (List.mem_flatMap.2 ⟨g, hg, hc⟩)

theorem forall_mem_fill (hspace : P ' ') (cells : Nat) (h : ∀ g ∈ gs, ∀ c ∈ g.text, P c) :
    ∀ c ∈ fill cells gs, P c := by
  fun_induction fill cells gs with
  | case1 => exact List.forall_mem_nil _
  | case2 => exact List.forall_mem_nil _
  | case3 => exact List.forall_mem_singleton.2 hspace
  | case4 n g gs hwide ih =>
    rw [List.forall_mem_cons] at h
    exact List.forall_mem_append.2 ⟨h.1, ih h.2⟩

theorem forall_mem_rows {cells filled : Nat} {row : Text} (hrow : ∀ c ∈ row, P c)
    (h : ∀ g ∈ gs, ∀ c ∈ g.text, P c) : ∀ r ∈ rows cells row filled gs, ∀ c ∈ r, P c := by
  fun_induction rows cells row filled gs with
  | case1 => exact List.forall_mem_nil _
  | case2 => exact List.forall_mem_singleton.2 hrow
  | case3 row filled g gs hfull ih =>
    rw [List.forall_mem_cons] at h
    exact List.forall_mem_cons.2 ⟨hrow, ih h.1 h.2⟩
  | case4 row filled g gs hfull ih =>
    rw [List.forall_mem_cons] at h
    exact ih (List.forall_mem_append.2 ⟨hrow, h.1⟩) h.2

end Grapheme

/-! ### Texts -/

namespace Text

variable {t : Text}

theorem forall_mem_spaces (hspace : P ' ') (n : Nat) : ∀ c ∈ spaces n, P c :=
  fun _ hc => List.eq_of_mem_replicate hc ▸ hspace

theorem forall_mem_resized (hspace : P ' ') (width : Nat) (h : ∀ c ∈ t, P c) :
    ∀ c ∈ resized width t, P c := by
  rw [resized]
  split
  · exact List.forall_mem_append.2 ⟨h, forall_mem_spaces hspace _⟩
  · exact Grapheme.forall_mem_fill hspace width (Grapheme.forall_mem_ofText h)

theorem forall_mem_words (h : ∀ c ∈ t, P c) : ∀ w ∈ words t, ∀ c ∈ w, P c := by
  intro w hw c hc
  rw [← flatten_words t] at h
  exact h c (List.mem_flatten.2 ⟨w, hw, hc⟩)

theorem forall_mem_fillLines {width filled : Nat} {overflow : Overflow} {line : Text}
    {ws : List Text} (hline : ∀ c ∈ line, P c) (h : ∀ w ∈ ws, ∀ c ∈ w, P c) :
    ∀ l ∈ fillLines width overflow line filled ws, ∀ c ∈ l, P c := by
  -- a line that is ended is the one that was filled
  have hended {line : Text} (hline : ∀ c ∈ line, P c) :
      ∀ l ∈ (if line = [] then [] else [line]), ∀ c ∈ l, P c := by
    split
    · exact List.forall_mem_nil _
    · exact List.forall_mem_singleton.2 hline
  induction ws generalizing line filled with
  | nil => exact List.forall_mem_singleton.2 hline
  | cons w ws ih =>
    obtain ⟨hw, hws⟩ := List.forall_mem_cons.1 h
    have hlonger := List.forall_mem_append.2 ⟨hline, hw⟩
    have hnext : ∀ l ∈ (if line = [] then [] else [line]) ++ fillLines width overflow w w.width ws,
        ∀ c ∈ l, P c := List.forall_mem_append.2 ⟨hended hline, ih hw hws⟩
    rw [fillLines.eq_def]
    dsimp only
    split
    · exact ih hlonger hws
    · split
      · cases overflow with
        | fold =>
          have hrows : ∀ r ∈ w.chopped width, ∀ c ∈ r, P c :=
            Grapheme.forall_mem_rows (List.forall_mem_nil _) (Grapheme.forall_mem_ofText hw)
          have hlast : ∀ c ∈ (w.chopped width).getLast?.getD [], P c := by
            cases hr : (w.chopped width).getLast? with
            | none => exact List.forall_mem_nil _
            | some r => exact hrows r (List.mem_of_getLast? hr)
          refine List.forall_mem_append.2
            ⟨List.forall_mem_append.2 ⟨hended hline, ?_⟩, ih hlast hws⟩
          exact fun r hr => hrows r ((List.dropLast_subset _) hr)
        | ellipsis => exact hnext
      · split
        · exact ih hlonger hws
        · exact hnext

theorem forall_mem_inLines {width : Nat} {overflow : Overflow} (h : ∀ c ∈ t, P c) :
    ∀ l ∈ inLines width overflow t, ∀ c ∈ l, P c :=
  forall_mem_fillLines (List.forall_mem_nil _) (forall_mem_words h)

theorem forall_mem_splitWhere (isSeparator : CodePoint → Bool) (h : ∀ c ∈ t, P c) :
    ∀ p ∈ t.splitWhere isSeparator, ∀ c ∈ p, P c := by
  induction t with
  | nil => exact List.forall_mem_singleton.2 (List.forall_mem_nil _)
  | cons c t ih =>
    obtain ⟨hc, ht⟩ := List.forall_mem_cons.1 h
    have ih := ih ht
    rw [splitWhere]
    split
    · exact List.forall_mem_cons.2 ⟨List.forall_mem_nil _, ih⟩
    · split
      · exact List.forall_mem_singleton.2 (List.forall_mem_singleton.2 hc)
      · next p ps hps =>
        rw [hps, List.forall_mem_cons] at ih
        exact List.forall_mem_cons.2 ⟨List.forall_mem_cons.2 ⟨hc, ih.1⟩, ih.2⟩

theorem forall_mem_trimEnd (h : ∀ c ∈ t, P c) : ∀ c ∈ trimEnd t, P c := by
  intro c hc
  have hdrop := (List.dropWhile_suffix CodePoint.isSpace).subset (List.mem_reverse.1 hc)
  exact h c (List.mem_reverse.1 hdrop)

end Text

/-! ### Styled texts -/

namespace Styled

variable {s : Styled}

/-- The parts of a text have its parts as their texts. -/
theorem map_text_slices (spans : List Span) (gap start : Nat) (ps : List Text) :
    (slices spans gap start ps).map Styled.text = ps := by
  induction ps generalizing start with
  | nil => rfl
  | cons p ps ih => rw [slices, List.map_cons, ih]

theorem forall_mem_slices {spans : List Span} {gap start : Nat} {ps : List Text}
    (h : ∀ p ∈ ps, ∀ c ∈ p, P c) : ∀ l ∈ slices spans gap start ps, ∀ c ∈ l.text, P c := by
  intro l hl
  refine h l.text ?_
  rw [← map_text_slices spans gap start ps]
  exact List.mem_map_of_mem hl

theorem forall_mem_inParts {gap : Nat} {parts : List Text} (hs : ∀ c ∈ s.text, P c)
    (h : ∀ p ∈ parts, ∀ c ∈ p, P c) : ∀ l ∈ s.inParts gap parts, ∀ c ∈ l.text, P c := by
  rw [inParts.eq_def]
  split
  · exact List.forall_mem_singleton.2 hs
  · exact forall_mem_slices h

/-! Tabs -/

theorem forall_mem_concat {parts : List Styled} (h : ∀ l ∈ parts, ∀ c ∈ l.text, P c) :
    ∀ c ∈ (concat parts).text, P c := by
  rw [concat]
  have hfold (s : Styled) (hs : ∀ c ∈ s.text, P c) : ∀ c ∈ (parts.foldl (· ++ ·) s).text, P c := by
    induction parts generalizing s with
    | nil => exact hs
    | cons l parts ih =>
      obtain ⟨hl, hparts⟩ := List.forall_mem_cons.1 h
      exact ih hparts _ (List.forall_mem_append.2 ⟨hs, hl⟩)
  exact hfold _ (List.forall_mem_nil _)

theorem forall_mem_splitAfterTabs {t : Text} (h : ∀ c ∈ t, P c) :
    ∀ p ∈ splitAfterTabs t, ∀ c ∈ p, P c := by
  induction t with
  | nil => exact List.forall_mem_nil _
  | cons c t ih =>
    obtain ⟨hc, ht⟩ := List.forall_mem_cons.1 h
    have ih := ih ht
    rw [splitAfterTabs]
    split
    · exact List.forall_mem_cons.2 ⟨List.forall_mem_singleton.2 hc, ih⟩
    · split
      · exact List.forall_mem_singleton.2 (List.forall_mem_singleton.2 hc)
      · next p ps hps =>
        rw [hps, List.forall_mem_cons] at ih
        exact List.forall_mem_cons.2 ⟨List.forall_mem_cons.2 ⟨hc, ih.1⟩, ih.2⟩

theorem forall_mem_toStops (hspace : P ' ') {parts : List Styled} {column : Nat}
    (h : ∀ l ∈ parts, ∀ c ∈ l.text, P c) : ∀ l ∈ toStops column parts, ∀ c ∈ l.text, P c := by
  induction parts generalizing column with
  | nil => exact List.forall_mem_nil _
  | cons l parts ih =>
    obtain ⟨hl, hparts⟩ := List.forall_mem_cons.1 h
    rw [toStops]
    split
    · refine List.forall_mem_cons.2 ⟨?_, ih hparts⟩
      refine List.forall_mem_append.2 ⟨List.forall_mem_append.2 ⟨fun c hc => ?_, ?_⟩, ?_⟩
      · exact hl c ((List.dropLast_subset _) hc)
      · exact List.forall_mem_singleton.2 hspace
      · exact Text.forall_mem_spaces hspace _
    · exact List.forall_mem_cons.2 ⟨hl, ih hparts⟩

theorem forall_mem_expandTabs (hspace : P ' ') (h : ∀ c ∈ s.text, P c) :
    ∀ c ∈ s.expandTabs.text, P c := by
  rw [expandTabs]
  split
  · exact forall_mem_concat (forall_mem_toStops hspace
      (forall_mem_slices (forall_mem_splitAfterTabs h)))
  · exact h

/-! Lines at a width -/

theorem forall_mem_trimExcess (width : Nat) (h : ∀ c ∈ s.text, P c) :
    ∀ c ∈ (s.trimExcess width).text, P c := fun c hc => h c (List.mem_of_mem_take hc)

variable (hspace : P ' ') (hdots : P '…')
include hspace hdots

theorem forall_mem_truncated (width : Nat) (overflow : Overflow) (h : ∀ c ∈ s.text, P c) :
    ∀ c ∈ (s.truncated width overflow).text, P c := by
  rw [truncated.eq_def]
  split
  · exact h
  · cases overflow with
    | fold => exact Text.forall_mem_resized hspace width h
    | ellipsis =>
      exact List.forall_mem_append.2
        ⟨Text.forall_mem_resized hspace _ h, List.forall_mem_singleton.2 hdots⟩

theorem forall_mem_justified (width : Nat) (justify : Justify) (overflow : Overflow)
    (h : ∀ c ∈ s.text, P c) : ∀ c ∈ (s.justified width justify overflow).text, P c := by
  have hpadded {s : Styled} (h : ∀ c ∈ s.text, P c) : ∀ c ∈ (s.padded width).text, P c :=
    List.forall_mem_append.2 ⟨h, Text.forall_mem_spaces hspace _⟩
  cases justify with
  | ragged => exact forall_mem_truncated hspace hdots width overflow h
  | left =>
    rw [justified]
    split
    · exact hpadded h
    · exact forall_mem_truncated hspace hdots width overflow h
  | center =>
    have htrimmed : ∀ c ∈ (s.withText s.text.trimEnd).text, P c := Text.forall_mem_trimEnd h
    exact hpadded (List.forall_mem_append.2 ⟨Text.forall_mem_spaces hspace _,
      forall_mem_truncated hspace hdots width overflow htrimmed⟩)

/-- **A layout brings in nothing but spaces and ellipses.** -/
theorem forall_mem_wrap (width : Nat) (justify : Justify) (overflow : Overflow)
    (h : ∀ c ∈ s.text, P c) : ∀ l ∈ s.wrap width justify overflow, ∀ c ∈ l.text, P c := by
  intro l hl
  obtain ⟨line, hline, hl⟩ := List.mem_flatMap.1 hl
  obtain ⟨part, hpart, rfl⟩ := List.mem_map.1 hl
  have hline : ∀ c ∈ line.text, P c :=
    forall_mem_inParts h (Text.forall_mem_splitWhere _ h) line hline
  have htabs := forall_mem_expandTabs hspace hline
  have hpart : ∀ c ∈ part.text, P c :=
    forall_mem_inParts htabs (Text.forall_mem_inLines htabs) part hpart
  exact forall_mem_justified hspace hdots width justify overflow
    (forall_mem_trimExcess width hpart)

end Styled

/-! ### Styles -/

theorem Span.style_before? {n : Nat} {p q : Span} (h : p.before? n = some q) :
    q.style = p.style := by
  rw [before?] at h
  split at h <;> cases h
  rfl

theorem Span.style_within? {start length : Nat} {p q : Span}
    (h : p.within? start length = some q) : q.style = p.style := by
  simp only [within?] at h
  split at h <;> cases h
  rfl

namespace Styled

/-- What is true of the styles of all spans. -/
def StylesAre (Q : Text → Prop) (s : Styled) : Prop := ∀ p ∈ s.spans, Q p.style

section Styles

variable {Q : Text → Prop} {s : Styled}

theorem forall_style_filterMap {f : Span → Option Span} {spans : List Span}
    (hf : ∀ p q, f p = some q → q.style = p.style) (h : ∀ p ∈ spans, Q p.style) :
    ∀ p ∈ spans.filterMap f, Q p.style := by
  intro q hq
  obtain ⟨p, hp, hpq⟩ := List.mem_filterMap.1 hq
  exact hf p q hpq ▸ h p hp

theorem forall_style_map {f : Span → Span} {spans : List Span}
    (hf : ∀ p, (f p).style = p.style) (h : ∀ p ∈ spans, Q p.style) :
    ∀ p ∈ spans.map f, Q p.style := by
  intro q hq
  obtain ⟨p, hp, rfl⟩ := List.mem_map.1 hq
  exact hf p ▸ h p hp

theorem StylesAre.withText (h : s.StylesAre Q) (t : Text) : (s.withText t).StylesAre Q := by
  rw [StylesAre, Styled.withText]
  split
  · exact forall_style_filterMap (fun _ _ => Span.style_before?) h
  · exact h

theorem stylesAre_slices {spans : List Span} (h : ∀ p ∈ spans, Q p.style) (gap start : Nat)
    (ps : List Text) : ∀ l ∈ slices spans gap start ps, l.StylesAre Q := by
  induction ps generalizing start with
  | nil => exact List.forall_mem_nil _
  | cons p ps ih =>
    exact List.forall_mem_cons.2
      ⟨forall_style_filterMap (fun _ _ => Span.style_within?) h, ih _⟩

theorem StylesAre.inParts (h : s.StylesAre Q) (gap : Nat) (parts : List Text) :
    ∀ l ∈ s.inParts gap parts, l.StylesAre Q := by
  rw [inParts.eq_def]
  split
  · exact List.forall_mem_singleton.2 h
  · exact stylesAre_slices h gap 0 _

theorem stylesAre_concat {parts : List Styled} (h : ∀ l ∈ parts, l.StylesAre Q) :
    (concat parts).StylesAre Q := by
  rw [concat]
  have hfold (s : Styled) (hs : s.StylesAre Q) : (parts.foldl (· ++ ·) s).StylesAre Q := by
    induction parts generalizing s with
    | nil => exact hs
    | cons l parts ih =>
      obtain ⟨hl, hparts⟩ := List.forall_mem_cons.1 h
      exact ih hparts _ (List.forall_mem_append.2 ⟨hs, forall_style_map (fun _ => rfl) hl⟩)
  exact hfold _ (List.forall_mem_nil _)

theorem StylesAre.drawnOut (h : s.StylesAre Q) (n : Nat) : (s.drawnOut n).StylesAre Q :=
  forall_style_map (fun p => by split <;> rfl) h

theorem stylesAre_toStops {parts : List Styled} {column : Nat} (h : ∀ l ∈ parts, l.StylesAre Q) :
    ∀ l ∈ toStops column parts, l.StylesAre Q := by
  induction parts generalizing column with
  | nil => exact List.forall_mem_nil _
  | cons l parts ih =>
    obtain ⟨hl, hparts⟩ := List.forall_mem_cons.1 h
    rw [toStops]
    split
    · have hspaced : StylesAre Q ⟨l.text.dropLast ++ " ", l.spans⟩ := hl
      exact List.forall_mem_cons.2 ⟨hspaced.drawnOut _, ih hparts⟩
    · exact List.forall_mem_cons.2 ⟨hl, ih hparts⟩

theorem StylesAre.expandTabs (h : s.StylesAre Q) : s.expandTabs.StylesAre Q := by
  rw [Styled.expandTabs]
  split
  · exact stylesAre_concat (stylesAre_toStops (stylesAre_slices h 0 0 _))
  · exact h

theorem StylesAre.truncated (h : s.StylesAre Q) (width : Nat) (overflow : Overflow) :
    (s.truncated width overflow).StylesAre Q := by
  rw [truncated.eq_def]
  split
  · exact h
  · cases overflow with
    | fold | ellipsis => exact h.withText _

theorem StylesAre.justified (h : s.StylesAre Q) (width : Nat) (justify : Justify)
    (overflow : Overflow) : (s.justified width justify overflow).StylesAre Q := by
  cases justify with
  | ragged => exact h.truncated width overflow
  | left =>
    rw [Styled.justified]
    split
    · exact h
    · exact h.truncated width overflow
  | center => exact forall_style_map (fun _ => rfl) ((h.withText _).truncated width overflow)

/-- **A layout brings in no styles.** -/
theorem StylesAre.wrap (h : s.StylesAre Q) (width : Nat) (justify : Justify)
    (overflow : Overflow) : ∀ l ∈ s.wrap width justify overflow, l.StylesAre Q := by
  intro l hl
  obtain ⟨line, hline, hl⟩ := List.mem_flatMap.1 hl
  obtain ⟨part, hpart, rfl⟩ := List.mem_map.1 hl
  have hline : line.StylesAre Q := h.inParts 1 _ line hline
  have hpart : part.StylesAre Q := hline.expandTabs.inParts 0 _ part hpart
  exact (hpart.withText _).justified width justify overflow

end Styles

end Styled

end JsonShape
