import JsonShape.Proofs.Number.Double
import JsonShape.Proofs.Terminal.Spacing
import JsonShape.Proofs.Terminal.Wrap
import Mathlib.Data.List.Forall2

/-!
# What a table shows

A table that is too wide is narrowed at its widest columns, but no column loses more than what it
has beyond its even share of the room (`Table.le_fitted`).  So a text that fits into that share
stands in its cell as it is (`Table.rowText_of_narrow`).  What a table brings in beside its texts is
rules, spaces and ellipses (`Table.forall_mem_text`).
-/

namespace JsonShape

/-- Items that are related by two steps, one by one. -/
theorem forall₂_trans {α β γ : Type} {R : α → β → Prop} {S : β → γ → Prop} {T : α → γ → Prop}
    (h : ∀ a b c, R a b → S b c → T a c) {l : List α} {m : List β} {n : List γ}
    (hlm : List.Forall₂ R l m) (hmn : List.Forall₂ S m n) : List.Forall₂ T l n := by
  induction hlm generalizing n with
  | nil =>
    cases hmn
    exact .nil
  | cons hab _ ih =>
    cases hmn with
    | cons hbc hmn => exact .cons (h _ _ _ hab hbc) (ih hmn)

namespace Table

/-! ### Widths of the columns -/

section Widths

variable {ws : List Nat} {w b first most excess sharers : Nat}

theorem le_foldl_max (ws : List Nat) (n : Nat) :
    n ≤ ws.foldl max n ∧ ∀ w ∈ ws, w ≤ ws.foldl max n := by
  induction ws generalizing n with
  | nil => exact ⟨Nat.le_refl n, List.forall_mem_nil _⟩
  | cons w ws ih =>
    obtain ⟨hstart, hrest⟩ := ih (max n w)
    exact ⟨(Nat.le_max_left n w).trans hstart,
      List.forall_mem_cons.2 ⟨(Nat.le_max_right n w).trans hstart, hrest⟩⟩

/-- What one of some sharers gives leaves no more than the others can give. -/
theorem sub_roundDiv_le {d : Nat} (h : excess ≤ (sharers + 1) * d) :
    excess - Double.roundDiv excess (sharers + 1) ≤ sharers * d := by
  have hpos : 0 < sharers + 1 := Nat.succ_pos sharers
  have hgiven := Double.roundDiv_le hpos (h.trans_eq (Nat.mul_comm _ _))
  obtain ⟨hbound, -⟩ := Double.roundDiv_bounds excess hpos
  generalize Double.roundDiv excess (sharers + 1) = given at hgiven hbound ⊢
  rw [Nat.add_mul] at h hbound
  rcases Nat.eq_or_lt_of_le hgiven with rfl | hless
  · omega
  · have hothers : sharers * (given + 1) ≤ sharers * d := Nat.mul_le_mul_left sharers hless
    rw [Nat.mul_add] at hothers
    omega

/-- **Narrowed columns** keep a width, if none may give more than what it has beyond it, or together
they need not. -/
theorem le_narrowed (hsharers : sharers = ws.count first)
    (hmost : most ≤ first - b ∨ first - b ≤ most ∧ excess ≤ sharers * (first - b)) :
    List.Forall₂ (fun w v => min w b ≤ v) ws (narrowed first most excess sharers ws) := by
  induction ws generalizing excess sharers with
  | nil => exact .nil
  | cons w ws ih =>
    rw [narrowed]
    split
    · next hw =>
      subst hw
      rw [List.count_cons_self] at hsharers
      subst hsharers
      dsimp only
      rw [Nat.add_sub_cancel]
      rcases hmost with hmost | ⟨hmost, hexcess⟩
      · exact .cons (by omega) (ih rfl (Or.inl hmost))
      · have hgiven := Double.roundDiv_le (Nat.succ_pos _) (hexcess.trans_eq (Nat.mul_comm _ _))
        rw [Nat.min_eq_right (hgiven.trans hmost)]
        exact .cons (by omega) (ih rfl (Or.inr ⟨hmost, sub_roundDiv_le hexcess⟩))
    · next hw =>
      rw [List.count_cons_of_ne hw] at hsharers
      exact .cons (Nat.min_le_left w b) (ih hsharers hmost)

/-- The widest columns have all that is beyond an even share, if no other column is wider than
that. -/
theorem sum_le (h : ∀ w ∈ ws, w ≠ first → w ≤ b) :
    ws.sum + ws.count first * b ≤ ws.count first * first + ws.length * b := by
  induction ws with
  | nil => simp
  | cons w ws ih =>
    obtain ⟨hw, hrest⟩ := List.forall_mem_cons.1 h
    have ih := ih hrest
    rw [List.sum_cons, List.length_cons, Nat.add_mul ws.length]
    by_cases hfirst : w = first
    · rw [hfirst, List.count_cons_self, Nat.add_mul, Nat.add_mul]
      omega
    · have := hw hfirst
      rw [List.count_cons_of_ne hfirst]
      omega

/-- The widest columns are narrowed to the next width at most, and then each column keeps an even
share of the room. -/
theorem le_narrowed_widest {room second : Nat} (hb : ws.length * b ≤ room)
    (hexcess : ws.sum - room ≠ 0) (hfirst : ∀ w ∈ ws, w ≤ first)
    (hsecond : ∀ w ∈ ws, w ≠ first → w ≤ second) :
    List.Forall₂ (fun w v => min w b ≤ v) ws (narrowed first
      (min (ws.sum - room) (first - second)) (ws.sum - room) (ws.count first) ws) := by
  have hwide : b ≤ first := by
    by_contra hnarrow
    have hall := sum_le (b := first) fun w hw (_ : w ≠ first) => hfirst w hw
    have hroom := Nat.mul_le_mul_left ws.length (Nat.le_of_not_le hnarrow)
    omega
  refine le_narrowed rfl ?_
  rcases Nat.lt_or_ge second b with hless | hmore
  · have hall := sum_le fun w hw hne => (hsecond w hw hne).trans hless.le
    have hshared : ws.sum - room ≤ ws.count first * (first - b) := by
      rw [Nat.mul_sub]
      omega
    omega
  · omega

/-- **Columns that are made to fit** keep an even share of the room. -/
theorem le_fitted {room : Nat} (fuel : Nat) (hb : ws.length * b ≤ room) :
    List.Forall₂ (fun w v => min w b ≤ v) ws (fitted room fuel ws) := by
  have hsum (ws : List Nat) : ws.foldl (· + ·) 0 = ws.sum := List.sum_eq_foldl.symm
  induction fuel generalizing ws with
  | zero => exact List.forall₂_same.2 fun w _ => Nat.min_le_left w b
  | succ fuel ih =>
    rw [fitted, hsum]
    dsimp only
    split
    · exact List.forall₂_same.2 fun w _ => Nat.min_le_left w b
    · next hexcess =>
      have hsecond := (le_foldl_max (ws.filter (· ≠ ws.foldl max 0)) 0).2
      have hfirst := (le_foldl_max ws 0).2
      generalize ws.foldl max 0 = first at hfirst hsecond ⊢
      generalize (ws.filter (· ≠ first)).foldl max 0 = second at hsecond ⊢
      have hnarrowed := le_narrowed_widest hb hexcess hfirst fun w hw hne =>
        hsecond w (List.mem_filter.2 ⟨hw, decide_eq_true hne⟩)
      have hlength := hnarrowed.length_eq
      refine forall₂_trans (fun w v u hwv hvu => ?_) hnarrowed (ih (hlength ▸ hb))
      omega

end Widths

/-! ### Columns of a table -/

section Columns

variable {t : Table}

/-- The even share of a column in the room. -/
def share (t : Table) : Nat := t.room / t.header.length

theorem le_zipWith_max {ws us : List Nat} (h : ws.length = us.length) :
    List.Forall₂ (· ≤ ·) ws (List.zipWith max ws us) ∧
      List.Forall₂ (· ≤ ·) us (List.zipWith max ws us) := by
  induction ws generalizing us with
  | nil =>
    obtain rfl := List.length_eq_zero_iff.1 h.symm
    exact ⟨.nil, .nil⟩
  | cons w ws ih =>
    cases us with
    | nil => cases h
    | cons u us =>
      obtain ⟨hw, hu⟩ := ih (Nat.succ.inj h)
      exact ⟨.cons (Nat.le_max_left w u) hw, .cons (Nat.le_max_right w u) hu⟩

/-- A column is as wide as any of its cells wants. -/
theorem le_foldl_wanted (room : Nat) {rows : List (List Styled)} {ws : List Nat}
    (hrows : ∀ row ∈ rows, row.length = ws.length) :
    let widths := rows.foldl (fun ws row => List.zipWith max ws (row.map (wanted room))) ws
    List.Forall₂ (· ≤ ·) ws widths ∧
      ∀ row ∈ rows, List.Forall₂ (fun s w => wanted room s ≤ w) row widths := by
  induction rows generalizing ws with
  | nil => exact ⟨List.forall₂_same.2 fun w _ => Nat.le_refl w, List.forall_mem_nil _⟩
  | cons row rows ih =>
    obtain ⟨hrow, hrest⟩ := List.forall_mem_cons.1 hrows
    have hlength : ws.length = (row.map (wanted room)).length := by rw [List.length_map, hrow]
    obtain ⟨hws, hwants⟩ := le_zipWith_max hlength
    obtain ⟨hfirst, hothers⟩ := ih fun r hr => (hrest r hr).trans hws.length_eq
    have htrans := @forall₂_trans Nat Nat Nat (· ≤ ·) (· ≤ ·) (· ≤ ·) fun _ _ _ => Nat.le_trans
    exact ⟨htrans hws hfirst, List.forall_mem_cons.2
      ⟨List.forall₂_map_left_iff.1 (htrans hwants hfirst), hothers⟩⟩

/-- **A column is as wide as any of its cells wants,** up to its even share of the room. -/
theorem le_columnWidths (hrows : ∀ row ∈ t.rows, row.length = t.header.length) {row : List Styled}
    (hrow : row ∈ t.rows) :
    List.Forall₂ (fun s w => min (widest s.text + 2) t.share ≤ w) row t.columnWidths := by
  have hlength : ∀ row ∈ t.rows, row.length = (t.header.map (wanted t.room)).length := by
    simpa using hrows
  obtain ⟨hheader, hwants⟩ := le_foldl_wanted t.room hlength
  have hshare : t.share ≤ t.room := Nat.div_le_self _ _
  rw [columnWidths]
  generalize t.rows.foldl _ _ = ws at hheader hwants ⊢
  have hroom : ws.length * t.share ≤ t.room := by
    rw [← hheader.length_eq, List.length_map]
    exact Nat.mul_div_le t.room t.header.length
  refine forall₂_trans (fun s w v hsw hwv => ?_) (hwants row hrow) (le_fitted _ hroom)
  rw [wanted] at hsw
  omega

end Columns

/-! ### Cells and rows -/

section Cells

variable {s : Styled} {w : Nat} (hs : s.text.IsSpacing)
include hs

theorem widest_of_spacing : widest s.text = s.text.width := by
  have hsplit : s.text.splitWhere endsLine = [s.text] := Text.splitWhere_of_not fun c hc =>
    eq_false_of_ne_true fun h => hs.not_mem (CodePoint.width_of_endsLine h) hc
  rw [widest, hsplit]
  exact Nat.zero_max _

/-- **A text that fits stands in its cell** with a space at each side at least. -/
theorem cellLines_of_fits (h : s.text.width + 2 ≤ w) :
    cellLines w s = [" " ++ s.text ++ Text.spaces (w - 2 - s.text.width) ++ " "] := by
  have hpadded : (s.padded (w - 2)).text.IsSpacing := hs.append (Text.isSpacing_spaces _)
  have hwidth : (s.padded (w - 2)).text.width = w - 2 := by
    rw [Styled.padded, Text.width_append hs (Text.isSpacing_spaces _), Text.width_spaces]
    omega
  have hinner : (Runs.fit (w - 2) (s.padded (w - 2)).runs).flatten = (s.padded (w - 2)).text := by
    rw [Runs.flatten_fit] <;> rw [Styled.flatten_runs]
    · rw [hwidth, Nat.sub_self]
      exact List.append_nil _
    · exact hpadded
    · exact hwidth.le
  have hmargin : (Text.spaces 1).IsSpacing := Text.isSpacing_spaces 1
  have houter : (Text.spaces 1 :: Runs.fit (w - 2) (s.padded (w - 2)).runs ++
      [Text.spaces 1]).flatten = Text.spaces 1 ++ (s.padded (w - 2)).text ++ Text.spaces 1 := by
    rw [List.flatten_append, List.flatten_cons, hinner, List.flatten_singleton]
  have hspacing := (hmargin.append hpadded).append hmargin
  have htotal : (Text.spaces 1 ++ (s.padded (w - 2)).text ++ Text.spaces 1).width = w := by
    rw [Text.width_append (hmargin.append hpadded) hmargin, Text.width_append hmargin hpadded,
      hwidth, Text.width_spaces]
    omega
  rw [cellLines, cellParts, Styled.wrap_of_fits hs (by omega), List.map_singleton,
    Runs.flatten_fit] <;>
    rw [houter]
  · have hnone : Text.spaces 0 = [] := rfl
    rw [htotal, Nat.sub_self, hnone, List.append_nil, Styled.padded, ← List.append_assoc]
    rfl
  · exact hspacing
  · exact htotal.le

omit hs in
/-- The first line of a row begins with the first line of its first cell. -/
theorem exists_rowText_eq {line : Text} (hline : cellLines w s = [line]) (bar : Text)
    (ws : List Nat) (cells : List Styled) :
    ∃ rest, rowText bar (w :: ws) (s :: cells) = bar ++ line ++ bar ++ rest := by
  rw [rowText, List.zipWith_cons_cons, hline]
  generalize List.zipWith cellLines ws cells = columns
  have hheight := (le_foldl_max (([line] :: columns).map List.length) 0).2 1 List.mem_cons_self
  obtain ⟨below, hbelow⟩ := Nat.exists_eq_add_of_le' hheight
  dsimp only
  rw [hbelow, List.range_succ_eq_map, List.flatMap_cons, List.zipWith_cons_cons, rowLine]
  simp only [List.map_cons, List.flatten_cons, List.append_assoc]
  exact ⟨_, rfl⟩

end Cells

/-- **A narrow text stands in its row** as it is: it begins the row, if it is in the first cell. -/
theorem rowText_of_narrow {t : Table} (hrows : ∀ row ∈ t.rows, row.length = t.header.length)
    {s : Styled} {cells : List Styled} (hrow : s :: cells ∈ t.rows) (hs : s.text.IsSpacing)
    (hnarrow : s.text.width + 2 ≤ t.share) (bar : Text) :
    ∃ n rest, rowText bar t.columnWidths (s :: cells) =
      bar ++ " " ++ s.text ++ Text.spaces n ++ " " ++ bar ++ rest := by
  have hwidths := le_columnWidths hrows hrow
  cases hcolumns : t.columnWidths with
  | nil =>
    rw [hcolumns] at hwidths
    cases hwidths
  | cons w ws =>
    rw [hcolumns] at hwidths
    cases hwidths with
    | cons hw _ =>
      rw [widest_of_spacing hs, Nat.min_eq_left hnarrow] at hw
      obtain ⟨rest, hrest⟩ := exists_rowText_eq (cellLines_of_fits hs hw) bar ws cells
      exact ⟨w - 2 - s.text.width, rest, hrest.trans (by simp only [List.append_assoc])⟩

/-- A line of a table is one of its title or of a cell in its column. -/
theorem mem_parts_iff {t : Table} {l : Styled} :
    l ∈ t.parts ↔ l ∈ titleParts (wholeWidth t.columnWidths) t.title ∨
      ∃ cells ∈ t.header :: t.rows, ∃ lines ∈ List.zipWith cellParts t.columnWidths cells,
        l ∈ lines := by
  rw [parts, List.mem_append, List.mem_flatMap]
  simp only [List.mem_flatten]

/-- The rows stand in the table one below the other. -/
theorem exists_text_eq (t : Table) : ∃ head foot, t.text =
    head ++ (t.rows.map (rowText "│" t.columnWidths)).flatten ++ foot :=
  ⟨_, _, rfl⟩

/-! ### Characters -/

section Characters

variable {P : CodePoint → Prop}

theorem forall_mem_runs {s : Styled} (h : ∀ c ∈ s.text, P c) : ∀ r ∈ s.runs, ∀ c ∈ r, P c := by
  intro r hr c hc
  rw [← Styled.flatten_runs s] at h
  exact h c (List.mem_flatten.2 ⟨r, hr, hc⟩)

theorem forall_mem_crop (hspace : P ' ') {rs : List Text} {width : Nat}
    (h : ∀ r ∈ rs, ∀ c ∈ r, P c) : ∀ r ∈ Runs.crop width rs, ∀ c ∈ r, P c := by
  fun_induction Runs.crop width rs with
  | case1 => exact List.forall_mem_nil _
  | case2 width r rs hless ih =>
    obtain ⟨hr, hrest⟩ := List.forall_mem_cons.1 h
    exact List.forall_mem_cons.2 ⟨hr, ih hrest⟩
  | case3 width r rs hless =>
    exact List.forall_mem_singleton.2
      (Text.forall_mem_resized hspace width (List.forall_mem_cons.1 h).1)

theorem forall_mem_fit (hspace : P ' ') {rs : List Text} (width : Nat)
    (h : ∀ r ∈ rs, ∀ c ∈ r, P c) : ∀ r ∈ Runs.fit width rs, ∀ c ∈ r, P c := by
  have hspaces (n : Nat) : ∀ r ∈ [Text.spaces n], ∀ c ∈ r, P c :=
    List.forall_mem_singleton.2 (Text.forall_mem_spaces hspace n)
  rw [Runs.fit]
  split
  · exact List.forall_mem_append.2 ⟨forall_mem_crop hspace h, hspaces _⟩
  · exact List.forall_mem_append.2 ⟨h, hspaces _⟩

theorem forall_mem_zipWith {α β γ : Type} {f : α → β → γ} {Q : γ → Prop} {l : List α} {m : List β}
    (h : ∀ a, ∀ b ∈ m, Q (f a b)) : ∀ x ∈ List.zipWith f l m, Q x := by
  rw [← List.map_uncurry_zip_eq_zipWith]
  intro x hx
  obtain ⟨⟨a, b⟩, hmem, rfl⟩ := List.mem_map.1 hx
  exact h a b (List.of_mem_zip hmem).2

theorem forall_mem_ruleText {left line cross right : CodePoint}
    (h : P left ∧ P line ∧ P cross ∧ P right) (hend : P '\n') (widths : List Nat) :
    ∀ c ∈ ruleText left line cross right widths, P c := by
  obtain ⟨hleft, hline, hcross, hright⟩ := h
  have hruns : ∀ r ∈ widths.map fun w => List.replicate w line, ∀ c ∈ r, P c := by
    intro r hr c hc
    obtain ⟨w, -, rfl⟩ := List.mem_map.1 hr
    exact List.eq_of_mem_replicate hc ▸ hline
  exact List.forall_mem_append.2 ⟨List.forall_mem_append.2 ⟨List.forall_mem_singleton.2 hleft,
    Text.forall_mem_join (List.forall_mem_singleton.2 hcross) hruns⟩,
    List.forall_mem_cons.2 ⟨hright, List.forall_mem_singleton.2 hend⟩⟩

variable (hspace : P ' ') (hdots : P '…')
include hspace hdots

theorem forall_mem_cellLines {s : Styled} (width : Nat) (h : ∀ c ∈ s.text, P c) :
    ∀ l ∈ cellLines width s, ∀ c ∈ l, P c := by
  intro l hl c hc
  obtain ⟨line, hline, rfl⟩ := List.mem_map.1 hl
  have hruns := forall_mem_runs (Styled.forall_mem_wrap hspace hdots _ .left .ellipsis h line hline)
  have hmargin := Text.forall_mem_spaces hspace 1
  have hrow := List.forall_mem_append.2 ⟨List.forall_mem_cons.2
    ⟨hmargin, forall_mem_fit hspace (width - 2) hruns⟩, List.forall_mem_singleton.2 hmargin⟩
  obtain ⟨r, hr, hc⟩ := List.mem_flatten.1 hc
  exact forall_mem_fit hspace width hrow r hr c hc

theorem forall_mem_rowText {bar : Text} (hbar : ∀ c ∈ bar, P c) (hend : P '\n') (widths : List Nat)
    {cells : List Styled} (h : ∀ s ∈ cells, ∀ c ∈ s.text, P c) :
    ∀ c ∈ rowText bar widths cells, P c := by
  have hcolumns : ∀ lines ∈ List.zipWith cellLines widths cells, ∀ l ∈ lines, ∀ c ∈ l, P c :=
    forall_mem_zipWith fun w s hs => forall_mem_cellLines hspace hdots w (h s hs)
  rw [rowText]
  intro c hc
  obtain ⟨i, -, hc⟩ := List.mem_flatMap.1 hc
  have hparts : ∀ l ∈ List.zipWith (fun w (lines : List Text) =>
      (lines[i]?).getD (Text.spaces w)) widths (List.zipWith cellLines widths cells),
      ∀ c ∈ l, P c := by
    refine forall_mem_zipWith fun w lines hlines => ?_
    cases hline : lines[i]? with
    | none => exact Text.forall_mem_spaces hspace w
    | some l => exact hcolumns lines hlines l (List.mem_of_getElem? hline)
  rw [rowLine] at hc
  refine List.forall_mem_append.2 ⟨List.forall_mem_append.2 ⟨hbar, fun c hc => ?_⟩,
    List.forall_mem_singleton.2 hend⟩ c hc
  obtain ⟨l, hl, hc⟩ := List.mem_flatten.1 hc
  obtain ⟨part, hpart, rfl⟩ := List.mem_map.1 hl
  exact List.forall_mem_append.2 ⟨hparts part hpart, hbar⟩ c hc

theorem forall_mem_titleText {whole : Nat} {title : Styled} (hend : P '\n')
    (h : ∀ c ∈ title.text, P c) : ∀ c ∈ titleText whole title, P c := by
  intro c hc
  obtain ⟨line, hline, hc⟩ := List.mem_flatMap.1 hc
  rcases List.mem_append.1 hc with hc | hc
  · exact Styled.forall_mem_wrap hspace hdots whole .center .fold h line hline c hc
  · exact List.mem_singleton.1 hc ▸ hend

omit hspace hdots in
/-- **A table brings in** nothing but spaces, ellipses, line ends and rules. -/
theorem forall_mem_text {t : Table}
    (hrules : ∀ c ∈ Text.ofString " …\n┏━┳┓┃┡╇┩│└─┴┘", P c) (htitle : ∀ c ∈ t.title.text, P c)
    (hheader : ∀ s ∈ t.header, ∀ c ∈ s.text, P c)
    (hrows : ∀ row ∈ t.rows, ∀ s ∈ row, ∀ c ∈ s.text, P c) : ∀ c ∈ t.text, P c := by
  have hrule {c : CodePoint} (hc : c ∈ Text.ofString " …\n┏━┳┓┃┡╇┩│└─┴┘") : P c := hrules c hc
  have hspace : P ' ' := hrule (by decide)
  have hdots : P '…' := hrule (by decide)
  have hend : P '\n' := hrule (by decide)
  have hbody : ∀ c ∈ (t.rows.map (rowText "│" t.columnWidths)).flatten, P c := by
    intro c hc
    obtain ⟨r, hr, hc⟩ := List.mem_flatten.1 hc
    obtain ⟨row, hrow, rfl⟩ := List.mem_map.1 hr
    exact forall_mem_rowText hspace hdots (List.forall_mem_singleton.2 (hrule (by decide))) hend _
      (hrows row hrow) c hc
  rw [text]
  simp only [List.forall_mem_append]
  refine ⟨⟨⟨⟨⟨forall_mem_titleText hspace hdots hend htitle, ?_⟩, ?_⟩, ?_⟩, hbody⟩, ?_⟩
  · exact forall_mem_ruleText (by refine ⟨?_, ?_, ?_, ?_⟩ <;> exact hrule (by decide)) hend _
  · exact forall_mem_rowText hspace hdots (List.forall_mem_singleton.2 (hrule (by decide))) hend _
      hheader
  · exact forall_mem_ruleText (by refine ⟨?_, ?_, ?_, ?_⟩ <;> exact hrule (by decide)) hend _
  · exact forall_mem_ruleText (by refine ⟨?_, ?_, ?_, ?_⟩ <;> exact hrule (by decide)) hend _

end Characters

end Table

end JsonShape
