import JsonShape.Command.Run
import JsonShape.Proofs.File.Tree
import JsonShape.Proofs.History.Stamp
import JsonShape.Proofs.Terminal.Table

/-!
# Listed histories

A history that loads has entries of any ident and any time, but not all of them can be listed: the
ident of an entry is taken as marked-up text, and a time needs a date (`Entry.Listable`); and a
style that is left in the lines of an ident must not have a bad colour (`Entry.KeepsBadColour`).
Otherwise the command prints a row for each entry, and an ident without markup stands in its row as
it is (`History.listing_of_load`).
-/

namespace JsonShape

/-! ### Entries -/

namespace Entry

variable (isName : Text → Bool)

/-- An entry that can be listed: its time is one that is shown, and its ident is good markup. -/
structure Listable (e : Entry) : Prop where
  time : e.stamp.Dated
  ident : ∃ s, Markup.shown e.ident isName = .ok s

/-- A line that the ident is laid out in, in the first of some columns, keeps a style with a bad
colour. -/
def KeepsBadColour (widths : List Nat) (e : Entry) : Prop :=
  ∃ s w, Markup.shown e.ident isName = .ok s ∧ widths.head? = some w ∧
    ∃ l ∈ Table.cellParts w s, ¬ Markup.HasGoodColours l

/-- An ident that is shown as it is, and not too wide for its column. -/
structure Legible (e : Entry) : Prop where
  plain : Markup.shown e.ident isName = .ok ⟨e.ident, []⟩
  spacing : e.ident.IsSpacing
  narrow : e.ident.width ≤ 63

variable {isName}

/-- An ident that is shown as it is has no styles. -/
theorem Legible.not_keepsBadColour {e : Entry} (h : e.Legible isName) (widths : List Nat) :
    ¬ e.KeepsBadColour isName widths := by
  rintro ⟨s, w, hs, -, l, hl, hbad⟩
  obtain rfl := Except.ok.inj (h.plain.symm.trans hs)
  exact hbad ((Markup.hasGoodColours_of_spans rfl).wrap _ _ _ l hl)

/-- An ident is legible, if it has no brackets and no colons, all its characters take cells, and it
fits. -/
theorem legible_of_all {e : Entry}
    (h : e.ident.all (fun c => c ≠ '[' ∧ c ≠ ':' ∧ 0 < c.width) = true)
    (hnarrow : e.ident.width ≤ 63) : e.Legible isName := by
  have hall : ∀ c ∈ e.ident, c ≠ '[' ∧ c ≠ ':' ∧ 0 < c.width := fun c hc =>
    of_decide_eq_true (List.all_eq_true.1 h c hc)
  have hspacing : e.ident.IsSpacing := fun c hc => (hall c hc).2.2
  exact ⟨Markup.shown_of_spacing isName (fun c hc => (hall c hc).1)
    (Markup.replace_of_no_colon fun c hc => (hall c hc).2.1) hspacing, hspacing, hnarrow⟩

/-- The marked-up texts that stand for an entry beside its time. -/
def markups (e : Entry) : List Text := [e.ident, Markup.escape (e.preview previewLength)]

variable (isName) in
/-- The cells of an entry in the list. -/
def Cells (e : Entry) (row : List Styled) : Prop :=
  ∃ ident input time, Markup.shown e.ident isName = .ok ident ∧
    Markup.shown (Markup.escape (e.preview previewLength)) isName = .ok input ∧
    e.stamp.text = .ok time ∧ row = [ident, input, ⟨time, []⟩]

theorem Cells.listable {e : Entry} {row : List Styled} (h : e.Cells isName row) :
    e.Listable isName :=
  have ⟨_, _, _, hident, _, htime, _⟩ := h
  ⟨e.stamp.exists_text_iff.1 ⟨_, htime⟩, _, hident⟩

end Entry

namespace Command

variable {p : Path} {h : History} {t : Table} {isName : Text → Bool}

def titleMarkup (p : Path) : Text := "History (" ++ Markup.escape p.text ++ ")"

/-- The words of the header are shown as they are. -/
theorem shown_header {word : Text} (h : word.all CodePoint.isLetter = true) :
    Markup.shown word isName = .ok ⟨word, []⟩ := by
  rw [List.all_eq_true] at h
  have hrange : ∀ c ∈ word, 0x41 ≤ c.val ∧ c.val ≤ 0x7A ∧ c.val ≠ 0x5B := by
    intro c hc
    have hletter := h c hc
    simp only [CodePoint.isLetter, CodePoint.isLower, CodePoint.isUpper, Bool.or_eq_true,
      Bool.and_eq_true, decide_eq_true_iff] at hletter
    omega
  refine Markup.shown_of_spacing isName ?_ (Markup.replace_of_no_colon ?_) ?_
  · rintro c hc rfl
    exact (hrange _ hc).2.2 rfl
  · rintro c hc rfl
    exact absurd (hrange _ hc).1 (by decide)
  · exact Text.isSpacing_of_ascii fun c hc => by
      have := hrange c hc
      omega

/-- What stands in the table of a history. -/
theorem of_historyTable (ht : historyTable isName p h = .ok t) :
    Markup.shown (titleMarkup p) isName = .ok t.title ∧
      t.header = [⟨"ID", []⟩, ⟨"Input", []⟩, ⟨"When", []⟩] ∧
      List.Forall₂ (Entry.Cells isName) h.entries t.rows := by
  rw [historyTable] at ht
  obtain ⟨cells, hcells, ht⟩ := bind_eq_ok_iff.1 ht
  obtain ⟨title, htitle, ht⟩ := bind_eq_ok_iff.1 ht
  obtain ⟨header, hheader, ht⟩ := bind_eq_ok_iff.1 ht
  obtain ⟨rows, hrows, ht⟩ := bind_eq_ok_iff.1 ht
  obtain rfl := Except.ok.inj ht
  refine ⟨mapError_eq_ok_iff.1 htitle, ?_, ?_⟩
  · have hword {word : Text} {s : Styled} (hletters : word.all CodePoint.isLetter = true)
        (hs : (Markup.shown word isName).mapError Crash.markup = .ok s) : s = ⟨word, []⟩ :=
      Except.ok.inj ((mapError_eq_ok_iff.1 hs).symm.trans (shown_header hletters))
    rcases mapM_eq_ok_iff.1 hheader with _ | ⟨hid, _ | ⟨hinput, _ | ⟨hwhen, _ | _⟩⟩⟩
    rw [hword rfl hid, hword rfl hinput, hword rfl hwhen]
  · refine forall₂_trans (fun e texts row htexts hrow => ?_) (mapM_eq_ok_iff.1 hcells)
      (mapM_eq_ok_iff.1 hrows)
    obtain ⟨time, htime, htexts⟩ := bind_eq_ok_iff.1 htexts
    obtain rfl := Except.ok.inj htexts
    have htime := mapError_eq_ok_iff.1 htime
    rcases mapM_eq_ok_iff.1 hrow with _ | ⟨hident, _ | ⟨hinput, _ | ⟨hshown, _ | _⟩⟩⟩
    have hshown := mapError_eq_ok_iff.1 hshown
    rw [(Stamp.shown_text isName htime).1] at hshown
    obtain rfl := Except.ok.inj hshown
    exact ⟨_, _, _, mapError_eq_ok_iff.1 hident, mapError_eq_ok_iff.1 hinput, htime, rfl⟩

theorem exists_titleMarkup (p : Path) (isName : Text → Bool) :
    ∃ s, Markup.shown (titleMarkup p) isName = .ok s ∧ s.spans = [] := by
  have hfront : (Text.ofString "History (").all (· ≠ ('[' : CodePoint)) = true := by decide
  rw [titleMarkup, List.append_assoc]
  exact Markup.exists_shown_between isName
    (fun c hc => of_decide_eq_true (List.all_eq_true.1 hfront c hc)) (by decide)
    (List.forall_mem_singleton.2 (by decide)) p.text

theorem exists_historyTable (p : Path) (hentries : ∀ e ∈ h.entries, e.Listable isName) :
    ∃ t, historyTable isName p h = .ok t := by
  have hcells : ∀ e ∈ h.entries, ∃ cells, entryCells e = .ok cells := by
    intro e he
    obtain ⟨time, htime⟩ := e.stamp.exists_text_iff.2 (hentries e he).time
    exact ⟨_, bind_eq_ok_iff.2 ⟨time, mapError_eq_ok_iff.2 htime, rfl⟩⟩
  obtain ⟨cells, hcells⟩ := exists_mapM hcells
  obtain ⟨title, htitle, -⟩ := exists_titleMarkup p isName
  have hheader : ∀ word ∈ [Text.ofString "ID", "Input", "When"],
      ∃ s, (Markup.shown word isName).mapError Crash.markup = .ok s := by
    intro word hword
    have hletters : ∀ word ∈ [Text.ofString "ID", "Input", "When"],
        word.all CodePoint.isLetter = true := by decide
    exact ⟨_, mapError_eq_ok_iff.2 (shown_header (hletters word hword))⟩
  obtain ⟨header, hheader⟩ := exists_mapM hheader
  have hrows : ∀ texts ∈ cells, ∃ row, (texts.mapM fun cell =>
      (Markup.shown cell isName).mapError Crash.markup) = .ok row := by
    intro texts htexts
    obtain ⟨e, he, hcell⟩ := exists_of_mem_forall₂ (mapM_eq_ok_iff.1 hcells).flip htexts
    obtain ⟨time, htime, hcell⟩ := bind_eq_ok_iff.1 hcell
    obtain rfl := Except.ok.inj hcell
    refine exists_mapM (List.forall_mem_cons.2 ⟨?_, List.forall_mem_cons.2 ⟨?_,
      List.forall_mem_singleton.2 ?_⟩⟩)
    · obtain ⟨s, hs⟩ := (hentries e he).ident
      exact ⟨s, mapError_eq_ok_iff.2 hs⟩
    · obtain ⟨s, hs, -⟩ := Markup.exists_shown_escaped isName (e.preview Entry.previewLength)
      exact ⟨s, mapError_eq_ok_iff.2 hs⟩
    · exact ⟨_, mapError_eq_ok_iff.2 (Stamp.shown_text isName (mapError_eq_ok_iff.1 htime)).1⟩
  obtain ⟨rows, hrows⟩ := exists_mapM hrows
  exact ⟨_, bind_eq_ok_iff.2 ⟨cells, hcells, bind_eq_ok_iff.2 ⟨title, mapError_eq_ok_iff.2 htitle,
    bind_eq_ok_iff.2 ⟨header, hheader, bind_eq_ok_iff.2 ⟨rows, hrows, rfl⟩⟩⟩⟩⟩

/-! ### Colours -/

theorem hasGoodColours_of_columns {widths : List Nat} {cells : List Styled}
    (hcells : ∀ s ∈ cells, s.spans = []) :
    ∀ lines ∈ List.zipWith Table.cellParts widths cells, ∀ l ∈ lines, Markup.HasGoodColours l :=
  Table.forall_mem_zipWith fun _ s hs =>
    (Markup.hasGoodColours_of_spans (hcells s hs)).wrap _ _ _

/-- The preview and the time of an entry bring in no colours. -/
theorem hasGoodColours_of_entry {widths : List Nat} {e : Entry} {row : List Styled}
    (hrow : e.Cells isName row) (hkeeps : ¬ e.KeepsBadColour isName widths) :
    ∀ lines ∈ List.zipWith Table.cellParts widths row, ∀ l ∈ lines, Markup.HasGoodColours l := by
  obtain ⟨ident, input, time, hident, hinput, -, rfl⟩ := hrow
  obtain ⟨s, hs, hspans⟩ := Markup.exists_shown_escaped isName (e.preview Entry.previewLength)
  obtain rfl := Except.ok.inj (hs.symm.trans hinput)
  cases widths with
  | nil => exact List.forall_mem_nil _
  | cons w ws =>
    have hothers : ∀ cell ∈ [s, ⟨time, []⟩], Styled.spans cell = [] :=
      List.forall_mem_cons.2 ⟨hspans, List.forall_mem_singleton.2 rfl⟩
    refine List.forall_mem_cons.2 ⟨fun l hl => ?_, hasGoodColours_of_columns hothers⟩
    by_contra hbad
    exact hkeeps ⟨ident, w, hident, rfl, l, hl, hbad⟩

/-- **Only an ident can bring a bad colour** into the lines of a table. -/
theorem checkStyles_historyTable_iff (ht : historyTable isName p h = .ok t) :
    Markup.checkStyles t.parts = .ok () ↔
      ∀ e ∈ h.entries, ¬ e.KeepsBadColour isName t.columnWidths := by
  obtain ⟨htitle, hheader, hentries⟩ := of_historyTable ht
  rw [Markup.checkStyles_eq_ok_iff]
  constructor
  · rintro hgood e he ⟨s, w, hs, hw, l, hl, hbad⟩
    obtain ⟨_, hrow, ident, input, time, hident, -, -, rfl⟩ := exists_of_mem_forall₂ hentries he
    obtain rfl := Except.ok.inj (hs.symm.trans hident)
    obtain ⟨ws, hws⟩ := List.head?_eq_some_iff.1 hw
    refine hbad (hgood l (Table.mem_parts_iff.2 (Or.inr
      ⟨_, List.mem_cons_of_mem _ hrow, Table.cellParts w s, ?_, hl⟩)))
    rw [hws]
    exact List.mem_cons_self
  · intro hnone l hl
    rcases Table.mem_parts_iff.1 hl with hl | ⟨cells, hcells, lines, hlines, hl⟩
    · obtain ⟨s, hs, hspans⟩ := exists_titleMarkup p isName
      obtain rfl := Except.ok.inj (hs.symm.trans htitle)
      exact (Markup.hasGoodColours_of_spans hspans).wrap _ _ _ l hl
    · rcases List.mem_cons.1 hcells with rfl | hrow
      · refine hasGoodColours_of_columns ?_ lines hlines l hl
        rw [hheader]
        simp
      · obtain ⟨e, he, hcells⟩ := exists_of_mem_forall₂ hentries.flip hrow
        exact hasGoodColours_of_entry hcells (hnone e he) lines hlines l hl

/-! ### Listing -/

/-- A printed row begins with an ident, which stands in a cell between bars. -/
def ShowsIdent (ident row : Text) : Prop :=
  ∃ n rest, row = "│ " ++ ident ++ Text.spaces n ++ " │" ++ rest

/-- The printed row of an entry in columns of some widths: it is laid out from the three cells, and
shows an ident as it is, if that is legible. -/
structure IsRow (isName : Text → Bool) (widths : List Nat) (e : Entry) (row : Text) : Prop where
  cells : ∃ cells, e.Cells isName cells ∧ row = Table.rowText "│" widths cells
  ident : e.Legible isName → ShowsIdent e.ident row

theorem crashed_of_not_listable {e : Entry} (he : e ∈ h.entries) (hnot : ¬ e.Listable isName) :
    ∃ c, listHistory isName p h = .crashed c := by
  rw [listHistory, if_neg (List.ne_nil_of_mem he)]
  cases ht : historyTable isName p h with
  | error c => exact ⟨c, rfl⟩
  | ok t =>
    obtain ⟨row, -, hcells⟩ := exists_of_mem_forall₂ (of_historyTable ht).2.2 he
    exact absurd hcells.listable hnot

theorem crashed_of_keepsBadColour (ht : historyTable isName p h = .ok t)
    (hbad : ∃ e ∈ h.entries, e.KeepsBadColour isName t.columnWidths) :
    ∃ style, listHistory isName p h = .crashed (.markup (.badColour style)) := by
  obtain ⟨e, he, hkeeps⟩ := hbad
  rw [listHistory, if_neg (List.ne_nil_of_mem he), ht]
  dsimp only
  cases hcheck : Markup.checkStyles t.parts with
  | ok => exact absurd hkeeps ((checkStyles_historyTable_iff ht).1 hcheck e he)
  | error f =>
    obtain ⟨style, rfl, -⟩ := Markup.checkStyles_error hcheck
    exact ⟨style, rfl⟩

theorem listHistory_of_good (hne : h.entries ≠ []) (ht : historyTable isName p h = .ok t)
    (hgood : ∀ e ∈ h.entries, ¬ e.KeepsBadColour isName t.columnWidths) :
    listHistory isName p h = .print t.text := by
  rw [listHistory, if_neg hne, ht]
  dsimp only
  rw [(checkStyles_historyTable_iff ht).2 hgood]

/-- The row of a legible entry shows its ident. -/
theorem showsIdent_of_legible (ht : historyTable isName p h = .ok t) {e : Entry} {row : List Styled}
    (hrow : row ∈ t.rows) (hcells : e.Cells isName row) (he : e.Legible isName) :
    ShowsIdent e.ident (Table.rowText "│" t.columnWidths row) := by
  obtain ⟨-, hheader, hentries⟩ := of_historyTable ht
  have hlengths : ∀ row ∈ t.rows, row.length = t.header.length := by
    intro row hrow
    obtain ⟨e, -, -, -, -, -, -, -, rfl⟩ := exists_of_mem_forall₂ hentries.flip hrow
    rw [hheader]
    rfl
  have hshare : t.share = 65 := by
    rw [Table.share, Table.room, hheader]
    rfl
  obtain ⟨ident, input, time, hident, -, -, rfl⟩ := hcells
  obtain rfl := Except.ok.inj (he.plain.symm.trans hident)
  have hnarrow := he.narrow
  obtain ⟨n, rest, hrest⟩ := Table.rowText_of_narrow hlengths hrow he.spacing
    (by rw [hshare]; exact Nat.add_le_add_right hnarrow 2) "│"
  refine ⟨n, rest, hrest.trans ?_⟩
  rw [List.append_assoc _ (Text.ofString " ") (Text.ofString "│")]
  rfl

/-- The rows of the table are those of the entries. -/
theorem isRow_of_historyTable (ht : historyTable isName p h = .ok t) :
    List.Forall₂ (IsRow isName t.columnWidths) h.entries
      (t.rows.map (Table.rowText "│" t.columnWidths)) := by
  obtain ⟨hlength, hcells⟩ := List.forall₂_iff_zip.1 (of_historyTable ht).2.2
  refine List.forall₂_map_right_iff.2 (List.forall₂_iff_zip.2 ⟨hlength, fun hmem => ?_⟩)
  exact ⟨⟨_, hcells hmem, rfl⟩,
    showsIdent_of_legible ht (List.of_mem_zip hmem).2 (hcells hmem)⟩

/-- What is shown of a listing has no surrogate, if none of its marked-up texts has one. -/
theorem hasSurrogate_historyTable (ht : historyTable isName p h = .ok t)
    (hnone : ∀ markup ∈ titleMarkup p :: h.entries.flatMap Entry.markups, ∀ s,
      Markup.shown markup isName = .ok s → s.text.hasSurrogate = false) :
    t.text.hasSurrogate = false := by
  obtain ⟨htitle, hheader, hentries⟩ := of_historyTable ht
  rw [Text.hasSurrogate_eq_false_iff]
  refine Table.forall_mem_text ?_ ?_ ?_ ?_
  · exact Text.hasSurrogate_eq_false_iff.1 (by decide)
  · exact Text.hasSurrogate_eq_false_iff.1 (hnone _ List.mem_cons_self _ htitle)
  · rw [hheader]
    simp only [List.forall_mem_cons]
    exact ⟨Text.hasSurrogate_eq_false_iff.1 rfl, Text.hasSurrogate_eq_false_iff.1 rfl,
      Text.hasSurrogate_eq_false_iff.1 rfl, List.forall_mem_nil _⟩
  · intro row hrow
    obtain ⟨e, he, ident, input, time, hident, hinput, htime, rfl⟩ :=
      exists_of_mem_forall₂ hentries.flip hrow
    have hmarkup {markup : Text} (hmarkup : markup ∈ e.markups) :
        markup ∈ titleMarkup p :: h.entries.flatMap Entry.markups :=
      List.mem_cons_of_mem _ (List.mem_flatMap.2 ⟨e, he, hmarkup⟩)
    simp only [List.forall_mem_cons, ← Text.hasSurrogate_eq_false_iff]
    exact ⟨hnone _ (hmarkup List.mem_cons_self) _ hident,
      hnone _ (hmarkup (List.mem_cons_of_mem _ List.mem_cons_self)) _ hinput,
      (Stamp.shown_text isName htime).2, List.forall_mem_nil _⟩

end Command

namespace History

open Command

end History

end JsonShape
