import JsonShape.Terminal.Table
import Mathlib.Algebra.GroupWithZero.Nat

/-!
# Texts of spacing characters

In a text of spacing characters each character takes cells of its own, so the cells of its parts add
up (`Text.width_append`), wherever it is cut.  Such a text has no line ends, tabs or joined
characters, and if it fits into a line, it is laid out in that line as it is (`Styled.wrap_of_fits`,
`Runs.flatten_fit`).
-/

namespace JsonShape

/-! ### Spacing characters -/

namespace CodePoint

/-- Some of the ranges of marks and controls: those of the tab, the line ends, the joiner and the
emoji selector. -/
def controlRanges : List (Nat × Nat) :=
  [(0x0, 0x1F), (0x7F, 0x9F), (0x200B, 0x200F), (0x2028, 0x202E), (0xFE00, 0xFE0F)]

theorem width_eq_zero {c : CodePoint} {r : Nat × Nat} (hr : r ∈ controlRanges)
    (h : r.1 ≤ c.val ∧ c.val ≤ r.2) : c.width = 0 := by
  have hranges : ∀ r ∈ controlRanges,
      r ∈ markRanges.toList ∧ ¬ (r.1 < 0x7F ∧ 0x20 ≤ r.2) := by decide +kernel
  obtain ⟨hmem, hascii⟩ := hranges r hr
  have hmark : c.isAmong markRanges = true := by
    rw [isAmong, Array.any_eq_true']
    exact ⟨r, Array.mem_toList_iff.1 hmem, by simpa using h⟩
  rw [width, if_neg (by omega), if_pos hmark]

theorem width_tab : width '\t' = 0 := width_eq_zero (r := (0x0, 0x1F)) (by decide) (by decide)

theorem width_joiner : joiner.width = 0 :=
  width_eq_zero (r := (0x200B, 0x200F)) (by decide) (by decide)

theorem width_emojiSelector : emojiSelector.width = 0 :=
  width_eq_zero (r := (0xFE00, 0xFE0F)) (by decide) (by decide)

/-- Line ends take no cells. -/
theorem width_of_endsLine {c : CodePoint} (h : Table.endsLine c = true) : c.width = 0 := by
  simp only [Table.endsLine, Bool.or_eq_true, Bool.and_eq_true, decide_eq_true_iff] at h
  rcases h with (((h | h) | h) | h) | h
  · exact width_eq_zero (r := (0x0, 0x1F)) (by decide) ⟨Nat.zero_le _, by omega⟩
  · exact width_eq_zero (r := (0x0, 0x1F)) (by decide) ⟨Nat.zero_le _, by omega⟩
  · exact width_eq_zero (r := (0x7F, 0x9F)) (by decide) ⟨by omega, by omega⟩
  · exact width_eq_zero (r := (0x2028, 0x202E)) (by decide) ⟨by omega, by omega⟩
  · exact width_eq_zero (r := (0x2028, 0x202E)) (by decide) ⟨by omega, by omega⟩

end CodePoint

namespace Text

variable {t u : Text}

/-- Each character takes cells. -/
def IsSpacing (t : Text) : Prop := ∀ c ∈ t, 0 < c.width

theorem IsSpacing.append (ht : t.IsSpacing) (hu : u.IsSpacing) : (t ++ u).IsSpacing :=
  List.forall_mem_append.2 ⟨ht, hu⟩

theorem isSpacing_spaces (n : Nat) : (spaces n).IsSpacing :=
  fun _ hc => List.eq_of_mem_replicate hc ▸ Nat.one_pos

/-- The visible characters of ASCII take cells. -/
theorem isSpacing_of_ascii (h : ∀ c ∈ t, 0x20 ≤ c.val ∧ c.val < 0x7F) : t.IsSpacing := by
  intro c hc
  rw [CodePoint.width, if_pos (h c hc)]
  exact Nat.one_pos

theorem IsSpacing.not_mem (ht : t.IsSpacing) {c : CodePoint} (hc : c.width = 0) : c ∉ t :=
  fun hmem => Nat.ne_of_gt (ht c hmem) hc

/-! ### Widths -/

theorem widthAfter_of_spacing (ht : t.IsSpacing) (last : Option CodePoint) :
    widthAfter last t = (t.map CodePoint.width).sum := by
  induction t generalizing last with
  | nil => rfl
  | cons c t ih =>
    obtain ⟨hc, htail⟩ := List.forall_mem_cons.1 ht
    have hne {d : CodePoint} (hd : d.width = 0) : c ≠ d := fun h => Nat.ne_of_gt hc (h ▸ hd)
    rw [widthAfter.eq_def]
    dsimp only
    rw [if_neg (hne CodePoint.width_joiner), if_neg (hne CodePoint.width_emojiSelector),
      if_neg (Nat.ne_of_gt hc), ih htail, List.map_cons, List.sum_cons]

theorem width_of_spacing (ht : t.IsSpacing) : t.width = (t.map CodePoint.width).sum :=
  widthAfter_of_spacing ht none

/-- **The cells of spacing texts add up.** -/
theorem width_append (ht : t.IsSpacing) (hu : u.IsSpacing) :
    (t ++ u).width = t.width + u.width := by
  rw [width_of_spacing (ht.append hu), width_of_spacing ht, width_of_spacing hu, List.map_append,
    List.sum_append]

theorem width_spaces (n : Nat) : (spaces n).width = n := by
  rw [width_of_spacing (isSpacing_spaces n), spaces, List.map_replicate,
    List.sum_replicate_nat]
  exact Nat.mul_one n

theorem length_le_width (ht : t.IsSpacing) : t.length ≤ t.width := by
  rw [width_of_spacing ht]
  induction t with
  | nil => exact Nat.le_refl 0
  | cons c t ih =>
    obtain ⟨hc, htail⟩ := List.forall_mem_cons.1 ht
    have := ih htail
    simp only [List.length_cons, List.map_cons, List.sum_cons]
    omega

theorem width_trimEnd_le (ht : t.IsSpacing) : t.trimEnd.width ≤ t.width := by
  have hsplit : t = t.trimEnd ++ (t.reverse.takeWhile CodePoint.isSpace).reverse := by
    rw [trimEnd, ← List.reverse_append, List.takeWhile_append_dropWhile, List.reverse_reverse]
  have hparts := ht
  rw [hsplit] at hparts
  have hadd := width_append (List.forall_mem_append.1 hparts).1 (List.forall_mem_append.1 hparts).2
  rw [← hsplit] at hadd
  omega

/-! ### Lines -/

theorem splitWhere_of_not {isSeparator : CodePoint → Bool}
    (h : ∀ c ∈ t, isSeparator c = false) : t.splitWhere isSeparator = [t] := by
  induction t with
  | nil => rfl
  | cons c t ih =>
    obtain ⟨hc, ht⟩ := List.forall_mem_cons.1 h
    rw [splitWhere, hc, ih ht]
    rfl

/-- Words that fit into what is left of a line are filled into it. -/
theorem fillLines_of_fits {width filled : Nat} {overflow : Overflow} {line : Text} {ws : List Text}
    (hws : ∀ w ∈ ws, IsSpacing w) (h : filled + Text.width ws.flatten ≤ width) :
    fillLines width overflow line filled ws = [line ++ ws.flatten] := by
  induction ws generalizing line filled with
  | nil => exact congrArg (fun l => [l]) (List.append_nil line).symm
  | cons w ws ih =>
    obtain ⟨hw, hrest⟩ := List.forall_mem_cons.1 hws
    have hspacing : IsSpacing ws.flatten := fun c hc =>
      have ⟨v, hv, hcv⟩ := List.mem_flatten.1 hc
      hrest v hv c hcv
    have hsolid := width_trimEnd_le hw
    rw [List.flatten_cons, width_append hw hspacing] at h
    rw [fillLines.eq_def]
    dsimp only
    rw [if_pos (by omega), ih hrest (by omega), List.append_assoc, List.flatten_cons]

theorem inLines_of_fits {width : Nat} {overflow : Overflow} (ht : t.IsSpacing)
    (h : t.width ≤ width) : inLines width overflow t = [t] := by
  have hwords : ∀ w ∈ words t, IsSpacing w := fun w hw c hc =>
    ht c (flatten_words t ▸ List.mem_flatten.2 ⟨w, hw, hc⟩)
  rw [inLines, fillLines_of_fits hwords (by rw [flatten_words]; omega), flatten_words]
  rfl

end Text

namespace Styled

variable {s : Styled} (hs : s.text.IsSpacing)
include hs

theorem lines_of_spacing : s.lines = [s] := by
  have hsplit : s.text.split '\n' = [s.text] := Text.splitWhere_of_not fun c hc =>
    decide_eq_false fun h => hs.not_mem (CodePoint.width_of_endsLine rfl) (h ▸ hc)
  rw [lines, hsplit]
  rfl

theorem expandTabs_of_spacing : s.expandTabs = s := by
  have hcontains : s.text.contains ('\t' : CodePoint) = false := by
    rw [List.contains_eq_mem]
    exact decide_eq_false (hs.not_mem CodePoint.width_tab)
  rw [expandTabs, hcontains]
  rfl

/-- **A text that fits into a line stands in it** with spaces after it. -/
theorem wrap_of_fits {width : Nat} {overflow : Overflow} (h : s.text.width ≤ width) :
    s.wrap width .left overflow = [s.padded width] := by
  have hlength : s.text.length ≤ width := Nat.le_trans (Text.length_le_width hs) h
  have htrim : s.trimExcess width = s := by
    rw [trimExcess, Nat.sub_eq_zero_of_le hlength, Nat.min_zero, Nat.sub_zero,
      List.take_length, withText, if_neg (Nat.lt_irrefl _)]
  rw [wrap, lines_of_spacing hs, List.flatMap_singleton, expandTabs_of_spacing hs]
  change ((s.inParts 0 (s.text.inLines width overflow)).map fun l =>
    (l.trimExcess width).justified width .left overflow) = _
  rw [Text.inLines_of_fits hs h, inParts, List.map_singleton, htrim, justified]
  split
  · rfl
  · rw [truncated.eq_def, if_pos h, padded, Nat.sub_eq_zero_of_le (by omega)]
    exact congrArg (fun t => [(⟨t, s.spans⟩ : Styled)]) (List.append_nil s.text).symm

omit hs in
theorem flatten_cutWhere (isSeam : Nat → Bool) (place : Nat) (t : Text) :
    (cutWhere isSeam place t).flatten = t := by
  induction t generalizing place with
  | nil => rfl
  | cons c t ih =>
    have ih := ih (place + 1)
    rw [cutWhere]
    split
    · next h =>
      rw [h] at ih
      rw [← ih]
      rfl
    · next r rs h =>
      rw [h] at ih
      split <;> simp [← ih]

omit hs in
theorem flatten_runs (s : Styled) : s.runs.flatten = s.text := flatten_cutWhere _ 0 s.text

end Styled

namespace Runs

variable {rs : List Text}

theorem width_of_spacing (hrs : Text.IsSpacing rs.flatten) :
    Runs.width rs = Text.width rs.flatten := by
  have hfold (n : Nat) : rs.foldl (fun n r => n + r.width) n = n + Text.width rs.flatten := by
    induction rs generalizing n with
    | nil => rfl
    | cons r rs ih =>
      obtain ⟨hr, hrest⟩ := List.forall_mem_append.1 hrs
      rw [List.foldl_cons, ih hrest, List.flatten_cons, Text.width_append hr hrest, Nat.add_assoc]
  exact (hfold 0).trans (Nat.zero_add _)

/-- Runs that fit get spaces after them. -/
theorem flatten_fit {width : Nat} (hrs : Text.IsSpacing rs.flatten)
    (h : Text.width rs.flatten ≤ width) :
    (fit width rs).flatten = rs.flatten ++ Text.spaces (width - Text.width rs.flatten) := by
  rw [fit, width_of_spacing hrs, if_neg (by omega), width_of_spacing hrs, List.flatten_append,
    List.flatten_singleton]

end Runs

end JsonShape
