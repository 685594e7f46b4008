import JsonShape.Proofs.Terminal.Escape
import JsonShape.Proofs.Terminal.Spacing

/-!
# Marked-up texts that are shown as they are

A text without brackets and codes whose characters take cells is shown as it is
(`shown_of_spacing`), and an escaped text can be shown between texts without brackets
(`exists_shown_between`).
-/

namespace JsonShape

namespace Markup

variable {t u v : Text} (isName : Text → Bool)

theorem dropBackslashes_of_no_bracket (h : ∀ c ∈ t, c ≠ ('[' : CodePoint)) :
    dropBackslashes t = t := by
  induction t with
  | nil => rfl
  | cons c t ih =>
    obtain ⟨-, ht⟩ := List.forall_mem_cons.1 h
    have hhead : t.head? ≠ some ('[' : CodePoint) := fun hhead =>
      ht _ (List.mem_of_head? hhead) rfl
    rw [dropBackslashes, if_neg fun hb => ?_, ih ht]
    exact hhead (of_decide_eq_true ((Bool.and_eq_true _ _).mp hb).2)

/-- A single colon makes no code. -/
theorem replace_of_one_colon (hu : ∀ c ∈ u, c ≠ (':' : CodePoint))
    (hv : ∀ c ∈ v, c ≠ (':' : CodePoint)) :
    Emoji.replace (u ++ (':' : CodePoint) :: v) = u ++ (':' : CodePoint) :: v := by
  have hplain {c : CodePoint} {t : Text} (h : Emoji.code? (c :: t) = none) :
      Emoji.replace (c :: t) = c :: Emoji.replace t := by
    rw [Emoji.replace.eq_def]
    split
    · next hcode =>
      rw [h] at hcode
      cases hcode
    · rfl
  induction u with
  | nil =>
    have hcode : Emoji.code? ((':' : CodePoint) :: v) = none := by
      rw [Emoji.code?, if_pos rfl]
      cases hup : Text.upTo ':' CodePoint.isSpace v with
      | none => rfl
      | some found =>
        obtain ⟨rfl, -⟩ := Text.upTo_eq_some_iff.1 hup
        exact absurd rfl (hv _ (List.mem_append_right _ List.mem_cons_self))
    exact (hplain hcode).trans (congrArg _ (replace_of_no_colon hv))
  | cons c u ih =>
    obtain ⟨hc, hrest⟩ := List.forall_mem_cons.1 hu
    exact (hplain (if_neg hc)).trans (congrArg _ (ih hrest))

theorem isControl_of_width {c : CodePoint} (h : 0 < c.width) : isControl c = false := by
  refine eq_false_of_ne_true fun hcontrol => ?_
  have hrange : c.val ≤ 0x1F := by
    simp only [isControl, Bool.or_eq_true, Bool.and_eq_true, decide_eq_true_iff] at hcontrol
    rcases hcontrol with (rfl | rfl) | hcontrol
    · decide
    · decide
    · omega
  exact Nat.ne_of_gt h
    (CodePoint.width_eq_zero (r := (0x0, 0x1F)) (by decide) ⟨Nat.zero_le _, hrange⟩)

/-- **A text is shown as it is,** if it has no brackets and no codes and all its characters take
cells. -/
theorem shown_of_spacing (hbracket : ∀ c ∈ t, c ≠ ('[' : CodePoint))
    (hcodes : Emoji.replace t = t) (ht : t.IsSpacing) : shown t isName = .ok ⟨t, []⟩ := by
  have hpieces := pieces_append hbracket [] []
  rw [List.append_nil, List.append_nil, pieces_nil, List.reverse_reverse] at hpieces
  have hvisible : visible t = t := by
    rw [visible, dropBackslashes_of_no_bracket hbracket, hcodes]
    exact List.filter_eq_self.2 fun c hc => by rw [isControl_of_width (ht c hc)]; rfl
  rw [shown, hpieces]
  exact congrArg (fun t => Except.ok (⟨t, []⟩ : Styled)) hvisible

/-- An escaped text can be shown between texts without brackets; it brings in no styles. -/
theorem exists_shown_between (hu : ∀ c ∈ u, c ≠ ('[' : CodePoint))
    (hbackslash : u.reverse.head? ≠ some ('\\' : CodePoint))
    (hv : ∀ c ∈ v, c ≠ ('[' : CodePoint) ∧ c ≠ (']' : CodePoint)) (t : Text) :
    ∃ s, shown (u ++ (escape t ++ v)) isName = .ok s ∧ s.spans = [] := by
  have hpieces := pieces_append hu [] (escape t ++ v)
  rw [List.append_nil] at hpieces
  rw [shown, hpieces]
  exact exists_showPieces (isPlain_of_mem_pieces_escape hbackslash t hv) _

theorem exists_shown_escaped (t : Text) :
    ∃ s, shown (escape t) isName = .ok s ∧ s.spans = [] := by
  have h := exists_shown_between isName (List.forall_mem_nil _) nofun (List.forall_mem_nil _) t
  rwa [List.append_nil] at h

end Markup

end JsonShape
