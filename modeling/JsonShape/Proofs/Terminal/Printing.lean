import JsonShape.Command.Report
import JsonShape.Proofs.Terminal.Style

/-!
# What is printed

A line is printed as its text without control sequences, unless the text has a surrogate
(`Ending.printLine_eq`).  A marked-up text that can be shown in good colours is printed, unless a
surrogate is left in what is shown (`Ending.exists_announce`).
-/

namespace JsonShape

/-! ### Control sequences -/

namespace Sequence

theorem after?_suffix {t rest : Text} (h : after? t = some rest) : rest <:+ t := by
  match t with
  | [] => cases h
  | [_] => cases h
  | e :: b :: t =>
    rw [after?] at h
    split at h
    · split at h
      · cases h
      · next c r hr =>
        split at h
        · cases h
          have hdrop := List.dropWhile_suffix isParameter (l := t)
          rw [hr] at hdrop
          exact (List.suffix_cons c _).trans (hdrop.trans
            ((List.suffix_cons b t).trans (List.suffix_cons e _)))
        · cases h
    · cases h

/-- What is left of a text was in it. -/
theorem strip_subset (t : Text) : strip t ⊆ t := by
  fun_induction strip t with
  | case1 t rest h ih => exact fun c hc => (after?_suffix h).subset (ih hc)
  | case2 => exact fun _ hc => hc
  | case3 c rest h ih =>
    rw [List.cons_subset]
    exact ⟨List.mem_cons_self, fun d hd => List.mem_cons_of_mem c (ih hd)⟩

end Sequence

theorem Text.hasSurrogate_of_subset {s t : Text} (hs : s ⊆ t) (h : t.hasSurrogate = false) :
    s.hasSurrogate = false :=
  List.any_eq_false.2 fun c hc => List.any_eq_false.1 h c (hs hc)

theorem Text.hasSurrogate_eq_false_iff {t : Text} :
    t.hasSurrogate = false ↔ ∀ c ∈ t, c.isSurrogate = false := by
  simp only [hasSurrogate, List.any_eq_false, Bool.not_eq_true]

namespace Ending

/-- **A line is printed,** if its text can be encoded. -/
theorem printLine_eq {t : Text} (h : t.hasSurrogate = false) :
    printLine t = .printed (Sequence.strip (t ++ "\n")) := by
  have hline : (t ++ Text.ofString "\n").hasSurrogate = false := by
    rw [Text.hasSurrogate, List.any_append, ← Text.hasSurrogate, h]
    rfl
  rw [printLine, print, Text.hasSurrogate_of_subset (Sequence.strip_subset _) hline]
  rfl

/-- What is shown in good colours is laid out in lines. -/
theorem terminalLines_of_shown {markup : Text} {s : Styled} (hs : Markup.shown markup = .ok s)
    (hgood : Markup.HasGoodColours s) : terminalLines markup = .ok
      ((s.wrap terminalWidth .ragged .fold).flatMap fun line => line.text ++ "\n") := by
  have hstyles := Markup.checkStyles_eq_ok_iff.2 (hgood.wrap terminalWidth .ragged .fold)
  rw [terminalLines, hs]
  change (Markup.checkStyles (s.wrap terminalWidth .ragged .fold) >>= fun _ => _) = _
  rw [hstyles]
  rfl

/-- **What is shown is printed,** if it can be encoded. -/
theorem exists_announce {markup : Text} {s : Styled} (hs : Markup.shown markup = .ok s)
    (hgood : Markup.HasGoodColours s) (h : s.text.hasSurrogate = false) :
    ∃ t, announce markup = .printed t := by
  have hlayout := Styled.forall_mem_wrap (P := (·.isSurrogate = false)) rfl rfl terminalWidth
    .ragged .fold (Text.hasSurrogate_eq_false_iff.1 h)
  have hlines : Text.hasSurrogate ((s.wrap terminalWidth .ragged .fold).flatMap fun line =>
      line.text ++ Text.ofString "\n") = false := by
    rw [Text.hasSurrogate_eq_false_iff]
    intro c hc
    obtain ⟨line, hline, hc⟩ := List.mem_flatMap.1 hc
    rcases List.mem_append.1 hc with hc | hc
    · exact hlayout line hline c hc
    · exact List.mem_singleton.1 hc ▸ rfl
  rw [announce, terminalLines_of_shown hs hgood]
  exact ⟨_, if_neg (Bool.eq_false_iff.1 hlines)⟩

/-! ### Surrogates -/

/-- The marked-up text is laid out with a surrogate, so no bytes stand for it. -/
def Unprintable (markup : Text) : Prop :=
  ∃ t, terminalLines markup = .ok t ∧ t.hasSurrogate = true

/-- Printing succeeds, or it is stopped because of a surrogate. -/
theorem print_cases (t : Text) :
    print t = .printed t ∨ (print t = .crashed (.file .unencodable) ∧ t.hasSurrogate = true) := by
  rw [print]
  cases h : t.hasSurrogate with
  | true => exact Or.inr ⟨rfl, rfl⟩
  | false => exact Or.inl rfl

theorem crashed_of_print {t : Text} (h : (print t).status ≠ 0) : ∃ c, print t = .crashed c := by
  rcases print_cases t with ht | ⟨ht, -⟩
  · rw [ht] at h
    exact absurd rfl h
  · exact ⟨_, ht⟩

/-- A text that can be shown in good colours is announced, unless it has a surrogate. -/
theorem unprintable_of_announce {markup : Text}
    (hshown : ∃ s, Markup.shown markup = .ok s ∧ Markup.HasGoodColours s)
    (h : (announce markup).status ≠ 0) :
    (∃ c, announce markup = .crashed c) ∧ Unprintable markup := by
  obtain ⟨s, hs, hgood⟩ := hshown
  have ht := terminalLines_of_shown hs hgood
  rw [announce, ht] at h ⊢
  dsimp only at h ⊢
  rcases print_cases _ with hprint | ⟨hprint, hsurrogate⟩ <;> rw [hprint] at h ⊢
  · exact absurd rfl h
  · exact ⟨⟨_, rfl⟩, _, ht, hsurrogate⟩

end Ending

end JsonShape
