import JsonShape.Proofs.Terminal.Wrap
import JsonShape.Terminal.Markup

/-!
# Styles that can be looked up

Only the components of a colour in brackets can be bad, so a style without brackets is never
refused, and neither is its normal form (`Style.exists_normalForm`).  Lines are refused exactly if a
style is left in them that has a bad colour (`Markup.checkStyles_eq_ok_iff`).
-/

namespace JsonShape

namespace Style

variable {t w : Text}

/-! ### Names without brackets -/

/-- A text of ASCII without an opening bracket. -/
def IsPlain (t : Text) : Prop := ∀ c ∈ t, c.val < 0x80 ∧ c ≠ ('(' : CodePoint)

theorem isPlain_of_all (h : t.all (fun c => c.val < 0x80 ∧ c ≠ '(') = true) : IsPlain t :=
  fun c hc => of_decide_eq_true (List.all_eq_true.1 h c hc)

/-- A code point of ASCII has one of ASCII for its lower case, and brackets have none. -/
theorem isPlain_lower {c : CodePoint} (hascii : c.val < 0x80) (hbracket : c ≠ '(') :
    IsPlain c.lower := by
  intro d hd
  rw [CodePoint.lower, if_pos hascii, List.mem_singleton, CodePoint.lowerAscii] at hd
  split at hd
  · next hupper =>
    have hrange : 0x41 ≤ c.val ∧ c.val ≤ 0x5A := by
      simpa [CodePoint.isUpper] using hupper
    have hval : d.val = c.val + 32 := by
      rw [hd, CodePoint.ofNat, dif_pos (by omega)]
    refine ⟨by omega, ?_⟩
    rintro rfl
    have hopen : c.val + 32 = 0x28 := hval.symm
    omega
  · exact hd ▸ ⟨hascii, hbracket⟩

theorem IsPlain.lowerFrom (h : IsPlain t) (cased : Bool) : IsPlain (t.lowerFrom cased) := by
  induction t generalizing cased with
  | nil => exact List.forall_mem_nil _
  | cons c t ih =>
    obtain ⟨⟨hascii, hbracket⟩, ht⟩ := List.forall_mem_cons.1 h
    have hsigma : c ≠ '\u03a3' := by
      rintro rfl
      exact absurd hascii (by decide)
    rw [Text.lowerFrom, if_neg (by simp [hsigma])]
    exact List.forall_mem_append.2 ⟨isPlain_lower hascii hbracket, ih ht _⟩

theorem IsPlain.lower (h : IsPlain t) : IsPlain t.lower := h.lowerFrom false

theorem IsPlain.trim (h : IsPlain t) : IsPlain t.trim :=
  Text.forall_mem_trimEnd fun c hc => h c ((List.dropWhile_suffix _).subset hc)

theorem IsPlain.wordsOf (h : IsPlain t) : ∀ w ∈ wordsOf t, IsPlain w := fun w hw =>
  Text.forall_mem_splitWhere _ h w (List.mem_filter.1 hw).1

/-- A word that another one begins with stands in it. -/
theorem subset_of_after? {rest : Text} (h : t.after? w = some rest) : w ⊆ t := by
  fun_induction Text.after? t w with
  | case1 => exact List.nil_subset _
  | case2 => cases h
  | case3 c t w ih =>
    exact List.cons_subset.2 ⟨List.mem_cons_self, fun d hd => List.mem_cons_of_mem _ (ih h hd)⟩
  | case4 => cases h

theorem IsPlain.inBrackets? (h : IsPlain t) (word : Text) : inBrackets? word t = none := by
  rw [Style.inBrackets?]
  split
  · next rest hrest =>
    have hopen := subset_of_after? hrest (List.mem_append_right _ List.mem_cons_self)
    exact absurd rfl (h _ hopen).2
  · rfl

/-! ### What is read of them -/

/-- There is no bad component, and what is answered has a property. -/
def Spares {α : Type} (x : Except Fault α) (P : α → Prop) : Prop :=
  x ≠ .error .badComponent ∧ ∀ a, x = .ok a → P a

theorem spares_ok {α : Type} {P : α → Prop} {a : α} (h : P a) : Spares (.ok a) P :=
  ⟨nofun, fun _ hb => Except.ok.inj hb ▸ h⟩

theorem spares_unknown {α : Type} {P : α → Prop} : Spares (.error .unknown : Except Fault α) P :=
  ⟨nofun, nofun⟩

theorem Spares.bind {α β : Type} {x : Except Fault α} {f : α → Except Fault β} {P : α → Prop}
    {Q : β → Prop} (hx : Spares x P) (hf : ∀ a, P a → Spares (f a) Q) : Spares (x >>= f) Q := by
  cases x with
  | error e => exact ⟨fun h => hx.1 (congrArg _ (Except.error.inj h)), nofun⟩
  | ok a => exact hf a (hx.2 a rfl)

/-- A colour without brackets has no components. -/
theorem spares_colourOf (h : IsPlain w) : Spares (colourOf w) IsPlain := by
  unfold colourOf
  dsimp only
  have hlower := h.lower
  split
  · exact spares_ok hlower
  · split
    · exact spares_unknown
    · rw [hlower.inBrackets?, hlower.inBrackets?]
      split
      · split
        · exact spares_ok hlower
        · exact spares_unknown
      · exact spares_unknown

/-- The colours and the link of a style are plain. -/
structure HasPlainParts (s : Style) : Prop where
  foreground : ∀ t ∈ s.foreground, IsPlain t
  background : ∀ t ∈ s.background, IsPlain t
  link : ∀ t ∈ s.link, IsPlain t

theorem spares_read {s : Style} {ws : List Text} (hws : ∀ w ∈ ws, IsPlain w)
    (hs : s.HasPlainParts) : Spares (read s ws) HasPlainParts := by
  have hword {w : Text} {ws : List Text} (h : ∀ v ∈ w :: ws, IsPlain v) :
      IsPlain w ∧ ∀ v ∈ ws, IsPlain v := List.forall_mem_cons.1 h
  have hsome {c : Text} (hc : IsPlain c) : ∀ t ∈ some c, IsPlain t :=
    fun t ht => Option.mem_some.1 ht ▸ hc
  fun_induction read s ws
  case case1 => exact spares_ok hs
  -- a background, and what is off
  case case3 ih =>
    obtain ⟨hcolour, hrest⟩ := hword (hword hws).2
    exact (spares_colourOf hcolour).bind fun c hc =>
      ih c hrest ⟨hs.foreground, hsome hc, hs.link⟩
  case case5 ih => exact ih (hword (hword hws).2).2 ⟨hs.foreground, hs.background, hs.link⟩
  -- a link, an attribute and a colour
  case case8 ih =>
    obtain ⟨hlink, hrest⟩ := hword (hword hws).2
    exact ih hrest ⟨hs.foreground, hs.background, hsome hlink⟩
  case case9 ih => exact ih (hword hws).2 ⟨hs.foreground, hs.background, hs.link⟩
  case case10 ih =>
    obtain ⟨hcolour, hrest⟩ := hword hws
    exact (spares_colourOf hcolour.lower).bind fun c hc =>
      ih c hrest ⟨hsome hc, hs.background, hs.link⟩
  all_goals exact spares_unknown

/-! ### Normal forms -/

theorem isPlain_of_mem_attributeNames {a : Text} (ha : a ∈ attributeNames) : IsPlain a := by
  have hall : attributeNames.all (fun a => a.all fun c => c.val < 0x80 ∧ c ≠ '(') = true := by
    decide +kernel
  exact isPlain_of_all (List.all_eq_true.1 hall a ha)

/-- The words of a style are those of its parts, beside a few that have no brackets. -/
theorem HasPlainParts.words {s : Style} (hs : s.HasPlainParts) : ∀ w ∈ s.words, IsPlain w := by
  have hafter {word : Text} (hword : IsPlain word) {t : Option Text} (ht : ∀ u ∈ t, IsPlain u) :
      ∀ w ∈ t.elim [] fun u => [word, u], IsPlain w := by
    cases t with
    | none => exact List.forall_mem_nil _
    | some u => exact List.forall_mem_cons.2 ⟨hword, List.forall_mem_singleton.2 (ht u rfl)⟩
  have hnot : IsPlain "not" := isPlain_of_all (by decide)
  have hon : IsPlain "on" := isPlain_of_all (by decide)
  have hlink : IsPlain "link" := isPlain_of_all (by decide)
  simp only [Style.words, List.forall_mem_append]
  refine ⟨⟨⟨fun w hw => ?_, fun w hw => hs.foreground w (Option.mem_toList.1 hw)⟩,
    hafter hon hs.background⟩, hafter hlink hs.link⟩
  obtain ⟨a, ha, hw⟩ := List.mem_flatMap.1 hw
  have ha := isPlain_of_mem_attributeNames ha
  split at hw
  · exact List.mem_singleton.1 hw ▸ ha
  · exact List.forall_mem_cons.2 ⟨hnot, List.forall_mem_singleton.2 ha⟩ w hw
  · cases hw

theorem HasPlainParts.text {s : Style} (hs : s.HasPlainParts) : IsPlain s.text := by
  rw [Style.text]
  split
  · exact isPlain_of_all (by decide)
  · exact Text.forall_mem_join (isPlain_of_all (by decide)) hs.words

/-- **A name without brackets has a normal form,** which has none either. -/
theorem exists_normalForm {name : Text} (h : IsPlain name) :
    ∃ n, normalForm name = .ok n ∧ IsPlain n := by
  have hread := spares_read h.wordsOf (s := {}) ⟨nofun, nofun, nofun⟩
  rw [normalForm]
  split
  · exact ⟨_, rfl, isPlain_of_all (by decide)⟩
  · cases hs : read {} (wordsOf name) with
    | ok s => exact ⟨_, rfl, (hread.2 s hs).text⟩
    | error f =>
      cases f with
      | unknown => exact ⟨_, rfl, h.trim.lower⟩
      | badComponent => exact absurd hs hread.1

end Style

namespace Markup

/-! ### Styles of lines -/

variable {lines : List Styled}

theorem normalForm_of_plain {name : Text} (h : Style.IsPlain name) :
    ∃ n, normalForm name = .ok n ∧ Style.IsPlain n := by
  obtain ⟨n, hn, hplain⟩ := Style.exists_normalForm h
  exact ⟨n, by rw [normalForm, hn], hplain⟩

theorem hasBadColour_of_plain {style : Text} (h : Style.IsPlain style) :
    hasBadColour style = false := by
  obtain ⟨n, hn, -⟩ := normalForm_of_plain h
  rw [hasBadColour, hn]
  rfl

/-- No span of a text has a bad colour. -/
def HasGoodColours (s : Styled) : Prop := s.StylesAre (hasBadColour · = false)

theorem hasGoodColours_of_spans {s : Styled} (h : s.spans = []) : HasGoodColours s :=
  fun _ hp => nomatch h ▸ hp

/-- **Lines are refused exactly if a bad colour is left in them.** -/
theorem checkStyles_eq_ok_iff : checkStyles lines = .ok () ↔ ∀ l ∈ lines, HasGoodColours l := by
  have hfind : (lines.flatMap Styled.spans).find? (fun p => hasBadColour p.style) = none ↔
      ∀ l ∈ lines, HasGoodColours l := by
    simp only [List.find?_eq_none, List.mem_flatMap, HasGoodColours, Styled.StylesAre,
      Bool.not_eq_true, forall_exists_index, and_imp]
    exact ⟨fun h l hl p hp => h p l hl hp, fun h p l hl hp => h l hl p hp⟩
  rw [← hfind, checkStyles]
  split
  · next p hp => simp [hp]
  · next hp => simp [hp]

/-- What is told of lines that are refused. -/
theorem checkStyles_error {f : Fault} (h : checkStyles lines = .error f) :
    ∃ style, f = .badColour style ∧ hasBadColour style = true := by
  rw [checkStyles] at h
  split at h
  · next p hp =>
    obtain rfl := Except.error.inj h
    have hbad := List.find?_some hp
    exact ⟨p.style, rfl, hbad⟩
  · cases h

end Markup

end JsonShape
