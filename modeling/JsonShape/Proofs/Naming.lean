import JsonShape.Naming

/-!
# What is left of a key

Every step from a key to a name keeps to ASCII letters, digits and underscores (`all_isKept_ofKey`).
So a name can be written as an identifier unless nothing is left of its key or a digit comes first
(`isIdentifier_of_kept`).  The first letter is a capital (`isLower_head_ofKey`), so no name is one
of the words for a kind of values.
-/

namespace JsonShape

namespace Name

theorem isKept_upperAscii {c : CodePoint} (h : isKept c = true) : isKept c.upperAscii = true := by
  unfold CodePoint.upperAscii
  split
  · next hlower =>
    simp only [CodePoint.isLower, Bool.and_eq_true, decide_eq_true_eq] at hlower
    have hval : (CodePoint.ofNat (c.val - 32)).val = c.val - 32 := by
      rw [CodePoint.ofNat, dif_pos (by omega)]
    have hupper : (CodePoint.ofNat (c.val - 32)).isUpper = true := by
      simp only [CodePoint.isUpper, hval, Bool.and_eq_true, decide_eq_true_eq]
      omega
    simp [isKept, CodePoint.isLetter, hupper]
  · exact h

/-- A kept code point is an ASCII one. -/
theorem val_lt_of_isKept {c : CodePoint} (h : isKept c = true) : c.val < 0x80 := by
  simp only [isKept, CodePoint.isLetter, CodePoint.isLower, CodePoint.isUpper, CodePoint.isDigit,
    Bool.or_eq_true, Bool.and_eq_true, decide_eq_true_eq] at h
  rcases h with ((h | h) | h) | rfl
  · omega
  · omega
  · omega
  · decide

theorem upper_of_isKept {c : CodePoint} (h : isKept c = true) : c.upper = [c.upperAscii] := by
  rw [CodePoint.upper, if_pos (val_lt_of_isKept h)]

theorem all_isKept_strip {t : Text} (h : t.all isKept = true) : (strip t).all isKept = true := by
  rw [List.all_eq_true] at h ⊢
  intro c hc
  rw [strip, List.mem_reverse] at hc
  have hc := List.mem_reverse.1 ((List.dropWhile_suffix _).subset hc)
  exact h c ((List.dropWhile_suffix _).subset hc)

theorem all_isKept_camel {t : Text} (h : t.all isKept = true) : (camel t).all isKept = true := by
  fun_induction camel t with
  | case1 => rfl
  | case2 c => exact h
  | case3 c d rest hcd ih =>
    simp only [List.all_cons, Bool.and_eq_true] at h ⊢
    exact ⟨isKept_upperAscii h.2.1, ih h.2.2⟩
  | case4 c d rest hcd ih =>
    rw [List.all_cons, Bool.and_eq_true] at h ⊢
    exact ⟨h.1, ih h.2⟩

theorem all_isKept_sanitize (key : Text) : (sanitize key).all isKept = true := by
  refine all_isKept_camel (all_isKept_strip ?_)
  simp [List.all_filter]

theorem all_isKept_capitalize {t : Text} (h : t.all isKept = true) :
    (capitalize t).all isKept = true := by
  cases t with
  | nil => rfl
  | cons c t =>
    rw [List.all_cons, Bool.and_eq_true] at h
    rw [capitalize, upper_of_isKept h.1, List.singleton_append, List.all_cons,
      isKept_upperAscii h.1, h.2]
    rfl

/-- A name has nothing but letters, digits and underscores. -/
theorem all_isKept_ofKey (key : Text) : (ofKey key).all isKept = true :=
  all_isKept_capitalize (all_isKept_sanitize key)

theorem all_isKept_ofItems (key : Text) : (ofItems key).all isKept = true := by
  rw [ofItems, List.all_append, all_isKept_ofKey]
  rfl

theorem isLower_upperAscii (c : CodePoint) : c.upperAscii.isLower = false := by
  unfold CodePoint.upperAscii
  split
  · next hlower =>
    simp only [CodePoint.isLower, Bool.and_eq_true, decide_eq_true_eq] at hlower
    rw [CodePoint.ofNat, dif_pos (by omega)]
    simp only [CodePoint.isLower, Bool.and_eq_false_iff, decide_eq_false_iff_not]
    omega
  · next hlower => exact Bool.eq_false_iff.2 hlower

/-- **No name starts with a small letter.** -/
theorem isLower_head_ofKey (key : Text) : ∀ c ∈ (ofKey key).head?, c.isLower = false := by
  intro c hc
  rw [ofKey] at hc
  have hkept := all_isKept_sanitize key
  cases hs : sanitize key with
  | nil =>
    rw [hs] at hc
    cases hc
  | cons d t =>
    rw [hs, List.all_cons, Bool.and_eq_true] at hkept
    rw [hs, capitalize, upper_of_isKept hkept.1] at hc
    cases hc
    exact isLower_upperAscii d

theorem isLower_head_ofItems (key : Text) : ∀ c ∈ (ofItems key).head?, c.isLower = false := by
  intro c hc
  rw [ofItems, List.head?_append, Option.mem_def, Option.or_eq_some_iff] at hc
  rcases hc with hc | ⟨-, hc⟩
  · exact isLower_head_ofKey key c hc
  · cases hc
    rfl

end Name

namespace Key

theorem isIdentifierPart_of_isKept {c : CodePoint} (h : Name.isKept c = true) :
    isIdentifierPart c = true := by
  simp only [Name.isKept, isIdentifierPart, isIdentifierStart, Bool.or_eq_true] at h ⊢
  rcases h with (h | h) | h
  · exact Or.inl (Or.inl (Or.inl h))
  · exact Or.inr h
  · exact Or.inl (Or.inl (Or.inr h))

/-- Only a digit in front, or nothing at all, keeps a name from being an identifier. -/
theorem isIdentifier_of_kept {t : Text} (h : t.all Name.isKept = true) (hne : t ≠ [])
    (hd : ∀ c ∈ t.head?, c.isDigit = false) : isIdentifier t = true := by
  cases t with
  | nil => exact absurd rfl hne
  | cons c t =>
    have hc := hd c rfl
    rw [List.all_cons, Bool.and_eq_true, List.all_eq_true] at h
    rw [isIdentifier, Bool.and_eq_true, List.all_eq_true]
    refine ⟨?_, fun d hd => isIdentifierPart_of_isKept (h.2 d hd)⟩
    have hkept := h.1
    simp only [Name.isKept, hc, Bool.or_false] at hkept
    rw [isIdentifierStart, hkept, Bool.true_or]

theorem all_isIdentifierPart {t : Text} (h : isIdentifier t = true) :
    t.all isIdentifierPart = true := by
  cases t with
  | nil => cases h
  | cons c t =>
    rw [isIdentifier, Bool.and_eq_true] at h
    rw [List.all_cons, isIdentifierPart, h.1, h.2]
    rfl

theorem isIdentifier_append {t u : Text} (ht : isIdentifier t = true)
    (hu : u.all isIdentifierPart = true) : isIdentifier (t ++ u) = true := by
  cases t with
  | nil => cases ht
  | cons c t =>
    rw [isIdentifier, Bool.and_eq_true] at ht
    rw [List.cons_append, isIdentifier, List.all_append, ht.1, ht.2, hu]
    rfl

end Key

end JsonShape
