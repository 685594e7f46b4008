import Mathlib.Data.List.Chain
import Mathlib.Data.List.DropRight
import JsonShape.Proofs.Naming

/-!
# The language of names

Sanitizing a key leaves letters, digits and underscores, with no underscore at an end and none
before a small letter (`IsPlain`); a name starts with a capital or a digit beside (`IsName`).  Both
are exactly what their function keeps as it is (`sanitize_eq_self_iff`, `ofKey_eq_self_iff`), so
each function is a projection onto its language.  Nothing but underscores and the case of letters is
lost of the letters and digits of a key (`signs_ofKey`).

The three passes are followed one by one: cutting underscores takes none from inside, and where an
underscore is merged with the letter behind it, a capital stands, which cannot be merged again.
-/

namespace JsonShape.Name

/-! ### The languages -/

/-- Letters, digits and underscores, with no underscore at an end or before a small letter. -/
structure IsPlain (t : Text) : Prop where
  kept : ∀ c ∈ t, isKept c = true
  head : ∀ c ∈ t.head?, c ≠ ('_' : CodePoint)
  last : ∀ c ∈ t.getLast?, c ≠ ('_' : CodePoint)
  inside : ∀ (a b : Text) (c : CodePoint), t = a ++ ('_' : CodePoint) :: c :: b → c.isLower = false

/-- A plain text that starts with a capital or a digit, or is empty. -/
structure IsName (t : Text) : Prop extends IsPlain t where
  start : ∀ c ∈ t.head?, c.isUpper = true ∨ c.isDigit = true

/-- A letter or a digit. -/
def isSign (c : CodePoint) : Bool := c.isLetter || c.isDigit

/-- The letters and digits of a text, without case. -/
def signs (t : Text) : Text := (t.filter isSign).map CodePoint.lowerAscii

/-! ### Characters -/

theorem isUnderscore_iff {c : CodePoint} : isUnderscore c = true ↔ c = ('_' : CodePoint) :=
  decide_eq_true_iff

theorem upperAscii_of_not_isLower {c : CodePoint} (h : c.isLower = false) : c.upperAscii = c := by
  rw [CodePoint.upperAscii, if_neg (by simp [h])]

theorem val_upperAscii {c : CodePoint} (h : c.isLower = true) : c.upperAscii.val = c.val - 32 := by
  rw [CodePoint.upperAscii, if_pos h, CodePoint.ofNat, dif_pos (by omega)]

theorem isUpper_upperAscii {c : CodePoint} (h : c.isLower = true) :
    c.upperAscii.isUpper = true := by
  have hval := val_upperAscii h
  simp only [CodePoint.isLower, CodePoint.isUpper, Bool.and_eq_true, decide_eq_true_eq] at h ⊢
  omega

theorem ne_underscore_of_isUpper {c : CodePoint} (h : c.isUpper = true) :
    c ≠ ('_' : CodePoint) := by
  rintro rfl
  cases h

theorem upperAscii_ne_underscore {c : CodePoint} (h : c ≠ ('_' : CodePoint)) :
    c.upperAscii ≠ ('_' : CodePoint) := by
  cases hlower : c.isLower with
  | false => rwa [upperAscii_of_not_isLower hlower]
  | true => exact ne_underscore_of_isUpper (isUpper_upperAscii hlower)

/-- A capital is the small letter again without case. -/
theorem lowerAscii_upperAscii {c : CodePoint} (h : c.isLower = true) :
    c.upperAscii.lowerAscii = c.lowerAscii := by
  have hupper := isUpper_upperAscii h
  have hval := val_upperAscii h
  simp only [CodePoint.isLower, Bool.and_eq_true, decide_eq_true_eq] at h
  have hself : c.lowerAscii = c := by
    rw [CodePoint.lowerAscii, if_neg]
    simp only [CodePoint.isUpper, Bool.and_eq_true, decide_eq_true_eq]
    omega
  rw [hself, CodePoint.lowerAscii, if_pos hupper]
  refine Fin.ext ?_
  rw [CodePoint.ofNat, dif_pos (by omega)]
  show c.upperAscii.val + 32 = c.val
  omega

theorem isSign_upperAscii {c : CodePoint} (h : c.isLower = true) : isSign c.upperAscii = true := by
  simp [isSign, CodePoint.isLetter, isUpper_upperAscii h]

/-- A kept character that is no small letter and no underscore may start a name. -/
theorem starts_of_isKept {c : CodePoint} (hkept : isKept c = true) (hlower : c.isLower = false)
    (hne : c ≠ ('_' : CodePoint)) : c.isUpper = true ∨ c.isDigit = true := by
  simpa [isKept, CodePoint.isLetter, hlower, hne] using hkept

/-! ### Signs -/

@[simp] theorem signs_nil : signs [] = [] := rfl

theorem signs_cons_of_isSign {c : CodePoint} (t : Text) (h : isSign c = true) :
    signs (c :: t) = c.lowerAscii :: signs t := by
  rw [signs, List.filter_cons_of_pos h, List.map_cons, signs]

theorem signs_cons_underscore (t : Text) : signs ('_' :: t) = signs t := by
  rw [signs, List.filter_cons_of_neg (by decide), signs]

theorem signs_append (t u : Text) : signs (t ++ u) = signs t ++ signs u := by
  rw [signs, List.filter_append, List.map_append, signs, signs]

/-- A character counts for the signs by what it is without case. -/
theorem signs_cons (c : CodePoint) (t : Text) : signs (c :: t) = signs [c] ++ signs t := by
  rw [← signs_append, List.singleton_append]

theorem signs_reverse (t : Text) : signs t.reverse = (signs t).reverse := by
  rw [signs, List.filter_reverse, List.map_reverse, signs]

theorem signs_upperAscii (c : CodePoint) : signs [c.upperAscii] = signs [c] := by
  cases h : c.isLower with
  | false => rw [upperAscii_of_not_isLower h]
  | true =>
    have hc : isSign c = true := by simp [isSign, CodePoint.isLetter, h]
    rw [signs_cons_of_isSign _ (isSign_upperAscii h), signs_cons_of_isSign _ hc,
      lowerAscii_upperAscii h]

/-- Nothing that is dropped is a sign. -/
theorem signs_filter_isKept (t : Text) : signs (t.filter isKept) = signs t := by
  have hsub : ∀ c : CodePoint, (isSign c && isKept c) = isSign c := by
    intro c
    simp only [isSign, isKept]
    cases c.isLetter <;> cases c.isDigit <;> rfl
  simp only [signs, List.filter_filter, hsub]

theorem signs_dropWhile (t : Text) : signs (t.dropWhile isUnderscore) = signs t := by
  induction t with
  | nil => rfl
  | cons c t ih =>
    by_cases hc : isUnderscore c = true
    · rw [List.dropWhile_cons_of_pos hc, ih, isUnderscore_iff.1 hc, signs_cons_underscore]
    · rw [List.dropWhile_cons_of_neg hc]

theorem signs_strip (t : Text) : signs (strip t) = signs t := by
  rw [strip, signs_reverse, signs_dropWhile, signs_reverse, List.reverse_reverse, signs_dropWhile]

theorem signs_camel (t : Text) : signs (camel t) = signs t := by
  fun_induction camel t with
  | case1 | case2 => rfl
  | case3 c d rest hcd ih =>
    rw [Bool.and_eq_true, isUnderscore_iff] at hcd
    rw [signs_cons, signs_upperAscii, ih, ← signs_cons, hcd.1, signs_cons_underscore]
  | case4 c d rest hcd ih => rw [signs_cons, ih, ← signs_cons]

/-! ### Cutting underscores -/

theorem strip_eq_rdropWhile (t : Text) :
    strip t = (t.dropWhile isUnderscore).rdropWhile isUnderscore := rfl

/-- What starts without underscore is kept in front. -/
theorem head?_rdropWhile {t : Text} {c : CodePoint}
    (hc : c ∈ (t.rdropWhile isUnderscore).head?) : c ∈ t.head? := by
  obtain ⟨u, hu⟩ := List.rdropWhile_prefix isUnderscore (l := t)
  rw [← hu, List.head?_append, hc]
  rfl

theorem head_strip (t : Text) : ∀ c ∈ (strip t).head?, c ≠ ('_' : CodePoint) := by
  intro c hc
  have hne := List.head?_dropWhile_not isUnderscore t
  rw [strip_eq_rdropWhile] at hc
  rw [Option.mem_def.1 (head?_rdropWhile hc)] at hne
  rintro rfl
  cases hne

theorem last_strip (t : Text) : ∀ c ∈ (strip t).getLast?, c ≠ ('_' : CodePoint) := by
  intro c hc
  have hne := List.head?_dropWhile_not isUnderscore (t.dropWhile isUnderscore).reverse
  rw [strip, List.getLast?_reverse] at hc
  rw [Option.mem_def.1 hc] at hne
  rintro rfl
  cases hne

theorem strip_eq_self {t : Text} (hhead : ∀ c ∈ t.head?, c ≠ ('_' : CodePoint))
    (hlast : ∀ c ∈ t.getLast?, c ≠ ('_' : CodePoint)) : strip t = t := by
  have hdrop : ∀ u : Text, (∀ c ∈ u.head?, c ≠ ('_' : CodePoint)) →
      u.dropWhile isUnderscore = u := by
    intro u hu
    cases u with
    | nil => rfl
    | cons c u =>
      rw [List.dropWhile_cons_of_neg]
      exact fun hc => hu c rfl (isUnderscore_iff.1 hc)
  rw [strip, hdrop t hhead, hdrop t.reverse (by rwa [List.head?_reverse]), List.reverse_reverse]

/-! ### Merging underscores -/

/-- The two characters may stand side by side in a name. -/
def Neighbours (c d : CodePoint) : Prop := c = ('_' : CodePoint) → d.isLower = false

theorem isChain_iff {t : Text} : t.IsChain Neighbours ↔
    ∀ (a b : Text) (c : CodePoint), t = a ++ ('_' : CodePoint) :: c :: b → c.isLower = false := by
  rw [List.isChain_iff_forall_rel_of_append_cons_cons]
  refine ⟨fun h a b c ht => h ht rfl, fun h c d a b ht hc => ?_⟩
  rw [hc] at ht
  exact h a b d ht

/-- The first character stays, or becomes a capital with the underscore before it. -/
theorem head_camel {c : CodePoint} {t : Text} : ∀ x ∈ (camel (c :: t)).head?,
    x = c ∨ x.isLower = false ∧ c = ('_' : CodePoint) := by
  intro x hx
  cases t with
  | nil => exact Or.inl (Option.some.inj hx).symm
  | cons d t =>
    rw [camel] at hx
    split at hx
    · next hcd =>
      rw [Bool.and_eq_true, isUnderscore_iff] at hcd
      rw [← Option.some.inj hx]
      exact Or.inr ⟨isLower_upperAscii d, hcd.1⟩
    · exact Or.inl (Option.some.inj hx).symm

theorem isChain_camel (t : Text) : (camel t).IsChain Neighbours := by
  fun_induction camel t with
  | case1 => exact .nil
  | case2 c => exact .singleton c
  | case3 c d rest hcd ih =>
    rw [Bool.and_eq_true] at hcd
    refine List.isChain_cons.2 ⟨fun x _ hd => ?_, ih⟩
    exact absurd hd (ne_underscore_of_isUpper (isUpper_upperAscii hcd.2))
  | case4 c d rest hcd ih =>
    refine List.isChain_cons.2 ⟨fun x hx hc => ?_, ih⟩
    rcases head_camel x hx with rfl | ⟨hx, -⟩
    · simpa [isUnderscore_iff.2 hc] using hcd
    · exact hx

theorem camel_eq_self {t : Text} (h : t.IsChain Neighbours) : camel t = t := by
  fun_induction camel t with
  | case1 | case2 => rfl
  | case3 c d rest hcd _ =>
    rw [Bool.and_eq_true, isUnderscore_iff] at hcd
    have hd := (List.isChain_cons_cons.1 h).1 hcd.1
    rw [hcd.2] at hd
    cases hd
  | case4 c d rest hcd ih => rw [ih (List.isChain_cons_cons.1 h).2]

/-- The last character stays, or becomes a capital. -/
theorem last_camel {t : Text} : ∀ x ∈ (camel t).getLast?, x ∈ t.getLast? ∨ x.isUpper = true := by
  fun_induction camel t with
  | case1 => exact fun x hx => Or.inl hx
  | case2 c => exact fun x hx => Or.inl hx
  | case3 c d rest hcd ih =>
    rw [Bool.and_eq_true] at hcd
    intro x hx
    rw [List.getLast?_cons, Option.mem_some_iff] at hx
    cases hlast : (camel rest).getLast? with
    | none =>
      rw [hlast, Option.getD_none] at hx
      exact Or.inr (hx ▸ isUpper_upperAscii hcd.2)
    | some y =>
      rw [hlast, Option.getD_some] at hx
      rcases ih x (hx ▸ hlast) with h | h
      · refine Or.inl ?_
        rw [List.getLast?_cons, List.getLast?_cons, Option.mem_def.1 h]
        rfl
      · exact Or.inr h
  | case4 c d rest hcd ih =>
    intro x hx
    rw [List.getLast?_cons, Option.mem_some_iff] at hx
    have hne : camel (d :: rest) ≠ [] := by
      cases rest with
      | nil => simp [camel]
      | cons e rest =>
        rw [camel]
        split <;> simp
    obtain ⟨y, hlast⟩ := Option.ne_none_iff_exists'.1 (mt List.getLast?_eq_none_iff.1 hne)
    rw [hlast, Option.getD_some] at hx
    rcases ih x (hx ▸ hlast) with h | h
    · refine Or.inl ?_
      rw [List.getLast?_cons, Option.mem_def.1 h]
      rfl
    · exact Or.inr h

/-! ### Sanitized keys -/

theorem isPlain_camel {t : Text} (hkept : t.all isKept = true)
    (hhead : ∀ c ∈ t.head?, c ≠ ('_' : CodePoint))
    (hlast : ∀ c ∈ t.getLast?, c ≠ ('_' : CodePoint)) : IsPlain (camel t) where
  kept := List.all_eq_true.1 (all_isKept_camel hkept)
  head := by
    intro x hx
    cases t with
    | nil => cases hx
    | cons c t =>
      have hc := hhead c rfl
      rcases head_camel x hx with rfl | ⟨-, h⟩
      · exact hc
      · exact absurd h hc
  last := by
    intro x hx
    rcases last_camel x hx with h | h
    · exact hlast x h
    · exact ne_underscore_of_isUpper h
  inside := isChain_iff.1 (isChain_camel t)

theorem isPlain_sanitize (key : Text) : IsPlain (sanitize key) :=
  isPlain_camel (all_isKept_strip (by simp [List.all_filter])) (head_strip _) (last_strip _)

theorem sanitize_of_isPlain {t : Text} (h : IsPlain t) : sanitize t = t := by
  rw [sanitize, List.filter_eq_self.2 h.kept, strip_eq_self h.head h.last,
    camel_eq_self (isChain_iff.2 h.inside)]

/-- **What sanitizing keeps as it is.** -/
theorem sanitize_eq_self_iff {t : Text} : sanitize t = t ↔ IsPlain t :=
  ⟨fun h => h ▸ isPlain_sanitize t, sanitize_of_isPlain⟩

theorem signs_sanitize (key : Text) : signs (sanitize key) = signs key := by
  rw [sanitize, signs_camel, signs_strip, signs_filter_isKept]

/-! ### Names -/

theorem capitalize_cons {c : CodePoint} (t : Text) (h : isKept c = true) :
    capitalize (c :: t) = c.upperAscii :: t := by
  rw [capitalize, upper_of_isKept h, List.singleton_append]

theorem signs_capitalize {t : Text} (h : t.all isKept = true) : signs (capitalize t) = signs t := by
  cases t with
  | nil => rfl
  | cons c t =>
    rw [List.all_cons, Bool.and_eq_true] at h
    rw [capitalize_cons t h.1, signs_cons, signs_upperAscii, ← signs_cons]

/-- The first character may as well be any other that is kept and no underscore. -/
theorem IsPlain.cons {c d : CodePoint} {t : Text} (h : IsPlain (c :: t)) (hkept : isKept d = true)
    (hne : d ≠ ('_' : CodePoint)) : IsPlain (d :: t) where
  kept x hx := by
    rcases List.mem_cons.1 hx with rfl | hx
    · exact hkept
    · exact h.kept x (List.mem_cons_of_mem _ hx)
  head x hx := by rwa [← Option.some.inj hx]
  last x hx := by
    have hlast := h.last
    rw [List.getLast?_cons] at hx hlast
    cases ht : t.getLast? with
    | none =>
      rw [ht] at hx
      rwa [← Option.some.inj hx]
    | some y =>
      rw [ht] at hx hlast
      exact hlast x hx
  inside := by
    have hchain : (c :: t).IsChain Neighbours := isChain_iff.2 h.inside
    refine isChain_iff.1 (List.isChain_cons.2 ⟨fun x _ hx => absurd hx hne, ?_⟩)
    exact (List.isChain_cons.1 hchain).2

theorem isName_capitalize {t : Text} (h : IsPlain t) : IsName (capitalize t) := by
  cases t with
  | nil => exact { h with start := nofun }
  | cons c t =>
    have hc : isKept c = true := h.kept c List.mem_cons_self
    have hkept := isKept_upperAscii hc
    have hne := upperAscii_ne_underscore (h.head c rfl)
    rw [capitalize_cons t hc]
    refine { h.cons hkept hne with start := fun x hx => ?_ }
    rw [← Option.some.inj hx]
    exact starts_of_isKept hkept (isLower_upperAscii c) hne

theorem isName_ofKey (key : Text) : IsName (ofKey key) := isName_capitalize (isPlain_sanitize key)

theorem ofKey_of_isName {t : Text} (h : IsName t) : ofKey t = t := by
  rw [ofKey, sanitize_of_isPlain h.toIsPlain]
  cases t with
  | nil => rfl
  | cons c t =>
    have hlower : c.isLower = false := by
      have hc := h.start c rfl
      simp only [CodePoint.isUpper, CodePoint.isDigit, CodePoint.isLower, Bool.and_eq_true,
        Bool.and_eq_false_iff, decide_eq_true_eq, decide_eq_false_iff_not] at hc ⊢
      omega
    rw [capitalize_cons t (h.kept c List.mem_cons_self), upperAscii_of_not_isLower hlower]

/-- **The names are what is kept as it is.** -/
theorem ofKey_eq_self_iff {t : Text} : ofKey t = t ↔ IsName t :=
  ⟨fun h => h ▸ isName_ofKey t, ofKey_of_isName⟩

example : ofKey "__a_-_b1_c" = "A_B1C" := by decide

theorem signs_ofKey (key : Text) : signs (ofKey key) = signs key := by
  rw [ofKey, signs_capitalize (all_isKept_sanitize key), signs_sanitize]

/-! ### Projections -/

/-- The function keeps exactly the texts of a language, and makes a text of the language of any
other, with the same letters and digits but for their case. -/
structure Projects (f : Text → Text) (language : Text → Prop) : Prop where
  lands : ∀ t, language (f t)
  fixed_iff : ∀ t, f t = t ↔ language t
  idempotent : ∀ t, f (f t) = f t
  image_iff : ∀ t, (∃ key, f key = t) ↔ language t
  signs_eq : ∀ t, signs (f t) = signs t

theorem Projects.of_fixed {f : Text → Text} {language : Text → Prop}
    (hlands : ∀ t, language (f t)) (hfixed : ∀ t, f t = t ↔ language t)
    (hsigns : ∀ t, signs (f t) = signs t) : Projects f language where
  lands := hlands
  fixed_iff := hfixed
  idempotent t := (hfixed (f t)).2 (hlands t)
  image_iff t := ⟨fun ⟨key, hkey⟩ => hkey ▸ hlands key, fun h => ⟨t, (hfixed t).2 h⟩⟩
  signs_eq := hsigns

/-- **Names are a projection of keys onto their language, and so are sanitized keys.** -/
theorem ofKey_projects : Projects ofKey IsName ∧ Projects sanitize IsPlain :=
  ⟨.of_fixed isName_ofKey (fun _ => ofKey_eq_self_iff) signs_ofKey,
    .of_fixed isPlain_sanitize (fun _ => sanitize_eq_self_iff) signs_sanitize⟩

end JsonShape.Name
