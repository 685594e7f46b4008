import JsonShape.Text.Utf8

/-!
# What becomes of a text in a file

A text has bytes exactly if it has no surrogate (`encode_eq_none_iff`), and the bytes give the text
again (`decode_encode`).  Reading a file unifies line ends, which changes nothing where there are no
carriage returns; and what is read has no surrogate (`hasSurrogate_of_decode`).
-/

namespace JsonShape

theorem CodePoint.ofNat_eq {c : CodePoint} {n : Nat} (h : n = c.val) : ofNat n = c := by
  subst h
  exact dif_pos c.isLt

namespace Utf8

/-! ### From texts to bytes -/

theorem encodePoint_eq_none_iff {c : CodePoint} : encodePoint c = none ↔ c.isSurrogate = true := by
  simp only [encodePoint, CodePoint.isSurrogate, Bool.and_eq_true, decide_eq_true_eq]
  repeat' split
  all_goals simp only [reduceCtorEq, false_iff, true_iff]
  all_goals omega

/-- A surrogate, and nothing else, keeps a text from having bytes. -/
theorem encode_eq_none_iff {t : Text} : encode t = none ↔ t.hasSurrogate = true := by
  induction t with
  | nil => simp [encode, Text.hasSurrogate]
  | cons c t ih =>
    rw [Text.hasSurrogate, List.any_cons, ← Text.hasSurrogate, Bool.or_eq_true, ← ih,
      ← encodePoint_eq_none_iff, encode]
    cases encodePoint c <;> cases encode t <;> simp

theorem exists_encode {t : Text} (h : t.hasSurrogate = false) : ∃ b, encode t = some b := by
  cases hb : encode t with
  | some b => exact ⟨b, rfl⟩
  | none => rw [encode_eq_none_iff.1 hb] at h; cases h

/-! ### From bytes to texts -/

theorem toNat_toUInt8 {n : Nat} (h : n < 0x100) : n.toUInt8.toNat = n :=
  UInt8.toNat_ofNat_of_lt' h

/-- A continuation byte carries its six bits. -/
theorem tail?_toUInt8 {x : Nat} (h : x < 0x40) : tail? (0x80 + x).toUInt8 = some x := by
  rw [tail?, toNat_toUInt8 (by omega), if_pos (by omega), Nat.add_sub_cancel_left]

/-- The bytes of a code point are read as that code point. -/
theorem decode_encodePoint_append {c : CodePoint} {b : Bytes} (h : encodePoint c = some b)
    (rest : Bytes) : decode (b ++ rest) = (decode rest).map (c :: ·) := by
  have hlt : c.val < 0x110000 := c.isLt
  have htail (n : Nat) : tail? (0x80 + n % 0x40).toUInt8 = some (n % 0x40) :=
    tail?_toUInt8 (Nat.mod_lt n (by decide))
  simp only [encodePoint] at h
  split at h
  · next h1 =>
    cases h
    rw [List.singleton_append, decode.eq_def]
    simp only [toNat_toUInt8 (Nat.lt_trans h1 (by decide)), if_pos h1]
    rw [@CodePoint.ofNat_eq c _ rfl]
  split at h
  · next h1 h2 =>
    cases h
    have hfirst : (0xC0 + c.val / 0x40).toUInt8.toNat = 0xC0 + c.val / 0x40 :=
      toNat_toUInt8 (by omega)
    rw [decode.eq_def]
    simp only [List.cons_append, List.nil_append, hfirst, htail]
    rw [if_neg (by omega), if_neg (by omega), if_pos (by omega), @CodePoint.ofNat_eq c _ (by omega)]
  split at h
  · cases h
  split at h
  · next h1 h2 h3 h4 =>
    cases h
    have hfirst : (0xE0 + c.val / 0x1000).toUInt8.toNat = 0xE0 + c.val / 0x1000 :=
      toNat_toUInt8 (by omega)
    have hvalue : (0xE0 + c.val / 0x1000 - 0xE0) * 0x1000 + c.val / 0x40 % 0x40 * 0x40 +
        c.val % 0x40 = c.val := by omega
    simp only [CodePoint.isSurrogate, Bool.and_eq_true, decide_eq_true_eq] at h3
    rw [decode.eq_def]
    simp only [List.cons_append, List.nil_append, hfirst, htail, hvalue]
    rw [if_neg (by omega), if_neg (by omega), if_neg (by omega), if_pos (by omega),
      if_neg (by omega), CodePoint.ofNat_eq rfl]
  · next h1 h2 h3 h4 =>
    cases h
    have hfirst : (0xF0 + c.val / 0x40000).toUInt8.toNat = 0xF0 + c.val / 0x40000 :=
      toNat_toUInt8 (by omega)
    have hvalue : (0xF0 + c.val / 0x40000 - 0xF0) * 0x40000 + c.val / 0x1000 % 0x40 * 0x1000 +
        c.val / 0x40 % 0x40 * 0x40 + c.val % 0x40 = c.val := by omega
    rw [decode.eq_def]
    simp only [List.cons_append, List.nil_append, hfirst, htail, hvalue]
    rw [if_neg (by omega), if_neg (by omega), if_neg (by omega), if_neg (by omega),
      if_pos (by omega), if_neg (by omega), CodePoint.ofNat_eq rfl]

/-- **The bytes of a text give the text again.** -/
theorem decode_encode {t : Text} {b : Bytes} (h : encode t = some b) : decode b = some t := by
  induction t generalizing b with
  | nil => cases h; rfl
  | cons c t ih =>
    rw [encode] at h
    cases hc : encodePoint c with
    | none => simp [hc] at h
    | some bc =>
      cases ht : encode t with
      | none => simp [hc, ht] at h
      | some bt =>
        simp only [hc, ht, Option.some.injEq] at h
        rw [← h, decode_encodePoint_append hc, ih ht, Option.map_some]

theorem isSurrogate_ofNat {n : Nat} (h : n < 0xD800 ∨ 0xE000 ≤ n) :
    (CodePoint.ofNat n).isSurrogate = false := by
  rw [CodePoint.ofNat]
  split
  · simp only [CodePoint.isSurrogate, Bool.and_eq_false_iff, decide_eq_false_iff_not]
    omega
  · decide +kernel

theorem lt_of_tail? {b : UInt8} {x : Nat} (h : tail? b = some x) : x < 0x40 := by
  rw [tail?] at h
  split at h
  · have hx := Option.some.inj h
    omega
  · cases h

/-- No bytes give a text with a surrogate. -/
theorem hasSurrogate_of_decode {b : Bytes} {t : Text} (h : decode b = some t) :
    t.hasSurrogate = false := by
  have hcons {n : Nat} {rest : Bytes} {t : Text} (hn : n < 0xD800 ∨ 0xE000 ≤ n)
      (ih : ∀ {t : Text}, decode rest = some t → t.hasSurrogate = false)
      (h : (decode rest).map (CodePoint.ofNat n :: ·) = some t) : t.hasSurrogate = false := by
    obtain ⟨s, hs, rfl⟩ := Option.map_eq_some_iff.1 h
    rw [Text.hasSurrogate, List.any_cons, isSurrogate_ofNat hn, Bool.false_or]
    exact ih hs
  fun_induction decode b generalizing t
  case case1 => cases h; rfl
  case case2 hn ih => exact hcons (by omega) ih h
  case case4 hx ih =>
    have hlt := lt_of_tail? hx
    exact hcons (by omega) ih h
  case case8 hm ih => exact hcons (by omega) ih h
  case case12 hm ih => exact hcons (by omega) ih h
  all_goals cases h

end Utf8

/-! ### Line ends -/

/-- A code point that a file keeps as it is: one of ASCII, but no carriage return. -/
def CodePoint.isLasting (c : CodePoint) : Bool := c.val < 0x80 && c ≠ ('\r' : CodePoint)

namespace Text

theorem unifyFrom_false_of_lasting {t : Text} (h : t.all CodePoint.isLasting = true) :
    unifyFrom false t = t := by
  induction t with
  | nil => rfl
  | cons c t ih =>
    rw [List.all_cons, Bool.and_eq_true, CodePoint.isLasting, Bool.and_eq_true] at h
    rw [unifyFrom, if_neg (of_decide_eq_true h.1.2), Bool.false_and, if_neg (by decide), ih h.2]

/-- Nothing is unified where there are no carriage returns. -/
theorem unifyNewlines_of_lasting {t : Text} (h : t.all CodePoint.isLasting = true) :
    t.unifyNewlines = t :=
  unifyFrom_false_of_lasting h

theorem hasSurrogate_of_lasting {t : Text} (h : t.all CodePoint.isLasting = true) :
    t.hasSurrogate = false := by
  rw [hasSurrogate, List.any_eq_false]
  intro c hc
  have hlasting := List.all_eq_true.1 h c hc
  simp only [CodePoint.isLasting, CodePoint.isSurrogate, Bool.and_eq_true, decide_eq_true_eq] at *
  omega

theorem hasSurrogate_unifyFrom {t : Text} (h : t.hasSurrogate = false) (afterReturn : Bool) :
    (unifyFrom afterReturn t).hasSurrogate = false := by
  induction t generalizing afterReturn with
  | nil => rfl
  | cons c t ih =>
    rw [hasSurrogate, List.any_cons, Bool.or_eq_false_iff] at h
    rw [unifyFrom]
    split
    · exact ih h.2 true
    split
    · exact ih h.2 false
    · rw [hasSurrogate, List.any_cons, h.1, Bool.false_or]
      exact ih h.2 false

/-- Unifying line ends brings in no surrogate. -/
theorem hasSurrogate_unifyNewlines {t : Text} (h : t.hasSurrogate = false) :
    t.unifyNewlines.hasSurrogate = false :=
  hasSurrogate_unifyFrom h false

end Text

end JsonShape
