import JsonShape.Number.Double
import JsonShape.Number.Numeral
import Mathlib.Order.Lattice

/-!
# Doubles nearest to quotients

A quotient is rounded by half a unit at most (`roundDiv_bounds`), and a ratio is scaled so that its
significand has fifty-three bits (`ratioLog2_bounds`, `le_significand`).  So the integer part of a
quotient outlives the rounding as long as the significand has as many bits for the fraction as the
divisor has (`floor?_ofIntDiv`); and a large quotient is rounded to a large double, or to an
infinity (`le_natAbs_floor?`).
-/

namespace JsonShape

/-! ### Powers -/

theorem twoTo_add (m n : Nat) : twoTo (m + n) = twoTo m * twoTo n := Nat.pow_add 2 m n

theorem twoTo_le_twoTo {m n : Nat} (h : m ≤ n) : twoTo m ≤ twoTo n :=
  Nat.pow_le_pow_right (by decide) h

theorem tenTo_le_tenTo {m n : Nat} (h : m ≤ n) : tenTo m ≤ tenTo n :=
  Nat.pow_le_pow_right (by decide) h

theorem twoTo_le_tenTo (n : Nat) : twoTo n ≤ tenTo n := Nat.pow_le_pow_left (by decide) n

section Scales

variable {x y a b c d : Nat}

/-- A comparison under two scales holds under any two of the same quotient. -/
theorem scale_le_scale (hscale : a + d = c + b) (h : x * twoTo a ≤ y * twoTo b) :
    x * twoTo c ≤ y * twoTo d := by
  refine Nat.le_of_mul_le_mul_right ?_ (twoTo_pos b)
  calc x * twoTo c * twoTo b
    _ = x * twoTo a * twoTo d := by
        rw [Nat.mul_assoc, Nat.mul_assoc, ← twoTo_add, ← twoTo_add, hscale]
    _ ≤ y * twoTo b * twoTo d := Nat.mul_le_mul_right _ h
    _ = y * twoTo d * twoTo b := Nat.mul_right_comm ..

theorem scale_lt_scale (hscale : a + d = c + b) (h : x * twoTo a < y * twoTo b) :
    x * twoTo c < y * twoTo d := by
  refine Nat.lt_of_not_le fun hle => Nat.not_le.2 h (scale_le_scale ?_ hle)
  omega

end Scales

namespace Double

variable {num den : Nat} {negative : Bool}

/-! ### Sizes -/

theorem parts_bounds {d : Double} {negative : Bool} {m : Nat} {e : Int}
    (h : d.parts = .finite negative m e) : m < twoTo 53 ∧ e ≤ 971 := by
  have hfraction : d.magnitude % twoTo 52 < twoTo 52 := Nat.mod_lt _ (twoTo_pos 52)
  have hfield : d.magnitude / twoTo 52 < 2048 :=
    Nat.div_lt_of_lt_mul (Nat.mod_lt _ (twoTo_pos 63))
  have htwice : twoTo 53 = twoTo 52 + twoTo 52 := rfl
  simp only [parts] at h
  split at h
  · split at h <;> cases h
  split at h
  · cases h
    omega
  · cases h
    omega

/-- No double is an integer of as many digits as can be read. -/
theorem natAbs_truncate?_lt {d : Double} {i : Int} (h : d.truncate? = some i) :
    i.natAbs < tenTo Numeral.maxDigits := by
  rw [truncate?] at h
  split at h
  · next negative m e hparts =>
    obtain ⟨hm, he⟩ := parts_bounds hparts
    have hpower : twoTo e.toNat ≤ twoTo 971 := twoTo_le_twoTo (by omega)
    have hsize : m * twoTo e.toNat / twoTo (-e).toNat < tenTo Numeral.maxDigits :=
      calc m * twoTo e.toNat / twoTo (-e).toNat
        _ ≤ m * twoTo e.toNat := Nat.div_le_self _ _
        _ ≤ m * twoTo 971 := Nat.mul_le_mul_left m hpower
        _ < twoTo 53 * twoTo 971 := Nat.mul_lt_mul_of_pos_right hm (twoTo_pos 971)
        _ = twoTo (53 + 971) := (twoTo_add 53 971).symm
        _ ≤ tenTo (53 + 971) := twoTo_le_tenTo _
        _ ≤ tenTo Numeral.maxDigits := tenTo_le_tenTo (by decide)
    have hsign (n : Nat) : (if negative then -(n : Int) else n).natAbs = n := by
      cases negative <;> simp
    rw [← Option.some.inj h, hsign]
    exact hsize
  · cases h

/-! ### Rounded quotients -/

theorem roundDiv_bounds (num : Nat) (hden : 0 < den) :
    2 * num ≤ 2 * (den * roundDiv num den) + den ∧
      2 * (den * roundDiv num den) ≤ 2 * num + den := by
  have hnum := Nat.div_add_mod num den
  have hmod := Nat.mod_lt num hden
  simp only [roundDiv]
  split
  · rw [Nat.mul_add]
    omega
  · omega

theorem le_roundDiv {j : Nat} (hden : 0 < den) (h : j * den ≤ num) : j ≤ roundDiv num den := by
  have hfloor : j ≤ num / den := (Nat.le_div_iff_mul_le hden).2 h
  simp only [roundDiv]
  split <;> omega

theorem roundDiv_le {j : Nat} (hden : 0 < den) (h : num ≤ j * den) : roundDiv num den ≤ j := by
  obtain ⟨-, hbound⟩ := roundDiv_bounds num hden
  have hstep : den * (2 * roundDiv num den) ≤ den * (2 * j + 1) := by
    rw [Nat.mul_left_comm, Nat.mul_add, Nat.mul_left_comm den 2, Nat.mul_comm den j]
    omega
  have := Nat.le_of_mul_le_mul_left hstep hden
  omega

/-! ### Scaled ratios -/

/-- **The binary logarithm of a ratio** is the exponent of the greatest power below it. -/
theorem ratioLog2_bounds (hnum : 0 < num) (hden : 0 < den) :
    den * twoTo (ratioLog2 num den).toNat ≤ num * twoTo (-ratioLog2 num den).toNat ∧
      num * twoTo (-ratioLog2 num den).toNat < den * twoTo ((ratioLog2 num den).toNat + 1) := by
  have hnumlow : twoTo num.log2 ≤ num := Nat.log2_self_le hnum.ne'
  have hnumhigh : num < twoTo (num.log2 + 1) := Nat.lt_log2_self
  have hdenlow : twoTo den.log2 ≤ den := Nat.log2_self_le hden.ne'
  have hdenhigh : den < twoTo (den.log2 + 1) := Nat.lt_log2_self
  -- the logarithms of the two leave open one of two neighbours
  have hlow : den * twoTo num.log2 ≤ num * twoTo (den.log2 + 1) := by
    rw [Nat.mul_comm num]
    exact Nat.mul_le_mul hdenhigh.le hnumlow
  have hhigh : num * twoTo den.log2 < den * twoTo (num.log2 + 1) := by
    rw [Nat.mul_comm den]
    exact Nat.mul_lt_mul_of_lt_of_le hnumhigh hdenlow hden
  rw [ratioLog2]
  split
  · next hless => exact ⟨scale_le_scale (by omega) hlow, scale_lt_scale (by omega) hless⟩
  · next hless =>
    exact ⟨Nat.le_of_not_lt hless, scale_lt_scale (by omega) hhigh⟩

theorem twoTo_lt_twoTo_iff {m n : Nat} : twoTo m < twoTo n ↔ m < n :=
  Nat.pow_lt_pow_iff_right (by decide)

theorem le_ratioLog2 {a b : Nat} (hnum : 0 < num) (hden : 0 < den)
    (h : den * twoTo a ≤ num * twoTo b) : (a : Int) - b ≤ ratioLog2 num den := by
  by_contra hless
  have hscaled : den * twoTo (b + (ratioLog2 num den).toNat + 1) ≤
      num * twoTo (b + (-ratioLog2 num den).toNat) :=
    calc den * twoTo (b + (ratioLog2 num den).toNat + 1)
      _ ≤ den * twoTo (a + (-ratioLog2 num den).toNat) :=
          Nat.mul_le_mul_left _ (twoTo_le_twoTo (by omega))
      _ = den * twoTo a * twoTo (-ratioLog2 num den).toNat := by rw [twoTo_add, Nat.mul_assoc]
      _ ≤ num * twoTo b * twoTo (-ratioLog2 num den).toNat := Nat.mul_le_mul_right _ h
      _ = num * twoTo (b + (-ratioLog2 num den).toNat) := by rw [twoTo_add, Nat.mul_assoc]
  exact Nat.not_le.2 (ratioLog2_bounds hnum hden).2 (scale_le_scale (by omega) hscaled)

theorem ratioLog2_lt {b : Nat} (hnum : 0 < num) (hden : 0 < den) (h : num < den * twoTo b) :
    ratioLog2 num den < b := by
  have hlow := (ratioLog2_bounds hnum hden).1
  have hpowers : den * twoTo (ratioLog2 num den).toNat <
      den * twoTo (b + (-ratioLog2 num den).toNat) := by
    refine Nat.lt_of_le_of_lt hlow ?_
    rw [twoTo_add, ← Nat.mul_assoc]
    exact Nat.mul_lt_mul_of_pos_right h (twoTo_pos _)
  have := twoTo_lt_twoTo_iff.1 (Nat.lt_of_mul_lt_mul_left hpowers)
  omega

/-- The exponent of the last bit of a ratio that is rounded to fifty-three bits. -/
def unit (num den : Nat) : Int := ratioLog2 num den - 52

/-- A ratio rounded to fifty-three bits, in units of the last one. -/
def significand (num den : Nat) : Nat :=
  roundDiv (num * twoTo (-unit num den).toNat) (den * twoTo (unit num den).toNat)

theorem le_significand (hnum : 0 < num) (hden : 0 < den) : twoTo 52 ≤ significand num den := by
  refine le_roundDiv (Nat.mul_pos hden (twoTo_pos _)) ?_
  rw [Nat.mul_left_comm, ← twoTo_add]
  exact scale_le_scale (by rw [unit]; omega) (ratioLog2_bounds hnum hden).1

theorem significand_le (hnum : 0 < num) (hden : 0 < den) : significand num den ≤ twoTo 53 := by
  refine roundDiv_le (Nat.mul_pos hden (twoTo_pos _)) ?_
  rw [Nat.mul_left_comm, ← twoTo_add]
  exact (scale_lt_scale (by rw [unit]; omega) (ratioLog2_bounds hnum hden).2).le

/-! ### Floors -/

/-- A number with a sign. -/
def signed (negative : Bool) (n : Nat) : Int := if negative then -(n : Int) else n

@[simp] theorem signed_false (n : Nat) : signed false n = n := rfl

@[simp] theorem signed_true (n : Nat) : signed true n = -(n : Int) := rfl

theorem signed_mul (negative : Bool) (m n : Nat) :
    signed negative (m * n) = signed negative m * n := by
  cases negative with
  | false => rfl
  | true => exact (Int.neg_mul m n).symm

theorem signed_natAbs (n : Int) : signed (n < 0) n.natAbs = n := by
  rw [signed]
  split
  · next h =>
    have := of_decide_eq_true h
    omega
  · next h =>
    have : ¬ n < 0 := fun hn => h (decide_eq_true hn)
    omega

section Magnitudes

variable {M : Nat} (hM : M < twoTo 63)
include hM

theorem toNat_ofMagnitude (negative : Bool) :
    (ofMagnitude negative M).bits.toNat = if negative then twoTo 63 + M else M := by
  have hword : twoTo 63 + twoTo 63 = 2 ^ 64 := rfl
  rw [ofMagnitude]
  cases negative <;> exact Nat.mod_eq_of_lt (by simp; omega)

theorem magnitude_ofMagnitude (negative : Bool) : (ofMagnitude negative M).magnitude = M := by
  rw [magnitude, toNat_ofMagnitude hM]
  cases negative
  · exact Nat.mod_eq_of_lt hM
  · exact (Nat.add_mod_left _ _).trans (Nat.mod_eq_of_lt hM)

theorem isNegative_ofMagnitude (negative : Bool) :
    (ofMagnitude negative M).isNegative = negative := by
  rw [isNegative, toNat_ofMagnitude hM]
  cases negative
  · exact decide_eq_false (Nat.not_le.2 hM)
  · exact decide_eq_true (Nat.le_add_right _ _)

end Magnitudes

theorem floor?_infinity (negative : Bool) : (infinity negative).floor? = none := by
  cases negative <;> rfl

theorem floor?_of_parts {d : Double} {m : Nat} {e : Int} (h : d.parts = .finite negative m e) :
    d.floor? = some (signed negative (m * twoTo e.toNat) / (twoTo (-e).toNat : Int)) := by
  rw [floor?, h]
  exact congrArg some (Int.fdiv_eq_ediv_of_nonneg _ (Int.natCast_nonneg _))

/-- The parts of a double by its two fields. -/
theorem parts_of_magnitude {d : Double} (field fraction : Nat)
    (h : d.magnitude = field * twoTo 52 + fraction) (hfield : 0 < field ∧ field < 2047)
    (hfraction : fraction < twoTo 52) :
    d.parts = .finite d.isNegative (twoTo 52 + fraction) ((field : Int) - 1075) := by
  have hdiv : d.magnitude / twoTo 52 = field := by
    rw [h, Nat.mul_comm, Nat.mul_add_div (twoTo_pos 52), Nat.div_eq_of_lt hfraction, Nat.add_zero]
  have hmod : d.magnitude % twoTo 52 = fraction := by
    rw [h, Nat.mul_comm, Nat.mul_add_mod, Nat.mod_eq_of_lt hfraction]
  rw [parts, hdiv, hmod, if_neg (by omega), if_neg (by omega)]

theorem signed_div_congr {x y u v : Nat} (hu : 0 < u) (hv : 0 < v) (h : x * v = y * u) :
    signed negative x / (u : Int) = signed negative y / (v : Int) := by
  rw [← Int.mul_ediv_mul_of_pos_left (signed negative x) u (Int.natCast_pos.2 hv), ← signed_mul, h,
    signed_mul, Int.mul_comm (u : Int), Int.mul_ediv_mul_of_pos_left _ _ (Int.natCast_pos.2 hu)]

/-- The floor of a significand in units; a carry to the next power changes nothing. -/
theorem floor?_ofMagnitude {q : Int} {m : Nat} (negative : Bool) (hq : -1074 ≤ q)
    (hlow : twoTo 52 ≤ m) (hhigh : m ≤ twoTo 53)
    (hfinite : (q + 1074).toNat * twoTo 52 + m < infiniteMagnitude) :
    (ofMagnitude negative ((q + 1074).toNat * twoTo 52 + m)).floor? =
      some (signed negative (m * twoTo q.toNat) / (twoTo (-q).toNat : Int)) := by
  have htwice : twoTo 53 = twoTo 52 + twoTo 52 := rfl
  have hM : (q + 1074).toNat * twoTo 52 + m < twoTo 63 := hfinite.trans (by decide)
  have hmagnitude := magnitude_ofMagnitude hM negative
  have hnegative := isNegative_ofMagnitude hM negative
  have hfield {k fraction : Nat}
      (h : (q + 1074).toNat * twoTo 52 + m = ((q + 1074).toNat + k) * twoTo 52 + fraction) :
      (q + 1074).toNat + k < 2047 := by
    refine Nat.lt_of_mul_lt_mul_right (a := twoTo 52) (Nat.lt_of_le_of_lt ?_ hfinite)
    rw [h]
    exact Nat.le_add_right _ _
  obtain ⟨fraction, rfl⟩ := Nat.exists_eq_add_of_le hlow
  by_cases hcarry : fraction < twoTo 52
  · have hsplit : (q + 1074).toNat * twoTo 52 + (twoTo 52 + fraction) =
        ((q + 1074).toNat + 1) * twoTo 52 + fraction := by
      rw [Nat.add_mul]
      omega
    have hparts := parts_of_magnitude _ fraction (hmagnitude.trans hsplit)
      ⟨Nat.succ_pos _, hfield hsplit⟩ hcarry
    have hexponent : (((q + 1074).toNat + 1 : Nat) : Int) - 1075 = q := by omega
    rw [hnegative, hexponent] at hparts
    exact floor?_of_parts hparts
  · obtain rfl : fraction = twoTo 52 := by omega
    have hsplit : (q + 1074).toNat * twoTo 52 + (twoTo 52 + twoTo 52) =
        ((q + 1074).toNat + 2) * twoTo 52 + 0 := by
      rw [Nat.add_mul]
      omega
    have hparts := parts_of_magnitude _ 0 (hmagnitude.trans hsplit)
      ⟨Nat.succ_pos _, hfield hsplit⟩ (twoTo_pos 52)
    have hexponent : (((q + 1074).toNat + 2 : Nat) : Int) - 1075 = q + 1 := by omega
    rw [hnegative, hexponent] at hparts
    rw [floor?_of_parts hparts, ← htwice]
    refine congrArg some (signed_div_congr (twoTo_pos _) (twoTo_pos _) ?_)
    rw [Nat.add_zero, ← twoTo_add, ← twoTo_add, ← twoTo_add, ← twoTo_add]
    congr 1
    omega

/-! ### Quotients of integers -/

/-- A rounded number has the floor of what it was rounded from, if the unit that it is rounded to is
finer than the grid of the quotients. -/
theorem signed_div_of_near {m v k d : Nat} (hd : 0 < d) (hfine : d < 2 * k)
    (h : 2 * (v * k) ≤ 2 * (d * m) + d ∧ 2 * (d * m) ≤ 2 * (v * k) + d) :
    signed negative m / (k : Int) = signed negative v / (d : Int) := by
  have hk : (0 : Int) < k := by omega
  have hd : (0 : Int) < d := by omega
  have hnear : 2 * (signed negative v * k) ≤ 2 * (d * signed negative m) + d ∧
      2 * (d * signed negative m) ≤ 2 * (signed negative v * k) + d := by
    rw [Int.mul_comm (d : Int) (signed negative m), ← signed_mul, ← signed_mul, Nat.mul_comm m]
    cases negative <;> simp only [signed_false, signed_true] <;> omega
  generalize signed negative v = V at hnear ⊢
  generalize signed negative m = M at hnear ⊢
  have hfloor : d * (V / d) ≤ V := Int.mul_ediv_self_le hd.ne'
  have hceil : V + 1 ≤ d * (V / d + 1) := by
    have := Int.lt_mul_ediv_self_add (x := V) hd
    rw [Int.mul_add]
    omega
  have hlow : V / d * k ≤ M := by
    by_contra hless
    have hstep : d * (M + 1) ≤ d * (V / d * k) := Int.mul_le_mul_of_nonneg_left (by omega) hd.le
    have hgrid := Int.mul_le_mul_of_nonneg_right hfloor hk.le
    rw [Int.mul_add] at hstep
    rw [Int.mul_assoc] at hgrid
    omega
  have hhigh : M < (V / d + 1) * k := by
    by_contra hless
    have hstep : d * ((V / d + 1) * k) ≤ d * M := Int.mul_le_mul_of_nonneg_left (by omega) hd.le
    have hgrid := Int.mul_le_mul_of_nonneg_right hceil hk.le
    rw [Int.add_mul, Int.mul_assoc] at hgrid
    omega
  exact Int.le_antisymm (Int.lt_add_one_iff.1 ((Int.ediv_lt_iff_lt_mul hk).2 hhigh))
    ((Int.le_ediv_iff_mul_le hk).2 hlow)

/-- The floor of a rounded ratio; an infinity has none. -/
theorem floor?_ofRatio (negative : Bool) (hnum : 0 < num) (hden : 0 < den)
    (hnormal : -1022 ≤ ratioLog2 num den) : (ofRatio negative num den).floor? =
      if (unit num den + 1074).toNat * twoTo 52 + significand num den < infiniteMagnitude then
        some (signed negative (significand num den * twoTo (unit num den).toNat) /
          (twoTo (-unit num den).toNat : Int))
      else none := by
  have hunit : max (ratioLog2 num den - 52) (-1074) = unit num den := max_eq_left (by omega)
  have hratio : ofRatio negative num den = ofMagnitude negative
      (min ((unit num den + 1074).toNat * twoTo 52 + significand num den) infiniteMagnitude) := by
    rw [ofRatio, if_neg hnum.ne']
    dsimp only
    rw [hunit]
    rfl
  rw [hratio]
  split
  · next hfinite =>
    rw [Nat.min_eq_left hfinite.le]
    exact floor?_ofMagnitude negative (by rw [unit]; omega) (le_significand hnum hden)
      (significand_le hnum hden) hfinite
  · next hinfinite =>
    rw [Nat.min_eq_right (Nat.le_of_not_lt hinfinite)]
    exact floor?_infinity negative

theorem lt_infiniteMagnitude (hnum : 0 < num) (hden : 0 < den) (h : ratioLog2 num den < 52) :
    (unit num den + 1074).toNat * twoTo 52 + significand num den < infiniteMagnitude := by
  have hfield : (unit num den + 1074).toNat ≤ 1500 := by
    rw [unit]
    omega
  have hfields := Nat.mul_le_mul_right (twoTo 52) hfield
  have hsignificand := significand_le hnum hden
  have htwice : twoTo 53 = 2 * twoTo 52 := rfl
  have hpos := twoTo_pos 52
  rw [infiniteMagnitude]
  omega

/-- **The floor of a rounded quotient is that of the quotient,** as long as the bits of the
significand that are left for the fraction tell any two quotients apart. -/
theorem floor?_ofIntDiv {n : Int} {b : Nat} (hb : b ≤ 52) (hden : 0 < den)
    (hfine : den ≤ twoTo (53 - b)) (hn : n.natAbs < den * twoTo b) :
    (ofIntDiv n den).floor? = some (n / (den : Int)) := by
  rcases Nat.eq_zero_or_pos n.natAbs with hzero | hnum
  · obtain rfl := Int.natAbs_eq_zero.1 hzero
    rw [Int.zero_ediv, ofIntDiv, Int.natAbs_zero, ofRatio, if_pos rfl]
    rfl
  have hhigh := ratioLog2_lt hnum hden hn
  have hlow : (0 : Int) - 53 ≤ ratioLog2 n.natAbs den := le_ratioLog2 hnum hden <|
    calc den * twoTo 0
      _ ≤ twoTo (53 - b) := (Nat.mul_one den).trans_le hfine
      _ ≤ twoTo 53 := twoTo_le_twoTo (by omega)
      _ ≤ n.natAbs * twoTo 53 := Nat.le_mul_of_pos_left _ hnum
  have hunit : (unit n.natAbs den).toNat = 0 ∧ 53 - b ≤ (-unit n.natAbs den).toNat := by
    rw [unit]
    omega
  -- the unit is below one, so only the quotient is scaled
  have hone : twoTo 0 = 1 := rfl
  have hsignificand : significand n.natAbs den =
      roundDiv (n.natAbs * twoTo (-unit n.natAbs den).toNat) den := by
    rw [significand, hunit.1, hone, Nat.mul_one]
  have hnear := roundDiv_bounds (n.natAbs * twoTo (-unit n.natAbs den).toNat) hden
  rw [← hsignificand] at hnear
  have hgrid : den < 2 * twoTo (-unit n.natAbs den).toNat := by
    have := twoTo_le_twoTo hunit.2
    have := twoTo_pos (53 - b)
    omega
  rw [ofIntDiv, floor?_ofRatio _ hnum hden (by omega),
    if_pos (lt_infiniteMagnitude hnum hden (by omega)), hunit.1, hone, Nat.mul_one,
    signed_div_of_near hden hgrid hnear, signed_natAbs]

theorem le_natAbs_signed_div {x k j : Nat} (hk : 0 < k) (h : j * k ≤ x) :
    j ≤ (signed negative x / (k : Int)).natAbs := by
  have hk : (0 : Int) < k := by omega
  have h : (j : Int) * k ≤ x := by exact_mod_cast h
  cases negative with
  | false =>
    have := (Int.le_ediv_iff_mul_le hk).2 h
    rw [signed_false]
    omega
  | true =>
    have : -(x : Int) / k ≤ -j := Int.ediv_le_of_le_mul hk (by rw [Int.neg_mul]; omega)
    rw [signed_true]
    omega

/-- A large quotient is rounded to a large double, or to an infinity. -/
theorem le_natAbs_floor? {n i : Int} {b : Nat} (hb : b ≤ 52) (hden : 0 < den)
    (hn : den * twoTo b ≤ n.natAbs) (hfloor : (ofIntDiv n den).floor? = some i) :
    twoTo b ≤ i.natAbs := by
  have hnum : 0 < n.natAbs := Nat.lt_of_lt_of_le (Nat.mul_pos hden (twoTo_pos b)) hn
  have hlog : (b : Int) - (0 : Nat) ≤ ratioLog2 n.natAbs den :=
    le_ratioLog2 hnum hden (hn.trans_eq (Nat.mul_one _).symm)
  rw [ofIntDiv, floor?_ofRatio _ hnum hden (by omega)] at hfloor
  split at hfloor
  · rw [← Option.some.inj hfloor]
    refine le_natAbs_signed_div (twoTo_pos _) ?_
    calc twoTo b * twoTo (-unit n.natAbs den).toNat
      _ = twoTo (b + (-unit n.natAbs den).toNat) := (twoTo_add _ _).symm
      _ ≤ twoTo (52 + (unit n.natAbs den).toNat) := twoTo_le_twoTo (by rw [unit]; omega)
      _ = twoTo 52 * twoTo (unit n.natAbs den).toNat := twoTo_add _ _
      _ ≤ _ := Nat.mul_le_mul_right _ (le_significand hnum hden)
  · cases hfloor

end Double

end JsonShape
