import JsonShape.History.Stamp
import JsonShape.Proofs.Json.Layout
import JsonShape.Proofs.Number.Double
import JsonShape.Proofs.Terminal.Printing
import JsonShape.Proofs.Terminal.Shown

/-!
# The stamps that can be shown

A stamp is shown by the date of its seconds, which are rounded to a double first.  The rounding does
not move a stamp of a year of four digits to another second, so a stamp can be shown if it lies on a
day from the second one of the year 1 to the last one of the year 9999, and at no other time
(`Stamp.exists_text_iff`).  As marked-up text it is shown as it is (`Stamp.shown_text`).
-/

namespace JsonShape

namespace Calendar

/-- The year of a cycle of four hundred years that a day lies in, and the day in that year, each
from a March on.  The first year and the last one are told by their days. -/
theorem year_of_cycle {d y inYear : Nat} (hd : d < 146097)
    (hy : (d - d / 1460 + d / 36524 - d / 146096) / 365 = y)
    (hin : d - (365 * y + y / 4 - y / 100) = inYear) :
    y ≤ 399 ∧ inYear ≤ 365 ∧ (y = 0 ∧ inYear < 306 ↔ d < 306) ∧
      (y = 399 ∧ 306 ≤ inYear ↔ 146037 ≤ d) := by
  have hfirst : y = 0 ↔ d < 365 := by omega
  have hlast : y = 399 ↔ 145731 ≤ d := by omega
  have hrange : inYear ≤ 365 := by omega
  omega

/-- **The years of four digits** begin and end with these days. -/
theorem year_ofDays (day : Int) :
    (1 ≤ (ofDays day).1 ↔ -719162 ≤ day) ∧ ((ofDays day).1 ≤ 9999 ↔ day < 2932897) := by
  have hera : (day + 719468).fdiv 146097 = (day + 719468) / 146097 :=
    Int.fdiv_eq_ediv_of_nonneg _ (by decide)
  have hrest : (day + 719468).fmod 146097 = (day + 719468) % 146097 :=
    Int.fmod_eq_emod_of_nonneg _ (by decide)
  rw [ofDays, hera, hrest]
  dsimp only
  generalize hd : ((day + 719468) % 146097).toNat = d
  generalize hy : (d - d / 1460 + d / 36524 - d / 146096) / 365 = y
  generalize hin : d - (365 * y + y / 4 - y / 100) = inYear
  obtain ⟨hyear, hinYear, hfirst, hlast⟩ := year_of_cycle (by omega) hy hin
  clear hy hin
  -- the months after the tenth one belong to the next year
  have hmonth : (if (if (5 * inYear + 2) / 153 < 10 then (5 * inYear + 2) / 153 + 3
      else (5 * inYear + 2) / 153 - 9) ≤ 2 then (1 : Int) else 0) =
        if inYear < 306 then 0 else 1 := by
    clear hfirst hlast
    split <;> split at * <;> split <;> omega
  rw [hmonth]
  clear hmonth
  constructor <;> split <;> omega

end Calendar

namespace Stamp

theorem exists_dateText_iff (day : Int) (second : Nat) :
    (∃ t, dateText day second = .ok t) ↔ -719161 ≤ day ∧ day < 2932897 := by
  obtain ⟨hfirst, hlast⟩ := Calendar.year_ofDays day
  have hbefore := (Calendar.year_ofDays (day - 1)).1
  rw [dateText]
  generalize Calendar.ofDays day = date at hfirst hlast ⊢
  obtain ⟨year, month, dayOfMonth⟩ := date
  dsimp only at hfirst hlast ⊢
  have hfits (h : 1 ≤ year ∧ year ≤ 9999) : fitsSigned 31 (year - 1900) = true := by
    have hword : twoTo 31 = 2147483648 := by decide
    rw [fitsSigned, hword, Bool.and_eq_true, decide_eq_true_iff, decide_eq_true_iff]
    omega
  constructor
  · rintro ⟨t, ht⟩
    split at ht
    · cases ht
    split at ht
    · cases ht
    split at ht
    · cases ht
    omega
  · rintro ⟨hlow, hhigh⟩
    rw [hfits (by omega), if_neg (by decide), if_neg (by omega), if_neg (by omega)]
    exact ⟨_, rfl⟩

/-- The number of the day that a stamp lies in. -/
def day (s : Stamp) : Int := Int.fdiv s 86400000

/-- The days that can be shown are those from the second one of the year 1 to the last one of the
year 9999. -/
def Dated (s : Stamp) : Prop := -719161 ≤ s.day ∧ s.day ≤ 2932896

instance (s : Stamp) : Decidable s.Dated := inferInstanceAs (Decidable (_ ∧ _))

/-- **A stamp can be shown on these days** and on no others. -/
theorem exists_text_iff (s : Stamp) : (∃ t, s.text = .ok t) ↔ s.Dated := by
  have hdated : s.day = s / 86400000 := Int.fdiv_eq_ediv_of_nonneg _ (by decide)
  have hday (n : Int) : n.fdiv 86400 = n / 86400 := Int.fdiv_eq_ediv_of_nonneg _ (by decide)
  have hclock : twoTo 63 = 9223372036854775808 := by decide
  have hrange : 1000 * twoTo 40 = 1099511627776000 := by decide
  rw [Dated, hdated]
  -- thirteen bits of the significand are enough for the thousandths of these seconds
  rcases Nat.lt_or_ge s.natAbs (1000 * twoTo 40) with hs | hs
  · have hfloor : (seconds s).floor? = some (s / 1000) :=
      Double.floor?_ofIntDiv (by decide) (by decide) (by decide) hs
    have hfits : fitsSigned 63 (s / 1000) = true := by
      rw [fitsSigned, hclock, Bool.and_eq_true, decide_eq_true_iff, decide_eq_true_iff]
      omega
    rw [text, hfloor]
    dsimp only
    rw [hfits, if_neg (by decide), exists_dateText_iff, hday]
    omega
  · refine iff_of_false ?_ (by omega)
    rintro ⟨t, ht⟩
    rw [text] at ht
    split at ht
    · cases ht
    · next n hfloor =>
      have hn : twoTo 40 ≤ n.natAbs := Double.le_natAbs_floor? (by decide) (by decide) hs hfloor
      split at ht
      · cases ht
      · have hshown := (exists_dateText_iff _ _).1 ⟨t, ht⟩
        rw [hday] at hshown
        omega

/-! ### What is shown -/

/-- The characters of dates, but for the colon. -/
def isDateCharacter (c : CodePoint) : Bool := c.isLetter || c.isDigit || c = ' ' || c = ','

theorem all_twoDigits (n : Nat) : (twoDigits n).all isDateCharacter = true := by
  rw [twoDigits, Numeral.padded, List.all_append, Numeral.all_ofNat (by decide), Bool.and_true,
    Numeral.zeros, List.all_replicate]
  exact (ite_self _).trans rfl

theorem all_monthName (month : Nat) : (Calendar.monthName month).all isDateCharacter = true := by
  have hnames : ∀ name ∈ Calendar.monthNames, name.all isDateCharacter = true := by decide
  rw [Calendar.monthName]
  cases h : Calendar.monthNames[month - 1]? with
  | none => rfl
  | some name => exact hnames name (List.mem_of_getElem? h)

theorem exists_clockText_eq (second : Nat) : ∃ hour minute half,
    clockText second = twoDigits hour ++ (':' : CodePoint) :: (twoDigits minute ++ half) ∧
      half.all isDateCharacter = true := by
  rw [clockText]
  generalize (if second / 3600 % 12 = 0 then 12 else second / 3600 % 12) = hour
  refine ⟨hour, second / 60 % 60, Text.ofString (if second / 3600 < 12 then " AM" else " PM"), ?_,
    ?_⟩
  · rw [List.append_assoc, List.append_assoc]
    rfl
  · split <;> rfl

theorem exists_dateText_eq {s : Stamp} {t : Text} (h : s.text = .ok t) : ∃ month day second,
    t = Calendar.monthName month ++ " " ++ twoDigits day ++ ", " ++ clockText second := by
  rw [text] at h
  split at h
  · cases h
  split at h
  · cases h
  rw [dateText] at h
  dsimp only at h
  split at h
  · cases h
  split at h
  · cases h
  split at h
  · cases h
  exact ⟨_, _, _, (Except.ok.inj h).symm⟩

/-- The time of day has the only colon. -/
theorem exists_text_eq {s : Stamp} {t : Text} (h : s.text = .ok t) : ∃ u v,
    t = u ++ (':' : CodePoint) :: v ∧ u.all isDateCharacter = true ∧
      v.all isDateCharacter = true := by
  obtain ⟨month, day, second, rfl⟩ := exists_dateText_eq h
  obtain ⟨hour, minute, half, hclock, hhalf⟩ := exists_clockText_eq second
  refine ⟨Calendar.monthName month ++ " " ++ twoDigits day ++ ", " ++ twoDigits hour,
    twoDigits minute ++ half, ?_, ?_, ?_⟩
  · rw [hclock, List.append_assoc _ (twoDigits hour)]
  · simp only [List.all_append, all_monthName, all_twoDigits, Bool.true_and, Bool.and_true]
    rfl
  · rw [List.all_append, all_twoDigits, hhalf]
    rfl

theorem isDateCharacter_range {c : CodePoint} (h : isDateCharacter c = true) :
    0x20 ≤ c.val ∧ c.val < 0x7F ∧ c.val ≠ 0x3A ∧ c.val ≠ 0x5B := by
  have hspace : (' ' : CodePoint).val = 0x20 := rfl
  have hcomma : (',' : CodePoint).val = 0x2C := rfl
  simp only [isDateCharacter, CodePoint.isLetter, CodePoint.isLower, CodePoint.isUpper,
    CodePoint.isDigit, Bool.or_eq_true, Bool.and_eq_true, decide_eq_true_iff] at h
  rcases h with (((h | h) | h) | rfl) | rfl <;> omega

/-- **A time is shown as it is,** and can be encoded. -/
theorem shown_text {s : Stamp} {t : Text} (isName : Text → Bool) (h : s.text = .ok t) :
    Markup.shown t isName = .ok ⟨t, []⟩ ∧ t.hasSurrogate = false := by
  obtain ⟨u, v, rfl, hu, hv⟩ := exists_text_eq h
  rw [List.all_eq_true] at hu hv
  have hrange : ∀ c ∈ u ++ (':' : CodePoint) :: v, 0x20 ≤ c.val ∧ c.val < 0x7F ∧ c.val ≠ 0x5B := by
    intro c hc
    rcases List.mem_append.1 hc with hc | hc
    · have := isDateCharacter_range (hu c hc)
      omega
    · rcases List.mem_cons.1 hc with rfl | hc
      · decide
      · have := isDateCharacter_range (hv c hc)
        omega
  have hcolon {w : Text} (hw : ∀ c ∈ w, isDateCharacter c = true) :
      ∀ c ∈ w, c ≠ (':' : CodePoint) := by
    rintro c hc rfl
    exact absurd (hw _ hc) (by decide)
  refine ⟨Markup.shown_of_spacing isName ?_
    (Markup.replace_of_one_colon (hcolon hu) (hcolon hv)) ?_, ?_⟩
  · rintro c hc rfl
    exact (hrange _ hc).2.2 rfl
  · exact Text.isSpacing_of_ascii fun c hc => ⟨(hrange c hc).1, (hrange c hc).2.1⟩
  · rw [Text.hasSurrogate_eq_false_iff]
    intro c hc
    obtain ⟨-, hhigh, -⟩ := hrange c hc
    rw [CodePoint.isSurrogate, decide_eq_false (by omega), Bool.false_and]

end Stamp

end JsonShape
