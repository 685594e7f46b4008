import JsonShape.Proofs.Convert.Report
import JsonShape.Proofs.Json.Place

/-!
# Which texts are documents

Within the limits of what can be read, the texts that are read are those of the grammar, each as the
value that it stands for (`Json.read_eq_ok_iff`), and no text is too deep (`Json.read_ne_tooDeep`).
A word for no number is the reason of its text (`Json.read_of_hasWord`).  So a text is a document
exactly if the grammar derives an array or an object from it.
-/

namespace JsonShape

namespace Json

variable {t : Text} {depth : Nat}

/-! ### Short texts -/

/-- Each container that was opened took a code point. -/
theorem Awaits.add_length_le {n : Nat} {p : Place} {u : Text} (h : Awaits t n p u) :
    n + u.length ≤ t.length := by
  induction h with
  | root hu =>
    have hlen := hu.suffix.length_le
    omega
  | firstItem _ _ hw ih | firstField _ _ hw ih =>
    have hlen := hw.suffix.length_le
    rw [List.length_cons] at ih
    omega
  | nextItem _ hv hw hx ih =>
    have hlen := length_lt_of_comma hv.suffix hw hx
    omega
  | nextField _ hk hv hx hy ih =>
    have hlen := length_lt_of_comma (hv.suffix.trans hk.suffix) hx hy
    omega
  | named _ hk ih =>
    have hlen := hk.suffix.length_le
    omega

/-- No part of a short text is too much to be read. -/
theorem withinLimits_of_length (hdigits : t.length ≤ Numeral.maxDigits) (hroom : t.length ≤ depth) :
    WithinLimits t depth := by
  constructor
  · rintro k ⟨n, m, w, r, ⟨p, -, hu⟩, hw, -, rfl, -⟩
    have hlen := hu.add_length_le
    have hwhole : m.whole.length ≤ w.length := by
      cases hw
      simp only [List.length_append]
      omega
    rw [List.length_append] at hlen
    exact Nat.le_trans (by omega) hdigits
  · rintro n ⟨u, hu⟩
    have hlen : n + (u.length + 1) ≤ t.length := by
      rcases hu with ⟨p, -, hu⟩ | ⟨p, -, hu⟩
      · exact hu.add_length_le
      · exact hu.add_length_le
    omega

/-! ### Reading and the grammar -/

/-- Whatever is read is a text of the grammar, and whoever is short of room has met a bracket for
which there is none. -/
theorem explained_read (t : Text) (depth : Nat) :
    match read t depth with
    | .ok v => Spells t v
    | .error e => e = .tooDeep → OpensInside t depth := by
  have hblank := blanks_skipBlank t
  have hvalue := explained_value (t.length + 1) depth ⟨.value, by decide, Awaits.root hblank⟩
  rw [Nat.zero_add] at hvalue
  rw [read, readWithin_eq]
  by_cases hmark : t.head? = some ('\uFEFF' : CodePoint)
  · rw [if_pos hmark]
    intro h
    cases h
  rw [if_neg hmark]
  cases hr : readValue strict (t.length + 1) depth (skipBlank t) with
  | error e =>
    rw [hr] at hvalue
    exact hvalue
  | ok x =>
    rw [hr] at hvalue
    have hrest := blanks_skipBlank x.2
    show match finish x with | .ok v => Spells t v | .error e => e = .tooDeep → _
    unfold finish
    cases hend : skipBlank x.2 with
    | nil =>
      rw [hend] at hrest
      exact ⟨depth, .blanks hblank hvalue hrest⟩
    | cons c w =>
      intro h
      cases h

theorem spells_of_read {v : Json} (h : read t depth = .ok v) : Spells t v := by
  have hread := explained_read t depth
  rw [h] at hread
  exact hread

theorem read_ne_tooDeep (hlim : WithinLimits t depth) : read t depth ≠ .error .tooDeep := by
  intro h
  have hread := explained_read t depth
  rw [h] at hread
  exact Nat.lt_irrefl depth (hlim.room depth (hread rfl))

/-- A text of the grammar is read as its value. -/
theorem read_of_spells (hlim : WithinLimits t depth) {v : Json} (h : Spells t v) :
    read t depth = .ok v := by
  obtain ⟨d, h⟩ := h
  cases h with
  | blanks hu hv hw =>
    have hvalue := hv.limited hlim ⟨.value, by decide, .root hu⟩ (hw.ends ends_nil)
    exact read_of_jsonText (.blanks hu hvalue hw)

/-- **The texts that are read are those of the grammar.** -/
theorem read_eq_ok_iff (hlim : WithinLimits t depth) {v : Json} :
    read t depth = .ok v ↔ Spells t v :=
  ⟨spells_of_read, read_of_spells hlim⟩

/-! ### Words for no number -/

/-- The words that stand for no finite number. -/
def nonFiniteWords : List Text := ["NaN", "Infinity", "-Infinity"]

theorem readBare_nonFinite {word : Text} (hword : word ∈ nonFiniteWords) (r : Text) :
    readBare (word ++ r) = .error (.nonFinite word) := by
  have hfound := after?_append word r
  simp only [nonFiniteWords, List.mem_cons, List.not_mem_nil, or_false] at hword
  have hnull : (word ++ r).after? "null" = none := by rcases hword with rfl | rfl | rfl <;> rfl
  have htrue : (word ++ r).after? "true" = none := by rcases hword with rfl | rfl | rfl <;> rfl
  have hfalse : (word ++ r).after? "false" = none := by rcases hword with rfl | rfl | rfl <;> rfl
  rw [readBare, hnull, htrue, hfalse]
  rcases hword with rfl | rfl | rfl
  · rw [hfound]
    rfl
  · have hnan : Text.after? ("Infinity" ++ r) "NaN" = none := rfl
    rw [hnan, hfound]
    rfl
  · have hnan : Text.after? ("-Infinity" ++ r) "NaN" = none := rfl
    have hinf : Text.after? ("-Infinity" ++ r) "Infinity" = none := rfl
    rw [hnan, hinf, hfound]
    rfl

theorem stuck_of_nonFinite {word : Text} (hword : word ∈ nonFiniteWords) (r : Text)
    (fuel depth n : Nat) {p : Place} (hp : p ≠ .field) :
    Stuck fuel depth (.nonFinite word) n (word ++ r) p := by
  have hbare := readBare_nonFinite hword r
  simp only [nonFiniteWords, List.mem_cons, List.not_mem_nil, or_false] at hword
  rcases hword with rfl | rfl | rfl <;>
  · refine stuck_of_value hp (by decide) ?_
    exact (readValue_bare _ _ (by decide) (by decide) (by decide)).trans hbare

/-- Whatever stands in front of the word is read, so it is the word that is refused. -/
theorem read_of_hasWord (hlim : WithinLimits t depth) {word : Text}
    (hword : word ∈ nonFiniteWords) (h : HasWord t word) :
    read t depth = .error (.nonFinite word) := by
  obtain ⟨n, r, p, hp, hu⟩ := h
  exact hu.error_of_stuck hlim (stuck_of_nonFinite hword r _ depth n hp)

end Json

/-! ### Documents -/

namespace Document

open Json

variable {t : Text} {depth : Nat}

theorem ofText?_eq_ok_iff {d : Document} : ofText? t depth = .ok d ↔ read t depth = .ok d.root := by
  unfold ofText?
  split
  · next e he => simp [he]
  · next v hv =>
    rw [hv]
    cases v <;> cases d <;> simp [Json.document?, Document.root]

theorem ofText?_eq_scalarRoot_iff :
    ofText? t depth = .error .scalarRoot ↔ ∃ v, read t depth = .ok v ∧ v.document? = none := by
  unfold ofText?
  split
  · next e he => simp [he]
  · next v hv =>
    rw [hv]
    cases hd : v.document? <;> simp [hd]

theorem ofText?_eq_unreadable_iff {e : ReadError} :
    ofText? t depth = .error (.unreadable t e) ↔ read t depth = .error e := by
  unfold ofText?
  split
  · next e' he => simp [he]
  · next v hv =>
    rw [hv]
    cases hd : v.document? <;> simp

/-- **A text is a document exactly if the grammar derives an array or an object from it.**  A text
that stands for a scalar is refused for its root, and one that stands for nothing for a reason that
is not its depth; if the reading comes to a word for no number, that word is the reason.  There is
no fourth answer, and whatever a text stands for has a tree. -/
theorem accepts_exactly (hlim : WithinLimits t depth) :
    (∀ d : Document, ofText? t depth = .ok d ↔ Spells t d.root) ∧
    (ofText? t depth = .error .scalarRoot ↔ ∃ v, Spells t v ∧ v.document? = none) ∧
    ((∃ e, e ≠ .tooDeep ∧ ofText? t depth = .error (.unreadable t e)) ↔ ¬ ∃ v, Spells t v) ∧
    (∀ word ∈ nonFiniteWords, HasWord t word →
      ofText? t depth = .error (.unreadable t (.nonFinite word))) ∧
    ((∃ d, ofText? t depth = .ok d) ∨ ofText? t depth = .error .scalarRoot ∨
      ∃ e, e ≠ .tooDeep ∧ ofText? t depth = .error (.unreadable t e)) ∧
    ∀ v, Spells t v → Json.ofDatum? (Datum.ofJson v) = .ok v := by
  have hok : ∀ d : Document, ofText? t depth = .ok d ↔ Spells t d.root := fun d =>
    ofText?_eq_ok_iff.trans (read_eq_ok_iff hlim)
  have hscalar : ofText? t depth = .error .scalarRoot ↔ ∃ v, Spells t v ∧ v.document? = none := by
    simp only [ofText?_eq_scalarRoot_iff, read_eq_ok_iff hlim]
  have hnone : (∃ e, e ≠ .tooDeep ∧ ofText? t depth = .error (.unreadable t e)) ↔
      ¬ ∃ v, Spells t v := by
    simp only [ofText?_eq_unreadable_iff, ← read_eq_ok_iff hlim]
    cases h : read t depth with
    | ok v => simp
    | error e =>
      have he : e ≠ .tooDeep := by
        rintro rfl
        exact read_ne_tooDeep hlim h
      simp [he]
  refine ⟨hok, hscalar, hnone, ?_, ?_, fun v _ => Json.ofDatum?_ofJson v⟩
  · intro word hword h
    exact ofText?_eq_unreadable_iff.2 (read_of_hasWord hlim hword h)
  · by_cases hv : ∃ v, Spells t v
    · obtain ⟨v, hv⟩ := hv
      cases hd : v.document? with
      | none => exact Or.inr (Or.inl (hscalar.2 ⟨v, hv, hd⟩))
      | some d =>
        have hroot : d.root = v := by
          cases v <;> cases hd <;> rfl
        exact Or.inl ⟨d, (hok d).2 (hroot ▸ hv)⟩
    · exact Or.inr (Or.inr (hnone.2 hv))

/-- Items stand for their values; a zero in front of a number is refused, and so is a word for no
number that ends the text early. -/
theorem accepts_exactly_short :
    WithinLimits "[0,1]" 5 ∧ Spells "[0,1]" (.array [.number (.int 0), .number (.int 1)]) ∧
    (¬ ∃ v, Spells "[01]" v) ∧
    HasWord "[-Infinity" "-Infinity" ∧
    ofText? "[-Infinity" 10 = .error (.unreadable "[-Infinity" (.nonFinite "-Infinity")) := by
  have hlim : WithinLimits "[0,1]" 5 := withinLimits_of_length (by decide) (by decide)
  have hzero : WithinLimits "[01]" 5 := withinLimits_of_length (by decide) (by decide)
  have hcut : WithinLimits "[-Infinity" 10 := withinLimits_of_length (by decide) (by decide)
  have hword : HasWord "[-Infinity" "-Infinity" :=
    ⟨1, [], .item, by decide, .firstItem (.root (.refl _)) (by decide) (.refl _)⟩
  refine ⟨hlim, ?_, ?_, hword, ?_⟩
  · exact ((accepts_exactly hlim).1 (.array [.number (.int 0), .number (.int 1)])).1 rfl
  · exact (accepts_exactly hzero).2.2.1.1 ⟨.missing .comma 2, by decide, rfl⟩
  · exact (accepts_exactly hcut).2.2.2.1 "-Infinity" (by decide) hword

end Document

end JsonShape
