import JsonShape.Proofs.Shape.Alternatives

/-!
# Unions are made by texts

Of the shapes with one text a union keeps the first (`firsts_eq_newcomers`); one more shape stays
out if its text is there (`firsts_concat`).  So each text is kept once, and shapes are all kept
exactly if no text comes twice (`firsts_eq_self_iff`): a union of what is kept is the same union.

The text of a union is the text of alternatives (`text_unionOf`), whether one shape is left and
stands bare or several stand in parentheses.  So it is made of the texts alone, and a shape may give
way to any other with its text (`unionOf_by_texts`).
-/

namespace JsonShape.Shape

/-! ### What is kept -/

/-- The shapes whose text none of the shapes in front of them has. -/
def newcomers (ss : List Shape) : List Shape :=
  (ss.zipIdx.filter fun p => !(texts (ss.take p.2)).contains p.1.text).map Prod.fst

theorem newcomers_concat (ss : List Shape) (s : Shape) [Decidable (s.text ∈ texts ss)] :
    newcomers (ss ++ [s]) =
      if s.text ∈ texts ss then newcomers ss else newcomers ss ++ [s] := by
  -- in front of a shape of `ss` stand the same shapes as before
  have hfront : ss.zipIdx.filter (fun p =>
        !(texts ((ss ++ [s]).take p.2)).contains p.1.text) =
      ss.zipIdx.filter fun p => !(texts (ss.take p.2)).contains p.1.text := by
    apply List.filter_congr
    intro p hp
    have hlt : p.2 < ss.length := List.snd_lt_of_mem_zipIdx hp
    rw [List.take_append_of_le_length (Nat.le_of_lt hlt)]
  rw [newcomers, List.zipIdx_append, List.filter_append, hfront, List.map_append, ← newcomers]
  by_cases hs : s.text ∈ texts ss
  · simp [hs]
  · simp [hs]

/-- **A union keeps the first shape of each text.** -/
theorem firsts_eq_newcomers (ss : List Shape) : firsts ss = newcomers ss := by
  induction ss using List.reverseRecOn with
  | nil => rfl
  | append_singleton ss s ih => rw [firsts_concat, newcomers_concat, ih]

/-- Each text is kept once, in the order in which the texts came. -/
theorem texts_firsts (ss : List Shape) : texts (firsts ss) = (texts ss).eraseDups := by
  induction ss using List.reverseRecOn with
  | nil => rfl
  | append_singleton ss s ih =>
    rw [firsts_concat, texts_append, texts, texts, eraseDups_concat, ← ih]
    split
    · rfl
    · rw [texts_append, texts, texts]

theorem firsts_eq_self_iff {ss : List Shape} : firsts ss = ss ↔ (texts ss).Nodup := by
  constructor
  · intro h
    rw [← h, texts_firsts]
    exact nodup_eraseDups (texts ss)
  · intro h
    induction ss using List.reverseRecOn with
    | nil => rfl
    | append_singleton ss s ih =>
      rw [texts_append, texts, texts, List.nodup_append] at h
      have hs : s.text ∉ texts ss := fun hs => h.2.2 _ hs _ (List.mem_singleton.2 rfl) rfl
      rw [firsts_concat, if_neg hs, ih h.1]

theorem firsts_firsts (ss : List Shape) : firsts (firsts ss) = firsts ss := by
  rw [firsts_eq_self_iff, texts_firsts]
  exact nodup_eraseDups (texts ss)

/-! ### The union -/

theorem unionOf_of_length_ne_one {ss : List Shape} (h : (firsts ss).length ≠ 1) :
    unionOf ss = .union (firsts ss) := by
  unfold unionOf
  split
  · next s hs => exact absurd (congrArg List.length hs) h
  · rfl

theorem unionOf_firsts (ss : List Shape) : unionOf (firsts ss) = unionOf ss := by
  rw [unionOf, firsts_firsts]
  rfl

/-- A shape that stands bare is written as the union of it alone would be. -/
theorem text_unionOf (ss : List Shape) :
    (unionOf ss).text = unionText (texts ss).eraseDups := by
  rw [← texts_firsts]
  unfold unionOf
  split
  · next s hs => rw [hs, texts, texts, unionText]
  · rw [text]

theorem text_unionOf_congr {ss ts : List Shape} (h : texts ts = texts ss) :
    (unionOf ts).text = (unionOf ss).text := by
  rw [text_unionOf, text_unionOf, h]

/-- **A union is a normal form of shapes told apart by their texts.**  It has the shapes whose text
is new, in order; one alone is its own union.  What is kept has each text once, and is kept again as
it is, so its union is the same.  The text of the union comes from the texts of the shapes alone, so
it stays if one shape, or all of them, give way to others with their texts. -/
theorem unionOf_by_texts (ss : List Shape) :
    let kept := newcomers ss
    (∀ s, kept = [s] → unionOf ss = s) ∧ (kept.length ≠ 1 → unionOf ss = .union kept) ∧
    (texts kept = (texts ss).eraseDups ∧ newcomers kept = kept ∧ unionOf kept = unionOf ss) ∧
    ((unionOf ss).text = unionText (texts ss).eraseDups ∧
      ∀ ts, texts ts = texts ss → (unionOf ts).text = (unionOf ss).text) ∧
    ∀ before s t after, ss = before ++ s :: after → t.text = s.text →
      (unionOf (before ++ t :: after)).text = (unionOf ss).text := by
  intro kept
  have hkept : kept = firsts ss := (firsts_eq_newcomers ss).symm
  rw [hkept]
  refine ⟨?_, unionOf_of_length_ne_one, ⟨texts_firsts ss, ?_, unionOf_firsts ss⟩,
    ⟨text_unionOf ss, fun ts => text_unionOf_congr⟩, ?_⟩
  · intro s hs
    rw [unionOf, hs]
  · rw [← firsts_eq_newcomers, firsts_firsts]
  · rintro before s t after rfl ht
    apply text_unionOf_congr
    rw [texts_append, texts_append, texts, texts, ht]

/-- Shapes that are written as `number`, `string` or `string[]`, some of them as names. -/
theorem unionOf_by_texts_repeated :
    let number : Shape := .scalar .number
    let string : Shape := .scalar .string
    let strings : Shape := .array (.union [string])
    let ss : List Shape :=
      [number, .union [number], string, .named "number", strings, .named "string[]"]
    let ts : List Shape :=
      [.named "number", number, string, .union [number], .named "string[]", .array string]
    (newcomers ss = [number, string, strings] ∧ newcomers [number, .union [number]] = [number] ∧
        texts ts = texts ss ∧ (Shape.named "string").text = string.text) ∧
      unionOf ss = .union [number, string, strings] ∧
      unionOf [number, .union [number]] = number ∧
      unionOf [number, string, strings] = unionOf ss ∧
      (unionOf ts).text = (unionOf ss).text ∧
      (unionOf [number, .union [number], .named "string", .named "number", strings,
        .named "string[]"]).text = (unionOf ss).text ∧
      (unionOf ss).text = "(number | string | string[])" := by
  intro number string strings ss ts
  have hss : newcomers ss = [number, string, strings] := by decide
  have hone : newcomers [number, .union [number]] = [number] := by decide
  have hts : texts ts = texts ss := by decide
  have hname : (Shape.named "string").text = string.text := by decide
  obtain ⟨-, hunion, ⟨-, -, hagain⟩, ⟨htext, htexts⟩, hreplaced⟩ := unionOf_by_texts ss
  obtain ⟨halone, -⟩ := unionOf_by_texts [number, .union [number]]
  rw [hss] at hunion hagain
  exact ⟨⟨hss, hone, hts, hname⟩, hunion (by decide), halone number hone, hagain, htexts ts hts,
    hreplaced [number, .union [number]] string (.named "string") _ rfl hname,
    htext.trans (by decide)⟩

end JsonShape.Shape
