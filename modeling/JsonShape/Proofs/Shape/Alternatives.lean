import Mathlib.Data.List.Nodup
import JsonShape.Proofs.Shape.Inferred

/-!
# What the elements of an array may be

The alternatives for the elements of an array are the members of their union, or the one shape that
all of them have.  They are the shapes of the elements without repetitions
(`alternatives_of_array`), and they determine the shape of the array (`of_array_eq_iff`).  So laws
of lists without repetitions are laws of arrays: elements that are appended add the alternatives
that are new, and another order of the elements is at most another order of the alternatives
(`alternatives_append_and_perm`).
-/

namespace JsonShape

/-! ### Lists without repetitions -/

theorem nodup_eraseDups {α : Type} [BEq α] [LawfulBEq α] (l : List α) : l.eraseDups.Nodup := by
  induction l using List.reverseRecOn with
  | nil => exact List.nodup_nil
  | append_singleton l x ih =>
    rw [eraseDups_concat]
    split
    · exact ih
    · next hx =>
      rw [List.nodup_append]
      refine ⟨ih, List.nodup_singleton x, ?_⟩
      intro y hy z hz hyz
      rw [List.mem_eraseDups, hyz, List.mem_singleton.1 hz] at hy
      exact hx hy

section Distinct

variable {α : Type} [DecidableEq α]

theorem eraseDups_filter (p : α → Bool) (l : List α) :
    (l.filter p).eraseDups = l.eraseDups.filter p := by
  induction l using List.reverseRecOn with
  | nil => rfl
  | append_singleton l x ih =>
    rw [List.filter_append, eraseDups_concat]
    by_cases hp : p x
    · rw [List.filter_cons_of_pos hp, List.filter_nil, eraseDups_concat, ih]
      by_cases hx : x ∈ l
      · simp [hx, hp]
      · simp [hx, hp]
    · rw [List.filter_cons_of_neg hp, List.filter_nil, List.append_nil, ih]
      by_cases hx : x ∈ l
      · simp [hx]
      · simp [hx, hp]

/-- Of what is appended, only what is new is kept. -/
theorem eraseDups_append_eq_filter (l m : List α) :
    (l ++ m).eraseDups = l.eraseDups ++ m.eraseDups.filter (· ∉ l.eraseDups) := by
  rw [List.eraseDups_append, List.removeAll, eraseDups_filter]
  congr 1
  apply List.filter_congr
  intro x _
  simp

theorem perm_eraseDups {l m : List α} (h : l.Perm m) : l.eraseDups.Perm m.eraseDups := by
  rw [List.perm_ext_iff_of_nodup (nodup_eraseDups l) (nodup_eraseDups m)]
  intro x
  rw [List.mem_eraseDups, List.mem_eraseDups]
  exact h.mem_iff

/-- What is kept stands in the order of its first occurrences. -/
theorem pairwise_idxOf_eraseDups (l : List α) :
    l.eraseDups.Pairwise fun x y => l.idxOf x < l.idxOf y := by
  induction l using List.reverseRecOn with
  | nil => exact .nil
  | append_singleton l x ih =>
    have hkept : l.eraseDups.Pairwise fun y z => (l ++ [x]).idxOf y < (l ++ [x]).idxOf z := by
      refine ih.imp_of_mem ?_
      intro y z hy hz hyz
      rw [List.idxOf_append_of_mem (List.mem_eraseDups.1 hy),
        List.idxOf_append_of_mem (List.mem_eraseDups.1 hz)]
      exact hyz
    rw [eraseDups_concat]
    split
    · exact hkept
    · next hx =>
      rw [List.pairwise_append]
      refine ⟨hkept, List.pairwise_singleton _ x, ?_⟩
      intro y hy z hz
      have hy : y ∈ l := List.mem_eraseDups.1 hy
      rw [List.mem_singleton.1 hz, List.idxOf_append_of_mem hy, List.idxOf_append_of_notMem hx]
      have hlt : l.idxOf y < l.length := List.idxOf_lt_length_of_mem hy
      omega

end Distinct

namespace Shape

/-! ### Alternatives -/

/-- What the elements of an array of the shape may be: the members of their union, or their only
shape. -/
def alternatives : Shape → List Shape
  | .array (.union ms) => ms
  | .array e => [e]
  | _ => []

/-- A union is inferred of the elements of an array only. -/
theorem of_ne_union (v : Json) (ms : List Shape) : of v ≠ .union ms := by
  cases v with
  | array items => cases items <;> simp [of]
  | _ => simp [of]

theorem of_array_cons (x : Json) (xs : List Json) :
    of (.array (x :: xs)) = .array (unionOfDistinct ((x :: xs).map of)) := by
  rw [of, ← ofAll, ofAll_eq_map, unionOf_eq_unionOfDistinct]
  intro s hs
  obtain ⟨v, -, rfl⟩ := List.mem_map.1 hs
  exact .closed v

/-- The shape of a value is no union, so it is not taken apart. -/
theorem alternatives_array_of (v : Json) : alternatives (.array (of v)) = [of v] := by
  rw [alternatives]
  exact of_ne_union v

/-- **The alternatives are the shapes of the elements, each of them once.** -/
theorem alternatives_of_array (items : List Json) :
    (of (.array items)).alternatives = (items.map of).eraseDups := by
  cases items with
  | nil => rfl
  | cons x xs =>
    rw [of_array_cons, unionOfDistinct]
    split
    · next s hs =>
      have hmem : s ∈ (x :: xs).map of := by
        rw [← List.mem_eraseDups, hs]
        exact List.mem_singleton.2 rfl
      obtain ⟨v, -, rfl⟩ := List.mem_map.1 hmem
      rw [hs, alternatives_array_of]
    · rfl

theorem mem_alternatives_iff {s : Shape} {items : List Json} :
    s ∈ (of (.array items)).alternatives ↔ ∃ v ∈ items, of v = s := by
  rw [alternatives_of_array, List.mem_eraseDups, List.mem_map]

/-- The alternatives determine the shape of an array. -/
theorem of_array_eq_iff {xs ys : List Json} : of (.array xs) = of (.array ys) ↔
    (of (.array xs)).alternatives = (of (.array ys)).alternatives := by
  constructor
  · exact congrArg alternatives
  · intro h
    have hempty (y : Json) (ys : List Json) : (of (.array (y :: ys))).alternatives ≠ [] :=
      List.ne_nil_of_mem (mem_alternatives_iff.2 ⟨y, List.mem_cons_self, rfl⟩)
    cases xs with
    | nil =>
      cases ys with
      | nil => rfl
      | cons y ys => exact absurd h.symm (hempty y ys)
    | cons x xs =>
      cases ys with
      | nil => exact absurd h (hempty x xs)
      | cons y ys =>
        rw [alternatives_of_array, alternatives_of_array] at h
        rw [of_array_cons, of_array_cons, unionOfDistinct, h]
        rfl

/-- Elements that are appended add the alternatives that are new. -/
theorem alternatives_append (xs ys : List Json) : (of (.array (xs ++ ys))).alternatives =
    (of (.array xs)).alternatives ++
      (of (.array ys)).alternatives.filter (· ∉ (of (.array xs)).alternatives) := by
  rw [alternatives_of_array, alternatives_of_array, alternatives_of_array, List.map_append,
    eraseDups_append_eq_filter]

theorem of_array_append {xs ys : List Json}
    (h : ∀ y ∈ ys, of y ∈ (of (.array xs)).alternatives) :
    of (.array (xs ++ ys)) = of (.array xs) := by
  have hnone : (of (.array ys)).alternatives.filter (· ∉ (of (.array xs)).alternatives) = [] := by
    rw [List.filter_eq_nil_iff]
    intro s hs
    obtain ⟨y, hy, rfl⟩ := mem_alternatives_iff.1 hs
    simpa using h y hy
  rw [of_array_eq_iff, alternatives_append, hnone, List.append_nil]

/-- **Order and repetition of elements show in the order of the alternatives only.**  The
alternatives for the elements of `xs ++ ys` are those for `xs`, in place, and behind them those for
`ys` that are not among them.  Elements whose shapes are among the alternatives change nothing, so
all elements may come twice; and elements in another order have the same alternatives in some
order. -/
theorem alternatives_append_and_perm (xs ys : List Json) :
    let alternativesOf (items : List Json) : List Shape := (of (.array items)).alternatives
    alternativesOf (xs ++ ys) =
      alternativesOf xs ++ (alternativesOf ys).filter (· ∉ alternativesOf xs) ∧
    ((∀ y ∈ ys, of y ∈ alternativesOf xs) → of (.array (xs ++ ys)) = of (.array xs)) ∧
    of (.array (xs ++ xs)) = of (.array xs) ∧
    ∀ zs : List Json, zs.Perm xs → (alternativesOf zs).Perm (alternativesOf xs) := by
  intro alternativesOf
  refine ⟨alternatives_append xs ys, of_array_append, of_array_append ?_, ?_⟩
  · intro x hx
    exact mem_alternatives_iff.2 ⟨x, hx, rfl⟩
  · intro zs hzs
    simp only [alternativesOf, alternatives_of_array]
    exact perm_eraseDups (hzs.map of)

/-- The arrays `[1, [1], "x"]` and `[[2], "y"]`, and the first one backwards. -/
theorem alternatives_append_and_perm_lists :
    let number (n : Int) : Json := .number (.int n)
    let xs : List Json := [number 1, .array [number 1], .string "x"]
    let ys : List Json := [.array [number 2], .string "y"]
    (∀ y ∈ ys, of y ∈ (of (.array xs)).alternatives) ∧ xs.reverse.Perm xs ∧
      of (.array (xs ++ ys)) = of (.array xs) ∧
      (of (.array xs.reverse)).alternatives.Perm (of (.array xs)).alternatives ∧
      (of (.array xs)).alternatives =
        [.scalar .number, .array (.scalar .number), .scalar .string] := by
  intro number xs ys
  have hys : ∀ y ∈ ys, of y ∈ (of (.array xs)).alternatives := by
    intro y hy
    rw [mem_alternatives_iff]
    rcases List.mem_pair.1 hy with rfl | rfl
    · exact ⟨.array [number 1], by simp [xs], rfl⟩
    · exact ⟨.string "x", by simp [xs], by rw [of, of]⟩
  have hperm : xs.reverse.Perm xs := List.reverse_perm xs
  have hxs : (of (.array xs)).alternatives =
      [.scalar .number, .array (.scalar .number), .scalar .string] := by decide
  obtain ⟨-, happend, -, hreverse⟩ := alternatives_append_and_perm xs ys
  exact ⟨hys, hperm, happend hys, hreverse _ hperm, hxs⟩

end Shape

end JsonShape
