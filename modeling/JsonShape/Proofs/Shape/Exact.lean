import JsonShape.Proofs.Registry.Skeleton
import JsonShape.Proofs.Shape.Alternatives

/-!
# Shapes of closed values are exact

The shape of a value whose objects are left closed is made of the shapes of the values that are
nested in it through arrays, and of what stands for the elements of those arrays (`arises_of`).  For
the elements of an array stands their common shape, or a union that has the shape of each of them
once, in the order of first occurrence (`isElementOf_of_array`).  So every value inhabits its shape,
each alternative in there is the shape of some element, and neither a name nor a union among the
members of a union is part of it (`of_is_exact`).
-/

namespace JsonShape

/-! ### Parts of values and shapes -/

/-- The second value is the first one or is nested in it through arrays alone. -/
inductive Json.Nests : Json → Json → Prop
  | refl (v : Json) : Nests v v
  | item {items : List Json} {v w : Json} (hv : v ∈ items) (h : Nests v w) :
    Nests (.array items) w

theorem Json.Nests.trans {u v w : Json} (h : u.Nests v) (g : v.Nests w) : u.Nests w := by
  induction h with
  | refl => exact g
  | item hv _ ih => exact .item hv (ih g)

mutual

/-- To prove something of all values that are left closed, prove it of an array from its items, and
of every other value outright. -/
theorem Json.closed_induction {P : Json → Prop}
    (single : ∀ (v : Json) (k : Kind), v.kind? = some k → P v)
    (array : ∀ items : List Json, (∀ v ∈ items, P v) → P (.array items)) : ∀ v : Json, P v
  | .null => single _ .null rfl
  | .bool _ => single _ .boolean rfl
  | .number _ => single _ .number rfl
  | .string _ => single _ .string rfl
  | .object _ => single _ .object rfl
  | .array items => array items (closed_induction_items single array items)

theorem Json.closed_induction_items {P : Json → Prop}
    (single : ∀ (v : Json) (k : Kind), v.kind? = some k → P v)
    (array : ∀ items : List Json, (∀ v ∈ items, P v) → P (.array items)) :
    ∀ (items : List Json), ∀ v ∈ items, P v
  | x :: items, v, hv => by
    rcases List.mem_cons.1 hv with hv | hv
    · rw [hv]
      exact closed_induction single array x
    · exact closed_induction_items single array items v hv

end

namespace Shape

/-- The second shape is the first one or a part of it. -/
inductive HasPart : Shape → Shape → Prop
  | refl (s : Shape) : HasPart s s
  | element {e t : Shape} (h : HasPart e t) : HasPart (.array e) t
  | member {ms : List Shape} {s t : Shape} (hs : s ∈ ms) (h : HasPart s t) : HasPart (.union ms) t

theorem HasPart.trans {s t u : Shape} (h : HasPart s t) (g : HasPart t u) : HasPart s u := by
  induction h with
  | refl => exact g
  | element _ ih => exact .element (ih g)
  | member hs _ ih => exact .member hs (ih g)

theorem hasPart_of_mem_alternatives {s t : Shape} (h : s ∈ t.alternatives) : HasPart t s := by
  unfold alternatives at h
  split at h
  · exact .element (.member h (.refl s))
  · rw [List.mem_singleton.1 h]
    exact .element (.refl _)
  · cases h

/-- The shapes of the values nested in a value are parts of its own. -/
theorem hasPart_of_nests {v w : Json} (h : v.Nests w) : HasPart (of v) (of w) := by
  induction h with
  | refl v => exact .refl _
  | item hv _ ih =>
    have hpart : HasPart (of (.array _)) (of _) :=
      hasPart_of_mem_alternatives (mem_alternatives_iff.2 ⟨_, hv, rfl⟩)
    exact hpart.trans ih

/-- The shape is that of a value nested in `v`, or stands for the elements of an array nested
in `v`. -/
def Arises (v : Json) (t : Shape) : Prop :=
  (∃ w, v.Nests w ∧ of w = t) ∨ ∃ items, v.Nests (.array items) ∧ of (.array items) = .array t

theorem Arises.item {items : List Json} {v : Json} {t : Shape} (hv : v ∈ items)
    (h : Arises v t) : Arises (.array items) t := by
  rcases h with ⟨w, hw, he⟩ | ⟨ws, hws, he⟩
  · exact Or.inl ⟨w, .item hv hw, he⟩
  · exact Or.inr ⟨ws, .item hv hws, he⟩

/-- **Nothing else is part of the shape of a value.** -/
theorem arises_of (v : Json) : ∀ t : Shape, HasPart (of v) t → Arises v t := by
  induction v using Json.closed_induction with
  | single v k hk =>
    intro t h
    rw [of_eq_scalar hk] at h
    cases h
    exact Or.inl ⟨v, .refl v, of_eq_scalar hk⟩
  | array items ih =>
    intro t h
    cases items with
    | nil =>
      cases h
      exact Or.inl ⟨_, .refl _, rfl⟩
    | cons x xs =>
      have hof := of_array_cons x xs
      -- whatever is part of an alternative is part of the shape of an element
      have hsome : ∀ s ∈ (of (.array (x :: xs))).alternatives, HasPart s t →
          Arises (.array (x :: xs)) t := by
        intro s hs hst
        obtain ⟨v, hv, rfl⟩ := mem_alternatives_iff.1 hs
        exact (ih v hv t hst).item hv
      generalize unionOfDistinct ((x :: xs).map of) = e at hof
      rw [hof] at h hsome
      cases h with
      | refl => exact Or.inl ⟨_, .refl _, hof⟩
      | element h =>
        cases h with
        | refl => exact Or.inr ⟨x :: xs, .refl _, hof⟩
        | element h => exact hsome _ (List.mem_singleton.2 rfl) (.element h)
        | member hs h => exact hsome _ hs h

/-! ### Elements -/

/-- The shape says what the items of an array are, and nothing else: it is the shape of all of them,
or a union of all their shapes, which are told apart and ordered by their first occurrences. -/
def IsElementOf (items : List Json) (e : Shape) : Prop :=
  (∀ v ∈ items, of v = e) ∨
  ∃ ms, e = .union ms ∧ 2 ≤ ms.length ∧ ms.Nodup ∧ (∀ s, s ∈ ms ↔ ∃ v ∈ items, of v = s) ∧
    ms.Pairwise fun s t => (items.map of).idxOf s < (items.map of).idxOf t

theorem isElementOf_of_array {items : List Json} {e : Shape} (h : of (.array items) = .array e) :
    IsElementOf items e := by
  have halternatives := alternatives_of_array items
  have hmem (s : Shape) : s ∈ (of (.array items)).alternatives ↔ ∃ v ∈ items, of v = s :=
    mem_alternatives_iff
  have hlegible := legible_of (.array items)
  rw [h] at halternatives hmem hlegible
  cases e with
  | union ms =>
    have hms : ms = (items.map of).eraseDups := halternatives
    refine Or.inr ⟨ms, rfl, hlegible.1, ?_, hmem, ?_⟩
    · rw [hms]
      exact nodup_eraseDups _
    · rw [hms]
      exact pairwise_idxOf_eraseDups _
  | _ =>
    refine Or.inl fun v hv => ?_
    exact List.mem_singleton.1 ((hmem (of v)).2 ⟨v, hv, rfl⟩)

theorem exists_element {items : List Json} (h : items ≠ []) :
    ∃ e, of (.array items) = .array e := by
  cases items with
  | nil => exact absurd rfl h
  | cons x xs => exact ⟨_, of_array_cons x xs⟩

/-- A part that is no union is the shape of a value nested in `v`. -/
theorem exists_nested_of_hasPart {v : Json} {t : Shape} (h : HasPart (of v) t)
    (ht : ∀ ms, t ≠ .union ms) : ∃ w, v.Nests w ∧ of w = t := by
  rcases arises_of v t h with hw | ⟨items, hitems, he⟩
  · exact hw
  · -- it stands for the items of an array, so it is the shape of the first of them
    rcases isElementOf_of_array he with hall | ⟨ms, hms, -⟩
    · cases items with
      | nil => cases he
      | cons x xs =>
        have hx : Json.Nests (.array (x :: xs)) x := .item List.mem_cons_self (.refl x)
        exact ⟨x, hitems.trans hx, hall x List.mem_cons_self⟩
    · exact absurd hms (ht ms)

/-- An array shape is the shape of an array that is not empty. -/
theorem exists_array_of_hasPart {v : Json} {e : Shape} (h : HasPart (of v) (.array e)) :
    ∃ items, items ≠ [] ∧ v.Nests (.array items) ∧ of (.array items) = .array e := by
  obtain ⟨w, hw, he⟩ := exists_nested_of_hasPart h (by simp)
  cases w with
  | array items =>
    refine ⟨items, ?_, hw, he⟩
    rintro rfl
    cases he
  | _ => cases he

theorem not_hasPart_named (v : Json) (n : Text) : ¬ HasPart (of v) (.named n) := by
  intro h
  obtain ⟨w, -, hw⟩ := exists_nested_of_hasPart h (by simp)
  have href := references_of w
  rw [hw] at href
  cases href

/-- The members of a union are shapes of elements, and the shape of no value is a union. -/
theorem not_mem_of_hasPart_union {v : Json} {ms : List Shape} (ns : List Shape)
    (h : HasPart (of v) (.union ms)) : .union ns ∉ ms := by
  intro hns
  rcases arises_of v _ h with ⟨w, -, he⟩ | ⟨items, -, he⟩
  · exact of_ne_union w ms he
  · have hmem : .union ns ∈ (of (.array items)).alternatives := by
      rw [he]
      exact hns
    obtain ⟨w, -, hw⟩ := mem_alternatives_iff.1 hmem
    exact of_ne_union w ns hw

/-- **The shape of a value is sound and exact.**  The value inhabits it, whatever the registry.
Each array that is nested in the value and not empty has its shape in there, with an element shape
that says what its items are and nothing else; no other array shapes are in there, and all of them
are about all items of an array.  No name is part of the shape, and no union a member of a union. -/
theorem of_is_exact (v : Json) :
    (∀ reg : Registry, Inhabits reg v (of v)) ∧
    (∀ items, items ≠ [] → v.Nests (.array items) →
      ∃ e, of (.array items) = .array e ∧ HasPart (of v) (.array e) ∧ IsElementOf items e) ∧
    (∀ e, HasPart (of v) (.array e) →
      (∃ items, items ≠ [] ∧ v.Nests (.array items) ∧ of (.array items) = .array e) ∧
        ∀ items, e.examined items = items) ∧
    (∀ n, ¬ HasPart (of v) (.named n)) ∧
    ∀ ms ns, HasPart (of v) (.union ms) → .union ns ∉ ms := by
  refine ⟨fun reg => inhabits_of v, fun items hne hitems => ?_, fun e he => ⟨?_, ?_⟩,
    not_hasPart_named v, fun ms ns => not_mem_of_hasPart_union ns⟩
  · obtain ⟨e, he⟩ := exists_element hne
    exact ⟨e, he, he ▸ hasPart_of_nests hitems, isElementOf_of_array he⟩
  · exact exists_array_of_hasPart he
  · intro items
    cases e with
    | named n => exact absurd (he.trans (.element (.refl _))) (not_hasPart_named v n)
    | _ => rfl

/-- The array `[[1, "x", 2], [], [{}]]` has three arrays for its elements. -/
theorem of_is_exact_lists :
    let number (n : Int) : Json := .number (.int n)
    let mixed : List Json := [number 1, .string "x", number 2]
    let items : List Json := [.array mixed, .array [], .array [.object []]]
    let pair : Shape := .union [.scalar .number, .scalar .string]
    let lists : Shape := .union [.array pair, .emptyArray, .array (.scalar .object)]
    let v : Json := .array items
    (items ≠ [] ∧ v.Nests (.array items) ∧ mixed ≠ [] ∧ v.Nests (.array mixed)) ∧
      (of v = .array lists ∧ IsElementOf items lists) ∧
      (of (.array mixed) = .array pair ∧ HasPart (of v) (.array pair) ∧
        IsElementOf mixed pair) ∧
      ∀ ns, Shape.union ns ∉ [.array pair, .emptyArray, .array (.scalar .object)] := by
  intro number mixed items pair lists v
  have hmixed : v.Nests (.array mixed) := .item List.mem_cons_self (.refl _)
  have hof : of v = .array lists := by decide
  obtain ⟨-, hexact, -, -, hunion⟩ := of_is_exact v
  obtain ⟨e, he, -, helements⟩ := hexact items (List.cons_ne_nil _ _) (.refl v)
  obtain ⟨f, hf, hpart, hpair⟩ := hexact mixed (List.cons_ne_nil _ _) hmixed
  obtain rfl : lists = e := Shape.array.inj (hof.symm.trans he)
  obtain rfl : pair = f := Shape.array.inj hf
  refine ⟨⟨List.cons_ne_nil _ _, .refl v, List.cons_ne_nil _ _, hmixed⟩, ⟨hof, helements⟩,
    ⟨hf, hpart, hpair⟩, fun ns => hunion _ ns ?_⟩
  rw [hof]
  exact .element (.refl lists)

end Shape

end JsonShape
