import JsonShape.Json

/-!
# Ways into a value

A way into a value is a path of steps, each of which goes to the value of a field or to an item of
an array, by its number.  `Json.Opens` says that a way can be gone by opening objects: through
fields, and through arrays only at an object in front.  Such a way is one that passes neither an
item of an array that no object leads nor an item behind a leading object (`opens_iff`).
-/

namespace JsonShape

/-- A step from a value to one of its parts. -/
inductive Step
  | field (n : Nat)
  | item (n : Nat)
deriving DecidableEq

namespace Json

/-- The part of a value that a step goes to. -/
def child? : Json → Step → Option Json
  | .object fields, .field n => fields[n]?.map Prod.snd
  | .array items, .item n => items[n]?
  | _, _ => none

/-- The part of a value at the end of a path. -/
def at? : Json → List Step → Option Json
  | v, [] => some v
  | v, s :: p => (v.child? s).bind fun w => at? w p

theorem at?_cons_eq_some_iff {v w : Json} {s : Step} {p : List Step} :
    v.at? (s :: p) = some w ↔ ∃ u, v.child? s = some u ∧ u.at? p = some w := by
  rw [at?, Option.bind_eq_some_iff]

/-- An array with a single item has no other parts than those of the item. -/
theorem at?_singleton {v w : Json} {p : List Step} (h : (array [v]).at? p = some w) :
    array [v] = w ∨ ∃ q, v.at? q = some w := by
  cases p with
  | nil => exact Or.inl (Option.some.inj h)
  | cons s p =>
    obtain ⟨u, hu, hw⟩ := at?_cons_eq_some_iff.1 h
    cases s with
    | field n => cases hu
    | item n =>
      obtain rfl : u = v := List.mem_singleton.1 (List.mem_of_getElem? hu)
      exact Or.inr ⟨p, hw⟩

/-! ### What a path passes -/

/-- An object leads the items. -/
def isLed : List Json → Bool
  | .object _ :: _ => true
  | _ => false

theorem isLed_iff {items : List Json} :
    isLed items = true ↔ ∃ fields rest, items = .object fields :: rest := by
  unfold isLed
  split <;> simp_all

/-- Items that an object leads, and all others. -/
theorem cases_isLed {motive : List Json → Prop}
    (led : ∀ fields items, motive (.object fields :: items))
    (unled : ∀ items, isLed items = false → motive items) (items : List Json) : motive items := by
  cases h : isLed items with
  | false => exact unled items h
  | true =>
    obtain ⟨fields, rest, rfl⟩ := isLed_iff.1 h
    exact led fields rest

/-- The path goes through an item, by its number, of an array that is as said. -/
def Passes (C : List Json → Nat → Prop) (v : Json) (p : List Step) : Prop :=
  ∃ q i r items, p = q ++ .item i :: r ∧ v.at? q = some (.array items) ∧ C items i

/-- No object leads the items. -/
def Unled (items : List Json) (_ : Nat) : Prop := isLed items = false

/-- An object leads the items, and the number is that of another one. -/
def Behind (items : List Json) (i : Nat) : Prop := isLed items = true ∧ i ≠ 0

section Passes

variable {C : List Json → Nat → Prop} {v : Json}

theorem not_passes_nil : ¬ v.Passes C [] := by
  rintro ⟨q, i, r, items, hp, -, -⟩
  simp at hp

theorem passes_cons_iff {s : Step} {p : List Step} : v.Passes C (s :: p) ↔
    (∃ i items, s = .item i ∧ v = .array items ∧ C items i) ∨
      ∃ w, v.child? s = some w ∧ w.Passes C p := by
  constructor
  · rintro ⟨q, i, r, items, hp, hq, hC⟩
    cases q with
    | nil =>
      obtain ⟨rfl, rfl⟩ := List.cons.inj hp
      exact Or.inl ⟨i, items, rfl, Option.some.inj hq, hC⟩
    | cons s' q =>
      obtain ⟨rfl, rfl⟩ := List.cons.inj hp
      obtain ⟨w, hw, hq⟩ := at?_cons_eq_some_iff.1 hq
      exact Or.inr ⟨w, hw, q, i, r, items, rfl, hq, hC⟩
  · rintro (⟨i, items, rfl, rfl, hC⟩ | ⟨w, hw, q, i, r, items, rfl, hq, hC⟩)
    · exact ⟨[], i, p, items, rfl, rfl, hC⟩
    · exact ⟨s :: q, i, r, items, rfl, at?_cons_eq_some_iff.2 ⟨w, hw, hq⟩, hC⟩

end Passes

/-! ### Ways that open objects -/

/-- The path goes from the first value to the second through the fields of objects, and through
arrays only at an object in front. -/
inductive Opens : Json → List Step → Json → Prop
  | here (v : Json) : Opens v [] v
  | field {fields : List (Text × Json)} {n : Nat} {f : Text × Json} {p : List Step} {w : Json}
    (hf : fields[n]? = some f) (h : Opens f.2 p w) : Opens (.object fields) (.field n :: p) w
  | lead {fields : List (Text × Json)} {items : List Json} {p : List Step} {w : Json}
    (h : Opens (.object fields) p w) : Opens (.array (.object fields :: items)) (.item 0 :: p) w

theorem Opens.trans {u v w : Json} {p q : List Step} (h : u.Opens p v) (g : v.Opens q w) :
    u.Opens (p ++ q) w := by
  induction h with
  | here => exact g
  | field hf _ ih => exact .field hf (ih g)
  | lead _ ih => exact .lead (ih g)

/-- There is a way through each field. -/
theorem Opens.of_mem {fields : List (Text × Json)} {f : Text × Json} {p : List Step} {w : Json}
    (hf : f ∈ fields) (h : f.2.Opens p w) : ∃ q, (object fields).Opens q w := by
  obtain ⟨n, hn⟩ := List.mem_iff_getElem?.1 hf
  exact ⟨.field n :: p, .field hn h⟩

theorem Opens.at?_eq {v w : Json} {p : List Step} (h : v.Opens p w) : v.at? p = some w := by
  induction h with
  | here v => rfl
  | field hf _ ih =>
    rw [at?, child?, hf]
    exact ih
  | lead _ ih => exact ih

theorem Opens.not_passes {v w : Json} {p : List Step} (h : v.Opens p w) :
    ¬ v.Passes Unled p ∧ ¬ v.Passes Behind p := by
  induction h with
  | here v => exact ⟨not_passes_nil, not_passes_nil⟩
  | @field fields n f p w hf _ ih =>
    have hchild : (Json.object fields).child? (.field n) = some f.2 := by
      rw [child?, hf]
      rfl
    have hpasses {C : List Json → Nat → Prop} (hp : (Json.object fields).Passes C (.field n :: p)) :
        f.2.Passes C p := by
      rcases passes_cons_iff.1 hp with ⟨i, items, hs, -⟩ | ⟨u, hu, hp⟩
      · cases hs
      · rw [hchild] at hu
        rw [Option.some.inj hu]
        exact hp
    exact ⟨fun hp => ih.1 (hpasses hp), fun hp => ih.2 (hpasses hp)⟩
  | @lead fields items p w _ ih =>
    -- the step itself is to the object in front, so it is neither of the two
    have hpasses {C : List Json → Nat → Prop} (hC : ¬ C (.object fields :: items) 0)
        (hp : (Json.array (.object fields :: items)).Passes C (.item 0 :: p)) :
        (Json.object fields).Passes C p := by
      rcases passes_cons_iff.1 hp with ⟨i, vs, hs, hv, hCi⟩ | ⟨u, hu, hp⟩
      · rw [← Step.item.inj hs, ← Json.array.inj hv] at hCi
        exact absurd hCi hC
      · rw [← Option.some.inj hu] at hp
        exact hp
    refine ⟨fun hp => ih.1 (hpasses ?_ hp), fun hp => ih.2 (hpasses ?_ hp)⟩
    · simp [Unled, isLed]
    · simp [Behind]

/-- **A way opens objects exactly if it passes no item but the objects in front of arrays.** -/
theorem opens_iff {v w : Json} {p : List Step} : v.Opens p w ↔
    v.at? p = some w ∧ ¬ v.Passes Unled p ∧ ¬ v.Passes Behind p := by
  refine ⟨fun h => ⟨h.at?_eq, h.not_passes⟩, ?_⟩
  rintro ⟨hat, hunled, hbehind⟩
  induction p generalizing v with
  | nil =>
    obtain rfl : v = w := Option.some.inj hat
    exact .here v
  | cons s p ih =>
    obtain ⟨u, hu, hat⟩ := at?_cons_eq_some_iff.1 hat
    have hopens : u.Opens p w := by
      apply ih hat
      · intro hp
        exact hunled (passes_cons_iff.2 (Or.inr ⟨u, hu, hp⟩))
      · intro hp
        exact hbehind (passes_cons_iff.2 (Or.inr ⟨u, hu, hp⟩))
    unfold child? at hu
    split at hu
    · next fields n =>
      obtain ⟨f, hf, rfl⟩ := Option.map_eq_some_iff.1 hu
      exact .field hf hopens
    · next items i =>
      have hled : isLed items = true := by
        rw [← Bool.not_eq_false]
        intro h
        exact hunled (passes_cons_iff.2 (Or.inl ⟨i, items, rfl, rfl, h⟩))
      cases i with
      | succ i =>
        have hi : i + 1 ≠ 0 := by omega
        exact absurd (passes_cons_iff.2 (Or.inl ⟨i + 1, items, rfl, rfl, hled, hi⟩)) hbehind
      | zero =>
        obtain ⟨fields, rest, rfl⟩ := isLed_iff.1 hled
        obtain rfl : .object fields = u := Option.some.inj hu
        exact .lead hopens
    · cases hu

/-- A way can be cut anywhere. -/
theorem Opens.split {v w : Json} {p q : List Step} (h : v.Opens (p ++ q) w) :
    ∃ u, v.Opens p u ∧ u.Opens q w := by
  induction p generalizing v with
  | nil => exact ⟨v, .here v, h⟩
  | cons s p ih =>
    cases h with
    | field hf h =>
      obtain ⟨u, hu, hw⟩ := ih h
      exact ⟨u, .field hf hu, hw⟩
    | lead h =>
      obtain ⟨u, hu, hw⟩ := ih h
      exact ⟨u, .lead hu, hw⟩

end Json

end JsonShape
