import Mathlib.Data.List.Forall2

/-!
# Answers that may be errors

How an answer that is put together from others succeeds, and how it fails: a step and what follows
it, and the same step for all items of a list.
-/

namespace JsonShape

variable {α β ε δ : Type} {x : Except ε α} {e : ε}

/-! ### Answers and errors in other words -/

theorem map_eq_ok_iff {g : α → β} {b : β} : x.map g = .ok b ↔ ∃ a, x = .ok a ∧ g a = b := by
  cases x <;> simp [Except.map]

theorem exists_map_eq_ok_iff {g : α → β} : (∃ b, x.map g = .ok b) ↔ ∃ a, x = .ok a := by
  cases x <;> simp [Except.map]

theorem map_eq_error_iff {g : α → β} : x.map g = .error e ↔ x = .error e := by
  cases x <;> simp [Except.map]

theorem mapError_eq_ok_iff {f : ε → δ} {a : α} : x.mapError f = .ok a ↔ x = .ok a := by
  cases x with
  | ok b => exact ⟨fun h => congrArg _ (Except.ok.inj h), fun h => congrArg _ (Except.ok.inj h)⟩
  | error e => exact iff_of_false nofun nofun

theorem mapError_eq_error_iff {f : ε → δ} {d : δ} :
    x.mapError f = .error d ↔ ∃ e, x = .error e ∧ f e = d := by
  cases x with
  | ok a => exact iff_of_false nofun fun ⟨e, he, _⟩ => nomatch he
  | error e =>
    constructor
    · exact fun h => ⟨e, rfl, Except.error.inj h⟩
    · rintro ⟨_, ⟨⟩, rfl⟩
      rfl

theorem exists_error_iff_not_ok : (∃ e, x = .error e) ↔ ¬ ∃ a, x = .ok a := by
  cases x <;> simp

theorem exists_error_iff {bad : ε → Prop} (h : x = .error e) :
    (∃ d, x = .error d ∧ bad d) ↔ bad e := by
  constructor
  · rintro ⟨d, hd, hbad⟩
    obtain rfl := Except.error.inj (h.symm.trans hd)
    exact hbad
  · exact fun hbad => ⟨e, h, hbad⟩

/-! ### Two steps -/

theorem bind_eq_ok_iff {f : α → Except ε β} {b : β} :
    x >>= f = .ok b ↔ ∃ a, x = .ok a ∧ f a = .ok b := by
  cases x <;> simp [bind, Except.bind]

/-- The first of two steps fails, or the second one does. -/
theorem bind_eq_error_iff {f : α → Except ε β} :
    x >>= f = .error e ↔ x = .error e ∨ ∃ a, x = .ok a ∧ f a = .error e := by
  cases x <;> simp [bind, Except.bind]

theorem bind_ne_error {f : α → Except ε β} (hx : x ≠ .error e) (hf : ∀ a, f a ≠ .error e) :
    x >>= f ≠ .error e :=
  fun h => (bind_eq_error_iff.1 h).elim hx fun ⟨a, _, ha⟩ => hf a ha

/-! ### All items -/

section Items

variable {f : α → Except ε β} {l : List α} {m : List β}

theorem mapM_eq_ok_iff : l.mapM f = .ok m ↔ List.Forall₂ (fun a b => f a = .ok b) l m := by
  induction l generalizing m with
  | nil =>
    constructor
    · rintro ⟨⟩
      exact .nil
    · rintro ⟨⟩
      rfl
  | cons a l ih =>
    rw [List.mapM_cons, bind_eq_ok_iff]
    constructor
    · rintro ⟨b, hb, h⟩
      obtain ⟨bs, hbs, ⟨⟩⟩ := bind_eq_ok_iff.1 h
      exact .cons hb (ih.1 hbs)
    · rintro (_ | ⟨hb, hbs⟩)
      exact ⟨_, hb, bind_eq_ok_iff.2 ⟨_, ih.2 hbs, rfl⟩⟩

/-- The first item that fails decides how a list of them fails. -/
theorem mapM_eq_error_iff :
    l.mapM f = .error e ↔
      ∃ before a after, l = before ++ a :: after ∧ (∀ b ∈ before, ∃ c, f b = .ok c) ∧
        f a = .error e := by
  induction l with
  | nil =>
    refine iff_of_false nofun ?_
    rintro ⟨before, a, after, hl, -⟩
    exact absurd hl (by simp)
  | cons x l ih =>
    rw [List.mapM_cons, bind_eq_error_iff]
    constructor
    · rintro (hx | ⟨c, hx, h⟩)
      · exact ⟨[], x, l, rfl, nofun, hx⟩
      · obtain h | ⟨_, _, ⟨⟩⟩ := bind_eq_error_iff.1 h
        obtain ⟨before, a, after, rfl, hbefore, ha⟩ := ih.1 h
        exact ⟨x :: before, a, after, rfl, List.forall_mem_cons.2 ⟨⟨c, hx⟩, hbefore⟩, ha⟩
    · rintro ⟨_ | ⟨y, before⟩, a, after, hl, hbefore, ha⟩ <;> obtain ⟨rfl, rfl⟩ := List.cons.inj hl
      · exact Or.inl ha
      · obtain ⟨hy, hbefore⟩ := List.forall_mem_cons.1 hbefore
        obtain ⟨c, hc⟩ := hy
        have hrest := ih.2 ⟨before, a, after, rfl, hbefore, ha⟩
        exact Or.inr ⟨c, hc, bind_eq_error_iff.2 (Or.inl hrest)⟩

theorem exists_mapM (h : ∀ a ∈ l, ∃ b, f a = .ok b) : ∃ m, l.mapM f = .ok m := by
  cases hm : l.mapM f with
  | ok m => exact ⟨m, rfl⟩
  | error e =>
    obtain ⟨before, a, after, rfl, -, ha⟩ := mapM_eq_error_iff.1 hm
    obtain ⟨b, hb⟩ := h a (List.mem_append_right _ List.mem_cons_self)
    cases ha.symm.trans hb

theorem exists_of_mem_forall₂ {R : α → β → Prop} (h : List.Forall₂ R l m) {a : α} (ha : a ∈ l) :
    ∃ b ∈ m, R a b := by
  induction h with
  | nil => cases ha
  | @cons c d _ _ hcd _ ih =>
    rcases List.mem_cons.1 ha with rfl | ha
    · exact ⟨d, List.mem_cons_self, hcd⟩
    · obtain ⟨b, hb, hab⟩ := ih ha
      exact ⟨b, List.mem_cons_of_mem _ hb, hab⟩

theorem forall₂_congr_of_mem {R S : α → β → Prop} (h : ∀ a ∈ l, ∀ b, R a b ↔ S a b) :
    List.Forall₂ R l m ↔ List.Forall₂ S l m := by
  induction l generalizing m with
  | nil => rw [List.forall₂_nil_left_iff, List.forall₂_nil_left_iff]
  | cons a l ih =>
    obtain ⟨ha, hl⟩ := List.forall_mem_cons.1 h
    simp only [List.forall₂_cons_left_iff, ha, ih hl]

theorem forall₂_and_iff {R S : α → β → Prop} :
    List.Forall₂ (fun a b => R a b ∧ S a b) l m ↔ List.Forall₂ R l m ∧ List.Forall₂ S l m := by
  induction l generalizing m with
  | nil => simp
  | cons a l ih => cases m <;> simp [ih, and_and_and_comm]

end Items

end JsonShape
