import JsonShape.Proofs.History.Recency

/-!
# What a record leaves alone

A history may hold anything before a record: an input twice, an ident twice, more entries than are
kept.  A record puts its entry in front, takes the entries of the same input away and, from the end,
those that are too many; every other entry stays, and in its order (`record_frame`).  So behind the
latest records of several inputs there are only entries that were there before them
(`entries_after_records`).
-/

namespace JsonShape.History

/-! ### Items that are kept -/

section Lists

variable {α : Type}

theorem front_cons {n : Int} (h : 1 ≤ n) (x : α) (l : List α) :
    front n (x :: l) = x :: l.take (n.toNat - 1) := by
  obtain ⟨k, rfl⟩ := Int.eq_ofNat_of_zero_le (show 0 ≤ n by omega)
  obtain ⟨m, rfl⟩ := Nat.exists_eq_add_one.2 (show 0 < k by omega)
  rw [front_of_nat, List.take_succ_cons]
  rfl

/-- What is kept stands behind as many items as are kept of those before it. -/
theorem getElem?_filter_of_split {p : α → Bool} {x : α} (hx : p x = true) (before later : List α) :
    ((before ++ x :: later).filter p)[before.countP p]? = some x := by
  rw [List.filter_append, List.filter_cons_of_pos hx, List.countP_eq_length_filter,
    List.getElem?_append_right (Nat.le_refl _), Nat.sub_self, List.getElem?_cons_zero]

end Lists

/-! ### One record -/

variable {h : History}

theorem entries_record (hroom : 1 ≤ h.maxSize) (e : Entry) :
    (h.record e).entries =
      e :: (h.entries.filter (·.input ≠ e.input)).take (h.maxSize.toNat - 1) := by
  show front h.maxSize _ = _
  exact front_cons hroom e _

/-- **A record touches only what it must,** whatever the history was before: the entry comes first
and is found by its ident, no other entry has its input, and behind it stand the first of the former
entries with another input, as many as there is room for.  Each of them has the place that the ones
before it give it, and is gone exactly if that is beyond the size. -/
theorem record_frame (h : History) (hroom : 1 ≤ h.maxSize) (ident input output : Text)
    (stamp : Stamp) :
    let e : Entry := ⟨ident, input, output, stamp⟩
    let others := h.entries.filter (·.input ≠ input)
    (h.record e).entries = e :: others.take (h.maxSize.toNat - 1) ∧
    (∀ d ∈ (h.record e).entries.tail, d.input ≠ input) ∧
    (h.record e).find? ident = some e ∧
    (∀ before d later, h.entries = before ++ d :: later → d.input ≠ input →
      let place : Nat := before.countP (·.input ≠ input) + 1
      ((h.record e).entries[place]? = some d ↔ (place : Int) < h.maxSize)) ∧
    (h.record e).maxSize = h.maxSize := by
  intro e others
  have hentries : (h.record e).entries = e :: others.take (h.maxSize.toNat - 1) :=
    entries_record hroom e
  refine ⟨hentries, ?_, ?_, ?_, rfl⟩
  · intro d hd
    rw [hentries, List.tail_cons] at hd
    have hother := (List.mem_filter.1 (List.mem_of_mem_take hd)).2
    exact of_decide_eq_true hother
  · rw [find?, hentries]
    exact List.find?_cons_of_pos (decide_eq_true rfl)
  · intro before d later hsplit hd place
    have hat : others[before.countP (·.input ≠ input)]? = some d := by
      show (h.entries.filter _)[_]? = _
      rw [hsplit]
      refine getElem?_filter_of_split ?_ before later
      exact decide_eq_true hd
    rw [hentries, List.getElem?_cons_succ, List.getElem?_take]
    by_cases hplace : before.countP (·.input ≠ input) < h.maxSize.toNat - 1
    · rw [if_pos hplace, hat]
      exact iff_of_true rfl (by omega)
    · rw [if_neg hplace]
      exact iff_of_false nofun (by omega)

/-- A history with an input twice, an ident twice and more entries than it keeps.  The new entry
takes the place of both entries with its input, and only the first of the others stays. -/
theorem record_frame_repeated :
    let h : History := ⟨2, [⟨"1", "a", "x", 0⟩, ⟨"2", "b", "y", 0⟩, ⟨"2", "a", "z", 0⟩,
      ⟨"1", "b", "y", 0⟩]⟩
    let e : Entry := ⟨"2", "a", "w", 1⟩
    1 ≤ h.maxSize ∧ (h.record e).entries = [e, ⟨"2", "b", "y", 0⟩] ∧
      (h.record e).find? "2" = some e ∧ (h.record e).entries[2]? ≠ some ⟨"1", "b", "y", 0⟩ := by
  intro h e
  obtain ⟨hentries, -, hfind, hplace, -⟩ := record_frame h (by decide) "2" "a" "w" 1
  refine ⟨by decide, hentries.trans rfl, hfind, fun hlast => ?_⟩
  have hlt := (hplace (h.entries.take 3) ⟨"1", "b", "y", 0⟩ [] rfl (by decide)).1 hlast
  exact absurd hlt (by decide)

/-! ### Several records -/

/-- A record takes entries away from the front part and from the rest one by one. -/
theorem exists_record_append (n : Nat) (l rest : List Entry) (e : Entry) :
    ∃ k, (History.mk n (l ++ rest)).record e =
      ⟨n, ((History.mk n l).record e).entries ++ (rest.filter (·.input ≠ e.input)).take k⟩ := by
  refine ⟨n - (e :: l.filter (·.input ≠ e.input)).length, ?_⟩
  simp only [record, front_of_nat, List.filter_append]
  rw [← List.cons_append, List.take_append]

/-- **Records on any history** leave the latest of them in front, and behind them some of the former
entries, in their order, whose inputs were not recorded. -/
theorem entries_after_records (n : Nat) (l es : List Entry) :
    ∃ rest, rest.Sublist l ∧ (∀ d ∈ rest, d.input ∉ es.map Entry.input) ∧
      (History.mk n l).after (es.map Change.record) = ⟨n, (recency es).take n ++ rest⟩ := by
  induction es using List.reverseRecOn with
  | nil => exact ⟨l, .refl l, fun _ _ => List.not_mem_nil, by simp [after, recency]⟩
  | append_singleton es e ih =>
    obtain ⟨rest, hrest, hnew, hstate⟩ := ih
    obtain ⟨k, hk⟩ := exists_record_append n ((recency es).take n) rest e
    rw [record_take_recency] at hk
    refine ⟨(rest.filter (·.input ≠ e.input)).take k, ?_, ?_, ?_⟩
    · exact ((List.take_sublist _ _).trans List.filter_sublist).trans hrest
    · intro d hd
      obtain ⟨hd, hother⟩ := List.mem_filter.1 (List.mem_of_mem_take hd)
      rw [List.map_append, List.mem_append, List.map_singleton, List.mem_singleton, not_or]
      exact ⟨hnew d hd, of_decide_eq_true hother⟩
    · have hmap : (es ++ [e]).map Change.record = es.map Change.record ++ [.record e] :=
        List.map_append
      rw [hmap, after_concat, hstate]
      exact hk

end JsonShape.History
