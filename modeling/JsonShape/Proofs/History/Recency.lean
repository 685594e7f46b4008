import JsonShape.History
import Mathlib.Data.Finset.Dedup
import Mathlib.Data.Finset.Card
import Mathlib.Data.List.Induction

/-!
# Histories are recency lists

A history holds the front of what its records alone would leave: a list in which every record goes
to the front and displaces the one with its input (`recency`), which is the list of the latest
records of all inputs (`recency_eq_latest`).  Entries that a bound has dropped are never needed
again, because a record displaces one entry and adds one (`take_filter_take`); so it makes no
difference whether the bound is kept after every record or only at the end.
-/

namespace JsonShape.History

/-! ### Recency lists -/

/-- A record goes to the front and displaces the one with its input. -/
def moveToFront (l : List Entry) (e : Entry) : List Entry := e :: l.filter (·.input ≠ e.input)

/-- What records leave, one after another, where nothing is dropped. -/
def recency (es : List Entry) : List Entry := es.foldl moveToFront []

/-- The records of inputs that are not recorded again, the last one first. -/
def latest : List Entry → List Entry
  | [] => []
  | e :: es => if (es.map Entry.input).contains e.input then latest es else latest es ++ [e]

section Recency

variable {es : List Entry}

/-- Records leave themselves, and of what was there before them what has another input. -/
theorem foldl_moveToFront (l es : List Entry) :
    es.foldl moveToFront l =
      recency es ++ l.filter fun e => !(es.map Entry.input).contains e.input := by
  induction es generalizing l with
  | nil => simp [recency]
  | cons d es ih =>
    rw [recency, List.foldl_cons, List.foldl_cons, ih, ih (moveToFront [] d), List.append_assoc]
    congr 1
    simp only [moveToFront, List.filter_nil, List.filter_cons, List.filter_filter]
    have hfilter : (fun e : Entry => !(es.map Entry.input).contains e.input &&
        decide (e.input ≠ d.input)) =
        fun e => !((d :: es).map Entry.input).contains e.input := by
      funext e
      by_cases h : e.input = d.input <;> simp [h]
    rw [hfilter]
    split <;> simp

theorem recency_append (es fs : List Entry) :
    recency (es ++ fs) =
      recency fs ++ (recency es).filter fun e => !(fs.map Entry.input).contains e.input := by
  rw [recency, List.foldl_append, foldl_moveToFront]
  rfl

theorem recency_concat (es : List Entry) (e : Entry) :
    recency (es ++ [e]) = moveToFront (recency es) e := by
  rw [recency, List.foldl_append]
  rfl

/-- **Moving to the front leaves the latest records.** -/
theorem recency_eq_latest (es : List Entry) : recency es = latest es := by
  induction es with
  | nil => rfl
  | cons e es ih =>
    have happ : e :: es = [e] ++ es := rfl
    have hone : recency [e] = [e] := rfl
    rw [latest, ← ih, happ, recency_append, hone]
    cases h : (es.map Entry.input).contains e.input with
    | true => rw [if_pos rfl, List.filter_cons_of_neg (by rw [h]; decide), List.filter_nil,
        List.append_nil]
    | false => rw [if_neg (by decide), List.filter_cons_of_pos (by rw [h]; rfl), List.filter_nil]

theorem mem_inputs_recency {i : Text} :
    i ∈ (recency es).map Entry.input ↔ i ∈ es.map Entry.input := by
  rw [recency_eq_latest]
  induction es generalizing i with
  | nil => rfl
  | cons e es ih =>
    rw [latest, List.map_cons, List.mem_cons, ← ih]
    split
    · next h =>
      have hmem : e.input ∈ (latest es).map Entry.input := ih.2 (List.contains_iff_mem.1 h)
      exact ⟨Or.inr, fun hi => hi.elim (fun hi => hi ▸ hmem) id⟩
    · rw [List.map_append, List.mem_append, List.map_singleton, List.mem_singleton, or_comm]

/-- No input is there twice. -/
theorem nodup_inputs_recency (es : List Entry) : ((recency es).map Entry.input).Nodup := by
  induction es using List.reverseRecOn with
  | nil => exact List.nodup_nil
  | append_singleton es e ih =>
    rw [recency_concat, moveToFront, List.map_cons, List.nodup_cons]
    exact ⟨by simp, ih.sublist (List.filter_sublist.map _)⟩

theorem mem_of_mem_recency {e : Entry} (h : e ∈ recency es) : e ∈ es := by
  rw [recency_eq_latest] at h
  induction es with
  | nil => cases h
  | cons d es ih =>
    rw [latest] at h
    split at h
    · exact List.mem_cons_of_mem _ (ih h)
    · rcases List.mem_append.1 h with h | h
      · exact List.mem_cons_of_mem _ (ih h)
      · exact List.mem_cons.2 (Or.inl (List.mem_singleton.1 h))

/-- There are as many entries as different inputs were recorded. -/
theorem length_recency (es : List Entry) :
    (recency es).length = (es.map Entry.input).toFinset.card := by
  have hset : ((recency es).map Entry.input).toFinset = (es.map Entry.input).toFinset := by
    ext i
    rw [List.mem_toFinset, List.mem_toFinset, mem_inputs_recency]
  rw [← hset, List.toFinset_card_of_nodup (nodup_inputs_recency es), List.length_map]

/-- A latest record is among the first `n` exactly if fewer other inputs were recorded after it. -/
theorem mem_take_recency_iff {n : Nat} {before later : List Entry} {e : Entry}
    (h : e.input ∉ later.map Entry.input) :
    e ∈ (recency (before ++ e :: later)).take n ↔ (later.map Entry.input).toFinset.card < n := by
  have happ : before ++ e :: later = (before ++ [e]) ++ later := by simp
  obtain ⟨rest, hrest⟩ : ∃ rest, recency (before ++ e :: later) = recency later ++ e :: rest := by
    rw [happ, recency_append, recency_concat, moveToFront,
      List.filter_cons_of_pos (by simpa using h)]
    exact ⟨_, rfl⟩
  have hnodup := nodup_inputs_recency (before ++ e :: later)
  rw [hrest, List.map_append, List.map_cons, List.nodup_append] at hnodup
  have hnew : e ∉ recency later := fun he =>
    hnodup.2.2 _ (List.mem_map_of_mem he) _ List.mem_cons_self rfl
  rw [← length_recency, hrest]
  constructor
  · intro hmem
    refine Nat.lt_of_not_le fun hle => ?_
    rw [List.take_append_of_le_length hle] at hmem
    exact hnew (List.mem_of_mem_take hmem)
  · intro hlt
    obtain ⟨k, hk⟩ := Nat.exists_eq_add_one.2 (Nat.sub_pos_of_lt hlt)
    rw [List.take_append, List.mem_append, hk, List.take_succ_cons]
    exact Or.inr List.mem_cons_self

end Recency

/-! ### Bounds -/

/-- One entry more than are wanted is enough to have them when one input is displaced. -/
theorem take_filter_take {l : List Entry} (h : (l.map Entry.input).Nodup) (i : Text) (k : Nat) :
    ((l.take (k + 1)).filter (·.input ≠ i)).take k = (l.filter (·.input ≠ i)).take k := by
  induction l generalizing k with
  | nil => rfl
  | cons d l ih =>
    rw [List.map_cons, List.nodup_cons] at h
    rw [List.take_succ_cons]
    by_cases hd : d.input = i
    · -- no other entry has the input, so nothing else is displaced
      have hrest : ∀ e ∈ l, decide (e.input ≠ i) = true := fun e he =>
        decide_eq_true fun heq => h.1 (hd ▸ heq ▸ List.mem_map_of_mem he)
      have htake : ∀ e ∈ l.take k, decide (e.input ≠ i) = true := fun e he =>
        hrest e (List.mem_of_mem_take he)
      rw [List.filter_cons_of_neg (by simpa using hd), List.filter_cons_of_neg (by simpa using hd),
        List.filter_eq_self.2 hrest, List.filter_eq_self.2 htake, List.take_take, Nat.min_self]
    · rw [List.filter_cons_of_pos (by simpa using hd), List.filter_cons_of_pos (by simpa using hd)]
      cases k with
      | zero => rfl
      | succ k => rw [List.take_succ_cons, List.take_succ_cons, ih h.2]

theorem front_of_nat {α : Type} (n : Nat) (l : List α) : front n l = l.take n := by
  rw [front, if_pos (Int.natCast_nonneg n), Int.toNat_natCast]

/-- **One record:** the bound may as well be kept once after it. -/
theorem record_take_recency (n : Nat) (es : List Entry) (e : Entry) :
    (History.mk n ((recency es).take n)).record e =
      ⟨n, (recency (es ++ [e])).take n⟩ := by
  rw [record, recency_concat, moveToFront, front_of_nat]
  cases n with
  | zero => rfl
  | succ k =>
    rw [List.take_succ_cons, List.take_succ_cons, take_filter_take (nodup_inputs_recency es)]

/-! ### Runs -/

/-- What is done to a history. -/
inductive Change
  | record (e : Entry)
  | clear

/-- The history after a change. -/
def apply (h : History) : Change → History
  | .record e => h.record e
  | .clear => h.clear

/-- The history after changes, one after another. -/
def after (h : History) (cs : List Change) : History := cs.foldl apply h

def Change.entry? : Change → Option Entry
  | .record e => some e
  | .clear => none

/-- The entries that were recorded since the last clearing, in their order. -/
def recorded (cs : List Change) : List Entry :=
  ((cs.reverse.takeWhile fun c => c.entry?.isSome).filterMap Change.entry?).reverse

theorem recorded_concat_record (cs : List Change) (e : Entry) :
    recorded (cs ++ [.record e]) = recorded cs ++ [e] := by
  simp [recorded, Change.entry?]

theorem recorded_concat_clear (cs : List Change) : recorded (cs ++ [.clear]) = [] := by
  simp [recorded, Change.entry?]

theorem after_concat (h : History) (cs : List Change) (c : Change) :
    h.after (cs ++ [c]) = (h.after cs).apply c := by
  rw [after, List.foldl_append]
  rfl

/-- A run on an empty history leaves the front of the recency list. -/
theorem after_empty (n : Nat) (cs : List Change) :
    (empty n).after cs = ⟨n, (recency (recorded cs)).take n⟩ := by
  induction cs using List.reverseRecOn with
  | nil => simp [after, empty, recorded, recency]
  | append_singleton cs c ih =>
    rw [after_concat, ih]
    cases c with
    | record e =>
      rw [recorded_concat_record]
      exact record_take_recency n _ e
    | clear =>
      rw [recorded_concat_clear]
      simp [apply, clear, empty, recency]

/-- **A history is a bounded recency list.**  After any records and clearings it holds the first `n`
entries of what the records since the last clearing leave when each of them goes to the front and
displaces the one with its input.  Those are the latest records of all inputs, the last one first,
so no input is there twice; and a latest record is gone exactly if `n` other inputs were recorded
after it. -/
theorem entries_after_changes (n : Nat) (cs : List Change) :
    ((empty n).after cs).entries = ((recorded cs).foldl moveToFront []).take n ∧
    ((empty n).after cs).entries = (latest (recorded cs)).take n ∧
    (((empty n).after cs).entries.map Entry.input).Nodup ∧
    ((empty n).after cs).entries.length ≤ n ∧
    ∀ before e later, recorded cs = before ++ e :: later → e.input ∉ later.map Entry.input →
      (e ∉ ((empty n).after cs).entries ↔ n ≤ (later.map Entry.input).toFinset.card) := by
  rw [after_empty]
  refine ⟨rfl, by rw [recency_eq_latest], ?_, List.length_take_le _ _, ?_⟩
  · exact (nodup_inputs_recency _).sublist ((List.take_sublist _ _).map _)
  · intro before e later hsplit hlast
    rw [hsplit, mem_take_recency_iff hlast, Nat.not_lt]

/-- Of two records only the later one is kept where there is room for one, also after a clearing. -/
theorem entries_after_changes_evicted :
    (⟨"1", "a", "x", 0⟩ : Entry) ∉
      ((empty 1).after [.clear, .record ⟨"1", "a", "x", 0⟩, .record ⟨"2", "b", "y", 1⟩]).entries :=
  ((entries_after_changes 1 _).2.2.2.2 [] ⟨"1", "a", "x", 0⟩ [⟨"2", "b", "y", 1⟩] rfl
    (by decide)).2 (by decide)

end JsonShape.History
