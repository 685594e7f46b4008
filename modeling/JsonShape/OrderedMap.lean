/-!
# Maps in order of insertion

A map lists its entries in the order in which their keys were first put; putting a key again
replaces its value and keeps its place.  `upsert` is that operation on plain lists of pairs, and
`OrderedMap` is a list of pairs in which no key occurs twice.
-/

namespace JsonShape

variable {κ α : Type} [DecidableEq κ]

/-! ### Lists of pairs -/

/-- Gives `k` the value `v`: in place if `k` is there, at the end otherwise. -/
def upsert (k : κ) (v : α) : List (κ × α) → List (κ × α)
  | [] => [(k, v)]
  | e :: rest => if e.1 = k then (e.1, v) :: rest else e :: upsert k v rest

/-- The value of the first entry with the key. -/
def lookup? (k : κ) : List (κ × α) → Option α
  | [] => none
  | e :: rest => if e.1 = k then some e.2 else lookup? k rest

/-- The entries put one after another into an empty map. -/
def upsertAll (entries : List (κ × α)) : List (κ × α) :=
  entries.foldl (fun m e => upsert e.1 e.2 m) []

theorem mem_keys_upsert {k x : κ} {v : α} {l : List (κ × α)} :
    x ∈ (upsert k v l).map Prod.fst ↔ x = k ∨ x ∈ l.map Prod.fst := by
  induction l with
  | nil => simp [upsert]
  | cons e l ih => by_cases h : e.1 = k <;> grind [upsert]

theorem nodup_keys_upsert {k : κ} {v : α} {l : List (κ × α)} (h : (l.map Prod.fst).Nodup) :
    ((upsert k v l).map Prod.fst).Nodup := by
  induction l with
  | nil => simp [upsert]
  | cons e l ih =>
    rw [List.map_cons, List.nodup_cons] at h
    by_cases hk : e.1 = k
    · simpa [upsert, hk] using h
    · rw [upsert, if_neg hk, List.map_cons, List.nodup_cons, mem_keys_upsert]
      exact ⟨fun hx => hx.elim hk h.1, ih h.2⟩

theorem keys_upsert (k : κ) (v : α) (l : List (κ × α)) :
    (upsert k v l).map Prod.fst =
      if k ∈ l.map Prod.fst then l.map Prod.fst else l.map Prod.fst ++ [k] := by
  induction l with
  | nil => simp [upsert]
  | cons e l ih => by_cases h : e.1 = k <;> grind [upsert]

theorem lookup?_upsert (k x : κ) (v : α) (l : List (κ × α)) :
    lookup? x (upsert k v l) = if x = k then some v else lookup? x l := by
  induction l with
  | nil => grind [upsert, lookup?]
  | cons e l ih => by_cases h : e.1 = k <;> grind [upsert, lookup?]

theorem mem_keys_iff_lookup? {k : κ} {l : List (κ × α)} :
    k ∈ l.map Prod.fst ↔ ∃ v, lookup? k l = some v := by
  induction l with
  | nil => simp [lookup?]
  | cons e l ih =>
    rw [List.map_cons, List.mem_cons, lookup?]
    by_cases h : e.1 = k
    · simp [h]
    · rw [if_neg h, ← ih]
      simp [Ne.symm h]

theorem mem_iff_lookup? {k : κ} {v : α} {l : List (κ × α)} (h : (l.map Prod.fst).Nodup) :
    (k, v) ∈ l ↔ lookup? k l = some v := by
  induction l with
  | nil => simp [lookup?]
  | cons e l ih =>
    rw [List.map_cons, List.nodup_cons] at h
    rw [List.mem_cons, lookup?, Prod.ext_iff]
    by_cases hk : e.1 = k
    · have hm : (k, v) ∉ l := fun hm => h.1 (hk ▸ List.mem_map_of_mem hm)
      simp [hk, hm, eq_comm]
    · rw [if_neg hk, ← ih h.2]
      simp [Ne.symm hk]

/-! ### The map -/

/-- Entries with pairwise different keys, in order of first insertion. -/
structure OrderedMap (κ α : Type) where
  entries : List (κ × α)
  nodup : (entries.map Prod.fst).Nodup

namespace OrderedMap

def empty : OrderedMap κ α := ⟨[], by simp⟩

instance : EmptyCollection (OrderedMap κ α) := ⟨empty⟩

instance : Inhabited (OrderedMap κ α) := ⟨empty⟩

/-- Gives `k` the value `v`, at the place of its first insertion. -/
def insert (m : OrderedMap κ α) (k : κ) (v : α) : OrderedMap κ α :=
  ⟨upsert k v m.entries, nodup_keys_upsert m.nodup⟩

def get? (m : OrderedMap κ α) (k : κ) : Option α := lookup? k m.entries

/-- The keys, in order of first insertion. -/
def keys (m : OrderedMap κ α) : List κ := m.entries.map Prod.fst

def size (m : OrderedMap κ α) : Nat := m.entries.length

@[simp] theorem entries_insert (m : OrderedMap κ α) (k : κ) (v : α) :
    (m.insert k v).entries = upsert k v m.entries := rfl

omit [DecidableEq κ] in
@[simp] theorem entries_empty : (∅ : OrderedMap κ α).entries = [] := rfl

omit [DecidableEq κ] in
@[simp] theorem keys_empty : (∅ : OrderedMap κ α).keys = [] := rfl

@[simp] theorem get?_empty (k : κ) : (∅ : OrderedMap κ α).get? k = none := rfl

theorem get?_insert (m : OrderedMap κ α) (k x : κ) (v : α) :
    (m.insert k v).get? x = if x = k then some v else m.get? x :=
  lookup?_upsert k x v m.entries

theorem keys_insert (m : OrderedMap κ α) (k : κ) (v : α) :
    (m.insert k v).keys = if k ∈ m.keys then m.keys else m.keys ++ [k] :=
  keys_upsert k v m.entries

theorem mem_keys_insert {m : OrderedMap κ α} {k x : κ} {v : α} :
    x ∈ (m.insert k v).keys ↔ x = k ∨ x ∈ m.keys :=
  mem_keys_upsert

theorem mem_entries_iff {m : OrderedMap κ α} {k : κ} {v : α} :
    (k, v) ∈ m.entries ↔ m.get? k = some v :=
  mem_iff_lookup? m.nodup

end OrderedMap

end JsonShape
