import JsonShape.Datum.Literal
import JsonShape.Proofs.Answers

/-!
# JSON trees of loose values

The parts of a loose value are the items of a list and the values of a dictionary, but not its keys;
a path of numbers leads from part to part.  There is trouble where a path ends if the key there
cannot be displayed, or else if the value there is foreign (`Datum.troubleAt?`).  A loose value has
a JSON tree unless there is trouble somewhere, and then the first one is told, first in the order of
paths (`Json.ofDatum?_eq_error_iff`).  The tree has the shape of the value (`Datum.Mirrors`).

Only an integer of too many digits keeps a key from being displayed (`Datum.exists_display_iff`), so
where there is none, what is told is the first foreign value.
-/

namespace JsonShape

namespace Datum

/-! ### Parts -/

/-- What a JSON tree is made of: the items of a list, and the values of a dictionary. -/
def parts : Datum → List Datum
  | .list xs => xs
  | .dict es => es.map Prod.snd
  | _ => []

/-- The keys that the parts of a dictionary stand under. -/
def keys : Datum → List Datum
  | .dict es => es.map Prod.fst
  | _ => []

/-- What a path leads to, from part to part. -/
def at? : Datum → List Nat → Option Datum
  | d, [] => some d
  | d, i :: p => d.parts[i]?.bind fun x => at? x p

/-- Neither null, a truth value, a number or a text, nor a list or a dictionary. -/
def isForeign : Datum → Bool
  | .null | .bool _ | .int _ | .double _ | .text _ | .list _ | .dict _ => false
  | _ => true

/-- The first foreign value that a path leads to: no other stands on a path that comes before.  A
path comes before those that go on from its end, and before those through later parts. -/
def FirstForeign (d x : Datum) : Prop :=
  ∃ p, d.at? p = some x ∧ x.isForeign = true ∧
    ∀ q y, d.at? q = some y → y.isForeign = true → ¬ List.Lex (· < ·) q p

/-- What keeps the key of a part from being displayed. -/
def keyError? (d : Datum) (i : Nat) : Option DisplayError :=
  match d.keys[i]?.map display with
  | some (.error e) => some e
  | _ => none

/-- What is wrong where a path ends: the key there cannot be displayed, or else the value there is
foreign. -/
def troubleAt? : Datum → List Nat → Option Json.TreeError
  | d, [] => if d.isForeign then some (.foreign d) else none
  | d, i :: p =>
    let below := d.parts[i]?.bind fun x => troubleAt? x p
    if p = [] then ((d.keyError? i).map .key).or below else below

/-- The first trouble: there is none on a path that comes before. -/
def FirstTrouble (d : Datum) (e : Json.TreeError) : Prop :=
  ∃ p, d.troubleAt? p = some e ∧ ∀ q f, d.troubleAt? q = some f → ¬ List.Lex (· < ·) q p

/-- A loose value and a JSON value of the same shape: scalars of the same kind and value, as many
items in the same order, and as many entries in the same order under the texts of their keys. -/
inductive Mirrors : Datum → Json → Prop
  | null : Mirrors .null .null
  | bool (b : Bool) : Mirrors (.bool b) (.bool b)
  | int (i : Int) : Mirrors (.int i) (.number (.int i))
  | double (d : Double) : Mirrors (.double d) (.number (.double d))
  | text (t : Text) : Mirrors (.text t) (.string t)
  | list {xs : List Datum} {vs : List Json} (h : List.Forall₂ Mirrors xs vs) :
    Mirrors (.list xs) (.array vs)
  | dict {es : List (Datum × Datum)} {fs : List (Text × Json)}
    (hkeys : es.map (fun e => e.1.display) = fs.map fun f => .ok f.1)
    (h : List.Forall₂ Mirrors (es.map Prod.snd) (fs.map Prod.snd)) : Mirrors (.dict es) (.object fs)

theorem sizeOf_lt_of_mem_parts {d x : Datum} (h : x ∈ d.parts) : sizeOf x < sizeOf d := by
  cases d with
  | list xs =>
    have hlt : sizeOf x < sizeOf xs := List.sizeOf_lt_of_mem h
    rw [Datum.list.sizeOf_spec]
    omega
  | dict es =>
    obtain ⟨⟨k, y⟩, he, rfl⟩ := List.mem_map.1 h
    have hlt := List.sizeOf_lt_of_mem he
    rw [Prod.mk.sizeOf_spec] at hlt
    rw [Datum.dict.sizeOf_spec]
    show sizeOf y < _
    omega
  | _ => cases h

/-- What holds of a value whenever it holds of its parts holds of all values. -/
theorem parts_induction {motive : Datum → Prop}
    (step : ∀ d, (∀ x ∈ d.parts, motive x) → motive d) (d : Datum) : motive d :=
  step d fun x _ => parts_induction step x
termination_by sizeOf d
decreasing_by exact sizeOf_lt_of_mem_parts ‹_›

theorem parts_of_isForeign {d : Datum} (h : d.isForeign = true) : d.parts = [] := by
  cases d with
  | list | dict => cases h
  | _ => rfl

theorem at?_cons_eq_some_iff {d x : Datum} {i : Nat} {p : List Nat} :
    d.at? (i :: p) = some x ↔ ∃ y, d.parts[i]? = some y ∧ y.at? p = some x := by
  rw [at?, Option.bind_eq_some_iff]

theorem keyError?_eq_some_iff {d : Datum} {i : Nat} {e : DisplayError} :
    d.keyError? i = some e ↔ ∃ k, d.keys[i]? = some k ∧ k.display = .error e := by
  rw [keyError?]
  cases d.keys[i]? with
  | none => simp
  | some k =>
    cases hk : k.display <;> simp [hk]

theorem keyError?_eq_none_iff {d : Datum} {i : Nat} :
    d.keyError? i = none ↔ ∀ k, d.keys[i]? = some k → ∃ t, k.display = .ok t := by
  rw [keyError?]
  cases d.keys[i]? with
  | none => simp
  | some k =>
    cases hk : k.display <;> simp [hk]

/-! ### The first trouble -/

section Trouble

variable {d x y : Datum} {e f : Json.TreeError} {i : Nat} {p : List Nat}

theorem troubleAt?_nil_eq_some_iff :
    d.troubleAt? [] = some e ↔ d.isForeign = true ∧ e = .foreign d := by
  rw [troubleAt?]
  cases d.isForeign <;> simp [eq_comm]

/-- Trouble with the key of a part comes before trouble with the part itself. -/
theorem troubleAt?_cons_eq_some_iff :
    d.troubleAt? (i :: p) = some e ↔
      (p = [] ∧ ∃ k, d.keyError? i = some k ∧ e = .key k) ∨
        (p = [] → d.keyError? i = none) ∧ ∃ x, d.parts[i]? = some x ∧ x.troubleAt? p = some e := by
  rw [troubleAt?]
  by_cases hp : p = []
  · cases hk : d.keyError? i with
    | none => simp [hp, Option.bind_eq_some_iff]
    | some k => simp [hp, @eq_comm _ e]
  · simp [hp, Option.bind_eq_some_iff]

/-- There is one first trouble. -/
theorem FirstTrouble.unique (he : d.FirstTrouble e) (hf : d.FirstTrouble f) : e = f := by
  obtain ⟨p, hp, hpmin⟩ := he
  obtain ⟨q, hq, hqmin⟩ := hf
  obtain rfl : p = q := by
    refine List.lex_trichotomous (fun m n hmn hnm => ?_) (hpmin q f hq) (hqmin p e hp)
    omega
  exact Option.some.inj (hp.symm.trans hq)

/-- What has parts is not foreign. -/
theorem isForeign_of_part (hi : d.parts[i]? = some y) : d.isForeign = false := by
  refine Bool.eq_false_iff.2 fun hd => ?_
  rw [parts_of_isForeign hd] at hi
  cases hi

theorem FirstTrouble.of_key {k : DisplayError} (hd : d.isForeign = false)
    (hk : d.keyError? i = some k) (hbefore : ∀ j < i, ∀ q, d.troubleAt? (j :: q) = none) :
    d.FirstTrouble (.key k) := by
  refine ⟨[i], troubleAt?_cons_eq_some_iff.2 (Or.inl ⟨rfl, k, hk, rfl⟩), fun q f hq hlex => ?_⟩
  cases hlex with
  | nil =>
    rw [(troubleAt?_nil_eq_some_iff.1 hq).1] at hd
    cases hd
  | rel hji =>
    rw [hbefore _ hji] at hq
    cases hq
  | cons hlex => cases hlex

/-- The first trouble of a part is that of the whole if its key is displayed and there is no trouble
with the parts before. -/
theorem FirstTrouble.of_part (hi : d.parts[i]? = some y) (hk : d.keyError? i = none)
    (h : y.FirstTrouble e) (hbefore : ∀ j < i, ∀ q, d.troubleAt? (j :: q) = none) :
    d.FirstTrouble e := by
  obtain ⟨p, hp, hmin⟩ := h
  refine ⟨i :: p, troubleAt?_cons_eq_some_iff.2 (Or.inr ⟨fun _ => hk, y, hi, hp⟩),
    fun q f hq hlex => ?_⟩
  cases hlex with
  | nil =>
    have hd := (troubleAt?_nil_eq_some_iff.1 hq).1
    rw [isForeign_of_part hi] at hd
    cases hd
  | rel hji =>
    rw [hbefore _ hji] at hq
    cases hq
  | cons hlex =>
    rcases troubleAt?_cons_eq_some_iff.1 hq with ⟨-, k, hkey, -⟩ | ⟨-, z, hz, hq⟩
    · rw [hk] at hkey
      cases hkey
    · obtain rfl := Option.some.inj (hi.symm.trans hz)
      exact hmin _ f hq hlex

end Trouble

/-! ### Keys that are displayed -/

mutual

/-- The integers in a datum, at any depth. -/
def integers : Datum → List Int
  | .int i => [i]
  | .tuple xs | .set xs | .list xs => integersOf xs
  | .dict es => entryIntegers es
  | _ => []

def integersOf : List Datum → List Int
  | [] => []
  | x :: xs => integers x ++ integersOf xs

def entryIntegers : List (Datum × Datum) → List Int
  | [] => []
  | (k, v) :: es => integers k ++ integers v ++ entryIntegers es

end

/-- An integer that has as many digits at most as are written. -/
def Writable (i : Int) : Prop := i.natAbs < tenTo Numeral.maxDigits

theorem exists_intLiteral_iff {i : Int} : (∃ t, intLiteral i = .ok t) ↔ Writable i := by
  rw [intLiteral, Writable]
  split <;> simp [*]

mutual

/-- **A datum has a literal exactly if all its integers are writable.** -/
theorem exists_literal_iff :
    ∀ d : Datum, (∃ t, d.literal = .ok t) ↔ ∀ i ∈ d.integers, Writable i
  | .null | .bool _ | .double _ | .text _ | .bytes _ | .date _ => iff_of_true ⟨_, rfl⟩ nofun
  | .int _ => exists_intLiteral_iff.trans List.forall_mem_singleton.symm
  | .tuple xs | .set xs | .list xs => exists_map_eq_ok_iff.trans (exists_literals_iff xs)
  | .dict es => exists_map_eq_ok_iff.trans (exists_entryLiterals_iff es)

theorem exists_literals_iff :
    ∀ xs : List Datum, (∃ ts, literals xs = .ok ts) ↔ ∀ i ∈ integersOf xs, Writable i
  | [] => iff_of_true ⟨_, rfl⟩ nofun
  | x :: xs => by
    rw [integersOf, List.forall_mem_append, ← exists_literal_iff x, ← exists_literals_iff xs]
    simp only [literals, bind_eq_ok_iff]
    constructor
    · rintro ⟨_, t, ht, ts, hts, -⟩
      exact ⟨⟨t, ht⟩, ts, hts⟩
    · rintro ⟨⟨t, ht⟩, ts, hts⟩
      exact ⟨_, t, ht, ts, hts, rfl⟩

theorem exists_entryLiterals_iff : ∀ es : List (Datum × Datum),
    (∃ ts, entryLiterals es = .ok ts) ↔ ∀ i ∈ entryIntegers es, Writable i
  | [] => iff_of_true ⟨_, rfl⟩ nofun
  | (k, v) :: es => by
    rw [entryIntegers, List.forall_mem_append, List.forall_mem_append, ← exists_literal_iff k,
      ← exists_literal_iff v, ← exists_entryLiterals_iff es]
    simp only [entryLiterals, bind_eq_ok_iff]
    constructor
    · rintro ⟨_, key, hk, value, hv, ts, hts, -⟩
      exact ⟨⟨⟨key, hk⟩, value, hv⟩, ts, hts⟩
    · rintro ⟨⟨⟨key, hk⟩, value, hv⟩, ts, hts⟩
      exact ⟨_, key, hk, value, hv, ts, hts, rfl⟩

end

mutual

/-- Room on the stack is not what a literal lacks. -/
theorem literal_ne_tooDeep : ∀ d : Datum, d.literal ≠ .error .tooDeep
  | .null | .bool _ | .double _ | .text _ | .bytes _ | .date _ => nofun
  | .int i => by
    rw [literal, intLiteral]
    split <;> nofun
  | .tuple xs | .set xs | .list xs => mt map_eq_error_iff.1 (literals_ne_tooDeep xs)
  | .dict es => mt map_eq_error_iff.1 (entryLiterals_ne_tooDeep es)

theorem literals_ne_tooDeep : ∀ xs : List Datum, literals xs ≠ .error .tooDeep
  | [] => nofun
  | x :: xs => bind_ne_error (literal_ne_tooDeep x) fun _ =>
    bind_ne_error (literals_ne_tooDeep xs) fun _ => nofun

theorem entryLiterals_ne_tooDeep :
    ∀ es : List (Datum × Datum), entryLiterals es ≠ .error .tooDeep
  | [] => nofun
  | (k, v) :: es => bind_ne_error (literal_ne_tooDeep k) fun _ =>
    bind_ne_error (literal_ne_tooDeep v) fun _ =>
      bind_ne_error (entryLiterals_ne_tooDeep es) fun _ => nofun

end

theorem display_ne_tooDeep (d : Datum) : d.display ≠ .error .tooDeep := by
  cases d with
  | text t => exact nofun
  | _ => exact literal_ne_tooDeep _

theorem exists_display_iff {d : Datum} :
    (∃ t, d.display = .ok t) ↔ ∀ i ∈ d.integers, Writable i := by
  cases d with
  | text t => exact iff_of_true ⟨t, rfl⟩ nofun
  | _ => exact exists_literal_iff _

/-- No key that can be reached has an integer in it that is too long to be written. -/
def HasShortKeys (d : Datum) : Prop :=
  ∀ p x, d.at? p = some x → ∀ k ∈ x.keys, ∀ i ∈ k.integers, Writable i

theorem HasShortKeys.keyError? {d : Datum} (h : d.HasShortKeys) (i : Nat) :
    d.keyError? i = none :=
  keyError?_eq_none_iff.2 fun k hk => exists_display_iff.2 (h [] d rfl k (List.mem_of_getElem? hk))

theorem HasShortKeys.of_parts {d : Datum} (hkeys : ∀ k ∈ d.keys, ∀ i ∈ k.integers, Writable i)
    (hparts : ∀ x ∈ d.parts, x.HasShortKeys) : d.HasShortKeys := by
  rintro (_ | ⟨i, p⟩) x hx
  · obtain rfl := Option.some.inj hx
    exact hkeys
  · obtain ⟨y, hy, hx⟩ := at?_cons_eq_some_iff.1 hx
    exact hparts y (List.mem_of_getElem? hy) p x hx

theorem HasShortKeys.part {d x : Datum} {i : Nat} (h : d.HasShortKeys)
    (hi : d.parts[i]? = some x) : x.HasShortKeys :=
  fun p y hp => h (i :: p) y (at?_cons_eq_some_iff.2 ⟨x, hi, hp⟩)

/-- Then the only trouble is with foreign values. -/
theorem HasShortKeys.troubleAt?_eq_some_iff {d : Datum} {p : List Nat} {e : Json.TreeError}
    (h : d.HasShortKeys) :
    d.troubleAt? p = some e ↔ ∃ x, d.at? p = some x ∧ x.isForeign = true ∧ e = .foreign x := by
  induction p generalizing d with
  | nil => simp [troubleAt?_nil_eq_some_iff, at?]
  | cons i p ih =>
    simp only [troubleAt?_cons_eq_some_iff, at?_cons_eq_some_iff, h.keyError? i, implies_true,
      true_and, reduceCtorEq, false_and, exists_false, and_false, false_or]
    constructor
    · rintro ⟨y, hy, hp⟩
      obtain ⟨x, hx, hforeign⟩ := (ih (h.part hy)).1 hp
      exact ⟨x, ⟨y, hy, hx⟩, hforeign⟩
    · rintro ⟨x, ⟨y, hy, hx⟩, hforeign⟩
      exact ⟨y, hy, (ih (h.part hy)).2 ⟨x, hx, hforeign⟩⟩

theorem HasShortKeys.firstTrouble_iff {d : Datum} {e : Json.TreeError} (h : d.HasShortKeys) :
    d.FirstTrouble e ↔ ∃ x, e = .foreign x ∧ d.FirstForeign x := by
  simp only [FirstTrouble, FirstForeign, h.troubleAt?_eq_some_iff]
  constructor
  · rintro ⟨p, ⟨x, hp, hforeign, rfl⟩, hmin⟩
    exact ⟨x, rfl, p, hp, hforeign, fun q y hq hy => hmin q _ ⟨y, hq, hy, rfl⟩⟩
  · rintro ⟨x, rfl, p, hp, hforeign, hmin⟩
    exact ⟨p, ⟨x, hp, hforeign, rfl⟩, fun q f ⟨y, hq, hy, _⟩ => hmin q y hq hy⟩

end Datum

namespace Json

open Datum

/-! ### Items and entries -/

theorem ofItems?_eq_mapM (xs : List Datum) : ofItems? xs = xs.mapM ofDatum? := by
  induction xs with
  | nil => rfl
  | cons x xs ih =>
    rw [ofItems?, ih, List.mapM_cons]
    rfl

/-- The field of an entry. -/
def entryField (e : Datum × Datum) : Except TreeError (Text × Json) := do
  let name ← e.1.display.mapError .key
  let v ← ofDatum? e.2
  .ok (name, v)

theorem ofEntries?_eq_mapM (es : List (Datum × Datum)) : ofEntries? es = es.mapM entryField := by
  induction es with
  | nil => rfl
  | cons e es ih =>
    rw [ofEntries?, ih, List.mapM_cons, entryField]
    cases e.1.display.mapError TreeError.key with
    | error f => rfl
    | ok name => cases ofDatum? e.2 <;> rfl

theorem entryField_eq_ok_iff {e : Datum × Datum} {f : Text × Json} :
    entryField e = .ok f ↔ e.1.display = .ok f.1 ∧ ofDatum? e.2 = .ok f.2 := by
  simp only [entryField, bind_eq_ok_iff, mapError_eq_ok_iff]
  constructor
  · rintro ⟨name, hname, v, hv, h⟩
    obtain rfl := Except.ok.inj h
    exact ⟨hname, hv⟩
  · rintro ⟨hname, hv⟩
    exact ⟨_, hname, _, hv, rfl⟩

/-- The key of an entry is displayed before its value is taken. -/
theorem entryField_eq_error_iff {e : Datum × Datum} {f : TreeError} :
    entryField e = .error f ↔
      (∃ k, e.1.display = .error k ∧ f = .key k) ∨
        (∃ t, e.1.display = .ok t) ∧ ofDatum? e.2 = .error f := by
  simp only [entryField, bind_eq_error_iff, mapError_eq_error_iff, mapError_eq_ok_iff, reduceCtorEq,
    and_false, exists_false, or_false, exists_and_right, @eq_comm _ f]

section Tree

variable {d : Datum}

/-! ### Parts and their trees -/

/-- A part has a tree, and its key is displayed. -/
structure IsTaken (d : Datum) (i : Nat) : Prop where
  key : d.keyError? i = none
  part : ∀ x, d.parts[i]? = some x → ∃ v, ofDatum? x = .ok v

theorem isTaken_list_iff {xs : List Datum} {i : Nat} :
    IsTaken (.list xs) i ↔ ∀ x, xs[i]? = some x → ∃ v, ofDatum? x = .ok v :=
  ⟨IsTaken.part, fun h => ⟨rfl, h⟩⟩

/-- A part of a dictionary is taken if its entry has a field. -/
theorem isTaken_dict_iff {es : List (Datum × Datum)} {i : Nat} :
    IsTaken (.dict es) i ↔ ∀ e, es[i]? = some e → ∃ f, entryField e = .ok f := by
  have hkeys : (Datum.dict es).keys[i]? = es[i]?.map Prod.fst := List.getElem?_map
  have hparts : (Datum.dict es).parts[i]? = es[i]?.map Prod.snd := List.getElem?_map
  constructor
  · rintro ⟨hkey, hpart⟩ e he
    rw [he] at hkeys hparts
    obtain ⟨t, ht⟩ := keyError?_eq_none_iff.1 hkey _ hkeys
    obtain ⟨v, hv⟩ := hpart _ hparts
    exact ⟨(t, v), entryField_eq_ok_iff.2 ⟨ht, hv⟩⟩
  · refine fun h => ⟨keyError?_eq_none_iff.2 fun k hk => ?_, fun x hx => ?_⟩
    · obtain ⟨e, he, rfl⟩ := Option.map_eq_some_iff.1 (hkeys.symm.trans hk)
      obtain ⟨f, hf⟩ := h e he
      exact ⟨f.1, (entryField_eq_ok_iff.1 hf).1⟩
    · obtain ⟨e, he, rfl⟩ := Option.map_eq_some_iff.1 (hparts.symm.trans hx)
      obtain ⟨f, hf⟩ := h e he
      exact ⟨f.2, (entryField_eq_ok_iff.1 hf).2⟩

/-- Where there is a tree, the value is not foreign, and all its parts are taken. -/
theorem isTaken_of_ofDatum? {v : Json} (h : ofDatum? d = .ok v) :
    d.isForeign = false ∧ ∀ i, IsTaken d i := by
  cases d with
  | null | bool | int | double | text =>
    exact ⟨rfl, fun i => ⟨rfl, fun x hx => by cases hx⟩⟩
  | bytes | date | tuple | set => cases h
  | list xs =>
    rw [ofDatum?, map_eq_ok_iff, ofItems?_eq_mapM] at h
    obtain ⟨vs, hvs, -⟩ := h
    refine ⟨rfl, fun i => isTaken_list_iff.2 fun x hx => ?_⟩
    obtain ⟨v, -, hv⟩ := exists_of_mem_forall₂ (mapM_eq_ok_iff.1 hvs) (List.mem_of_getElem? hx)
    exact ⟨v, hv⟩
  | dict es =>
    rw [ofDatum?, map_eq_ok_iff, ofEntries?_eq_mapM] at h
    obtain ⟨fs, hfs, -⟩ := h
    refine ⟨rfl, fun i => isTaken_dict_iff.2 fun e he => ?_⟩
    obtain ⟨f, -, hf⟩ := exists_of_mem_forall₂ (mapM_eq_ok_iff.1 hfs) (List.mem_of_getElem? he)
    exact ⟨f, hf⟩

/-- **How a value fails:** it is foreign, or the first of its parts that is not taken fails, by its
key or by itself. -/
theorem exists_of_error {e : TreeError} (h : ofDatum? d = .error e) :
    d.isForeign = true ∧ e = .foreign d ∨
      ∃ i, (∀ j < i, IsTaken d j) ∧ d.isForeign = false ∧
        ((∃ k, d.keyError? i = some k ∧ e = .key k) ∨
          d.keyError? i = none ∧ ∃ x, d.parts[i]? = some x ∧ ofDatum? x = .error e) := by
  cases d with
  | null | bool | int | double | text => cases h
  | bytes | date | tuple | set => exact Or.inl ⟨rfl, (Except.error.inj h).symm⟩
  | list xs =>
    rw [ofDatum?, map_eq_error_iff, ofItems?_eq_mapM] at h
    obtain ⟨before, x, after, rfl, hbefore, hx⟩ := mapM_eq_error_iff.1 h
    refine Or.inr ⟨before.length, fun j hj => isTaken_list_iff.2 fun y hy => ?_, rfl,
      Or.inr ⟨rfl, x, ?_, hx⟩⟩
    · rw [List.getElem?_append_left hj] at hy
      exact hbefore y (List.mem_of_getElem? hy)
    · simp [parts]
  | dict es =>
    rw [ofDatum?, map_eq_error_iff, ofEntries?_eq_mapM] at h
    obtain ⟨before, entry, after, rfl, hbefore, hentry⟩ := mapM_eq_error_iff.1 h
    have hkey : (Datum.dict (before ++ entry :: after)).keys[before.length]? = some entry.1 := by
      simp [keys]
    have hpart : (Datum.dict (before ++ entry :: after)).parts[before.length]? = some entry.2 := by
      simp [parts]
    refine Or.inr ⟨before.length, fun j hj => isTaken_dict_iff.2 fun e he => ?_, rfl, ?_⟩
    · rw [List.getElem?_append_left hj] at he
      exact hbefore e (List.mem_of_getElem? he)
    · rcases entryField_eq_error_iff.1 hentry with ⟨k, hk, rfl⟩ | ⟨hk, hvalue⟩
      · exact Or.inl ⟨k, keyError?_eq_some_iff.2 ⟨_, hkey, hk⟩, rfl⟩
      · refine Or.inr ⟨keyError?_eq_none_iff.2 fun k' hk' => ?_, _, hpart, hvalue⟩
        rwa [Option.some.inj (hk'.symm.trans hkey)]

/-! ### Trees and trouble -/

/-- There is no trouble where there is a tree. -/
theorem troubleAt?_of_ofDatum? {v : Json} (h : ofDatum? d = .ok v) (p : List Nat) :
    d.troubleAt? p = none := by
  obtain ⟨hforeign, htaken⟩ := isTaken_of_ofDatum? h
  refine Option.eq_none_iff_forall_ne_some.2 fun e he => ?_
  induction p generalizing d v with
  | nil =>
    rw [(troubleAt?_nil_eq_some_iff.1 he).1] at hforeign
    cases hforeign
  | cons i p ih =>
    rcases troubleAt?_cons_eq_some_iff.1 he with ⟨-, k, hk, -⟩ | ⟨-, x, hx, he⟩
    · rw [(htaken i).key] at hk
      cases hk
    · obtain ⟨w, hw⟩ := (htaken i).part x hx
      obtain ⟨hforeign, htaken⟩ := isTaken_of_ofDatum? hw
      exact ih hw hforeign htaken he

/-- **What is told is the first trouble.** -/
theorem firstTrouble_of_error {e : TreeError} (h : ofDatum? d = .error e) : d.FirstTrouble e := by
  induction d using parts_induction with
  | step d ih =>
    rcases exists_of_error h with ⟨hd, rfl⟩ | ⟨i, htaken, hd, h⟩
    · exact ⟨[], troubleAt?_nil_eq_some_iff.2 ⟨hd, rfl⟩, fun q f _ => List.not_lex_nil⟩
    · have hbefore : ∀ j < i, ∀ q, d.troubleAt? (j :: q) = none := by
        intro j hj q
        refine Option.eq_none_iff_forall_ne_some.2 fun e he => ?_
        rcases troubleAt?_cons_eq_some_iff.1 he with ⟨-, k, hk, -⟩ | ⟨-, x, hx, he⟩
        · rw [(htaken j hj).key] at hk
          cases hk
        · obtain ⟨v, hv⟩ := (htaken j hj).part x hx
          rw [troubleAt?_of_ofDatum? hv] at he
          cases he
      rcases h with ⟨k, hk, rfl⟩ | ⟨hk, x, hx, h⟩
      · exact .of_key hd hk hbefore
      · exact (ih x (List.mem_of_getElem? hx) h).of_part hx hk hbefore

/-- **The tree has the shape of the value,** and is the only one that has. -/
theorem ofDatum?_eq_ok_iff {v : Json} : ofDatum? d = .ok v ↔ d.Mirrors v := by
  induction d using parts_induction generalizing v with
  | step d ih =>
    cases d with
    | null | bool | int | double | text =>
      constructor
      · rintro ⟨⟩
        constructor
      · rintro ⟨⟩
        rfl
    | bytes | date | tuple | set => exact iff_of_false nofun nofun
    | list xs =>
      have hitems {vs : List Json} : ofItems? xs = .ok vs ↔ List.Forall₂ Mirrors xs vs := by
        rw [ofItems?_eq_mapM, mapM_eq_ok_iff]
        exact forall₂_congr_of_mem fun x hx w => ih x hx
      rw [ofDatum?, map_eq_ok_iff]
      constructor
      · rintro ⟨vs, hvs, rfl⟩
        exact .list (hitems.1 hvs)
      · rintro (_ | _ | _ | _ | _ | h)
        exact ⟨_, hitems.2 h, rfl⟩
    | dict es =>
      have hentries {fs : List (Text × Json)} : ofEntries? es = .ok fs ↔
          es.map (fun e => e.1.display) = fs.map (fun f => .ok f.1) ∧
            List.Forall₂ Mirrors (es.map Prod.snd) (fs.map Prod.snd) := by
        rw [ofEntries?_eq_mapM, mapM_eq_ok_iff]
        refine (forall₂_congr_of_mem fun e he f => entryField_eq_ok_iff.trans
          (and_congr_right' (ih e.2 (List.mem_map_of_mem he)))).trans ?_
        rw [← List.forall₂_eq_eq_eq, List.forall₂_map_left_iff, List.forall₂_map_right_iff,
          List.forall₂_map_left_iff, List.forall₂_map_right_iff, forall₂_and_iff]
      rw [ofDatum?, map_eq_ok_iff]
      constructor
      · rintro ⟨fs, hfs, rfl⟩
        obtain ⟨hkeys, h⟩ := hentries.1 hfs
        exact .dict hkeys h
      · rintro (_ | _ | _ | _ | _ | _ | ⟨hkeys, h⟩)
        exact ⟨_, hentries.2 ⟨hkeys, h⟩, rfl⟩

theorem ofDatum?_eq_error_iff {e : TreeError} : ofDatum? d = .error e ↔ d.FirstTrouble e := by
  refine ⟨firstTrouble_of_error, fun he => ?_⟩
  cases h : ofDatum? d with
  | error f => rw [he.unique (firstTrouble_of_error h)]
  | ok v =>
    obtain ⟨p, hp, -⟩ := he
    rw [troubleAt?_of_ofDatum? h p] at hp
    cases hp

/-- Where no key has too long an integer, a value that has no tree has a foreign one to be
reached. -/
theorem exists_error_iff_foreign (hkeys : d.HasShortKeys) :
    (∃ e, ofDatum? d = .error e) ↔ ∃ p x, d.at? p = some x ∧ x.isForeign = true := by
  constructor
  · rintro ⟨e, he⟩
    obtain ⟨p, hp, -⟩ := firstTrouble_of_error he
    obtain ⟨x, hx, hforeign, -⟩ := hkeys.troubleAt?_eq_some_iff.1 hp
    exact ⟨p, x, hx, hforeign⟩
  · rintro ⟨p, x, hx, hforeign⟩
    cases h : ofDatum? d with
    | error e => exact ⟨e, rfl⟩
    | ok v =>
      have hp := hkeys.troubleAt?_eq_some_iff.2 ⟨x, hx, hforeign, rfl⟩
      rw [troubleAt?_of_ofDatum? h p] at hp
      cases hp

end Tree

end Json

end JsonShape
