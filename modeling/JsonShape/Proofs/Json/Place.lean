import JsonShape.Proofs.Json.Containers

/-!
# Places in a text

What a reader has in front of it can be said of any text, one that breaks off or goes wrong later
included: going from left to right, each production that is complete says what is awaited behind it
(`Awaits`).  The integers, the opening brackets and the words for no number that count are those
that stand where a value is awaited; the same characters inside a string are none.

From the places it follows what a reading finds.  A value that is read is one of the grammar, and a
reader that is short of room has met a bracket that opens too deep (`explained_value`).  A value
whose brackets and integers keep within what can be read is read (`Value.limited`), and an error
that is met where a value is awaited is the error of the whole text (`Awaits.error_of_stuck`).
-/

namespace JsonShape.Json

/-! ### What is awaited -/

/-- What may stand at a place. -/
inductive Place
  | value
  | item
  | field
deriving DecidableEq

/-- The place awaits the rest `u` of the text `t`, inside of `n` containers. -/
inductive Awaits (t : Text) : Nat → Place → Text → Prop
  | root {u : Text} (hu : Blanks t u) : Awaits t 0 .value u
  | firstItem {n : Nat} {p : Place} {u w : Text} (h : Awaits t n p ('[' :: u)) (hp : p ≠ .field)
    (hw : Blanks u w) : Awaits t (n + 1) .item w
  | nextItem {n depth : Nat} {v : Json} {u w x y : Text} (h : Awaits t n .item u)
    (hv : Value AnyLength depth v u w) (hw : Blanks w (',' :: x)) (hx : Blanks x y) :
    Awaits t n .item y
  | firstField {n : Nat} {p : Place} {u w : Text} (h : Awaits t n p ('\x7b' :: u)) (hp : p ≠ .field)
    (hw : Blanks u w) : Awaits t (n + 1) .field w
  | nextField {n depth : Nat} {k : Text} {v : Json} {u w x y z : Text} (h : Awaits t n .field u)
    (hk : NameText k u w) (hv : Value AnyLength depth v w x) (hx : Blanks x (',' :: y))
    (hy : Blanks y z) : Awaits t n .field z
  | named {n : Nat} {k u w : Text} (h : Awaits t n .field u) (hk : NameText k u w) :
    Awaits t n .value w

/-- A value is awaited. -/
def AwaitsValue (t : Text) (n : Nat) (u : Text) : Prop := ∃ p, p ≠ Place.field ∧ Awaits t n p u

/-- A bracket or a brace opens inside of `n` containers. -/
def OpensInside (t : Text) (n : Nat) : Prop :=
  ∃ u, AwaitsValue t n ('[' :: u) ∨ AwaitsValue t n ('\x7b' :: u)

/-- An integer with `k` digits stands where a value is awaited.  What stands there is an integer if
no longer number does. -/
def HasInteger (t : Text) (k : Nat) : Prop :=
  ∃ n m w r, AwaitsValue t n (w ++ r) ∧ NumberText m w ∧ m.IsInteger ∧ m.whole.length = k ∧
    ∀ m' w', NumberText m' w' → w' <+: w ++ r → w'.length ≤ w.length

/-- A word stands where a value is awaited. -/
def HasWord (t word : Text) : Prop := ∃ n r, AwaitsValue t n (word ++ r)

theorem Awaits.suffix {t u : Text} {n : Nat} {p : Place} (h : Awaits t n p u) : u <:+ t := by
  induction h with
  | root hu => exact hu.suffix
  | firstItem _ _ hw ih => exact hw.suffix.trans ((List.suffix_cons _ _).trans ih)
  | firstField _ _ hw ih => exact hw.suffix.trans ((List.suffix_cons _ _).trans ih)
  | nextItem _ hv hw hx ih =>
    have hcomma := (List.suffix_cons _ _).trans (hw.suffix.trans hv.suffix)
    exact hx.suffix.trans (hcomma.trans ih)
  | nextField _ hk hv hx hy ih =>
    have hcomma := (List.suffix_cons _ _).trans (hx.suffix.trans (hv.suffix.trans hk.suffix))
    exact hy.suffix.trans (hcomma.trans ih)
  | named _ hk ih => exact hk.suffix.trans ih

/-! ### What is read, and why reading ran out of room -/

section Explained

variable {α β : Type} {deep : Prop} {P : α → Text → Prop} {Q : β → Text → Prop}

/-- What is read is right, and if there was too little room then there is a reason. -/
def Explained (deep : Prop) (P : α → Text → Prop) : Except ReadError (α × Text) → Prop
  | .ok (x, rest) => P x rest
  | .error e => e = .tooDeep → deep

theorem Explained.bind {a : Except ReadError (α × Text)}
    {f : α × Text → Except ReadError (β × Text)} (h : Explained deep P a)
    (hf : ∀ x rest, P x rest → Explained deep Q (f (x, rest))) : Explained deep Q (a >>= f) := by
  cases a with
  | error e => exact h
  | ok x => exact hf x.1 x.2 h

theorem explained_missing (what : Due) (left : Nat) :
    Explained deep P (.error (.missing what left)) := nofun

variable {t : Text} {n depth : Nat} {item : ValueReader}

theorem explained_string (u : Text) :
    Explained deep (fun s r => StringText s ('"' :: u) r) (readString strict.allowed u) := by
  have hfits := fits_string strict.allowed u
  cases h : readString strict.allowed u with
  | error e =>
    intro he
    rw [h] at hfits
    exact absurd he hfits
  | ok x => exact text_of_readString h

theorem explained_bare (depth : Nat) (u : Text) :
    Explained deep (fun v r => Value AnyLength depth v u r) (readBare u) := by
  have hfits := fits_bare u
  cases h : readBare u with
  | error e =>
    intro he
    rw [h] at hfits
    exact absurd he hfits
  | ok x => exact value_of_readBare (fun _ _ => trivial) depth h

theorem explained_items (hitem : ∀ u, Awaits t n .item u →
      Explained deep (fun v r => Value AnyLength depth v u r) (item u))
    (fuel : Nat) {u : Text} (hu : Awaits t n .item u) :
    Explained deep (fun vs r => Items AnyLength depth vs u r) (readItems item fuel u) := by
  induction fuel generalizing u with
  | zero => exact explained_missing _ _
  | succ fuel ih =>
    refine (hitem u hu).bind fun v w hv => ?_
    have hblank := blanks_skipBlank w
    dsimp only
    split
    · exact explained_missing _ _
    · next c rest hc =>
      rw [hc] at hblank
      split
      · next hbracket =>
        subst hbracket
        exact .last hv hblank
      split
      · next hcomma =>
        subst hcomma
        have hrest := blanks_skipBlank rest
        exact (ih (.nextItem hu hv hblank hrest)).bind fun vs r hvs => .cons hv hblank hrest hvs
      · exact explained_missing _ _

/-- A field of the grammar. -/
def FieldText (depth : Nat) (f : Text × Json) (t r : Text) : Prop :=
  ∃ u, NameText f.1 t u ∧ Value AnyLength depth f.2 u r

theorem explained_field (hitem : ∀ u, Awaits t n .value u →
      Explained deep (fun v r => Value AnyLength depth v u r) (item u))
    {u : Text} (hu : Awaits t n .field u) :
    Explained deep (fun f r => FieldText depth f u r) (readField strict item u) := by
  unfold readField
  split
  · exact explained_missing _ _
  split
  · next c rest hquote =>
    subst hquote
    refine (explained_string rest).bind fun k w hk => ?_
    have hblank := blanks_skipBlank w
    dsimp only
    split
    · exact explained_missing _ _
    split
    · next c x hc hcolon =>
      rw [hc, hcolon] at hblank
      have hname : NameText k _ (skipBlank x) := .colon hk hblank (blanks_skipBlank x)
      exact (hitem _ (.named hu hname)).bind fun v r hv => ⟨_, hname, hv⟩
    · exact explained_missing _ _
  · exact explained_missing _ _

theorem explained_fields (hitem : ∀ u, Awaits t n .value u →
      Explained deep (fun v r => Value AnyLength depth v u r) (item u))
    (fuel : Nat) {u : Text} (hu : Awaits t n .field u) :
    Explained deep (fun fs r => Fields AnyLength depth fs u r) (readFields strict item fuel u) := by
  induction fuel generalizing u with
  | zero => exact explained_missing _ _
  | succ fuel ih =>
    refine (explained_field hitem hu).bind fun f w hf => ?_
    obtain ⟨x, hk, hv⟩ := hf
    have hblank := blanks_skipBlank w
    dsimp only
    split
    · exact explained_missing _ _
    · next c rest hc =>
      rw [hc] at hblank
      split
      · next hbrace =>
        subst hbrace
        exact .last hk hv hblank
      split
      · next hcomma =>
        subst hcomma
        have hrest := blanks_skipBlank rest
        exact (ih (.nextField hu hk hv hblank hrest)).bind fun fs r hfs =>
          .cons hk hv hblank hrest hfs
      · exact explained_missing _ _

theorem explained_array (hitem : ∀ u, Awaits t (n + 1) .item u →
      Explained deep (fun v r => Value AnyLength depth v u r) (item u))
    (fuel : Nat) {u : Text} (hu : AwaitsValue t n ('[' :: u)) :
    Explained deep (fun v r => Value AnyLength (depth + 1) v ('[' :: u) r)
      (readArray item fuel u) := by
  obtain ⟨p, hp, hu⟩ := hu
  have hblank := blanks_skipBlank u
  unfold readArray
  split
  · exact explained_missing _ _
  · next c rest hc =>
    rw [hc] at hblank
    split
    · next hbracket =>
      subst hbracket
      exact .emptyArray hblank
    · exact (explained_items hitem fuel (.firstItem hu hp hblank)).bind fun vs r hvs =>
        .array hblank hvs

theorem explained_object (hitem : ∀ u, Awaits t (n + 1) .value u →
      Explained deep (fun v r => Value AnyLength depth v u r) (item u))
    (fuel : Nat) {u : Text} (hu : AwaitsValue t n ('\x7b' :: u)) :
    Explained deep (fun v r => Value AnyLength (depth + 1) v ('\x7b' :: u) r)
      (readObject strict item fuel u) := by
  obtain ⟨p, hp, hu⟩ := hu
  have hblank := blanks_skipBlank u
  unfold readObject
  split
  · exact explained_missing _ _
  · next c rest hc =>
    rw [hc] at hblank
    split
    · next hbrace =>
      subst hbrace
      exact .emptyObject hblank
    · exact (explained_fields hitem fuel (.firstField hu hp hblank)).bind fun fs r hfs =>
        .object hblank hfs

/-- **What is read is a value of the grammar**, and a reader with too little room has met a bracket
inside of as many containers as there is room for. -/
theorem explained_value (fuel depth : Nat) {n : Nat} {u : Text} (hu : AwaitsValue t n u) :
    Explained (OpensInside t (n + depth)) (fun v r => Value AnyLength depth v u r)
      (readValue strict fuel depth u) := by
  induction depth generalizing n u with
  | zero =>
    unfold readValue readWith
    split
    · exact explained_missing _ _
    split
    · next hquote =>
      subst hquote
      exact (explained_string _).bind fun s r hs => .string hs
    split
    · next hbracket =>
      subst hbracket
      exact fun _ => ⟨_, Or.inl hu⟩
    split
    · next hbrace =>
      subst hbrace
      exact fun _ => ⟨_, Or.inr hu⟩
    · exact explained_bare 0 _
  | succ depth ih =>
    rw [← Nat.succ_add_eq_add_succ]
    have hitem : ∀ w, Awaits t (n + 1) .item w → Explained (OpensInside t (n + 1 + depth))
        (fun v r => Value AnyLength depth v w r) (readValue strict fuel depth w) :=
      fun w hw => ih ⟨.item, by decide, hw⟩
    have hvalue : ∀ w, Awaits t (n + 1) .value w → Explained (OpensInside t (n + 1 + depth))
        (fun v r => Value AnyLength depth v w r) (readValue strict fuel depth w) :=
      fun w hw => ih ⟨.value, by decide, hw⟩
    unfold readValue readWith
    split
    · exact explained_missing _ _
    split
    · next hquote =>
      subst hquote
      exact (explained_string _).bind fun s r hs => .string hs
    split
    · next hbracket =>
      subst hbracket
      exact explained_array hitem fuel hu
    split
    · next hbrace =>
      subst hbrace
      exact explained_object hvalue fuel hu
    · exact explained_bare _ _

end Explained

/-! ### Values within what can be read -/

/-- A character of a number. -/
def isNumeric (c : CodePoint) : Bool :=
  c.isDigit || c = '-' || c = '+' || c = '.' || c = 'e' || c = 'E'

theorem all_isNumeric_of_digits {ds : Text} (h : ds.all CodePoint.isDigit = true) :
    ds.all isNumeric = true := by
  rw [List.all_eq_true] at h ⊢
  intro c hc
  simp [isNumeric, h c hc]

theorem Whole.all_isNumeric {w : Text} (h : Whole w) : w.all isNumeric = true := by
  cases h with
  | zero => rfl
  | digits hc _ hds => exact all_isNumeric_of_digits (by simp [hc, hds])

theorem Fraction.all_isNumeric {ds f : Text} (h : Fraction ds f) : f.all isNumeric = true := by
  cases h with
  | none => rfl
  | point _ hds =>
    have htail := all_isNumeric_of_digits hds
    simp [isNumeric, htail]

theorem Exponent.all_isNumeric {e : Option Int} {x : Text} (h : Exponent e x) :
    x.all isNumeric = true := by
  cases h with
  | none => rfl
  | @mark m negative sign ds hm hs _ hds =>
    have htail := all_isNumeric_of_digits hds
    have hmark : isNumeric m = true := by rcases hm with rfl | rfl <;> rfl
    have hsign : sign.all isNumeric = true := by cases hs <;> rfl
    rw [List.all_cons, List.all_append, hmark, hsign, htail]
    rfl

theorem NumberText.all_isNumeric {m : NumberToken} {w : Text} (h : NumberText m w) :
    w.all isNumeric = true := by
  cases h with
  | @parts negative whole fraction f x exponent hw hf hx =>
    have hminus : (minus negative).all isNumeric = true := by cases negative <;> rfl
    simp [hminus, hw.all_isNumeric, hf.all_isNumeric, hx.all_isNumeric]

/-- No number goes on into what ends a value. -/
theorem NumberText.length_le {m : NumberToken} {w u r : Text} (h : NumberText m w)
    (hpre : w <+: u ++ r) (hr : Ends r) : w.length ≤ u.length := by
  cases r with
  | nil => simpa using hpre.length_le
  | cons c r =>
    refine Nat.le_of_not_lt fun hlong => ?_
    -- the first character behind `u` would be one of the number
    have hlonger : u ++ [c] <+: w := by
      refine List.prefix_of_prefix_length_le ⟨r, by simp⟩ hpre ?_
      simpa using Nat.succ_le_of_lt hlong
    have hc : isNumeric c = true :=
      List.all_eq_true.1 h.all_isNumeric c (hlonger.subset (by simp))
    have hend := hr c rfl
    simp only [isBlank, Bool.or_eq_true, decide_eq_true_eq] at hend
    rcases hend with ((((rfl | rfl) | rfl) | rfl) | rfl | rfl | rfl) <;> cases hc

section Limited

variable {t : Text} {depth : Nat}

/-- What is read of a text: its integers are short enough, and its brackets do not open too deep. -/
structure WithinLimits (t : Text) (depth : Nat) : Prop where
  digits : ∀ k, HasInteger t k → Readable k
  room : ∀ n, OpensInside t n → n < depth

/-- There is room for one more container. -/
theorem WithinLimits.sub_eq (h : WithinLimits t depth) {n : Nat} (hn : OpensInside t n) :
    depth - n = depth - (n + 1) + 1 := by
  have hlt := h.room n hn
  omega

mutual

/-- A value that is awaited keeps within the limits of its text. -/
theorem Value.limited (hlim : WithinLimits t depth) {n d : Nat} {v : Json} {u r : Text} :
    Value AnyLength d v u r → AwaitsValue t n u → Ends r → Value Readable (depth - n) v u r
  | .nullWord, _, _ => .nullWord
  | .trueWord, _, _ => .trueWord
  | .falseWord, _, _ => .falseWord
  | .string h, _, _ => .string h
  | .number h _, hu, hr =>
    .number h fun hi => hlim.digits _
      ⟨_, _, _, _, hu, h, hi, rfl, fun _ _ h' hpre => h'.length_le hpre hr⟩
  | .emptyArray ht, hu, _ => by
    rw [hlim.sub_eq ⟨_, Or.inl hu⟩]
    exact .emptyArray ht
  | .emptyObject ht, hu, _ => by
    rw [hlim.sub_eq ⟨_, Or.inr hu⟩]
    exact .emptyObject ht
  | .array ht h, hu, _ => by
    rw [hlim.sub_eq ⟨_, Or.inl hu⟩]
    obtain ⟨p, hp, hu⟩ := hu
    exact .array ht (Items.limited hlim h (.firstItem hu hp ht))
  | .object ht h, hu, _ => by
    rw [hlim.sub_eq ⟨_, Or.inr hu⟩]
    obtain ⟨p, hp, hu⟩ := hu
    exact .object ht (Fields.limited hlim h (.firstField hu hp ht))

theorem Items.limited (hlim : WithinLimits t depth) {n d : Nat} {vs : List Json} {u r : Text} :
    Items AnyLength d vs u r → Awaits t n .item u → Items Readable (depth - n) vs u r
  | .last hv hw, hu =>
    have hr := hw.ends (ends_cons _ (Or.inr (Or.inl rfl)))
    .last (Value.limited hlim hv ⟨.item, by decide, hu⟩ hr) hw
  | .cons hv hw hx h, hu =>
    have hr := hw.ends (ends_cons _ (Or.inl rfl))
    .cons (Value.limited hlim hv ⟨.item, by decide, hu⟩ hr) hw hx
      (Items.limited hlim h (.nextItem hu hv hw hx))

theorem Fields.limited (hlim : WithinLimits t depth) {n d : Nat} {fs : List (Text × Json)}
    {u r : Text} :
    Fields AnyLength d fs u r → Awaits t n .field u → Fields Readable (depth - n) fs u r
  | .last hk hv hw, hu =>
    have hr := hw.ends (ends_cons _ (Or.inr (Or.inr rfl)))
    .last hk (Value.limited hlim hv ⟨.value, by decide, .named hu hk⟩ hr) hw
  | .cons hk hv hw hx h, hu =>
    have hr := hw.ends (ends_cons _ (Or.inl rfl))
    .cons hk (Value.limited hlim hv ⟨.value, by decide, .named hu hk⟩ hr) hw hx
      (Fields.limited hlim h (.nextField hu hk hv hw hx))

end

end Limited

/-! ### Errors where something is awaited -/

section Stuck

variable {t : Text} {depth fuel : Nat} {e : ReadError}

/-- What stands at a place starts like something that may stand there, and reading it comes to an
error. -/
def Stuck (fuel depth : Nat) (e : ReadError) (n : Nat) (u : Text) : Place → Prop
  | .value => (∃ c w, u = c :: w ∧ StartsValue c) ∧ readValue strict fuel (depth - n) u = .error e
  | .item => (∃ c w, u = c :: w ∧ StartsValue c) ∧
    ∀ k, u.length ≤ k → readItems (readValue strict fuel (depth - n)) k u = .error e
  | .field => (∃ w, u = ('"' : CodePoint) :: w) ∧
    ∀ k, u.length ≤ k → readFields strict (readValue strict fuel (depth - n)) k u = .error e

/-- An error of a value is one of the items that start with it. -/
theorem stuck_of_value {n : Nat} {c : CodePoint} {u : Text} {p : Place} (hp : p ≠ .field)
    (hc : StartsValue c) (h : readValue strict fuel (depth - n) (c :: u) = .error e) :
    Stuck fuel depth e n (c :: u) p := by
  cases p with
  | value => exact ⟨⟨c, u, rfl, hc⟩, h⟩
  | item =>
    refine ⟨⟨c, u, rfl, hc⟩, fun k hk => ?_⟩
    obtain ⟨m, rfl⟩ := Nat.exists_eq_add_one.2 (Nat.lt_of_lt_of_le (Nat.succ_pos _) hk)
    rw [readItems, h]
    rfl
  | field => exact absurd rfl hp

/-- **An error that is met where something is awaited is the error of the whole text.** -/
theorem Awaits.error_of_stuck (hlim : WithinLimits t depth) {n : Nat} {p : Place} {u : Text}
    (h : Awaits t n p u) (hstuck : Stuck (t.length + 1) depth e n u p) :
    read t depth = .error e := by
  induction h with
  | root hu =>
    obtain ⟨⟨c, w, rfl, hc⟩, herr⟩ := hstuck
    rw [Nat.sub_zero] at herr
    rw [read, readWithin_of_blanks hu hc, herr]
    rfl
  | @firstItem n p u w h hp hw ih =>
    obtain ⟨⟨c, x, rfl, hc⟩, herr⟩ := hstuck
    refine ih (stuck_of_value hp (by decide) ?_)
    have hlen := (Awaits.firstItem h hp hw).suffix.length_le
    rw [hlim.sub_eq ⟨_, Or.inl ⟨p, hp, h⟩⟩, readValue_array, readArray_items hw hc,
      herr _ (Nat.le_succ_of_le hlen)]
    rfl
  | @firstField n p u w h hp hw ih =>
    obtain ⟨⟨x, rfl⟩, herr⟩ := hstuck
    refine ih (stuck_of_value hp (by decide) ?_)
    have hlen := (Awaits.firstField h hp hw).suffix.length_le
    rw [hlim.sub_eq ⟨_, Or.inr ⟨p, hp, h⟩⟩, readValue_object, readObject_fields hw,
      herr _ (Nat.le_succ_of_le hlen)]
    rfl
  | @nextItem n d v u w x y h hv hw hx ih =>
    obtain ⟨⟨c, z, rfl, hc⟩, herr⟩ := hstuck
    refine ih ⟨hv.head, fun k hk => ?_⟩
    obtain ⟨m, rfl⟩ := Nat.exists_eq_add_one.2 (Nat.lt_of_lt_of_le hv.length_pos hk)
    have hr := hw.ends (ends_cons _ (Or.inl rfl))
    have hread := readValue_of_value (d := strict) (hv.limited hlim ⟨.item, by decide, h⟩ hr) hr
      (Nat.le_succ_of_le h.suffix.length_le)
    have hshort := length_lt_of_comma hv.suffix hw hx
    rw [readItems_cons hread hw hx (solid_cons z hc.1), herr m (by omega)]
    rfl
  | @nextField n d k v u w x y z h hk hv hx hy ih =>
    obtain ⟨⟨z, rfl⟩, herr⟩ := hstuck
    refine ih ⟨hk.head, fun m hm => ?_⟩
    obtain ⟨m, rfl⟩ := Nat.exists_eq_add_one.2 (Nat.lt_of_lt_of_le hk.length_pos hm)
    have hr := hx.ends (ends_cons _ (Or.inl rfl))
    have hlen := Nat.le_succ_of_le (hk.suffix.trans h.suffix).length_le
    have hread := readValue_of_value (d := strict)
      (hv.limited hlim ⟨.value, by decide, .named h hk⟩ hr) hr hlen
    have hshort := length_lt_of_comma (hv.suffix.trans hk.suffix) hx hy
    rw [readFields_cons (readField_of_ok hk hv.solid hread) hx hy (solid_cons z rfl),
      herr m (by omega)]
    rfl
  | @named n k u w h hk ih =>
    obtain ⟨⟨c, z, rfl, hc⟩, herr⟩ := hstuck
    refine ih ⟨hk.head, fun m hm => ?_⟩
    obtain ⟨m, rfl⟩ := Nat.exists_eq_add_one.2 (Nat.lt_of_lt_of_le hk.length_pos hm)
    rw [readFields, readField_name hk (solid_cons z hc.1), herr]
    rfl

end Stuck

end JsonShape.Json
