import JsonShape.Proofs.Json.Scalars

/-!
# Reading containers

What the readers of arrays and objects do at a text of the grammar, one production after another:
blanks are skipped, the first value is read, and the reader goes on behind the comma.  So a text of
a value is read as that value (`readValue_of_value`) if its containers nest no deeper than there is
room for and its integers are short enough to be read.  All of this holds of every dialect that
takes what the grammar derives for a scalar.
-/

namespace JsonShape.Json

/-! ### One production -/

section Productions

variable {d : Dialect} {item : ValueReader} {fuel : Nat}

theorem readArray_empty {t r : Text} (h : Blanks t (']' :: r)) :
    readArray item fuel t = .ok (.array [], r) := by
  rw [readArray, h.skipBlank_eq (solid_cons r rfl)]
  rfl

theorem readArray_items {c : CodePoint} {t u : Text} (h : Blanks t (c :: u))
    (hc : StartsValue c) :
    readArray item fuel t =
      readItems item fuel (c :: u) >>= fun x => .ok (.array x.1, x.2) := by
  rw [readArray, h.skipBlank_eq (solid_cons u hc.1)]
  simp only [if_neg hc.2.1]

theorem readItems_last {v : Json} {t u r : Text} (hv : item t = .ok (v, u))
    (hu : Blanks u (']' :: r)) : readItems item (fuel + 1) t = .ok ([v], r) := by
  rw [readItems, hv]
  dsimp only [bind, Except.bind]
  rw [hu.skipBlank_eq (solid_cons r rfl)]
  rfl

theorem readItems_cons {v : Json} {t u w x : Text} (hv : item t = .ok (v, u))
    (hu : Blanks u (',' :: w)) (hw : Blanks w x) (hx : Solid x) :
    readItems item (fuel + 1) t = readItems item fuel x >>= fun y => .ok (v :: y.1, y.2) := by
  have hbracket : (',' : CodePoint) ≠ (']' : CodePoint) := by decide
  rw [readItems, hv]
  dsimp only [bind, Except.bind]
  rw [hu.skipBlank_eq (solid_cons w rfl)]
  simp only [if_neg hbracket, ↓reduceIte, hw.skipBlank_eq hx]

theorem readField_name [d.ReadsJson] {k t u : Text} (hk : NameText k t u) (hu : Solid u) :
    readField d item t = item u >>= fun x => .ok ((k, x.1), x.2) := by
  obtain ⟨t, rfl⟩ := hk.head
  cases hk with
  | colon hk hcolon hw =>
    rw [readField, if_pos rfl, readString_of_text Dialect.ReadsJson.allowed hk]
    dsimp only [bind, Except.bind]
    rw [hcolon.skipBlank_eq (solid_cons _ rfl)]
    simp only [↓reduceIte, hw.skipBlank_eq hu]

theorem readField_of_ok [d.ReadsJson] {k t u w : Text} {v : Json} (hk : NameText k t u)
    (hu : Solid u) (hv : item u = .ok (v, w)) : readField d item t = .ok ((k, v), w) := by
  rw [readField_name hk hu, hv]
  rfl

theorem readFields_last {f : Text × Json} {t w r : Text} (hf : readField d item t = .ok (f, w))
    (hw : Blanks w ('\x7d' :: r)) : readFields d item (fuel + 1) t = .ok ([f], r) := by
  rw [readFields, hf]
  dsimp only [bind, Except.bind]
  rw [hw.skipBlank_eq (solid_cons r rfl)]
  rfl

theorem readFields_cons {f : Text × Json} {t w x y : Text}
    (hf : readField d item t = .ok (f, w)) (hw : Blanks w (',' :: x)) (hx : Blanks x y)
    (hy : Solid y) : readFields d item (fuel + 1) t =
      readFields d item fuel y >>= fun z => .ok (f :: z.1, z.2) := by
  have hbrace : (',' : CodePoint) ≠ ('\x7d' : CodePoint) := by decide
  rw [readFields, hf]
  dsimp only [bind, Except.bind]
  rw [hw.skipBlank_eq (solid_cons x rfl)]
  simp only [if_neg hbrace, ↓reduceIte, hx.skipBlank_eq hy]

theorem readObject_empty {t r : Text} (h : Blanks t ('\x7d' :: r)) :
    readObject d item fuel t = .ok (.object [], r) := by
  rw [readObject, h.skipBlank_eq (solid_cons r rfl)]
  rfl

theorem readObject_fields {t u : Text} (h : Blanks t ('"' :: u)) :
    readObject d item fuel t =
      readFields d item fuel ('"' :: u) >>= fun x => .ok (.object (upsertAll x.1), x.2) := by
  have hbrace : ('"' : CodePoint) ≠ ('\x7d' : CodePoint) := by decide
  rw [readObject, h.skipBlank_eq (solid_cons u rfl)]
  simp only [if_neg hbrace]

end Productions

/-! ### Values by their first code point -/

section Dispatch

variable {d : Dialect} {fuel : Nat}

theorem readValue_string [d.ReadsJson] {s t r : Text} (depth : Nat) (h : StringText s t r) :
    readValue d fuel depth t = .ok (.string s, r) := by
  cases h with
  | @quoted ps t r h =>
    have hs : readString d.allowed t = .ok (joinPieces ps, r) :=
      readString_of_text Dialect.ReadsJson.allowed (.quoted h)
    cases depth <;>
    · rw [readValue, readWith, if_pos rfl, hs]
      rfl

theorem readValue_array (depth : Nat) (t : Text) :
    readValue d fuel (depth + 1) ('[' :: t) =
      readArray (readValue d fuel depth) fuel t := rfl

theorem readValue_object (depth : Nat) (t : Text) :
    readValue d fuel (depth + 1) ('\x7b' :: t) =
      readObject d (readValue d fuel depth) fuel t := rfl

/-- What starts like none of the others is read as a bare word. -/
theorem readValue_bare {c : CodePoint} (depth : Nat) (t : Text) (hq : c ≠ ('"' : CodePoint))
    (hb : c ≠ ('[' : CodePoint)) (ho : c ≠ ('\x7b' : CodePoint)) :
    readValue d fuel depth (c :: t) = d.bare (c :: t) := by
  cases depth <;>
  · rw [readValue, readWith, if_neg hq, if_neg hb, if_neg ho]

theorem readValue_number [d.ReadsJson] {n : NumberToken} {w r : Text} (depth : Nat)
    (h : NumberText n w) (hs : n.IsInteger → Readable n.whole.length) (hr : Ends r) :
    readValue d fuel depth (w ++ r) = .ok (.number n.value, r) := by
  have hbare : d.bare (w ++ r) = .ok (.number n.value, r) := Dialect.ReadsJson.number h hs hr
  obtain ⟨negative, c, u, rfl, hc⟩ := h.head
  cases negative with
  | false =>
    rw [← hbare]
    refine readValue_bare depth (u ++ r) ?_ ?_ ?_ <;>
    · rintro rfl
      cases hc
  | true =>
    rw [← hbare]
    exact readValue_bare depth _ (by decide) (by decide) (by decide)

end Dispatch

/-! ### Whole values -/

section Complete

variable {d : Dialect} {fuel : Nat}

/-- What follows a comma is shorter than what stood before the value in front of it. -/
theorem length_lt_of_comma {t u w x : Text} (h : u <:+ t) (hu : Blanks u (',' :: w))
    (hw : Blanks w x) : x.length < t.length := by
  have hcomma := hu.suffix.length_le
  have ht := h.length_le
  have hx := hw.suffix.length_le
  simp only [List.length_cons] at hcomma
  omega

mutual

/-- A text of a value is read as that value. -/
theorem readValue_of_value [d.ReadsJson] {depth : Nat} {v : Json} {t r : Text} :
    Value Readable depth v t r → Ends r → t.length ≤ fuel →
      readValue d fuel depth t = .ok (v, r)
  | .nullWord, _, _ =>
    (readValue_bare _ _ (by decide) (by decide) (by decide)).trans (Dialect.ReadsJson.nullWord r)
  | .trueWord, _, _ =>
    (readValue_bare _ _ (by decide) (by decide) (by decide)).trans (Dialect.ReadsJson.trueWord r)
  | .falseWord, _, _ =>
    (readValue_bare _ _ (by decide) (by decide) (by decide)).trans (Dialect.ReadsJson.falseWord r)
  | .number h hs, hr, _ => readValue_number depth h hs hr
  | .string h, _, _ => readValue_string depth h
  | .emptyArray ht, _, _ => by
    rw [readValue_array, readArray_empty ht]
  | .emptyObject ht, _, _ => by
    rw [readValue_object, readObject_empty ht]
  | .array ht h, _, hl => by
    have hu := ht.suffix.length_le
    simp only [List.length_cons] at hl
    obtain ⟨c, u, rfl, hc⟩ := h.head
    rw [readValue_array, readArray_items ht hc,
      readItems_of_items h (by omega) (by omega)]
    rfl
  | .object ht h, _, hl => by
    have hu := ht.suffix.length_le
    simp only [List.length_cons] at hl
    obtain ⟨u, rfl⟩ := h.head
    rw [readValue_object, readObject_fields ht,
      readFields_of_fields h (by omega) (by omega)]
    rfl

theorem readItems_of_items [d.ReadsJson] {depth : Nat} {vs : List Json} {t r : Text} {n : Nat} :
    Items Readable depth vs t r → t.length ≤ fuel → t.length ≤ n →
      readItems (readValue d fuel depth) n t = .ok (vs, r)
  | .last hv hu, hl, hn => by
    obtain ⟨m, rfl⟩ := Nat.exists_eq_add_one.2 (Nat.lt_of_lt_of_le hv.length_pos hn)
    have hr := hu.ends (ends_cons _ (Or.inr (Or.inl rfl)))
    exact readItems_last (readValue_of_value hv hr hl) hu
  | .cons hv hu hw h, hl, hn => by
    obtain ⟨m, rfl⟩ := Nat.exists_eq_add_one.2 (Nat.lt_of_lt_of_le hv.length_pos hn)
    have hr := hu.ends (ends_cons _ (Or.inl rfl))
    have hshort := length_lt_of_comma hv.suffix hu hw
    rw [readItems_cons (readValue_of_value hv hr hl) hu hw h.solid,
      readItems_of_items h (by omega) (by omega)]
    rfl

theorem readFields_of_fields [d.ReadsJson] {depth : Nat} {fs : List (Text × Json)} {t r : Text}
    {n : Nat} :
    Fields Readable depth fs t r → t.length ≤ fuel → t.length ≤ n →
      readFields d (readValue d fuel depth) n t = .ok (fs, r)
  | .last hk hv hw, hl, hn => by
    obtain ⟨m, rfl⟩ := Nat.exists_eq_add_one.2 (Nat.lt_of_lt_of_le hk.length_pos hn)
    have hr := hw.ends (ends_cons _ (Or.inr (Or.inr rfl)))
    have hu := hk.suffix.length_le
    exact readFields_last (readField_of_ok hk hv.solid (readValue_of_value hv hr (by omega))) hw
  | .cons hk hv hw hx h, hl, hn => by
    obtain ⟨m, rfl⟩ := Nat.exists_eq_add_one.2 (Nat.lt_of_lt_of_le hk.length_pos hn)
    have hr := hw.ends (ends_cons _ (Or.inl rfl))
    have hu := hk.suffix.length_le
    have hshort := length_lt_of_comma (hv.suffix.trans hk.suffix) hw hx
    have hf := readField_of_ok (d := d) hk hv.solid (readValue_of_value hv hr (by omega))
    rw [readFields_cons hf hw hx h.solid, readFields_of_fields h (by omega) (by omega)]
    rfl

end

end Complete

/-! ### Whole texts -/

/-- A text whose first solid code point starts a value has no byte order mark. -/
theorem head_ne_mark {t u : Text} {c : CodePoint} (h : Blanks t (c :: u)) (hc : StartsValue c) :
    t.head? ≠ some ('\uFEFF' : CodePoint) := by
  obtain ⟨b, hb, rfl⟩ := h
  cases b with
  | nil => exact fun h => hc.2.2 (Option.some.inj h)
  | cons d b =>
    intro h
    have hd : isBlank d = true := List.all_eq_true.1 hb d List.mem_cons_self
    rw [Option.some.inj h] at hd
    cases hd

/-- What is left once the value of a text was read. -/
def finish (x : Json × Text) : Except ReadError Json :=
  match skipBlank x.2 with
  | [] => .ok x.1
  | extra => .error (.extraData extra.length)

theorem readWithin_eq (d : Dialect) (depth : Nat) (t : Text) :
    readWithin d depth t = if t.head? = some ('\uFEFF' : CodePoint) then .error .byteOrderMark
      else readValue d (t.length + 1) depth (skipBlank t) >>= finish := rfl

theorem readWithin_of_blanks {d : Dialect} {depth : Nat} {t u : Text} {c : CodePoint}
    (h : Blanks t (c :: u)) (hc : StartsValue c) :
    readWithin d depth t = readValue d (t.length + 1) depth (c :: u) >>= finish := by
  rw [readWithin_eq, if_neg (head_ne_mark h hc), h.skipBlank_eq (solid_cons u hc.1)]

/-- A whole text is read as its value, with blanks around it, in any dialect that reads JSON. -/
theorem readWithin_of_jsonText {d : Dialect} [d.ReadsJson] {depth : Nat} {v : Json} {t : Text}
    (h : JsonText Readable depth v t) : readWithin d depth t = .ok v := by
  cases h with
  | @blanks u w hu hv hw =>
    have hlen := Nat.le_succ_of_le hu.suffix.length_le
    have hread : readValue d _ _ _ = _ := readValue_of_value hv (hw.ends ends_nil) hlen
    have hend : skipBlank w = [] := hw.skipBlank_eq (by simp [Solid])
    obtain ⟨c, x, rfl, hc⟩ := hv.head
    rw [readWithin_of_blanks hu hc, hread]
    dsimp only [bind, Except.bind]
    rw [finish, hend]

theorem read_of_jsonText {depth : Nat} {v : Json} {t : Text} (h : JsonText Readable depth v t) :
    read t depth = .ok v :=
  readWithin_of_jsonText h

end JsonShape.Json
