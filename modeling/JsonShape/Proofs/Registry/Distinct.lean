import JsonShape.Proofs.Json.Accept
import JsonShape.Proofs.Registry.Opened

/-!
# No key comes twice

An object of a document stands somewhere in its text, where it is written with fields whose keys may
come again, spelt in one way or another.  The object has one field for each key, at the place of the
first one that is written and with the value of the last (`Document.exists_written`).  A key is read
off its heading, in quotes or not (`Key.text_injective`), so neither a key nor a heading comes twice
in a record of the document (`Document.keys_never_repeat`).
-/

namespace JsonShape

/-! ### Entries put one after another -/

section Entries

variable {α : Type}

theorem upsertAll_concat (es : List (Text × α)) (e : Text × α) :
    upsertAll (es ++ [e]) = upsert e.1 e.2 (upsertAll es) :=
  List.foldl_append

theorem nodup_keys_upsertAll (es : List (Text × α)) : ((upsertAll es).map Prod.fst).Nodup := by
  induction es using List.reverseRecOn with
  | nil => exact List.nodup_nil
  | append_singleton es e ih =>
    rw [upsertAll_concat]
    exact nodup_keys_upsert ih

/-- A key stands where it came first. -/
theorem keys_upsertAll (es : List (Text × α)) :
    (upsertAll es).map Prod.fst = (es.map Prod.fst).eraseDups := by
  induction es using List.reverseRecOn with
  | nil => rfl
  | append_singleton es e ih =>
    rw [upsertAll_concat, keys_upsert, ih, List.map_append, List.map_singleton, eraseDups_concat]
    simp only [List.mem_eraseDups]

/-- A key has the value that came last. -/
theorem lookup?_upsertAll (k : Text) (es : List (Text × α)) :
    lookup? k (upsertAll es) = (es.findRev? (·.1 = k)).map Prod.snd := by
  rw [List.findRev?_eq_find?_reverse]
  induction es using List.reverseRecOn with
  | nil => rfl
  | append_singleton es e ih =>
    rw [upsertAll_concat, lookup?_upsert, List.reverse_append, List.reverse_singleton,
      List.singleton_append, List.find?_cons]
    by_cases h : k = e.1
    · simp [h]
    · simp [h, Ne.symm h, ih]

/-- An entry is the last one with its key. -/
theorem findRev?_of_mem_upsertAll {es : List (Text × α)} {e : Text × α} (h : e ∈ upsertAll es) :
    es.findRev? (·.1 = e.1) = some e := by
  have hlookup := (mem_iff_lookup? (nodup_keys_upsertAll es)).1 h
  rw [lookup?_upsertAll, Option.map_eq_some_iff] at hlookup
  obtain ⟨f, hf, hvalue⟩ := hlookup
  have hkey : f.1 = e.1 := by
    rw [List.findRev?_eq_find?_reverse] at hf
    simpa using List.find?_some hf
  rw [hf, Prod.ext hkey hvalue]

theorem mem_of_mem_upsertAll {es : List (Text × α)} {e : Text × α} (h : e ∈ upsertAll es) :
    e ∈ es := by
  have hlast := findRev?_of_mem_upsertAll h
  rw [List.findRev?_eq_find?_reverse] at hlast
  exact List.mem_reverse.1 (List.mem_of_find?_eq_some hlast)

end Entries

/-! ### Objects in a text -/

namespace Json

/-- A way that goes on behind another is a way. -/
theorem at?_append {v w x : Json} {p q : List Step} (hp : v.at? p = some w)
    (hq : w.at? q = some x) : v.at? (p ++ q) = some x := by
  induction p generalizing v with
  | nil =>
    obtain rfl : v = w := Option.some.inj hp
    exact hq
  | cons s p ih =>
    obtain ⟨y, hy, hp⟩ := at?_cons_eq_some_iff.1 hp
    exact at?_cons_eq_some_iff.2 ⟨y, hy, ih hp⟩

/-- An object that is written with the fields, in order, stands in front, and `r` follows it. -/
inductive ObjectText : List (Text × Json) → Text → Text → Prop
  | empty {t r : Text} (ht : Blanks t ('\x7d' :: r)) : ObjectText [] ('\x7b' :: t) r
  | fields {depth : Nat} {fs : List (Text × Json)} {t u r : Text} (ht : Blanks t u)
    (h : Fields AnyLength depth fs u r) : ObjectText fs ('\x7b' :: t) r

/-- Where a value is awaited in the text, an object stands that is written with the fields. -/
def WritesObject (t : Text) (written : List (Text × Json)) : Prop :=
  ∃ n u r, AwaitsValue t n u ∧ ObjectText written u r

/-- A text of an object is written with fields that give those of the object. -/
theorem Value.exists_objectText {depth : Nat} {fields : List (Text × Json)} {u r : Text}
    (h : Value AnyLength depth (.object fields) u r) :
    ∃ written, ObjectText written u r ∧ fields = upsertAll written := by
  cases h with
  | emptyObject ht => exact ⟨[], .empty ht, rfl⟩
  | object ht h => exact ⟨_, .fields ht h, rfl⟩

section Places

variable {t : Text} {n depth : Nat}

/-- The value stands where a value is awaited. -/
def StandsIn (t : Text) (v : Json) : Prop :=
  ∃ n depth u r, AwaitsValue t n u ∧ Value AnyLength depth v u r

/-- Each item of an array stands where an item is awaited. -/
theorem Items.standsIn {vs : List Json} {u r : Text} : Items AnyLength depth vs u r →
    Awaits t n .item u → ∀ v ∈ vs, StandsIn t v
  | .last hv _, hu, v, hmem => by
    rw [List.mem_singleton.1 hmem]
    exact ⟨n, depth, u, _, ⟨.item, by decide, hu⟩, hv⟩
  | .cons hv hw hx h, hu, v, hmem => by
    rcases List.mem_cons.1 hmem with rfl | hmem
    · exact ⟨n, depth, u, _, ⟨.item, by decide, hu⟩, hv⟩
    · exact Items.standsIn h (.nextItem hu hv hw hx) v hmem

/-- Each value that is written in an object stands behind its name. -/
theorem Fields.standsIn {fs : List (Text × Json)} {u r : Text} : Fields AnyLength depth fs u r →
    Awaits t n .field u → ∀ f ∈ fs, StandsIn t f.2
  | .last hk hv _, hu, f, hmem => by
    rw [List.mem_singleton.1 hmem]
    exact ⟨n, depth, _, _, ⟨.value, by decide, .named hu hk⟩, hv⟩
  | .cons hk hv hw hx h, hu, f, hmem => by
    rcases List.mem_cons.1 hmem with rfl | hmem
    · exact ⟨n, depth, _, _, ⟨.value, by decide, .named hu hk⟩, hv⟩
    · exact Fields.standsIn h (.nextField hu hk hv hw hx) f hmem

/-- A part of a value that stands in the text stands there, too: the item, or the last of the fields
with the key. -/
theorem StandsIn.child {v w : Json} {s : Step} (h : StandsIn t v) (hs : v.child? s = some w) :
    StandsIn t w := by
  obtain ⟨n, depth, u, r, ⟨p, hp, hu⟩, hv⟩ := h
  cases hv with
  | nullWord | trueWord | falseWord | number | string => cases s <;> cases hs
  | emptyArray | emptyObject => cases s <;> cases hs
  | array ht hitems =>
    cases s with
    | field i => cases hs
    | item i => exact hitems.standsIn (.firstItem hu hp ht) w (List.mem_of_getElem? hs)
  | object ht hfields =>
    cases s with
    | item i => cases hs
    | field i =>
      obtain ⟨f, hf, rfl⟩ := Option.map_eq_some_iff.1 hs
      have hmem := mem_of_mem_upsertAll (List.mem_of_getElem? hf)
      exact hfields.standsIn (.firstField hu hp ht) f hmem

theorem StandsIn.at? {v w : Json} {p : List Step} (h : StandsIn t v) (hp : v.at? p = some w) :
    StandsIn t w := by
  induction p generalizing v with
  | nil =>
    obtain rfl : v = w := Option.some.inj hp
    exact h
  | cons s p ih =>
    obtain ⟨x, hx, hp⟩ := at?_cons_eq_some_iff.1 hp
    exact ih (h.child hx) hp

theorem standsIn_of_spells {v : Json} (h : Spells t v) : StandsIn t v := by
  obtain ⟨depth, h⟩ := h
  cases h with
  | blanks ht hv => exact ⟨0, depth, _, _, ⟨.value, by decide, .root ht⟩, hv⟩

end Places

end Json

/-! ### Headings -/

/-- An identifier does not start with a quote, and a key between quotes does. -/
theorem Key.text_injective : Function.Injective Key.text := by
  have hquote : ∀ k : Text, Key.isIdentifier ("\"" ++ k ++ "\"") = false := fun _ => rfl
  intro a b h
  unfold Key.text at h
  split at h <;> split at h
  · exact h
  · next ha hb =>
    rw [h, hquote] at ha
    cases ha
  · next ha hb =>
    rw [← h, hquote] at hb
    cases hb
  · exact List.append_cancel_left (List.append_cancel_right h)

theorem Site.keys_record (optional : Bool) (s : Site) :
    (s.record optional).properties.map Property.key = s.fields.map Prod.fst := by
  rw [Site.record, Definition.properties, List.map_map]
  rfl

theorem Site.headings_record (optional : Bool) (s : Site) :
    (s.record optional).properties.map Property.heading =
      (s.fields.map Prod.fst).map Key.text := by
  rw [Site.record, Definition.properties, List.map_map, List.map_map]
  rfl

/-! ### Documents -/

namespace Document

variable {t : Text} {depth : Nat} {d : Document} {fields : List (Text × Json)}

/-- An object of a document is written in its text. -/
theorem exists_written (h : ofText? t depth = .ok d) {p : List Step}
    (hp : d.root.at? p = some (.object fields)) :
    ∃ written, Json.WritesObject t written ∧ fields = upsertAll written := by
  have hroot := Json.standsIn_of_spells (Json.spells_of_read (ofText?_eq_ok_iff.1 h))
  obtain ⟨n, k, u, r, hu, hv⟩ := hroot.at? hp
  obtain ⟨written, hwritten, hfields⟩ := hv.exists_objectText
  exact ⟨written, ⟨n, u, r, hu, hwritten⟩, hfields⟩

theorem nodup_keys (h : ofText? t depth = .ok d) {p : List Step}
    (hp : d.root.at? p = some (.object fields)) : (fields.map Prod.fst).Nodup := by
  obtain ⟨written, -, rfl⟩ := exists_written h hp
  exact nodup_keys_upsertAll written

/-- **No key comes twice.**  A document is what the grammar makes of its text.  Each object in it is
written somewhere in the text; it has a field for each key that is written there, in the order in
which the keys come first, and each field is the last one written with its key.  So the records that
are registered for the object, under any name and from any registry on, have neither a key nor a
heading twice. -/
theorem keys_never_repeat (h : ofText? t depth = .ok d) :
    Json.Spells t d.root ∧
    ∀ (p : List Step) (fields : List (Text × Json)), d.root.at? p = some (.object fields) →
      (fields.map Prod.fst).Nodup ∧
      (∃ written, Json.WritesObject t written ∧ fields = upsertAll written ∧
        fields.map Prod.fst = (written.map Prod.fst).eraseDups ∧
        ∀ f ∈ fields, written.findRev? (·.1 = f.1) = some f) ∧
      ∀ (o : Options) (name : Text) (reg : Registry),
        Registry.generate o.optionalProperties name fields reg =
          (Site.record o.optionalProperties ⟨name, fields⟩,
            reg.addAll o.optionalProperties (JsonShape.sites name fields)) ∧
        ∀ s ∈ JsonShape.sites name fields,
          ((s.record o.optionalProperties).properties.map Property.key).Nodup ∧
          ((s.record o.optionalProperties).properties.map Property.heading).Nodup := by
  refine ⟨Json.spells_of_read (ofText?_eq_ok_iff.1 h), fun p fields hp => ⟨nodup_keys h hp, ?_, ?_⟩⟩
  · obtain ⟨written, hwritten, rfl⟩ := exists_written h hp
    exact ⟨written, hwritten, rfl, keys_upsertAll written, fun f => findRev?_of_mem_upsertAll⟩
  · refine fun o name reg => ⟨Registry.generate_eq _ name fields reg, fun s hs => ?_⟩
    obtain ⟨q, hq⟩ := opens_of_mem_object name (opens_of_mem_inside fields s) hs
    have hkeys := nodup_keys h (Json.at?_append hp hq.at?_eq)
    rw [Site.headings_record, Site.keys_record]
    exact ⟨hkeys, hkeys.map Key.text_injective⟩

open Json in
/-- The key `a` comes again, spelt with an escape, and takes another value, in which there is an
object whose keys are `b-` twice and the same between quotes. -/
theorem keys_never_repeat_escaped :
    let t : Text :=
      "\x7b\"a\":true,\"\\u0061\":[\x7b\"b-\":true,\"b-\":null,\"\\\"b-\\\"\":false\x7d]\x7d"
    let fields : List (Text × Json) := [("b-", .null), ("\"b-\"", .bool false)]
    let d : Document := .object [("a", .array [.object fields])]
    let record := Site.record false ⟨"AItem", fields⟩
    ofText? t = .ok d ∧ d.root.at? [.field 0, .item 0] = some (.object fields) ∧
      (fields.map Prod.fst).Nodup ∧
      (∃ written, Json.WritesObject t written ∧
        fields.map Prod.fst = (written.map Prod.fst).eraseDups) ∧
      record.properties.map Property.heading = ["\"b-\"", "\"\"b-\"\""] ∧
      (record.properties.map Property.heading).Nodup := by
  intro t fields d record
  have hplain (r : Text) : NameText "b-" ("\"b-\":" ++ r) r :=
    .colon (.quoted (.cons (.plain (by decide)) (.cons (.plain (by decide)) .quote)))
      (.refl _) (.refl _)
  have hquoted (r : Text) : NameText "\"b-\"" ("\"\\\"b-\\\"\":" ++ r) r :=
    .colon (.quoted (.cons (.short (by decide)) (.cons (.plain (by decide))
      (.cons (.plain (by decide)) (.cons (.short (by decide)) .quote))))) (.refl _) (.refl _)
  have hescaped (r : Text) : NameText "a" ("\"\\u0061\":" ++ r) r :=
    .colon (.quoted (.cons (.unit (@UnitText.digits '0' '0' '6' '1' 0 0 6 1 _ rfl rfl rfl rfl))
      .quote)) (.refl _) (.refl _)
  have hinner (r : Text) :
      Fields Readable 997 [("b-", .bool true), ("b-", .null), ("\"b-\"", .bool false)]
        ("\"b-\":" ++ ("true" ++ ("," ++ ("\"b-\":" ++ ("null" ++ ("," ++
          ("\"\\\"b-\\\"\":" ++ ("false" ++ ("\x7d" ++ r))))))))) r :=
    .cons (hplain _) .trueWord (.refl _) (.refl _) (.cons (hplain _) .nullWord (.refl _) (.refl _)
      (.last (hquoted _) .falseWord (.refl _)))
  -- the text is left to be found: comparing literals piece by piece takes long
  have houter : Fields Readable 999 [("a", .bool true), ("a", .array [.object fields])] _ [] :=
    .cons (nameText_letter (by decide) _) .trueWord (.refl _) (.refl _) (.last (hescaped _)
      (.array (.refl _) (.last (.object (.refl _) (hinner _)) (.refl _))) (.refl _))
  have htext : JsonText Readable maxDepth d.root _ :=
    .blanks (.refl _) (.object (.refl _) houter) (.refl _)
  have hread : ofText? t = .ok d := ofText?_eq_ok_iff.2 (read_of_jsonText htext)
  have hat : d.root.at? [.field 0, .item 0] = some (.object fields) := rfl
  obtain ⟨-, hobject⟩ := keys_never_repeat hread
  obtain ⟨hnodup, ⟨written, hwritten, -, hkeys, -⟩, hrecords⟩ := hobject _ _ hat
  obtain ⟨-, hsites⟩ := hrecords .standard "AItem" ∅
  have hrecord := hsites ⟨"AItem", fields⟩ (List.mem_append_right _ List.mem_cons_self)
  exact ⟨hread, hat, hnodup, ⟨written, hwritten, hkeys⟩, rfl, hrecord.2⟩

end Document

end JsonShape
