import Mathlib.Data.List.Nodup
import JsonShape.Convert
import JsonShape.Proofs.Registry.Sites
import JsonShape.Proofs.Shape.Text

/-!
# Values inhabit what is inferred of them

`Inhabits` says when a value is one of those that a shape describes, where names are looked up in a
registry.  A value whose objects are left closed inhabits its shape in every registry
(`inhabits_of`): no member of a union gets lost with a text, because texts separate inferred shapes.
An object inhabits the name of its record in every registry that still holds the records of what is
opened inside it (`inhabits_shapeUnder`), and the final registry does when no two declarations share
a name (`holds_addAll`).
-/

namespace JsonShape

/-! ### Inhabitants -/

/-- The kind of a value that is no array. -/
def Json.kind? : Json → Option Kind
  | .null => some .null
  | .bool _ => some .boolean
  | .number _ => some .number
  | .string _ => some .string
  | .object _ => some .object
  | .array _ => none

/-- The items of an array that its element shape is about; a name is only about the first one. -/
def Shape.examined : Shape → List Json → List Json
  | .named _, items => items.take 1
  | _, items => items

/-- A value inhabits a shape. -/
inductive Inhabits (reg : Registry) : Json → Shape → Prop
  | scalar {v : Json} {k : Kind} (h : v.kind? = some k) : Inhabits reg v (.scalar k)
  | emptyArray : Inhabits reg (.array []) .emptyArray
  | union {v : Json} {s : Shape} {ms : List Shape} (hs : s ∈ ms) (h : Inhabits reg v s) :
    Inhabits reg v (.union ms)
  | array {items : List Json} {e : Shape} (hne : items ≠ [])
    (h : ∀ v ∈ e.examined items, Inhabits reg v e) : Inhabits reg (.array items) (.array e)
  | named {n : Text} {fields : List (Text × Json)} {ps : List Property}
    (hn : reg.get? n = some (.record ps)) (hk : ps.map Property.key = fields.map Prod.fst)
    (h : ∀ x ∈ fields.zip ps, Inhabits reg x.1.2 x.2.shape) :
    Inhabits reg (.object fields) (.named n)

variable {reg : Registry}

theorem Shape.mem_of_mem_examined {e : Shape} {items : List Json} {v : Json}
    (h : v ∈ e.examined items) : v ∈ items := by
  unfold examined at h
  split at h
  · exact List.mem_of_mem_take h
  · exact h

/-! ### Closed objects -/

/-- Whoever inhabits one of some legible shapes inhabits their union. -/
theorem inhabits_unionOf {v : Json} {s : Shape} {ss : List Shape} (hl : Shape.AllLegible ss)
    (hs : s ∈ ss) (h : Inhabits reg v s) : Inhabits reg v (.unionOf ss) := by
  have hmem : s ∈ Shape.firsts ss := by
    obtain ⟨t, ht, he⟩ := Shape.exists_mem_firsts hs
    rw [Shape.allLegible_iff] at hl
    rwa [← Shape.text_injective (hl t (Shape.mem_of_mem_firsts ht)) (hl s hs) he]
  unfold Shape.unionOf
  split
  · next t ht =>
    rw [ht, List.mem_singleton] at hmem
    exact hmem ▸ h
  · exact .union hmem h

mutual

theorem inhabits_of : ∀ v : Json, Inhabits reg v (.of v)
  | .null | .bool _ | .number _ | .string _ | .object _ => .scalar rfl
  | .array [] => .emptyArray
  | .array (x :: xs) => by
    refine .array (List.cons_ne_nil x xs) fun v hv => ?_
    have hl : Shape.AllLegible (Shape.of x :: Shape.ofAll xs) := Shape.allLegible_ofAll (x :: xs)
    rcases List.mem_cons.1 (Shape.mem_of_mem_examined hv) with hv | hv
    · rw [hv]
      exact inhabits_unionOf hl List.mem_cons_self (inhabits_of x)
    · refine inhabits_unionOf (s := .of v) hl (List.mem_cons_of_mem _ ?_) (inhabits_ofAll xs v hv)
      rw [Shape.ofAll_eq_map]
      exact List.mem_map_of_mem hv

theorem inhabits_ofAll : ∀ (xs : List Json), ∀ v ∈ xs, Inhabits reg v (.of v)
  | x :: xs, v, hv => by
    rcases List.mem_cons.1 hv with hv | hv
    · rw [hv]
      exact inhabits_of x
    · exact inhabits_ofAll xs v hv

end

/-! ### Opened objects -/

/-- The registry holds the record of each of the sites. -/
def Registry.Holds (reg : Registry) (optional : Bool) (ss : List Site) : Prop :=
  ∀ s ∈ ss, reg.get? s.name = some (s.record optional)

/-- An object inhabits the name of its record where its sites are held, if its fields inhabit their
shapes where theirs are. -/
theorem inhabits_named {optional : Bool} {name : Text} {fields : List (Text × Json)}
    (hsites : reg.Holds optional (sites name fields))
    (h : reg.Holds optional (sitesInside fields) →
      ∀ f ∈ fields, Inhabits reg f.2 (shapeUnder f.1 f.2)) :
    Inhabits reg (.object fields) (.named name) := by
  have hn : reg.get? name = some (Site.record optional ⟨name, fields⟩) :=
    hsites _ (List.mem_append_right _ (List.mem_singleton.2 rfl))
  refine .named hn ?_ fun x hx => ?_
  · rw [List.map_map]
    rfl
  · -- each field stands beside its own property
    rw [List.zip_eq_zipWith, List.zipWith_map_right, List.zipWith_self] at hx
    obtain ⟨f, hf, rfl⟩ := List.mem_map.1 hx
    exact h (fun s hs => hsites s (List.mem_append_left _ hs)) f hf

/-- The items behind the first one do not matter to an array that is known by a name. -/
theorem inhabits_led {name : Text} {v : Json} {items : List Json}
    (h : Inhabits reg v (.named name)) :
    Inhabits reg (.array (v :: items)) (.array (.named name)) := by
  refine .array (List.cons_ne_nil v items) fun w hw => ?_
  rw [List.mem_singleton.1 hw]
  exact h

mutual

/-- The value under a key inhabits its shape in a registry that holds what is opened inside it. -/
theorem inhabits_shapeUnder {optional : Bool} (key : Text) : ∀ value : Json,
    reg.Holds optional (sitesUnder key value) → Inhabits reg value (shapeUnder key value)
  | .object fields, h => inhabits_named h (inhabits_fields fields)
  | .array (.object fields :: _), h => inhabits_led (inhabits_named h (inhabits_fields fields))
  | .array [], _ | .null, _ | .bool _, _ | .number _, _ | .string _, _ => inhabits_of _
  | .array (.null :: _), _ | .array (.bool _ :: _), _ | .array (.number _ :: _), _
  | .array (.string _ :: _), _ | .array (.array _ :: _), _ => inhabits_of _

theorem inhabits_fields {optional : Bool} : ∀ fields : List (Text × Json),
    reg.Holds optional (sitesInside fields) →
    ∀ f ∈ fields, Inhabits reg f.2 (shapeUnder f.1 f.2)
  | (key, value) :: fields, h, f, hf => by
    rw [sitesInside] at h
    rcases List.mem_cons.1 hf with hf | hf
    · rw [hf]
      exact inhabits_shapeUnder key value fun s hs => h s (List.mem_append_left _ hs)
    · exact inhabits_fields fields (fun s hs => h s (List.mem_append_right _ hs)) f hf

end

/-! ### The root -/

/-- If no two sites share a name, all their records are left. -/
theorem Registry.holds_addAll (optional : Bool) (reg : Registry) {ss : List Site}
    (h : (ss.map Site.name).Nodup) : (reg.addAll optional ss).Holds optional ss := by
  intro s hs
  obtain ⟨t, ht⟩ : ∃ t, ss.reverse.find? (·.name = s.name) = some t := by
    rw [← Option.isSome_iff_exists, List.find?_isSome]
    exact ⟨s, List.mem_reverse.2 hs, by simp⟩
  have hname : t.name = s.name := by simpa using List.find?_some ht
  have hmem : t ∈ ss := List.mem_reverse.1 (List.mem_of_find?_eq_some ht)
  rw [Registry.get?_addAll, List.findRev?_eq_find?_reverse, ht,
    List.inj_on_of_nodup_map h hmem hs hname]
  rfl

theorem Registry.Holds.insert {optional : Bool} {ss : List Site} {n : Text}
    (h : reg.Holds optional ss) (hn : n ∉ ss.map Site.name) (d : Definition) :
    Registry.Holds (OrderedMap.insert reg n d) optional ss := by
  intro s hs
  rw [OrderedMap.get?_insert, if_neg fun he : s.name = n => hn (he ▸ List.mem_map_of_mem hs)]
  exact h s hs

/-- The names of the declarations that are made for a document, one for each time that one is
made. -/
def Document.madeNames (o : Options) : Document → List Text
  | .object fields => (sites o.rootName fields).map Site.name
  | .array (.object fields :: _) =>
    (sites (o.rootName ++ Name.itemSuffix) fields).map Site.name ++ [o.rootName]
  | .array _ => [o.rootName]

/-- Whether a document is an object or an array led by one. -/
def Document.opensObject : Document → Bool
  | .object _ | .array (.object _ :: _) => true
  | .array _ => false

/-- The root inhabits what a registry declares it to be: an object the root name, an array what the
root name is an alias of. -/
def Document.FitsIn (o : Options) (reg : Registry) : Document → Prop
  | .object fields => Inhabits reg (.object fields) (.named o.rootName)
  | .array items =>
    ∃ target, reg.get? o.rootName = some (.alias target) ∧ Inhabits reg (.array items) target

/-- **The root of a document inhabits its declaration.**  A document that opens an object has a
registry, and its root fits in there if no two of the declarations made for it share a name. -/
theorem root_inhabits_declaration (o : Options) (d : Document) (hd : d.opensObject)
    (hnames : (d.madeNames o).Nodup) : ∃ reg, d.registry? o = some reg ∧ d.FitsIn o reg := by
  unfold Document.opensObject at hd
  split at hd
  · next fields =>
    refine ⟨_, rfl, ?_⟩
    rw [Registry.declare, Registry.generate_eq]
    exact inhabits_named (Registry.holds_addAll _ ∅ hnames) (inhabits_fields fields)
  · next fields items =>
    refine ⟨_, rfl, ?_⟩
    rw [Registry.declare, Registry.generate_eq]
    rw [Document.madeNames, List.nodup_append] at hnames
    refine ⟨_, by rw [OrderedMap.get?_insert, if_pos rfl], ?_⟩
    -- the alias is put beside the records, not in the place of one
    have hroot : o.rootName ∉ (sites (o.rootName ++ Name.itemSuffix) fields).map Site.name :=
      fun hmem => hnames.2.2 _ hmem _ (List.mem_singleton.2 rfl) rfl
    have hheld := (Registry.holds_addAll o.optionalProperties ∅ hnames.1).insert hroot
      (.alias (.array (.named (o.rootName ++ Name.itemSuffix))))
    exact inhabits_led (inhabits_named hheld (inhabits_fields fields))
  · cases hd

/-- The document `[{"a": {"b": [1, "x", null]}, "c": [{"d": []}, 0]}]` is declared as `A`, `CItem`,
`RootItem` and `Root`. -/
theorem root_inhabits_declaration_nested :
    let a : Json := .object [("b", .array [.number (.int 1), .string "x", .null])]
    let c : Json := .array [.object [("d", .array [])], .number (.int 0)]
    let d : Document := .array [.object [("a", a), ("c", c)]]
    (d.opensObject ∧ (d.madeNames .standard).Nodup) ∧
      ∃ reg, d.registry? .standard = some reg ∧ d.FitsIn .standard reg :=
  ⟨⟨rfl, by decide +kernel⟩,
    root_inhabits_declaration .standard _ rfl (by decide +kernel)⟩

end JsonShape
