import JsonShape.Proofs.Json.Path
import JsonShape.Proofs.Registry.FieldOrder
import JsonShape.Proofs.Shape.Exact

/-!
# Which objects of a document are opened

The objects that are declared are those to which a way leads that opens objects
(`Document.opens_of_mem_sites`, `Document.knows_of_opens`): where such an object stands, the
declarations have its name.  All other objects stand behind the object that leads an array, or in an
array that no object leads.  The latter arrays are left closed, and where such an array is met, the
word for an object is part of its shape exactly if an object is nested in it through arrays
(`Shape.hasPart_object_of_array_iff`).  So this word is declared for them only
(`Document.closed_objects`).
-/

namespace JsonShape

open Json (Unled Behind)

/-! ### The word for an object -/

/-- An object is nested in the items of an array. -/
def Json.EncloseObject (items : List Json) : Prop :=
  ∃ v ∈ items, ∃ fields, v.Nests (.object fields)

namespace Shape

theorem hasPart_object_of_iff {v : Json} :
    HasPart (of v) (.scalar .object) ↔ ∃ fields, v.Nests (.object fields) := by
  constructor
  · intro h
    obtain ⟨w, hw, he⟩ := exists_nested_of_hasPart h (by simp)
    cases w with
    | object fields => exact ⟨fields, hw⟩
    | array items => cases items <;> simp [of] at he
    | _ => simp [of] at he
  · rintro ⟨fields, h⟩
    exact hasPart_of_nests h

theorem hasPart_object_of_array_iff {items : List Json} :
    HasPart (of (.array items)) (.scalar .object) ↔ Json.EncloseObject items := by
  rw [hasPart_object_of_iff]
  constructor
  · rintro ⟨fields, h⟩
    cases h with
    | item hv h => exact ⟨_, hv, fields, h⟩
  · rintro ⟨v, hv, fields, h⟩
    exact ⟨fields, .item hv h⟩

end Shape

/-- An array that no object leads is left closed. -/
theorem shapeUnder_of_not_isLed (key : Text) {items : List Json} (h : Json.isLed items = false) :
    shapeUnder key (.array items) = .of (.array items) := by
  cases items with
  | nil => rfl
  | cons v items =>
    cases v with
    | object fields => cases h
    | _ => rfl

/-- The word is part of the shape of a field only where an array is left closed. -/
theorem exists_array_of_hasPart_object {key : Text} {value : Json}
    (h : (shapeUnder key value).HasPart (.scalar .object)) :
    ∃ items, value = .array items ∧ Json.isLed items = false ∧ Json.EncloseObject items := by
  cases value with
  | array items =>
    induction items using Json.cases_isLed with
    | led fields items =>
      cases h with
      | element h => cases h
    | unled items hled =>
      rw [shapeUnder_of_not_isLed key hled] at h
      exact ⟨items, rfl, hled, Shape.hasPart_object_of_array_iff.1 h⟩
  | _ => cases h

/-! ### Ways to sites -/

/-- A way leads to every site of an object if one leads to every site inside it. -/
theorem opens_of_mem_object (name : Text) {fields : List (Text × Json)} {s : Site}
    (hinside : s ∈ sitesInside fields → ∃ f ∈ fields, ∃ p, f.2.Opens p (.object s.fields))
    (hs : s ∈ sites name fields) : ∃ p, (Json.object fields).Opens p (.object s.fields) := by
  rcases List.mem_append.1 hs with hs | hs
  · obtain ⟨f, hf, p, hp⟩ := hinside hs
    exact Json.Opens.of_mem hf hp
  · rw [List.mem_singleton.1 hs]
    exact ⟨[], .here _⟩

mutual

theorem opens_of_mem_under (key : Text) : ∀ value : Json, ∀ s ∈ sitesUnder key value,
    ∃ p, value.Opens p (.object s.fields)
  | .object fields, s, hs => opens_of_mem_object (Name.ofKey key) (opens_of_mem_inside fields s) hs
  | .array (.object fields :: _), s, hs => by
    obtain ⟨p, hp⟩ := opens_of_mem_object (Name.ofItems key) (opens_of_mem_inside fields s) hs
    exact ⟨_, .lead hp⟩
  | .array [], _, hs | .null, _, hs | .bool _, _, hs | .number _, _, hs | .string _, _, hs
  | .array (.null :: _), _, hs | .array (.bool _ :: _), _, hs | .array (.number _ :: _), _, hs
  | .array (.string _ :: _), _, hs | .array (.array _ :: _), _, hs => absurd hs List.not_mem_nil

theorem opens_of_mem_inside : ∀ fields : List (Text × Json), ∀ s ∈ sitesInside fields,
    ∃ f ∈ fields, ∃ p, f.2.Opens p (.object s.fields)
  | (key, value) :: fields, s, hs => by
    rw [sitesInside] at hs
    rcases List.mem_append.1 hs with hs | hs
    · exact ⟨(key, value), List.mem_cons_self, opens_of_mem_under key value s hs⟩
    · obtain ⟨f, hf, p, hp⟩ := opens_of_mem_inside fields s hs
      exact ⟨f, List.mem_cons_of_mem _ hf, p, hp⟩

end

namespace Document

variable {o : Options} {d : Document}

/-- **A way that opens objects leads to every site.** -/
theorem opens_of_mem_sites {s : Site} (hs : s ∈ d.sites o) :
    ∃ p, d.root.Opens p (.object s.fields) := by
  induction d using cases_lead with
  | object fields => exact opens_of_mem_object o.rootName (opens_of_mem_inside fields s) hs
  | led fields items =>
    obtain ⟨p, hp⟩ := opens_of_mem_object _ (opens_of_mem_inside fields s) hs
    exact ⟨_, .lead hp⟩
  | other d h =>
    rw [(eq_of_not_opensObject o h).1] at hs
    cases hs

/-! ### Declarations that are made -/

/-- The declarations in the order in which they are made; a later one replaces those of its name. -/
def made (o : Options) (d : Document) : List (Text × Definition) :=
  (d.sites o).map (Site.declaration o.optionalProperties) ++ d.aliased o

theorem mem_made_of_mem_declared {e : Text × Definition} (he : e ∈ d.declared o) :
    e ∈ d.made o := by
  rw [made, List.mem_append]
  rcases List.mem_append.1 (mem_declared_iff_lasting.1 he) with he | he
  · obtain ⟨s, hs, rfl⟩ := List.mem_map.1 he
    exact Or.inl (List.mem_map_of_mem (mem_of_mem_lasting hs))
  · exact Or.inr he

/-- If no two of them share a name, they are all written. -/
theorem declared_perm_made (h : (d.madeNames o).Nodup) : (d.declared o).Perm (d.made o) := by
  have hlasting : (lasting (d.later o) (d.sites o)).Perm (d.sites o) := by
    have hall := lasting_append_overwritten (d.later o) (d.sites o)
    rw [madeNames_eq] at h
    rw [(overwritten_eq_nil_iff (nodup_later o d)).2 h, List.append_nil] at hall
    exact hall
  exact (declared_perm o d).trans ((hlasting.map _).append_right _)

/-! ### Names of objects that are opened -/

/-- The name stands in the place at the end of the path: it is the root's, or the alias of the root
has it there, or the property for a field of an object that is declared. -/
inductive NameAt (o : Options) (d : Document) (n : Text) : List Step → Prop
  | root {fields : List (Text × Json)} (hd : d = .object fields) (hn : n = o.rootName) :
    NameAt o d n []
  | rootItem (ht : d.target? o = some (.array (.named n))) : NameAt o d n [.item 0]
  | field {p : List Step} {s : Site} {i : Nat} {q : Property} (hs : s ∈ d.sites o)
    (hp : d.root.at? p = some (.object s.fields))
    (hi : (s.record o.optionalProperties).properties[i]? = some q) (hn : q.shape = .named n) :
    NameAt o d n (p ++ [.field i])
  | item {p : List Step} {s : Site} {i : Nat} {q : Property} (hs : s ∈ d.sites o)
    (hp : d.root.at? p = some (.object s.fields))
    (hi : (s.record o.optionalProperties).properties[i]? = some q)
    (hn : q.shape = .array (.named n)) : NameAt o d n (p ++ [.field i, .item 0])

/-- The object is declared, under a name that stands in its place. -/
def IsKnown (o : Options) (d : Document) (p : List Step) (fields : List (Text × Json)) : Prop :=
  ∃ n, ⟨n, fields⟩ ∈ d.sites o ∧ NameAt o d n p

/-- An object, or the object that leads an array, is known if it stands at the end of the path. -/
def Knows (o : Options) (d : Document) (p : List Step) : Json → Prop
  | .object fields => d.IsKnown o p fields
  | .array (.object fields :: _) => d.IsKnown o (p ++ [.item 0]) fields
  | _ => True

/-- Nothing is asked of an array that no object leads. -/
theorem knows_of_not_isLed {p : List Step} {items : List Json} (h : Json.isLed items = false) :
    d.Knows o p (.array items) := by
  rcases items with _ | ⟨v, vs⟩
  · trivial
  · cases v with
    | object fields => cases h
    | _ => trivial

theorem knows_root (o : Options) (d : Document) : d.Knows o [] d.root := by
  have hlast (name : Text) (fields : List (Text × Json)) :
      ⟨name, fields⟩ ∈ JsonShape.sites name fields :=
    List.mem_append_right _ (List.mem_singleton.2 rfl)
  cases d with
  | object fields => exact ⟨o.rootName, hlast _ fields, .root rfl rfl⟩
  | array items =>
    induction items using Json.cases_isLed with
    | led fields items => exact ⟨_, hlast _ fields, .rootItem rfl⟩
    | unled items hled => exact knows_of_not_isLed hled

/-- What is under the keys of an object that is declared is known. -/
theorem knows_field {p : List Step} {s : Site} {i : Nat} {f : Text × Json} (hs : s ∈ d.sites o)
    (hp : d.root.at? p = some (.object s.fields)) (hf : s.fields[i]? = some f) :
    d.Knows o (p ++ [.field i]) f.2 := by
  have hopens : sitesUnder f.1 f.2 ⊆ d.sites o :=
    opensAll_sites o d _ hs f (List.mem_of_getElem? hf)
  have hi : (s.record o.optionalProperties).properties[i]? =
      some (Property.ofField o.optionalProperties f) := by
    rw [Site.record, Definition.properties, List.getElem?_map, hf]
    rfl
  obtain ⟨key, value⟩ := f
  have hlast {t : Site} {ss : List Site} (h : sitesUnder key value = ss ++ [t]) :
      t ∈ d.sites o := by
    apply hopens
    rw [h]
    exact List.mem_append_right _ (List.mem_singleton.2 rfl)
  cases value with
  | object gs => exact ⟨Name.ofKey key, hlast rfl, .field hs hp hi rfl⟩
  | array items =>
    induction items using Json.cases_isLed with
    | led gs items =>
      refine ⟨Name.ofItems key, hlast rfl, ?_⟩
      rw [List.append_assoc]
      exact .item hs hp hi rfl
    | unled items hled => exact knows_of_not_isLed hled
  | _ => trivial

/-- **Where an object is opened, its name stands.**  One step after the other, what is known of a
value is known of the values that a way which opens objects leads to. -/
theorem knows_of_opens {p q : List Step} {v w : Json} (hp : d.root.Opens p v)
    (hv : d.Knows o p v) (h : v.Opens q w) : d.Knows o (p ++ q) w := by
  induction h generalizing p with
  | here v =>
    rw [List.append_nil]
    exact hv
  | @field fields n f q w hf _ ih =>
    obtain ⟨name, hs, -⟩ := hv
    have hstep : (Json.object fields).Opens [.field n] f.2 := .field hf (.here _)
    have hrest := ih (hp.trans hstep) (knows_field hs hp.at?_eq hf)
    rw [List.append_assoc] at hrest
    exact hrest
  | @lead fields items q w _ ih =>
    have hstep : (Json.array (.object fields :: items)).Opens [.item 0] (.object fields) :=
      .lead (.here _)
    have hrest := ih (hp.trans hstep) hv
    rw [List.append_assoc] at hrest
    exact hrest

theorem isKnown_of_opens {p : List Step} {fields : List (Text × Json)}
    (h : d.root.Opens p (.object fields)) : d.IsKnown o p fields :=
  knows_of_opens (.here _) (knows_root o d) h

/-! ### Objects that are left closed -/

/-- An array that no object leads stands where objects are opened, and an object is nested in it. -/
def ClosesObject (d : Document) : Prop :=
  ∃ p items, d.root.at? p = some (.array items) ∧ ¬ d.root.Passes Unled p ∧
    ¬ d.root.Passes Behind p ∧ Json.isLed items = false ∧ Json.EncloseObject items

/-- The word for an object occurs in the shape of a property of the definition. -/
def WritesObject (c : Definition) : Prop :=
  ∃ q ∈ c.properties, q.shape.HasPart (.scalar .object)

theorem closesObject_iff_opens : d.ClosesObject ↔
    ∃ p items, d.root.Opens p (.array items) ∧ Json.isLed items = false ∧
      Json.EncloseObject items := by
  simp only [ClosesObject, Json.opens_iff, and_assoc]

/-- The alias of an array that no object leads. -/
theorem target?_of_not_isLed {items : List Json} (h : Json.isLed items = false) :
    (Document.array items).target? o = some (.of (.array items)) := by
  rcases items with _ | ⟨v, vs⟩
  · rfl
  · cases v with
    | object fields => cases h
    | _ => rfl

theorem closesObject_of_writesObject {e : Text × Definition} (he : e ∈ d.made o)
    (h : WritesObject e.2) : d.ClosesObject := by
  rw [closesObject_iff_opens]
  obtain ⟨q, hq, hpart⟩ := h
  rcases List.mem_append.1 he with he | he
  · obtain ⟨s, hs, rfl⟩ := List.mem_map.1 he
    obtain ⟨f, hf, rfl⟩ := List.mem_map.1 hq
    obtain ⟨items, hvalue, hled, henclose⟩ := exists_array_of_hasPart_object hpart
    obtain ⟨p, hp⟩ := opens_of_mem_sites hs
    have hfield : f.2.Opens [] (.array items) := hvalue ▸ .here _
    obtain ⟨r, hr⟩ := Json.Opens.of_mem hf hfield
    exact ⟨p ++ r, items, hp.trans hr, hled, henclose⟩
  · obtain ⟨target, ht, rfl⟩ := List.mem_map.1 he
    rw [Option.mem_toList] at ht
    rw [List.mem_singleton.1 hq] at hpart
    cases d with
    | object fields => cases ht
    | array items =>
      induction items using Json.cases_isLed with
      | led fields items =>
        obtain rfl := Option.some.inj ht
        cases hpart with
        | element h => cases h
      | unled items hled =>
        rw [target?_of_not_isLed hled] at ht
        obtain rfl := Option.some.inj ht
        exact ⟨[], items, .here _, hled, Shape.hasPart_object_of_array_iff.1 hpart⟩

/-- The array that is left closed is the root, or stands under a key of an object that is
declared. -/
theorem exists_writesObject (o : Options) (h : d.ClosesObject) :
    ∃ e ∈ d.made o, WritesObject e.2 := by
  obtain ⟨p, items, hp, hled, henclose⟩ := closesObject_iff_opens.1 h
  have hpart : (Shape.of (.array items)).HasPart (.scalar .object) :=
    Shape.hasPart_object_of_array_iff.2 henclose
  induction p using List.reverseRecOn with
  | nil =>
    cases d with
    | object fields => cases hp
    | array vs =>
      cases hp
      refine ⟨(o.rootName, .alias (.of (.array items))), ?_, _, List.mem_singleton.2 rfl, hpart⟩
      rw [made, aliased, target?_of_not_isLed hled]
      exact List.mem_append_right _ (List.mem_singleton.2 rfl)
  | append_singleton q s _ =>
    obtain ⟨v, hq, hv⟩ := hp.split
    cases hv with
    | @field fields n f p w hf hv =>
      obtain ⟨name, hs, -⟩ := isKnown_of_opens (o := o) hq
      obtain ⟨key, value⟩ := f
      cases hv
      have hmade : Site.declaration o.optionalProperties ⟨name, fields⟩ ∈ d.made o :=
        List.mem_append_left _ (List.mem_map_of_mem hs)
      refine ⟨_, hmade, Property.ofField o.optionalProperties (key, .array items), ?_, ?_⟩
      · exact List.mem_map_of_mem (List.mem_of_getElem? hf)
      · rw [Property.ofField, shapeUnder_of_not_isLed key hled]
        exact hpart
    | lead hv => cases hv

/-- **Objects are left closed in arrays that no object leads, and nowhere else.**  If the word for
an object is declared, such an array stands where objects are opened, and an object is nested in it;
and then the word is declared, unless it is lost to a name that is used again.  Any other object
that does not stand behind the object that leads an array is declared, and its name stands in its
place. -/
theorem closed_objects (o : Options) (d : Document) :
    (∀ e ∈ d.declared o, WritesObject e.2 → d.ClosesObject) ∧
    (∀ p fields, d.root.at? p = some (.object fields) →
      d.root.Passes Unled p ∨ d.root.Passes Behind p ∨ d.IsKnown o p fields) ∧
    ((d.madeNames o).Nodup → (d.declared o).Perm (d.made o) ∧
      (d.ClosesObject → ∃ e ∈ d.declared o, WritesObject e.2)) := by
  refine ⟨?_, ?_, ?_⟩
  · intro e he
    exact closesObject_of_writesObject (mem_made_of_mem_declared he)
  · intro p fields hp
    by_cases hunled : d.root.Passes Unled p
    · exact Or.inl hunled
    by_cases hbehind : d.root.Passes Behind p
    · exact Or.inr (Or.inl hbehind)
    exact Or.inr (Or.inr (isKnown_of_opens (Json.opens_iff.2 ⟨hp, hunled, hbehind⟩)))
  · intro hnames
    have hmade := declared_perm_made hnames
    refine ⟨hmade, fun h => ?_⟩
    obtain ⟨e, he, hwrites⟩ := exists_writesObject o h
    exact ⟨e, hmade.mem_iff.2 he, hwrites⟩

/-- In `{"a": {"x": [null, [{}]]}}`, the object under `a` is opened and the other one is not. -/
theorem closed_objects_nested :
    let x : Text × Json := ("x", .array [.null, .array [.object []]])
    let d : Document := .object [("a", .object [x])]
    ((d.madeNames .standard).Nodup ∧ d.root.at? [.field 0] = some (.object [x]) ∧
        ¬ d.root.Passes Unled [.field 0] ∧ ¬ d.root.Passes Behind [.field 0]) ∧
      d.IsKnown .standard [.field 0] [x] ∧
      ∃ e ∈ d.declared .standard, WritesObject e.2 ∧ d.ClosesObject := by
  intro x d
  have hnames : (d.madeNames .standard).Nodup := by decide +kernel
  have ha : d.root.Opens [.field 0] (.object [x]) := .field rfl (.here _)
  have hx : d.root.Opens [.field 0, .field 0] x.2 := .field rfl (.field rfl (.here _))
  have hcloses : d.ClosesObject :=
    closesObject_iff_opens.2 ⟨_, _, hx, rfl, .array [.object []],
      List.mem_cons_of_mem _ List.mem_cons_self, [], .item List.mem_cons_self (.refl _)⟩
  obtain ⟨hat, hunled, hbehind⟩ := Json.opens_iff.1 ha
  obtain ⟨honly, hknown, hall⟩ := closed_objects .standard d
  obtain ⟨e, he, hwrites⟩ := (hall hnames).2 hcloses
  exact ⟨⟨hnames, hat, hunled, hbehind⟩,
    ((hknown _ _ hat).resolve_left hunled).resolve_left hbehind, e, he, hwrites, honly e he hwrites⟩

open Json in
/-- In `[[{}]]`, the word is declared although no array has an object behind a first element that is
none; in `[null, {"a": {}}]`, the object under `a` stands behind no object that leads an array, and
no name is declared for it. -/
theorem closed_objects_of_arrays :
    let nested : Document := .array [.array [.object []]]
    let deep : Document := .array [.null, .object [("a", .object [])]]
    (ofText? "[[\x7b\x7d]]" = .ok nested ∧
      (∃ e ∈ nested.declared .standard, WritesObject e.2) ∧
      ∀ p items i fields, nested.root.at? p = some (.array items) → isLed items = false →
        items[i + 1]? ≠ some (.object fields)) ∧
    ofText? "[null,\x7b\"a\":\x7b\x7d\x7d]" = .ok deep ∧
    deep.root.at? [.item 1, .field 0] = some (.object []) ∧
    ¬ deep.root.Passes Behind [.item 1, .field 0] ∧
    ∀ e ∈ deep.declared .standard, ∀ q ∈ e.2.properties, q.shape.references = [] := by
  intro nested deep
  have hnested : JsonText Readable maxDepth nested.root "[[\x7b\x7d]]" :=
    .blanks (.refl _) (.array (.refl _) (.last (.array (.refl _)
      (.last (.emptyObject (.refl _)) (.refl _))) (.refl _))) (.refl _)
  have ha : NameText "a" "\"a\":\x7b\x7d\x7d]" "\x7b\x7d\x7d]" := nameText_letter (by decide) _
  have hdeep : JsonText Readable maxDepth deep.root "[null,\x7b\"a\":\x7b\x7d\x7d]" :=
    .blanks (.refl _) (.array (.refl _) (.cons .nullWord (.refl _) (.refl _)
      (.last (.object (.refl _) (.last ha (.emptyObject (.refl _)) (.refl _))) (.refl _))))
    (.refl _)
  refine ⟨⟨ofText?_eq_ok_iff.2 (read_of_jsonText hnested), ?_, ?_⟩,
    ofText?_eq_ok_iff.2 (read_of_jsonText hdeep), rfl, ?_, ?_⟩
  · have hpart : (Shape.of nested.root).HasPart (.scalar .object) :=
      Shape.hasPart_object_of_array_iff.2
        ⟨_, List.mem_cons_self, [], .item List.mem_cons_self (.refl _)⟩
    exact ⟨_, List.mem_singleton.2 rfl, _, List.mem_singleton.2 rfl, hpart⟩
  · intro p items i fields hp hled
    rcases at?_singleton hp with hv | ⟨q, hq⟩
    · rw [← Json.array.inj hv]
      nofun
    · rcases at?_singleton hq with hv | ⟨r, hr⟩
      · rw [← Json.array.inj hv] at hled
        cases hled
      · cases r with
        | nil => cases hr
        | cons s r => cases s <;> cases hr
  · intro h
    rcases passes_cons_iff.1 h with ⟨i, items, -, hv, hled, -⟩ | ⟨w, hw, h⟩
    · rw [← Json.array.inj hv] at hled
      cases hled
    · rcases passes_cons_iff.1 h with ⟨i, items, hs, -⟩ | ⟨u, -, h⟩
      · cases hs
      · exact not_passes_nil h
  · intro e he q hq
    obtain rfl := List.mem_singleton.1 he
    obtain rfl := List.mem_singleton.1 hq
    exact Shape.references_of deep.root

end Document

end JsonShape
