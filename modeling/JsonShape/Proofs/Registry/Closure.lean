import JsonShape.Convert
import JsonShape.Proofs.Registry.Sites

/-!
# No reference dangles

A registry is closed if every name that occurs in a shape of it is the name of a declaration of it.
The names in the record of a site are the names of sites inside it (`references_shapeUnder`), so
the sites of an object are closed by themselves, whichever of them share a name; adding them keeps a
registry closed.
-/

namespace JsonShape

/-! ### References -/

namespace Shape

mutual

/-- The names that occur in a shape, at any depth. -/
def references : Shape → List Text
  | .named n => [n]
  | .array e => references e
  | .union ms => referencesAll ms
  | .scalar _ | .emptyArray => []

def referencesAll : List Shape → List Text
  | [] => []
  | s :: ss => references s ++ referencesAll ss

end

theorem mem_referencesAll {n : Text} {ss : List Shape} :
    n ∈ referencesAll ss ↔ ∃ s ∈ ss, n ∈ references s := by
  induction ss with
  | nil => simp [referencesAll]
  | cons s ss ih => simp [referencesAll, ih]

theorem mem_references_unionOf {n : Text} {ss : List Shape} (h : n ∈ references (unionOf ss)) :
    ∃ s ∈ ss, n ∈ references s := by
  unfold unionOf at h
  split at h
  · next s hs => exact ⟨s, mem_of_mem_firsts (by simp [hs]), h⟩
  · obtain ⟨s, hs, hn⟩ := mem_referencesAll.1 h
    exact ⟨s, mem_of_mem_firsts hs, hn⟩

mutual

/-- An inferred shape whose objects are left closed has no name in it. -/
theorem references_of : ∀ v : Json, references (of v) = []
  | .null | .bool _ | .number _ | .string _ | .object _ | .array [] => rfl
  | .array (x :: xs) => by
    rw [of, references, List.eq_nil_iff_forall_not_mem]
    intro n hn
    obtain ⟨s, hs, hn⟩ := mem_references_unionOf hn
    rcases List.mem_cons.1 hs with rfl | hs
    · simp [references_of x] at hn
    · simp [references_ofAll xs s hs] at hn

theorem references_ofAll : ∀ (xs : List Json), ∀ s ∈ ofAll xs, references s = []
  | [], s, hs => by simp [ofAll] at hs
  | x :: xs, s, hs => by
    rcases List.mem_cons.1 hs with rfl | hs
    · exact references_of x
    · exact references_ofAll xs s hs

end

end Shape

/-- The name by which a field is known is the name of a site of the field. -/
theorem references_shapeUnder {key n : Text} {value : Json}
    (h : n ∈ (shapeUnder key value).references) : n ∈ (sitesUnder key value).map Site.name := by
  unfold shapeUnder at h
  split at h
  · simp [Shape.references] at h
  · simp [Shape.references] at h
  · simp only [Shape.references, List.mem_singleton] at h
    simp [sitesUnder, h]
  · simp only [Shape.references, List.mem_singleton] at h
    simp [sitesUnder, h]
  · simp [Shape.references_of] at h

/-! ### Sites inside sites -/

/-- Every field of every site brings its own sites along. -/
def OpensAll (ss : List Site) : Prop := ∀ s ∈ ss, ∀ f ∈ s.fields, sitesUnder f.1 f.2 ⊆ ss

theorem sitesUnder_subset_inside {f : Text × Json} {fields : List (Text × Json)} (h : f ∈ fields) :
    sitesUnder f.1 f.2 ⊆ sitesInside fields := by
  induction fields with
  | nil => simp at h
  | cons g fields ih =>
    rw [sitesInside]
    rcases List.mem_cons.1 h with rfl | h
    · exact List.subset_append_left _ _
    · exact List.subset_append_of_subset_right _ (ih h)

theorem OpensAll.concat {fields : List (Text × Json)} (h : OpensAll (sitesInside fields))
    (name : Text) : OpensAll (sites name fields) := by
  intro s hs f hf
  refine List.subset_append_of_subset_left _ ?_
  rcases List.mem_append.1 hs with hs | hs
  · exact h s hs f hf
  · rw [List.mem_singleton.1 hs] at hf
    exact sitesUnder_subset_inside hf

mutual

theorem opensAll_inside : ∀ fields : List (Text × Json), OpensAll (sitesInside fields)
  | [] => by simp [OpensAll, sitesInside]
  | (key, value) :: fields => by
    intro s hs f hf
    rw [sitesInside] at hs ⊢
    rcases List.mem_append.1 hs with hs | hs
    · exact List.subset_append_of_subset_left _ (opensAll_under key value s hs f hf)
    · exact List.subset_append_of_subset_right _ (opensAll_inside fields s hs f hf)

theorem opensAll_under (key : Text) : ∀ value : Json, OpensAll (sitesUnder key value)
  | .object fields => (opensAll_inside fields).concat (Name.ofKey key)
  | .array (.object fields :: _) => (opensAll_inside fields).concat (Name.ofItems key)
  | .array [] | .null | .bool _ | .number _ | .string _ => by simp [OpensAll, sitesUnder]
  | .array (.null :: _) | .array (.bool _ :: _) | .array (.number _ :: _)
  | .array (.string _ :: _) | .array (.array _ :: _) => by simp [OpensAll, sitesUnder]

end

theorem opensAll_sites (name : Text) (fields : List (Text × Json)) : OpensAll (sites name fields) :=
  (opensAll_inside fields).concat name

/-! ### Closed registries -/

namespace Registry

/-- Every name that occurs in a declaration is the name of one. -/
def Closed (reg : Registry) : Prop :=
  ∀ e ∈ reg.entries, ∀ p ∈ e.2.properties, ∀ n ∈ p.shape.references, n ∈ reg.keys

instance (reg : Registry) : Decidable reg.Closed := by unfold Closed; infer_instance

theorem closed_empty : Closed ∅ := by simp [Closed]

theorem mem_keys_addAll {optional : Bool} {reg : Registry} {ss : List Site} {n : Text} :
    n ∈ (reg.addAll optional ss).keys ↔ n ∈ reg.keys ∨ n ∈ ss.map Site.name := by
  rw [keys_addAll, List.mem_append, List.mem_eraseDups, List.mem_filter, Bool.not_eq_true',
    ← Bool.not_eq_true, List.contains_iff_mem]
  tauto

/-- What is found after sites are added was there before or is the record of one of them. -/
theorem get?_addAll_cases {optional : Bool} {reg : Registry} {ss : List Site} {n : Text}
    {d : Definition} (h : (reg.addAll optional ss).get? n = some d) :
    reg.get? n = some d ∨ ∃ s ∈ ss, d = s.record optional := by
  rw [get?_addAll, Option.or_eq_some_iff, Option.map_eq_some_iff] at h
  rcases h with ⟨s, hs, rfl⟩ | ⟨-, h⟩
  · rw [List.findRev?_eq_find?_reverse] at hs
    exact Or.inr ⟨s, List.mem_reverse.1 (List.mem_of_find?_eq_some hs), rfl⟩
  · exact Or.inl h

theorem Closed.addAll {optional : Bool} {reg : Registry} {ss : List Site} (h : reg.Closed)
    (hs : OpensAll ss) : (reg.addAll optional ss).Closed := by
  rintro ⟨n, d⟩ he p hp r hr
  rw [mem_keys_addAll]
  rcases get?_addAll_cases (OrderedMap.mem_entries_iff.1 he) with hd | ⟨s, hss, rfl⟩
  · exact Or.inl (h (n, d) (OrderedMap.mem_entries_iff.2 hd) p hp r hr)
  · obtain ⟨f, hf, rfl⟩ := List.mem_map.1 hp
    exact Or.inr (List.map_subset _ (hs s hss f hf) (references_shapeUnder hr))

/-- A definition may be put in the place of another if the names in it are declared. -/
theorem Closed.insert {reg : Registry} (h : reg.Closed) (n : Text) (d : Definition)
    (hd : ∀ p ∈ d.properties, ∀ r ∈ p.shape.references, r ∈ (OrderedMap.insert reg n d).keys) :
    Closed (OrderedMap.insert reg n d) := by
  rintro ⟨m, c⟩ he p hp r hr
  have hc := OrderedMap.mem_entries_iff.1 he
  rw [OrderedMap.get?_insert] at hc
  split at hc
  · cases hc
    exact hd p hp r hr
  · exact OrderedMap.mem_keys_insert.2
      (Or.inr (h (m, c) (OrderedMap.mem_entries_iff.2 hc) p hp r hr))

end Registry

theorem Document.closed_registry {o : Options} {d : Document} {reg : Registry}
    (h : d.registry? o = some reg) : reg.Closed := by
  unfold Document.registry? at h
  split at h
  · next fields =>
    rw [Registry.declare, Registry.generate_eq] at h
    cases h
    exact Registry.closed_empty.addAll (opensAll_sites o.rootName fields)
  · next fields items =>
    dsimp only at h
    rw [Registry.declare, Registry.generate_eq] at h
    cases h
    refine (Registry.closed_empty.addAll (opensAll_sites _ fields)).insert _ _ ?_
    simp [Definition.properties, Shape.references, OrderedMap.mem_keys_insert,
      Registry.mem_keys_addAll, sites]
  · cases h

/-- **No reference dangles.**  Making a record keeps a registry closed, drops no name, and answers
with what is kept under the name; so in the declarations of a document every name that occurs is the
name of a declaration. -/
theorem references_are_declared (o : Options) :
    (∀ (name : Text) (fields : List (Text × Json)) (reg : Registry), reg.Closed →
      let made := Registry.generate o.optionalProperties name fields reg
      made.2.Closed ∧ reg.keys ⊆ made.2.keys ∧ made.2.get? name = some made.1) ∧
    ∀ d : Document, d.declarations o = assembled o (d.declared o) ∧
      ∀ e ∈ d.declared o, ∀ p ∈ e.2.properties, ∀ n ∈ p.shape.references,
        n ∈ (d.declared o).map Prod.fst := by
  refine ⟨fun name fields reg h => ?_, fun d => ⟨rfl, fun e he p hp n hn => ?_⟩⟩
  · dsimp only
    rw [Registry.generate_eq]
    refine ⟨h.addAll (opensAll_sites name fields), fun n hn => ?_, ?_⟩
    · exact Registry.mem_keys_addAll.2 (Or.inl hn)
    · rw [sites, Registry.addAll_concat, OrderedMap.get?_insert, if_pos rfl]
  · unfold Document.declared at he ⊢
    split at he
    · next reg hreg =>
      have hperm := perm_ordered o.rootName reg
      rw [(hperm.map Prod.fst).mem_iff]
      exact Document.closed_registry hreg e (hperm.mem_iff.1 he) p hp n hn
    · -- the alias of an array that no object leads has no name in it
      simp only [List.mem_singleton] at he
      subst he
      simp only [Definition.properties, List.mem_singleton] at hp
      subst hp
      rw [Shape.references_of] at hn
      cases hn

/-- The names may well meet: the object under the key `user` is declared as `User`, over a record
that knows itself by that name, and then the object around it is, too.  As a document, that object
knows the other one by its name. -/
theorem references_are_declared_user :
    let reg : Registry := OrderedMap.insert ∅ "User" (.record [⟨"friend", .named "User", false⟩])
    let fields : List (Text × Json) := [("user", .object [("id", .number (.int 1))])]
    let made := Registry.generate false "User" fields reg
    let root : Text × Definition := ("Root", .record [⟨"user", .named "User", false⟩])
    let declared := Document.declared .standard (.object fields)
    (reg.Closed ∧ made.2.Closed ∧ reg.keys ⊆ made.2.keys ∧ made.2.get? "User" = some made.1) ∧
    (root ∈ declared ∧ Text.ofString "User" ∈ declared.map Prod.fst) := by
  intro reg fields made root declared
  obtain ⟨hmade, hdeclared⟩ := references_are_declared .standard
  have hroot : root ∈ declared :=
    (perm_ordered "Root" _).mem_iff.2 (List.mem_cons_of_mem _ List.mem_cons_self)
  exact ⟨⟨by decide, hmade "User" fields reg (by decide)⟩, hroot,
    (hdeclared (.object fields)).2 root hroot _ (List.mem_singleton.2 rfl) "User"
      (List.mem_singleton.2 rfl)⟩

end JsonShape
