import JsonShape.Proofs.Registry.Closure
import JsonShape.Proofs.Registry.Inhabits

/-!
# The declarations of a document

A document is declared by the records of its sites and, if it is an array, by the alias of its root.
Every other name than the root's comes from the key of a field of some site (`made_of_mem_sites`),
and every declaration is the record of a site or that alias (`mem_declared`).
-/

namespace JsonShape

/-! ### Names of sites -/

/-- The name is made from the key. -/
def Name.MadeFrom (key n : Text) : Prop := n = Name.ofKey key ∨ n = Name.ofItems key

/-- The key heads a field of one of the sites. -/
def HasKey (ss : List Site) (key : Text) : Prop := ∃ s ∈ ss, ∃ f ∈ s.fields, f.1 = key

theorem HasKey.mono {ss ts : List Site} {key : Text} (h : HasKey ss key) (hsub : ss ⊆ ts) :
    HasKey ts key := by
  obtain ⟨s, hs, hf⟩ := h
  exact ⟨s, hsub hs, hf⟩

theorem hasKey_sites {name key : Text} {fields : List (Text × Json)}
    (h : key ∈ fields.map Prod.fst ∨ HasKey (sitesInside fields) key) :
    HasKey (sites name fields) key := by
  rcases h with h | h
  · obtain ⟨f, hf, rfl⟩ := List.mem_map.1 h
    exact ⟨⟨name, fields⟩, List.mem_append_right _ (List.mem_singleton.2 rfl), f, hf, rfl⟩
  · exact h.mono (List.subset_append_left _ _)

mutual

/-- The name of a site inside an object is made from a key of the object or of a site inside it. -/
theorem made_of_mem_inside : ∀ fields : List (Text × Json), ∀ s ∈ sitesInside fields,
    ∃ key, (key ∈ fields.map Prod.fst ∨ HasKey (sitesInside fields) key) ∧
      Name.MadeFrom key s.name
  | (key, value) :: fields, s, hs => by
    rw [sitesInside] at hs ⊢
    rcases List.mem_append.1 hs with hs | hs
    · obtain ⟨k, hk, hmade⟩ := made_of_mem_under key value s hs
      refine ⟨k, ?_, hmade⟩
      rcases hk with rfl | hk
      · exact Or.inl List.mem_cons_self
      · exact Or.inr (hk.mono (List.subset_append_left _ _))
    · obtain ⟨k, hk, hmade⟩ := made_of_mem_inside fields s hs
      refine ⟨k, ?_, hmade⟩
      rcases hk with hk | hk
      · exact Or.inl (List.mem_cons_of_mem _ hk)
      · exact Or.inr (hk.mono (List.subset_append_right _ _))

theorem made_of_mem_under (key : Text) : ∀ value : Json, ∀ s ∈ sitesUnder key value,
    ∃ k, (k = key ∨ HasKey (sitesUnder key value) k) ∧ Name.MadeFrom k s.name
  | .object fields, s, hs => by
    rcases List.mem_append.1 hs with hs | hs
    · obtain ⟨k, hk, hmade⟩ := made_of_mem_inside fields s hs
      exact ⟨k, Or.inr (hasKey_sites hk), hmade⟩
    · rw [List.mem_singleton.1 hs]
      exact ⟨key, Or.inl rfl, Or.inl rfl⟩
  | .array (.object fields :: _), s, hs => by
    rcases List.mem_append.1 hs with hs | hs
    · obtain ⟨k, hk, hmade⟩ := made_of_mem_inside fields s hs
      exact ⟨k, Or.inr (hasKey_sites hk), hmade⟩
    · rw [List.mem_singleton.1 hs]
      exact ⟨key, Or.inl rfl, Or.inr rfl⟩
  | .array [], _, hs | .null, _, hs | .bool _, _, hs | .number _, _, hs | .string _, _, hs
  | .array (.null :: _), _, hs | .array (.bool _ :: _), _, hs | .array (.number _ :: _), _, hs
  | .array (.string _ :: _), _, hs | .array (.array _ :: _), _, hs => absurd hs List.not_mem_nil

end

/-! ### Documents -/

namespace Document

/-- The sites of a document; an array that no object leads has none. -/
def sites (o : Options) : Document → List Site
  | .object fields => JsonShape.sites o.rootName fields
  | .array (.object fields :: _) => JsonShape.sites (o.rootName ++ Name.itemSuffix) fields
  | .array _ => []

/-- What the root name of an array is an alias of. -/
def target? (o : Options) : Document → Option Shape
  | .object _ => none
  | .array (.object _ :: _) => some (.array (.named (o.rootName ++ Name.itemSuffix)))
  | .array items => some (.of (.array items))

variable {o : Options}

theorem registry?_object (o : Options) (fields : List (Text × Json)) :
    Document.registry? o (.object fields) =
      some (Registry.addAll o.optionalProperties ∅ ((Document.object fields).sites o)) := by
  rw [sites, registry?, Registry.declare, Registry.generate_eq]

/-- The alias of an array that an object leads is put over the records. -/
theorem registry?_led (o : Options) (fields : List (Text × Json)) (items : List Json) :
    Document.registry? o (.array (.object fields :: items)) =
      some (OrderedMap.insert
        (Registry.addAll o.optionalProperties ∅
          ((Document.array (.object fields :: items)).sites o)) o.rootName
        (.alias (.array (.named (o.rootName ++ Name.itemSuffix))))) := by
  rw [sites, registry?, Registry.declare, Registry.generate_eq]

/-- An array that no object leads has no sites and no registry. -/
theorem eq_of_not_opensObject (o : Options) {d : Document} (h : d.opensObject = false) :
    d.sites o = [] ∧ d.target? o = some (.of d.root) ∧
      d.declared o = [(o.rootName, .alias (.of d.root))] ∧ d.madeNames o = [o.rootName] := by
  cases d with
  | object fields => cases h
  | array items =>
    rcases items with _ | ⟨v, vs⟩
    · exact ⟨rfl, rfl, rfl, rfl⟩
    · cases v with
      | object fields => cases h
      | _ => exact ⟨rfl, rfl, rfl, rfl⟩

/-- An object, an array led by one, and any other array. -/
theorem cases_lead {motive : Document → Prop} (object : ∀ fields, motive (.object fields))
    (led : ∀ fields items, motive (.array (.object fields :: items)))
    (other : ∀ d : Document, d.opensObject = false → motive d) : ∀ d, motive d
  | .object fields => object fields
  | .array (.object fields :: items) => led fields items
  | .array [] | .array (.null :: _) | .array (.bool _ :: _) | .array (.number _ :: _)
  | .array (.string _ :: _) | .array (.array _ :: _) => other _ rfl

/-- A declaration is made for each site, and then for the alias of an array. -/
theorem madeNames_eq (o : Options) (d : Document) :
    d.madeNames o = (d.sites o).map Site.name ++ (d.target? o).toList.map fun _ => o.rootName := by
  induction d using cases_lead with
  | object fields => exact (List.append_nil _).symm
  | led fields items => rfl
  | other d h =>
    obtain ⟨hsites, htarget, -, hnames⟩ := eq_of_not_opensObject o h
    rw [hsites, htarget, hnames]
    rfl

/-- A name holds the record of a site of that name, if it holds anything. -/
theorem site_of_get?_addAll {optional : Bool} {ss : List Site} {n : Text} {c : Definition}
    (h : (Registry.addAll optional ∅ ss).get? n = some c) :
    ∃ s ∈ ss, (n, c) = (s.name, s.record optional) := by
  rw [Registry.get?_addAll, Option.or_eq_some_iff, Option.map_eq_some_iff] at h
  rcases h with ⟨s, hs, rfl⟩ | ⟨-, h⟩
  · rw [List.findRev?_eq_find?_reverse] at hs
    have hname : s.name = n := by simpa using List.find?_some hs
    have hmem := List.mem_reverse.1 (List.mem_of_find?_eq_some hs)
    exact ⟨s, hmem, by rw [hname]⟩
  · cases h

theorem mem_declared_iff {d : Document} {reg : Registry} (h : d.registry? o = some reg)
    {n : Text} {c : Definition} : (n, c) ∈ d.declared o ↔ reg.get? n = some c := by
  rw [declared, h]
  exact (perm_ordered o.rootName reg).mem_iff.trans OrderedMap.mem_entries_iff

/-- Entries that stand in their order already are written as they stand. -/
theorem declared_of_pairwise {d : Document} {reg : Registry} (h : d.registry? o = some reg)
    (hp : reg.entries.Pairwise fun a b => precedes o.rootName a.1 b.1) :
    d.declared o = reg.entries := by
  rw [declared, h]
  exact List.mergeSort_of_pairwise hp

/-- **A declaration is the record of a site or the alias of the root.** -/
theorem mem_declared {d : Document} {e : Text × Definition} (he : e ∈ d.declared o) :
    (∃ s ∈ d.sites o, e = (s.name, s.record o.optionalProperties)) ∨
      ∃ target, d.target? o = some target ∧ e = (o.rootName, .alias target) := by
  obtain ⟨n, c⟩ := e
  induction d using cases_lead with
  | object fields =>
    rw [mem_declared_iff (registry?_object o fields)] at he
    exact Or.inl (site_of_get?_addAll he)
  | led fields items =>
    rw [mem_declared_iff (registry?_led o fields items), OrderedMap.get?_insert] at he
    split at he
    · next hroot =>
      exact Or.inr ⟨_, rfl, Prod.ext hroot (Option.some.inj he).symm⟩
    · exact Or.inl (site_of_get?_addAll he)
  | other d h =>
    obtain ⟨-, htarget, hdeclared, -⟩ := eq_of_not_opensObject o h
    rw [hdeclared, List.mem_singleton] at he
    exact Or.inr ⟨_, htarget, he⟩

theorem opensAll_sites (o : Options) (d : Document) : OpensAll (d.sites o) := by
  induction d using cases_lead with
  | object fields => exact JsonShape.opensAll_sites o.rootName fields
  | led fields items => exact JsonShape.opensAll_sites _ fields
  | other d h =>
    rw [(eq_of_not_opensObject o h).1]
    simp [OpensAll]

/-- Every name is the root's, that of the root's items, or made from a key of a site. -/
theorem made_of_mem_sites {d : Document} {s : Site} (hs : s ∈ d.sites o) :
    s.name = o.rootName ∨ s.name = o.rootName ++ Name.itemSuffix ∨
      ∃ key, HasKey (d.sites o) key ∧ Name.MadeFrom key s.name := by
  induction d using cases_lead with
  | object fields =>
    rcases List.mem_append.1 hs with hs | hs
    · obtain ⟨key, hkey, hmade⟩ := made_of_mem_inside fields s hs
      exact Or.inr (Or.inr ⟨key, hasKey_sites hkey, hmade⟩)
    · rw [List.mem_singleton.1 hs]
      exact Or.inl rfl
  | led fields items =>
    rcases List.mem_append.1 hs with hs | hs
    · obtain ⟨key, hkey, hmade⟩ := made_of_mem_inside fields s hs
      exact Or.inr (Or.inr ⟨key, hasKey_sites hkey, hmade⟩)
    · rw [List.mem_singleton.1 hs]
      exact Or.inr (Or.inl rfl)
  | other d h =>
    rw [(eq_of_not_opensObject o h).1] at hs
    cases hs

/-- The root is declared. -/
theorem rootName_mem_names (o : Options) (d : Document) :
    o.rootName ∈ (d.declared o).map Prod.fst := by
  induction d using cases_lead with
  | object fields =>
    have hget : (Registry.addAll o.optionalProperties ∅ ((Document.object fields).sites o)).get?
        o.rootName = some (Site.record o.optionalProperties ⟨o.rootName, fields⟩) := by
      rw [sites, JsonShape.sites, Registry.addAll_concat, OrderedMap.get?_insert, if_pos rfl]
    exact List.mem_map.2 ⟨_, (mem_declared_iff (registry?_object o fields)).2 hget, rfl⟩
  | led fields items =>
    have hget := OrderedMap.get?_insert (Registry.addAll o.optionalProperties ∅
      ((Document.array (.object fields :: items)).sites o)) o.rootName o.rootName
      (.alias (.array (.named (o.rootName ++ Name.itemSuffix))))
    rw [if_pos rfl] at hget
    exact List.mem_map.2 ⟨_, (mem_declared_iff (registry?_led o fields items)).2 hget, rfl⟩
  | other d h =>
    rw [(eq_of_not_opensObject o h).2.2.1]
    exact List.mem_singleton.2 rfl

end Document

end JsonShape
