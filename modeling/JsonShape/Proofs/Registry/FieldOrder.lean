import Mathlib.Data.Multiset.Defs
import JsonShape.Proofs.Registry.Order
import JsonShape.Proofs.Registry.Skeleton

/-!
# The order of fields shows in the order of properties only

Two values are permuted if they differ in the order in which objects list their fields, at any
depth.  An object is then visited at another moment, but under the same name and with the same
properties in some order: the outlines of the sites of permuted documents are permuted, too
(`Document.outlines_perm`).  The names of the declarations are written in an order of their own,
so they do not change at all, whatever is overwritten on the way; and where no two sites share a
name, each declaration keeps its properties (`Document.declared_of_permuted`).
-/

namespace JsonShape

/-! ### Permuted values -/

mutual

/-- Two values differ in the order of the fields of objects only. -/
inductive Permuted : Json → Json → Prop
  | refl (v : Json) : Permuted v v
  /-- The items stay in order. -/
  | array {vs ws : List Json} (h : PermutedItems vs ws) : Permuted (.array vs) (.array ws)
  /-- The fields come in another order, with permuted values under their keys. -/
  | object {fs gs hs : List (Text × Json)} (hp : fs.Perm gs) (h : PermutedFields gs hs) :
    Permuted (.object fs) (.object hs)

inductive PermutedItems : List Json → List Json → Prop
  | nil : PermutedItems [] []
  | cons {v w : Json} {vs ws : List Json} (h : Permuted v w) (hs : PermutedItems vs ws) :
    PermutedItems (v :: vs) (w :: ws)

inductive PermutedFields : List (Text × Json) → List (Text × Json) → Prop
  | nil : PermutedFields [] []
  | cons {v w : Json} {fs gs : List (Text × Json)} (key : Text) (h : Permuted v w)
    (hs : PermutedFields fs gs) : PermutedFields ((key, v) :: fs) ((key, w) :: gs)

end

/-- Permuted values are of the same kind. -/
theorem Permuted.kind?_eq {v w : Json} (h : Permuted v w) : v.kind? = w.kind? := by
  cases h with
  | refl => rfl
  | array h => rfl
  | object hp h => rfl

mutual

/-- A closed value does not show the fields of its objects. -/
theorem Permuted.of_eq : ∀ {v w : Json}, Permuted v w → Shape.of v = Shape.of w
  | _, _, .refl _ => rfl
  | _, _, .object _ _ => rfl
  | _, _, .array .nil => rfl
  | _, _, .array (.cons h hs) => by
    rw [Shape.of, Shape.of, h.of_eq, hs.ofAll_eq]

theorem PermutedItems.ofAll_eq : ∀ {vs ws : List Json}, PermutedItems vs ws →
    Shape.ofAll vs = Shape.ofAll ws
  | _, _, .nil => rfl
  | _, _, .cons h hs => by
    rw [Shape.ofAll, Shape.ofAll, h.of_eq, hs.ofAll_eq]

end

/-! ### Outlines of sites -/

/-- The name of a site and the properties of its record in any order. -/
def Site.outline (optional : Bool) (s : Site) : Text × Multiset Property :=
  (s.name, (s.fields.map (Property.ofField optional) : List Property))

/-- Fields make properties and sites with the same outlines in some order. -/
def SameOutlines (optional : Bool) (fs gs : List (Text × Json)) : Prop :=
  (fs.map (Property.ofField optional)).Perm (gs.map (Property.ofField optional)) ∧
    ((sitesInside fs).map (Site.outline optional)).Perm
      ((sitesInside gs).map (Site.outline optional))

theorem sitesInside_eq_flatMap (fields : List (Text × Json)) :
    sitesInside fields = fields.flatMap fun f => sitesUnder f.1 f.2 := by
  induction fields with
  | nil => rfl
  | cons f fields ih =>
    rw [sitesInside, ih]
    rfl

section Outlines

variable {optional : Bool}

theorem SameOutlines.trans {fs gs hs : List (Text × Json)} (h : SameOutlines optional fs gs)
    (g : SameOutlines optional gs hs) : SameOutlines optional fs hs :=
  ⟨h.1.trans g.1, h.2.trans g.2⟩

theorem sameOutlines_of_perm {fs gs : List (Text × Json)} (h : fs.Perm gs) :
    SameOutlines optional fs gs := by
  refine ⟨h.map _, ?_⟩
  rw [sitesInside_eq_flatMap, sitesInside_eq_flatMap]
  exact (h.flatMap_right _).map _

/-- The object itself is the last of its sites. -/
theorem SameOutlines.sites {fs gs : List (Text × Json)} (h : SameOutlines optional fs gs)
    (name : Text) : ((sites name fs).map (Site.outline optional)).Perm
      ((JsonShape.sites name gs).map (Site.outline optional)) := by
  have hlast : Site.outline optional ⟨name, fs⟩ = Site.outline optional ⟨name, gs⟩ :=
    Prod.ext rfl (Quotient.sound h.1)
  rw [JsonShape.sites, JsonShape.sites, List.map_append, List.map_append, List.map_singleton,
    List.map_singleton, hlast]
  exact h.2.append_right _

theorem sitesUnder_unled (key : Text) {v w : Json} {vs ws : List Json}
    (hv : v.kind? ≠ some .object) (h : Permuted v w) (hs : PermutedItems vs ws) :
    shapeUnder key (.array (v :: vs)) = shapeUnder key (.array (w :: ws)) ∧
      sitesUnder key (.array (v :: vs)) = sitesUnder key (.array (w :: ws)) := by
  obtain ⟨hshape, hsites⟩ := shapeUnder_unled key vs hv
  obtain ⟨gshape, gsites⟩ := shapeUnder_unled key ws (h.kind?_eq ▸ hv)
  rw [hshape, gshape, hsites, gsites]
  exact ⟨(Permuted.array (.cons h hs)).of_eq, rfl⟩

mutual

/-- Permuted values have the same shape under a key, and sites with the same outlines. -/
theorem Permuted.outlines_under (key : Text) : ∀ {v w : Json}, Permuted v w →
    shapeUnder key v = shapeUnder key w ∧
      ((sitesUnder key v).map (Site.outline optional)).Perm
        ((sitesUnder key w).map (Site.outline optional))
  | _, _, .refl _ => ⟨rfl, .refl _⟩
  | _, _, .object hp h =>
    ⟨rfl, ((sameOutlines_of_perm hp).trans h.sameOutlines).sites (Name.ofKey key)⟩
  | _, _, .array .nil => ⟨rfl, .refl _⟩
  | _, _, .array (.cons (.object hp h) _) =>
    ⟨rfl, ((sameOutlines_of_perm hp).trans h.sameOutlines).sites (Name.ofItems key)⟩
  | _, _, .array (.cons (@Permuted.array vs _ h) hs) => by
    have hv : (Json.array vs).kind? ≠ some .object := nofun
    obtain ⟨hshape, hsites⟩ := sitesUnder_unled key hv (.array h) hs
    rw [hshape, hsites]
    exact ⟨rfl, .refl _⟩
  | _, _, .array (.cons (.refl v) hs) => by
    -- the same value leads both arrays, and only an object makes a difference
    by_cases hv : v.kind? = some .object
    · cases v with
      | object fields => exact ⟨rfl, .refl _⟩
      | _ => cases hv
    · obtain ⟨hshape, hsites⟩ := sitesUnder_unled key hv (.refl v) hs
      rw [hshape, hsites]
      exact ⟨rfl, .refl _⟩

/-- The values are visited in the same order, so it is enough to compare them key by key. -/
theorem PermutedFields.sameOutlines : ∀ {fs gs : List (Text × Json)}, PermutedFields fs gs →
    SameOutlines optional fs gs
  | _, _, .nil => ⟨.refl _, .refl _⟩
  | _, _, .cons key h hs => by
    obtain ⟨hshape, hsites⟩ := h.outlines_under key
    obtain ⟨hps, hss⟩ := hs.sameOutlines
    refine ⟨?_, ?_⟩
    · rw [List.map_cons, List.map_cons, Property.ofField, Property.ofField, hshape]
      exact hps.cons _
    · rw [sitesInside, sitesInside, List.map_append, List.map_append]
      exact hsites.append hss

end

/-- Permuted objects have the same outlines inside. -/
theorem Permuted.sameOutlines {fs gs : List (Text × Json)}
    (h : Permuted (.object fs) (.object gs)) : SameOutlines optional fs gs := by
  cases h with
  | refl => exact ⟨.refl _, .refl _⟩
  | object hp h => exact (sameOutlines_of_perm hp).trans h.sameOutlines

end Outlines

/-! ### Declarations -/

/-- The same name is declared, as records with the same properties in some order or as an alias of
the same shape. -/
inductive SameProperties : Text × Definition → Text × Definition → Prop
  | record (n : Text) {ps qs : List Property} (h : ps.Perm qs) :
    SameProperties (n, .record ps) (n, .record qs)
  | alias (n : Text) (target : Shape) : SameProperties (n, .alias target) (n, .alias target)

theorem sameProperties_of_outline {optional : Bool} {s t : Site}
    (h : s.outline optional = t.outline optional) :
    SameProperties (s.declaration optional) (t.declaration optional) := by
  obtain ⟨hname, hps⟩ := Prod.mk.inj h
  rw [Site.declaration, Site.declaration, hname]
  exact .record _ (Quotient.exact hps)

/-- Lists of pairs with the same names are related entry by entry if entries of one name are. -/
theorem forall₂_of_names {α : Type} {R : Text × α → Text × α → Prop} :
    ∀ {l m : List (Text × α)}, l.map Prod.fst = m.map Prod.fst → (l.map Prod.fst).Nodup →
      (∀ a ∈ l, ∀ b ∈ m, a.1 = b.1 → R a b) → List.Forall₂ R l m := by
  intro l
  induction l with
  | nil =>
    intro m hnames _ _
    rw [List.map_eq_nil_iff.1 hnames.symm]
    exact .nil
  | cons a l ih =>
    intro m hnames hnodup hR
    cases m with
    | nil => cases hnames
    | cons b m =>
      rw [List.map_cons, List.map_cons, List.cons.injEq] at hnames
      rw [List.map_cons, List.nodup_cons] at hnodup
      refine .cons (hR a List.mem_cons_self b List.mem_cons_self hnames.1) ?_
      refine ih hnames.2 hnodup.2 ?_
      intro c hc e he
      exact hR c (List.mem_cons_of_mem a hc) e (List.mem_cons_of_mem b he)

namespace Document

variable {o : Options} {d e : Document}

theorem not_opensObject {v : Json} (vs : List Json) (h : v.kind? ≠ some .object) :
    (Document.array (v :: vs)).opensObject = false := by
  cases v with
  | object fields => exact absurd rfl h
  | _ => rfl

/-- Permuted documents have sites with the same outlines, and the same alias. -/
theorem outlines_perm (o : Options) (h : Permuted d.root e.root) :
    ((d.sites o).map (Site.outline o.optionalProperties)).Perm
        ((e.sites o).map (Site.outline o.optionalProperties)) ∧
      d.target? o = e.target? o := by
  cases d with
  | object fs =>
    cases e with
    | array ws => cases h
    | object gs => exact ⟨h.sameOutlines.sites o.rootName, rfl⟩
  | array vs =>
    cases e with
    | object gs => cases h
    | array ws =>
      have hof := h.of_eq
      cases h with
      | refl => exact ⟨.refl _, rfl⟩
      | array h =>
        cases h with
        | nil => exact ⟨.refl _, rfl⟩
        | @cons v w vs ws h hs =>
          by_cases hv : v.kind? = some .object
          · have hw : w.kind? = some .object := h.kind?_eq ▸ hv
            cases v with
            | object fs =>
              cases w with
              | object gs => exact ⟨h.sameOutlines.sites (o.rootName ++ Name.itemSuffix), rfl⟩
              | _ => cases hw
            | _ => cases hv
          · have hw : w.kind? ≠ some .object := h.kind?_eq ▸ hv
            obtain ⟨hsites, htarget, -, -⟩ := eq_of_not_opensObject o (not_opensObject vs hv)
            obtain ⟨gsites, gtarget, -, -⟩ := eq_of_not_opensObject o (not_opensObject ws hw)
            rw [hsites, gsites, htarget, gtarget]
            exact ⟨.refl _, congrArg some hof⟩

/-- What is declared is what a declaration is made for. -/
theorem mem_names_declared_iff {n : Text} :
    n ∈ (d.declared o).map Prod.fst ↔ n ∈ (d.sites o).map Site.name ∨ n ∈ d.later o := by
  rw [((declared_perm o d).map Prod.fst).mem_iff, names_lasting_append, List.mem_append]
  by_cases hn : n ∈ d.later o
  · simp [hn]
  · rw [mem_names_lasting_iff hn]

/-- The names of the declarations are written in their order. -/
theorem pairwise_names_declared (o : Options) (d : Document) :
    ((d.declared o).map Prod.fst).Pairwise fun m n => precedes o.rootName m n = true := by
  unfold declared
  split
  · next reg _ =>
    rw [List.pairwise_map]
    exact pairwise_ordered o.rootName reg
  · exact List.pairwise_singleton _ _

theorem names_eq_of_permuted (o : Options) (h : Permuted d.root e.root) :
    (d.declared o).map Prod.fst = (e.declared o).map Prod.fst := by
  obtain ⟨houtlines, htarget⟩ := outlines_perm o h
  have hnames : ((d.sites o).map Site.name).Perm ((e.sites o).map Site.name) := by
    have := houtlines.map Prod.fst
    rw [List.map_map, List.map_map] at this
    exact this
  have hlater : d.later o = e.later o := by rw [later, later, htarget]
  have hperm : ((d.declared o).map Prod.fst).Perm ((e.declared o).map Prod.fst) := by
    rw [List.perm_ext_iff_of_nodup (nodup_names_declared o d) (nodup_names_declared o e)]
    intro n
    rw [mem_names_declared_iff, mem_names_declared_iff, hnames.mem_iff, hlater]
  refine hperm.eq_of_pairwise ?_ (pairwise_names_declared o d) (pairwise_names_declared o e)
  intro m n _ _
  exact precedes_antisymm

/-- Where no two sites share a name, declarations of the same name have the same properties. -/
theorem sameProperties_of_permuted (h : Permuted d.root e.root)
    (hnames : ((d.sites o).map Site.name).Nodup) {a b : Text × Definition}
    (ha : a ∈ d.declared o) (hb : b ∈ e.declared o) (hab : a.1 = b.1) : SameProperties a b := by
  obtain ⟨houtlines, htarget⟩ := outlines_perm o h
  have hlater : d.later o = e.later o := by rw [later, later, htarget]
  have haliased : d.aliased o = e.aliased o := by rw [aliased, aliased, htarget]
  have halias {c : Text × Definition} (hc : c ∈ d.aliased o) : c.1 ∈ d.later o := by
    obtain ⟨target, ht, rfl⟩ := List.mem_map.1 hc
    exact List.mem_map_of_mem ht
  rw [mem_declared_iff_lasting, List.mem_append] at ha hb
  rcases ha with ha | ha
  · obtain ⟨s, hs, rfl⟩ := List.mem_map.1 ha
    rcases hb with hb | hb
    · obtain ⟨t, ht, rfl⟩ := List.mem_map.1 hb
      -- the site of `d` with the outline of `t` has the name of `s`, so it is `s`
      have hmem : t.outline o.optionalProperties ∈
          (d.sites o).map (Site.outline o.optionalProperties) :=
        houtlines.mem_iff.2 (List.mem_map_of_mem (mem_of_mem_lasting ht))
      obtain ⟨u, hu, hut⟩ := List.mem_map.1 hmem
      have hname : u.name = s.name := (Prod.mk.inj hut).1.trans hab.symm
      obtain rfl : u = s := List.inj_on_of_nodup_map hnames hu (mem_of_mem_lasting hs) hname
      exact sameProperties_of_outline hut
    · rw [← haliased] at hb
      have hlater : (s.declaration o.optionalProperties).1 ∈ d.later o := hab ▸ halias hb
      exact absurd hlater (name_not_mem_of_lasting hs)
  · rcases hb with hb | hb
    · obtain ⟨t, ht, rfl⟩ := List.mem_map.1 hb
      have hlater : (t.declaration o.optionalProperties).1 ∈ e.later o := by
        rw [later, ← htarget]
        exact hab ▸ halias ha
      exact absurd hlater (name_not_mem_of_lasting ht)
    · rw [← haliased] at hb
      obtain ⟨target, ht, rfl⟩ := List.mem_map.1 ha
      obtain ⟨other, ho, rfl⟩ := List.mem_map.1 hb
      rw [Option.mem_toList] at ht ho
      obtain rfl : target = other := Option.some.inj (ht.symm.trans ho)
      exact .alias _ _

/-- **The order of fields does not matter to the declarations.**  Documents that differ in the order
of the fields of objects only, at any depth, have declarations of the same names in the same order.
Where no two sites share a name, each declaration has the same properties up to their order. -/
theorem declared_of_permuted (o : Options) {d e : Document} (h : Permuted d.root e.root) :
    (d.declared o).map Prod.fst = (e.declared o).map Prod.fst ∧
    (((d.sites o).map Site.name).Nodup →
      List.Forall₂ SameProperties (d.declared o) (e.declared o)) := by
  have hnames := names_eq_of_permuted o h
  refine ⟨hnames, fun hsites => ?_⟩
  refine forall₂_of_names hnames (nodup_names_declared o d) ?_
  intro a ha b hb hab
  exact sameProperties_of_permuted h hsites ha hb hab

/-- The documents `{"a": {"x": null, "y": [{"z": 1}]}, "b": "c"}` and
`{"b": "c", "a": {"y": [{"z": 1}], "x": null}}`. -/
theorem declared_of_permuted_fields :
    let x : Text × Json := ("x", .null)
    let y : Text × Json := ("y", .array [.object [("z", .number (.int 1))]])
    let b : Text × Json := ("b", .string "c")
    let d : Document := .object [("a", .object [x, y]), b]
    let e : Document := .object [b, ("a", .object [y, x])]
    (Permuted d.root e.root ∧ ((d.sites .standard).map Site.name).Nodup) ∧
      (d.declared .standard).map Prod.fst = (e.declared .standard).map Prod.fst ∧
      List.Forall₂ SameProperties (d.declared .standard) (e.declared .standard) := by
  intro x y b d e
  have ha : Permuted (.object [x, y]) (.object [y, x]) :=
    .object (.swap y x []) (.cons _ (.refl _) (.cons _ (.refl _) .nil))
  have h : Permuted d.root e.root :=
    .object (.swap b ("a", .object [x, y]) []) (.cons _ (.refl _) (.cons _ ha .nil))
  have hsites : ((d.sites .standard).map Site.name).Nodup := by decide +kernel
  obtain ⟨hnames, hproperties⟩ := declared_of_permuted .standard h
  exact ⟨⟨h, hsites⟩, hnames, hproperties hsites⟩

end Document

end JsonShape
