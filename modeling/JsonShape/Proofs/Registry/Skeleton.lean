import JsonShape.Proofs.Registry.Keys

/-!
# Declarations show the skeleton of a document only

Two values are alike if they differ in what declarations are not made of: in the values of scalars,
in the elements behind an object that leads an array, and in objects that are left closed.  Alike
values have the same shape under a key, and the sites inside them have the same records
(`Alike.declared_under`); so the declarations of alike documents are the same
(`declarations_eq_of_alike`).
-/

namespace JsonShape

/-! ### Values that are alike -/

mutual

/-- Two elements of arrays are of the same kind.  Arrays are compared element by element, at any
depth, and no object is opened. -/
inductive SameKind : Json → Json → Prop
  | single {v w : Json} {k : Kind} (hv : v.kind? = some k) (hw : w.kind? = some k) : SameKind v w
  | array {vs ws : List Json} (h : SameKinds vs ws) : SameKind (.array vs) (.array ws)

/-- As many elements on both sides, of the same kinds one by one. -/
inductive SameKinds : List Json → List Json → Prop
  | nil : SameKinds [] []
  | cons {v w : Json} {vs ws : List Json} (h : SameKind v w) (hs : SameKinds vs ws) :
    SameKinds (v :: vs) (w :: ws)

end

mutual

/-- Two values have the same skeleton. -/
inductive Alike : Json → Json → Prop
  /-- Both are null, truth values, numbers or strings. -/
  | scalar {v w : Json} {k : Kind} (hk : k ≠ .object) (hv : v.kind? = some k)
    (hw : w.kind? = some k) : Alike v w
  | emptyArray : Alike (.array []) (.array [])
  /-- The same keys in the same order, and alike values under them. -/
  | object {fs gs : List (Text × Json)} (h : AlikeFields fs gs) : Alike (.object fs) (.object gs)
  /-- The elements behind a leading object may be any, and any number of them. -/
  | led {fs gs : List (Text × Json)} {vs ws : List Json} (h : Alike (.object fs) (.object gs)) :
    Alike (.array (.object fs :: vs)) (.array (.object gs :: ws))
  | unled {v w : Json} {vs ws : List Json} (hv : v.kind? ≠ some .object)
    (hw : w.kind? ≠ some .object) (h : SameKinds (v :: vs) (w :: ws)) :
    Alike (.array (v :: vs)) (.array (w :: ws))

inductive AlikeFields : List (Text × Json) → List (Text × Json) → Prop
  | nil : AlikeFields [] []
  | cons {v w : Json} {fs gs : List (Text × Json)} (key : Text) (h : Alike v w)
    (hs : AlikeFields fs gs) : AlikeFields ((key, v) :: fs) ((key, w) :: gs)

end

/-! ### Closed values -/

theorem Shape.of_eq_scalar {v : Json} {k : Kind} (h : v.kind? = some k) : of v = .scalar k := by
  cases v <;> cases h <;> rfl

mutual

theorem SameKind.of_eq : ∀ {v w : Json}, SameKind v w → Shape.of v = Shape.of w
  | _, _, .single hv hw => (Shape.of_eq_scalar hv).trans (Shape.of_eq_scalar hw).symm
  | _, _, .array .nil => rfl
  | _, _, .array (.cons h hs) => by
    rw [Shape.of, Shape.of, h.of_eq, hs.ofAll_eq]

theorem SameKinds.ofAll_eq : ∀ {vs ws : List Json}, SameKinds vs ws →
    Shape.ofAll vs = Shape.ofAll ws
  | _, _, .nil => rfl
  | _, _, .cons h hs => by
    rw [Shape.ofAll, Shape.ofAll, h.of_eq, hs.ofAll_eq]

end

/-! ### Opened values -/

theorem shapeUnder_eq_scalar (key : Text) {v : Json} {k : Kind} (hk : k ≠ .object)
    (h : v.kind? = some k) : shapeUnder key v = .scalar k ∧ sitesUnder key v = [] := by
  cases v with
  | object fields => exact absurd (Option.some.inj h).symm hk
  | _ => cases h <;> exact ⟨rfl, rfl⟩

/-- An array that no object leads is left closed. -/
theorem shapeUnder_unled (key : Text) {v : Json} (vs : List Json) (h : v.kind? ≠ some .object) :
    shapeUnder key (.array (v :: vs)) = .of (.array (v :: vs)) ∧
      sitesUnder key (.array (v :: vs)) = [] := by
  cases v with
  | object fields => exact absurd rfl h
  | _ => exact ⟨rfl, rfl⟩

/-- The declarations of the sites of an object come from its properties and from the sites inside
it. -/
theorem map_declaration_sites {optional : Bool} {fs gs : List (Text × Json)} (name : Text)
    (h : fs.map (Property.ofField optional) = gs.map (Property.ofField optional))
    (hs : (sitesInside fs).map (Site.declaration optional) =
      (sitesInside gs).map (Site.declaration optional)) :
    (sites name fs).map (Site.declaration optional) =
      (sites name gs).map (Site.declaration optional) := by
  rw [sites, sites, List.map_append, List.map_append, hs]
  simp only [List.map_singleton, Site.declaration, Site.record, h]

mutual

/-- Alike values have the same shape under a key, and their sites have the same declarations. -/
theorem Alike.declared_under (optional : Bool) (key : Text) : ∀ {v w : Json}, Alike v w →
    shapeUnder key v = shapeUnder key w ∧
      (sitesUnder key v).map (Site.declaration optional) =
        (sitesUnder key w).map (Site.declaration optional)
  | _, _, .scalar hk hv hw => by
    obtain ⟨hv, hvs⟩ := shapeUnder_eq_scalar key hk hv
    obtain ⟨hw, hws⟩ := shapeUnder_eq_scalar key hk hw
    rw [hv, hw, hvs, hws]
    exact ⟨rfl, rfl⟩
  | _, _, .emptyArray => ⟨rfl, rfl⟩
  | _, _, .object h =>
    have ⟨hps, hss⟩ := h.declared_inside optional
    ⟨rfl, map_declaration_sites (Name.ofKey key) hps hss⟩
  | _, _, .led (.object h) =>
    have ⟨hps, hss⟩ := h.declared_inside optional
    ⟨rfl, map_declaration_sites (Name.ofItems key) hps hss⟩
  | _, _, @Alike.unled v w vs ws hv hw h => by
    obtain ⟨hshape, hsites⟩ := shapeUnder_unled key vs hv
    obtain ⟨gshape, gsites⟩ := shapeUnder_unled key ws hw
    rw [hshape, gshape, hsites, gsites]
    exact ⟨(SameKind.array h).of_eq, rfl⟩

/-- Alike fields make the same properties, and the sites inside them have the same declarations. -/
theorem AlikeFields.declared_inside (optional : Bool) : ∀ {fs gs : List (Text × Json)},
    AlikeFields fs gs →
    fs.map (Property.ofField optional) = gs.map (Property.ofField optional) ∧
      (sitesInside fs).map (Site.declaration optional) =
        (sitesInside gs).map (Site.declaration optional)
  | _, _, .nil => ⟨rfl, rfl⟩
  | _, _, .cons key h hs => by
    obtain ⟨hshape, hsites⟩ := h.declared_under optional key
    obtain ⟨hps, hss⟩ := hs.declared_inside optional
    rw [sitesInside, sitesInside, List.map_append, List.map_append, hsites, hss, List.map_cons,
      List.map_cons, hps]
    simp only [Property.ofField, hshape, and_self]

end

/-! ### Documents -/

/-- What sites add to a registry is their declarations. -/
theorem Registry.addAll_congr {optional : Bool} {ss ts : List Site}
    (h : ss.map (Site.declaration optional) = ts.map (Site.declaration optional))
    (reg : Registry) : reg.addAll optional ss = reg.addAll optional ts := by
  have hfold (ss : List Site) : reg.addAll optional ss =
      (ss.map (Site.declaration optional)).foldl
        (fun reg e => OrderedMap.insert reg e.1 e.2) reg := by
    rw [List.foldl_map]
    rfl
  rw [hfold, hfold, h]

namespace Document

variable {o : Options}

theorem declared_unled (o : Options) {v : Json} (vs : List Json) (h : v.kind? ≠ some .object) :
    Document.declared o (.array (v :: vs)) = [(o.rootName, .alias (.of (.array (v :: vs))))] := by
  cases v with
  | object fields => exact absurd rfl h
  | _ => rfl

/-- Alike documents have the same declarations. -/
theorem declared_eq_of_alike {d e : Document} (h : Alike d.root e.root) :
    d.declared o = e.declared o := by
  cases d with
  | object fs =>
    cases e with
    | array ws => cases h with | scalar hk hv hw => cases hw
    | object gs =>
      cases h with
      | scalar hk hv hw => exact absurd (Option.some.inj hv).symm hk
      | object h =>
        obtain ⟨hps, hss⟩ := h.declared_inside o.optionalProperties
        rw [declared, declared, registry?_object, registry?_object, sites, sites,
          Registry.addAll_congr (map_declaration_sites o.rootName hps hss)]
  | array vs =>
    cases e with
    | object gs => cases h with | scalar hk hv hw => cases hv
    | array ws =>
      cases h with
      | scalar hk hv hw => cases hv
      | emptyArray => rfl
      | led h =>
        cases h with
        | scalar hk hv hw => exact absurd (Option.some.inj hv).symm hk
        | object h =>
          obtain ⟨hps, hss⟩ := h.declared_inside o.optionalProperties
          rw [declared, declared, registry?_led, registry?_led, sites, sites,
            Registry.addAll_congr (map_declaration_sites (o.rootName ++ Name.itemSuffix) hps hss)]
      | unled hv hw h =>
        rw [declared_unled o _ hv, declared_unled o _ hw, (SameKind.array h).of_eq]

/-- **The text of the declarations depends on the skeleton of a document only:** on the keys of its
objects and their order, on the kinds of its scalars, on the leading objects of arrays, and on the
kinds of the elements of all other arrays. -/
theorem declarations_eq_of_alike (o : Options) {d e : Document} (h : Alike d.root e.root) :
    d.declarations o = e.declarations o := by
  rw [declarations, declarations, declared_eq_of_alike h]

/-- The documents `{"users": [{"name": "Ann"}], "tags": ["a", {}, [1]]}` and
`{"users": [{"name": ""}, 0], "tags": ["b", {"x": []}, [2.5]]}`. -/
theorem declarations_eq_of_alike_users :
    let users (name : Text) (more : List Json) : Json :=
      .array (.object [("name", .string name)] :: more)
    let tags (tag : Text) (fields : List (Text × Json)) (n : Number) : Json :=
      .array [.string tag, .object fields, .array [.number n]]
    let d : Document := .object [("users", users "Ann" []), ("tags", tags "a" [] (.int 1))]
    let e : Document := .object [("users", users [] [.number (.int 0)]),
      ("tags", tags "b" [("x", .array [])] (.double (.ofDecimal false 25 (-1))))]
    Alike d.root e.root ∧ d.declarations .standard = e.declarations .standard := by
  intro users tags d e
  have hname : Alike (.string "Ann") (.string []) := .scalar (k := .string) nofun rfl rfl
  have hnumber : SameKind (.number (.int 1)) (.number (.double (.ofDecimal false 25 (-1)))) :=
    .single (k := .number) rfl rfl
  have htags : Alike (tags "a" [] (.int 1))
      (tags "b" [("x", .array [])] (.double (.ofDecimal false 25 (-1)))) :=
    .unled nofun nofun (.cons (.single (k := .string) rfl rfl)
      (.cons (.single (k := .object) rfl rfl) (.cons (.array (.cons hnumber .nil)) .nil)))
  have h : Alike d.root e.root :=
    .object (.cons _ (.led (.object (.cons _ hname .nil))) (.cons _ htags .nil))
  exact ⟨h, declarations_eq_of_alike .standard h⟩

end Document

end JsonShape
