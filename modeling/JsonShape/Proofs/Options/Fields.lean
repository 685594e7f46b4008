import Mathlib.Data.List.Find
import Mathlib.Data.List.Nodup
import Mathlib.Data.List.Pairwise
import JsonShape.Options.Check
import JsonShape.Proofs.Answers

/-!
# Options under either name

A mapping gives options just if it gives each field under exactly one of its two names, with a value
that is accepted, and holds nothing else (`Options.Given`).  That says nothing about which of the
two names it is, nor about the order of the entries: writing some fields under their other names
(`Options.respell`) keeps the names of every field together, so the options stay what they are.
-/

namespace JsonShape

variable {data data' : List (Text × Datum)}

/-! ### One field -/

namespace FieldName

variable {α : Type} {f : FieldName} {accept : Datum → Except Trouble α} {x : α}

def names (f : FieldName) : List Text := [f.camel, f.snake]

/-- The field is given under exactly one of its names, with a value that is accepted as `x`. -/
def Gives (f : FieldName) (accept : Datum → Except Trouble α) (data : List (Text × Datum)) (x : α) :
    Prop :=
  ∃ e ∈ data, e.1 ∈ f.names ∧ accept e.2 = .ok x ∧ ∀ e' ∈ data, e'.1 ∈ f.names → e'.1 = e.1

/-- The other one of the two names. -/
def other (f : FieldName) (k : Text) : Text := if k = f.camel then f.snake else f.camel

theorem other_mem (f : FieldName) (k : Text) : f.other k ∈ f.names := by
  rw [other, names]
  split <;> simp

theorem other_other {k : Text} (hk : k ∈ f.names) : f.other (f.other k) = k := by
  obtain rfl | hk := List.mem_cons.1 hk
  · by_cases h : f.snake = f.camel <;> simp [other, h]
  · obtain rfl := List.mem_singleton.1 hk
    by_cases h : f.snake = f.camel <;> simp [other, h]

theorem given_mem (f : FieldName) (data : List (Text × Datum)) : f.given data ∈ f.names := by
  rw [given, names]
  split <;> simp

/-- If one of the names is a key, then the name that counts is. -/
theorem given_mem_keys {k : Text} (hk : k ∈ f.names) (hkey : k ∈ data.map Prod.fst) :
    f.given data ∈ data.map Prod.fst := by
  rw [given]
  split
  · next hcamel => exact mem_keys_iff_lookup?.2 (Option.isSome_iff_exists.1 hcamel)
  · next hcamel =>
    obtain rfl | hk := List.mem_cons.1 hk
    · exact absurd (Option.isSome_iff_exists.2 (mem_keys_iff_lookup?.1 hkey)) hcamel
    · rwa [List.mem_singleton.1 hk] at hkey

theorem read_eq_ok_iff (h : (data.map Prod.fst).Nodup) :
    f.read accept data = .ok x ↔ ∃ d, (f.given data, d) ∈ data ∧ accept d = .ok x := by
  simp only [read, mem_iff_lookup? h]
  cases lookup? (f.given data) data with
  | none => simp
  | some d => simp [mapError_eq_ok_iff]

/-- The only name that a field is given under is the one that counts. -/
theorem Gives.key_eq (hgives : f.Gives accept data x) {e : Text × Datum} (he : e ∈ data)
    (hname : e.1 ∈ f.names) : e.1 = f.given data := by
  obtain ⟨_, -, -, -, honly⟩ := hgives
  obtain ⟨e', he', hkey⟩ := List.mem_map.1 (given_mem_keys hname (List.mem_map_of_mem he))
  rw [← hkey, honly e he hname, honly e' he' (hkey ▸ f.given_mem data)]

theorem Gives.read (h : (data.map Prod.fst).Nodup) (hgives : f.Gives accept data x) :
    f.read accept data = .ok x := by
  obtain ⟨e, he, hname, haccept, -⟩ := id hgives
  exact (read_eq_ok_iff h).2 ⟨e.2, hgives.key_eq he hname ▸ he, haccept⟩

/-- Renamed keys give a field the same values, if a name of the field stays one. -/
theorem Gives.rename {σ : Text → Text} (hσ : ∀ k, σ k ∈ f.names ↔ k ∈ f.names)
    (hdata : data'.Perm (data.map fun e => (σ e.1, e.2))) (h : f.Gives accept data x) :
    f.Gives accept data' x := by
  obtain ⟨e, he, hname, haccept, honly⟩ := h
  refine ⟨(σ e.1, e.2), hdata.mem_iff.2 (List.mem_map_of_mem he), (hσ _).2 hname, haccept, ?_⟩
  intro e' he' hname'
  obtain ⟨e₀, he₀, rfl⟩ := List.mem_map.1 (hdata.mem_iff.1 he')
  exact congrArg σ (honly e₀ he₀ ((hσ _).1 hname'))

end FieldName

namespace Options

variable {o : Options} {f g : FieldName} {k : Text}

/-! ### All fields -/

/-- Each field is given under exactly one of its names with the value it has in the options, and
every key is the name of a field. -/
structure Given (data : List (Text × Datum)) (o : Options) : Prop where
  rootName : rootNameField.Gives acceptText data o.rootName
  useInterface : useInterfaceField.Gives acceptBool data o.useInterface
  optionalProperties : optionalPropertiesField.Gives acceptBool data o.optionalProperties
  addExport : addExportField.Gives acceptBool data o.addExport
  noOther : ∀ e ∈ data, ∃ f ∈ fields, e.1 ∈ f.names

theorem forall_mem_fields {p : FieldName → Prop} :
    (∀ f ∈ fields, p f) ↔
      p rootNameField ∧ p useInterfaceField ∧ p optionalPropertiesField ∧ p addExportField := by
  simp [fields]

/-- The eight names are all different. -/
theorem nodup_names : (fields.flatMap FieldName.names).Nodup := by decide +kernel

/-- A name belongs to one field only. -/
theorem eq_of_mem_names (hf : f ∈ fields) (hg : g ∈ fields) (hkf : k ∈ f.names)
    (hkg : k ∈ g.names) : f = g := by
  by_contra hne
  have hdisjoint := (List.nodup_flatMap.1 nodup_names).2
  have : Std.Symm (Function.onFun List.Disjoint FieldName.names) :=
    ⟨fun _ _ h => List.disjoint_symm h⟩
  exact hdisjoint.forall hf hg hne hkf hkg

theorem mem_names_congr {k' : Text} (hf : f ∈ fields) (hk : k ∈ f.names) (hk' : k' ∈ f.names)
    (hg : g ∈ fields) : k ∈ g.names ↔ k' ∈ g.names :=
  ⟨fun h => eq_of_mem_names hf hg hk h ▸ hk', fun h => eq_of_mem_names hf hg hk' h ▸ hk⟩

theorem extras_eq_nil_iff :
    extras data = [] ↔ ∀ e ∈ data, ∃ f ∈ fields, e.1 = f.given data := by
  have hkey : ∀ k, (fields.map (·.given data)).contains k = true ↔
      ∃ f ∈ fields, k = f.given data := by
    simp [eq_comm]
  simp only [extras, List.filter_eq_nil_iff, List.forall_mem_map, Bool.not_eq_true,
    Bool.not_eq_false', hkey]

/-- Where no key is left over, a field that is read is given under one name only. -/
theorem gives_of_read {α : Type} {accept : Datum → Except Trouble α} {x : α}
    (h : (data.map Prod.fst).Nodup) (hf : f ∈ fields)
    (hextras : ∀ e ∈ data, ∃ f ∈ fields, e.1 = f.given data)
    (hread : f.read accept data = .ok x) : f.Gives accept data x := by
  obtain ⟨d, hd, haccept⟩ := (FieldName.read_eq_ok_iff h).1 hread
  refine ⟨_, hd, f.given_mem data, haccept, fun e he hname => ?_⟩
  -- a key that is the other name would count for another field, which has no name in common
  obtain ⟨g, hg, hkey⟩ := hextras e he
  rw [hkey, eq_of_mem_names hf hg hname (hkey ▸ g.given_mem data)]

theorem ofFields_eq_ok_iff_read :
    ofFields data = .ok o ↔
      rootNameField.read acceptText data = .ok o.rootName ∧
      useInterfaceField.read acceptBool data = .ok o.useInterface ∧
      optionalPropertiesField.read acceptBool data = .ok o.optionalProperties ∧
      addExportField.read acceptBool data = .ok o.addExport ∧ extras data = [] := by
  rw [ofFields]
  constructor
  · intro h
    split at h
    · next hr hu hp he hx =>
      obtain rfl := Except.ok.inj h
      exact ⟨hr, hu, hp, he, List.map_eq_nil_iff.1 hx⟩
    · split at h <;> cases h
  · rintro ⟨hr, hu, hp, he, hx⟩
    rw [hr, hu, hp, he, hx]
    rfl

theorem ofFields_eq_ok_iff (h : (data.map Prod.fst).Nodup) :
    ofFields data = .ok o ↔ Given data o := by
  rw [ofFields_eq_ok_iff_read, extras_eq_nil_iff]
  constructor
  · rintro ⟨hr, hu, hp, he, hextras⟩
    obtain ⟨mr, mu, mp, me⟩ := forall_mem_fields.1 fun f (hf : f ∈ fields) => hf
    refine ⟨gives_of_read h mr hextras hr, gives_of_read h mu hextras hu,
      gives_of_read h mp hextras hp, gives_of_read h me hextras he, fun e he => ?_⟩
    obtain ⟨f, hf, hkey⟩ := hextras e he
    exact ⟨f, hf, hkey ▸ f.given_mem data⟩
  · intro hgiven
    refine ⟨hgiven.rootName.read h, hgiven.useInterface.read h, hgiven.optionalProperties.read h,
      hgiven.addExport.read h, fun e he => ?_⟩
    have hkey : ∀ f ∈ fields, e.1 ∈ f.names → e.1 = f.given data :=
      forall_mem_fields.2 ⟨hgiven.rootName.key_eq he, hgiven.useInterface.key_eq he,
        hgiven.optionalProperties.key_eq he, hgiven.addExport.key_eq he⟩
    obtain ⟨f, hf, hname⟩ := hgiven.noOther e he
    exact ⟨f, hf, hkey f hf hname⟩

/-! ### Other names -/

/-- Renamed keys give the same options, if the names of each field stay names of it. -/
theorem Given.rename {σ : Text → Text} (hσ : ∀ f ∈ fields, ∀ k, σ k ∈ f.names ↔ k ∈ f.names)
    (hdata : data'.Perm (data.map fun e => (σ e.1, e.2))) (h : Given data o) : Given data' o := by
  obtain ⟨hr, hu, hp, he⟩ := forall_mem_fields.1 hσ
  refine ⟨h.rootName.rename hr hdata, h.useInterface.rename hu hdata,
    h.optionalProperties.rename hp hdata, h.addExport.rename he hdata, fun e' he' => ?_⟩
  obtain ⟨e, he, rfl⟩ := List.mem_map.1 (hdata.mem_iff.1 he')
  obtain ⟨f, hf, hname⟩ := h.noOther e he
  exact ⟨f, hf, (hσ f hf _).2 hname⟩

/-- The key under its other name, if it is a name of one of the chosen fields. -/
def respell (chosen : List FieldName) (k : Text) : Text :=
  match chosen.find? fun f => f.names.contains k with
  | some f => f.other k
  | none => k

section Respell

variable {chosen : List FieldName} (hchosen : chosen ⊆ fields)
include hchosen

theorem respell_mem_names (hg : g ∈ fields) : respell chosen k ∈ g.names ↔ k ∈ g.names := by
  rw [respell]
  split
  · next f hfind =>
    have hk : k ∈ f.names := by simpa using List.find?_some hfind
    exact mem_names_congr (hchosen (List.mem_of_find?_eq_some hfind)) (f.other_mem k) hk hg
  · rfl

theorem respell_involutive : Function.Involutive (respell chosen) := by
  intro k
  have hsame : chosen.find? (fun f => f.names.contains (respell chosen k)) =
      chosen.find? fun f => f.names.contains k := by
    refine List.find?_congr fun f hf => Bool.eq_iff_iff.2 ?_
    simpa only [List.contains_iff_mem] using respell_mem_names hchosen (hchosen hf)
  rw [respell, hsame]
  cases hfind : chosen.find? fun f => f.names.contains k with
  | none => simp only [respell, hfind]
  | some f =>
    simp only [respell, hfind]
    exact FieldName.other_other (by simpa using List.find?_some hfind)

/-- Respelling twice gives back the entries. -/
theorem perm_map_respell (hdata : data'.Perm (data.map fun e => (respell chosen e.1, e.2))) :
    data.Perm (data'.map fun e => (respell chosen e.1, e.2)) := by
  have hback := (hdata.map fun e => (respell chosen e.1, e.2)).symm
  simpa [Function.comp_def, respell_involutive hchosen _] using hback

theorem nodup_keys_respell (h : (data.map Prod.fst).Nodup)
    (hdata : data'.Perm (data.map fun e => (respell chosen e.1, e.2))) :
    (data'.map Prod.fst).Nodup := by
  have hkeys : (data'.map Prod.fst).Perm ((data.map Prod.fst).map (respell chosen)) := by
    simpa [Function.comp_def] using hdata.map Prod.fst
  exact hkeys.nodup_iff.2 (h.map (respell_involutive hchosen).injective)

end Respell

/-- **Options may be spelt either way.**  A mapping gives options just if it gives each field under
exactly one of its two names, with a value that is accepted, and holds no other key.  Written with
some fields under their other names, and in any order, it gives the same options, or none again. -/
theorem ofFields_either_name (h : (data.map Prod.fst).Nodup) :
    (∀ o, ofFields data = .ok o ↔ Given data o) ∧
    ∀ (chosen : List FieldName) (data' : List (Text × Datum)), chosen ⊆ fields →
      data'.Perm (data.map fun e => (respell chosen e.1, e.2)) →
      ∀ o, ofFields data' = .ok o ↔ ofFields data = .ok o := by
  refine ⟨fun o => ofFields_eq_ok_iff h, fun chosen data' hchosen hdata o => ?_⟩
  have hnames : ∀ f ∈ fields, ∀ k, respell chosen k ∈ f.names ↔ k ∈ f.names :=
    fun f hf k => respell_mem_names hchosen hf
  rw [ofFields_eq_ok_iff h, ofFields_eq_ok_iff (nodup_keys_respell hchosen h hdata)]
  exact ⟨Given.rename hnames (perm_map_respell hchosen hdata), Given.rename hnames hdata⟩

/-- Two names of either kind, then all of the other kind and backwards. -/
theorem ofFields_either_name_mixed :
    let data : List (Text × Datum) := [("root_name", .text "Post"), ("useInterface", .bool true),
      ("optional_properties", .text "No"), ("addExport", .int 1)]
    let data' : List (Text × Datum) := [("add_export", .int 1), ("optionalProperties", .text "No"),
      ("use_interface", .bool true), ("rootName", .text "Post")]
    Given data ⟨"Post", true, false, true⟩ ∧ ofFields data' = .ok ⟨"Post", true, false, true⟩ := by
  intro data data'
  obtain ⟨hgiven, hrespelt⟩ := @ofFields_either_name data (by decide +kernel)
  have hdata : ofFields data = .ok ⟨"Post", true, false, true⟩ := by rfl
  have hreverse : data'.reverse = data.map fun e => (respell fields e.1, e.2) := by rfl
  refine ⟨(hgiven _).1 hdata, (hrespelt fields data' (List.Subset.refl _) ?_ _).2 hdata⟩
  exact hreverse ▸ (List.reverse_perm data').symm

end Options

end JsonShape
