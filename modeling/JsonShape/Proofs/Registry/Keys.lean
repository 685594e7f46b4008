import JsonShape.Proofs.Json.Accept
import JsonShape.Proofs.Registry.Documents

/-!
# Keys are lost to name collisions only

A site is overwritten if its name is used again, by a later site or by the alias of the root; the
others last.  The declarations of a document are the records of the lasting sites and the alias
(`Document.declared_perm`), so a key of a site is found in the declarations once for each time that
it stands in a lasting site, and what is missing stands in the overwritten ones.
-/

namespace JsonShape

/-! ### Sites that are overwritten -/

/-- Whether one of the sites `ss` has the name of the site, or one of `later` is that name. -/
def Site.isRenewed (later : List Text) (s : Site) (ss : List Site) : Bool :=
  (ss.map Site.name ++ later).contains s.name

/-- The sites whose name no later site has, and none of `later` is. -/
def lasting (later : List Text) : List Site → List Site
  | [] => []
  | s :: ss => if s.isRenewed later ss then lasting later ss else s :: lasting later ss

/-- The sites whose name a later site has, or one of `later` is. -/
def overwritten (later : List Text) : List Site → List Site
  | [] => []
  | s :: ss => if s.isRenewed later ss then s :: overwritten later ss else overwritten later ss

section Sites

variable {later : List Text}

theorem isRenewed_iff {s : Site} {ss : List Site} :
    s.isRenewed later ss = true ↔ s.name ∈ ss.map Site.name ++ later :=
  List.contains_iff_mem

/-- Every site lasts or is overwritten. -/
theorem lasting_append_overwritten (later : List Text) (ss : List Site) :
    (lasting later ss ++ overwritten later ss).Perm ss := by
  induction ss with
  | nil => exact .refl _
  | cons s ss ih =>
    rw [lasting, overwritten]
    by_cases h : s.isRenewed later ss
    · rw [if_pos h, if_pos h]
      exact List.perm_middle.trans (ih.cons s)
    · rw [if_neg h, if_neg h]
      exact ih.cons s

theorem mem_of_mem_lasting {s : Site} {ss : List Site} (h : s ∈ lasting later ss) : s ∈ ss :=
  (lasting_append_overwritten later ss).subset (List.mem_append_left _ h)

/-- Nothing is overwritten exactly if all names are different. -/
theorem overwritten_eq_nil_iff (hlater : later.Nodup) {ss : List Site} :
    overwritten later ss = [] ↔ (ss.map Site.name ++ later).Nodup := by
  induction ss with
  | nil => simpa [overwritten] using hlater
  | cons s ss ih =>
    rw [overwritten, List.map_cons, List.cons_append, List.nodup_cons, ← isRenewed_iff, ← ih]
    by_cases h : s.isRenewed later ss
    · simp [h]
    · simp [h]

theorem name_not_mem_of_lasting {s : Site} {ss : List Site} (h : s ∈ lasting later ss) :
    s.name ∉ later := by
  induction ss with
  | nil => cases h
  | cons t ss ih =>
    rw [lasting] at h
    split at h
    · exact ih h
    · next ht =>
      rcases List.mem_cons.1 h with rfl | h
      · exact fun hs => ht (isRenewed_iff.2 (List.mem_append_right _ hs))
      · exact ih h

/-- Every name that is not used later is the name of a lasting site. -/
theorem mem_names_lasting_iff {n : Text} (hn : n ∉ later) {ss : List Site} :
    n ∈ (lasting later ss).map Site.name ↔ n ∈ ss.map Site.name := by
  induction ss with
  | nil => exact Iff.rfl
  | cons s ss ih =>
    rw [lasting, List.map_cons, List.mem_cons]
    split
    · next hs =>
      rw [ih]
      constructor
      · exact Or.inr
      · rintro (rfl | h)
        · exact (List.mem_append.1 (isRenewed_iff.1 hs)).resolve_right hn
        · exact h
    · rw [List.map_cons, List.mem_cons, ih]

theorem nodup_names_lasting (later : List Text) (ss : List Site) :
    ((lasting later ss).map Site.name).Nodup := by
  induction ss with
  | nil => exact List.nodup_nil
  | cons s ss ih =>
    rw [lasting]
    split
    · exact ih
    · next hs =>
      rw [List.map_cons, List.nodup_cons]
      refine ⟨fun hmem => hs (isRenewed_iff.2 ?_), ih⟩
      obtain ⟨t, ht, hname⟩ := List.mem_map.1 hmem
      rw [← hname]
      exact List.mem_append_left _ (List.mem_map_of_mem (mem_of_mem_lasting ht))

/-- The last site of a name is the lasting one. -/
theorem findRev?_eq_some_iff {n : Text} (hn : n ∉ later) {s : Site} {ss : List Site} :
    ss.findRev? (·.name = n) = some s ↔ s ∈ lasting later ss ∧ s.name = n := by
  rw [List.findRev?_eq_find?_reverse]
  induction ss with
  | nil => simp [lasting]
  | cons t ss ih =>
    have hfind : [t].find? (·.name = n) = some s ↔ s = t ∧ t.name = n := by
      by_cases ht : t.name = n
      · simp [ht, eq_comm]
      · simp [ht]
    rw [List.reverse_cons, List.find?_append, Option.or_eq_some_iff, ih, List.find?_eq_none, hfind,
      lasting]
    simp only [List.mem_reverse, decide_eq_true_eq]
    by_cases ht : t.isRenewed later ss
    · rw [if_pos ht]
      refine ⟨fun h => h.resolve_right ?_, Or.inl⟩
      rintro ⟨hnone, rfl, hname⟩
      rcases List.mem_append.1 (isRenewed_iff.1 ht) with hmem | hmem
      · obtain ⟨u, hu, hutname⟩ := List.mem_map.1 hmem
        exact hnone u hu (hutname.trans hname)
      · exact hn (hname ▸ hmem)
    · rw [if_neg ht]
      constructor
      · rintro (⟨hs, hname⟩ | ⟨-, rfl, hname⟩)
        · exact ⟨List.mem_cons_of_mem _ hs, hname⟩
        · exact ⟨List.mem_cons_self, hname⟩
      · rintro ⟨hs, hname⟩
        rcases List.mem_cons.1 hs with rfl | hs
        · refine Or.inr ⟨fun u hu huname => ht (isRenewed_iff.2 ?_), rfl, hname⟩
          rw [hname, ← huname]
          exact List.mem_append_left _ (List.mem_map_of_mem hu)
        · exact Or.inl ⟨hs, hname⟩

end Sites

/-! ### Declarations -/

/-- The declaration of a site. -/
def Site.declaration (optional : Bool) (s : Site) : Text × Definition :=
  (s.name, s.record optional)

/-- A name that is not used later holds the record of its lasting site. -/
theorem get?_addAll_iff {optional : Bool} {later : List Text} {ss : List Site} {n : Text}
    (hn : n ∉ later) {c : Definition} : (Registry.addAll optional ∅ ss).get? n = some c ↔
      (n, c) ∈ (lasting later ss).map (Site.declaration optional) := by
  rw [Registry.get?_addAll, OrderedMap.get?_empty, Option.or_none, Option.map_eq_some_iff,
    List.mem_map]
  constructor
  · rintro ⟨s, hs, rfl⟩
    obtain ⟨hmem, rfl⟩ := (findRev?_eq_some_iff hn).1 hs
    exact ⟨s, hmem, rfl⟩
  · rintro ⟨s, hs, he⟩
    obtain ⟨rfl, rfl⟩ := Prod.mk.inj he
    exact ⟨s, (findRev?_eq_some_iff hn).2 ⟨hs, rfl⟩, rfl⟩

namespace Document

/-- The name that is used once all sites are declared: an array's root is put in the place of
whatever had its name. -/
def later (o : Options) (d : Document) : List Text := (d.target? o).toList.map fun _ => o.rootName

/-- The declaration of the alias of an array. -/
def aliased (o : Options) (d : Document) : List (Text × Definition) :=
  (d.target? o).toList.map fun target => (o.rootName, .alias target)

variable {o : Options} {d : Document}

theorem nodup_later (o : Options) (d : Document) : (d.later o).Nodup := by
  unfold later
  cases d.target? o <;> simp

theorem nodup_names_declared (o : Options) (d : Document) :
    ((d.declared o).map Prod.fst).Nodup := by
  unfold declared
  split
  · next reg _ => exact ((perm_ordered o.rootName reg).map Prod.fst).nodup_iff.2 reg.nodup
  · simp

theorem names_lasting_append (o : Options) (d : Document) :
    ((lasting (d.later o) (d.sites o)).map (Site.declaration o.optionalProperties) ++
      d.aliased o).map Prod.fst = (lasting (d.later o) (d.sites o)).map Site.name ++ d.later o := by
  rw [List.map_append, List.map_map, aliased, List.map_map]
  rfl

theorem nodup_names_lasting_append (o : Options) (d : Document) :
    (((lasting (d.later o) (d.sites o)).map (Site.declaration o.optionalProperties) ++
      d.aliased o).map Prod.fst).Nodup := by
  rw [names_lasting_append, List.nodup_append]
  refine ⟨nodup_names_lasting _ _, nodup_later o d, fun n hn m hm hnm => ?_⟩
  obtain ⟨s, hs, rfl⟩ := List.mem_map.1 hn
  exact name_not_mem_of_lasting hs (hnm ▸ hm)

theorem mem_declared_iff_lasting {e : Text × Definition} : e ∈ d.declared o ↔
    e ∈ (lasting (d.later o) (d.sites o)).map (Site.declaration o.optionalProperties) ++
      d.aliased o := by
  obtain ⟨n, c⟩ := e
  induction d using cases_lead with
  | object fields =>
    rw [mem_declared_iff (registry?_object o fields), get?_addAll_iff List.not_mem_nil]
    exact (List.append_nil _ ▸ Iff.rfl)
  | led fields items =>
    have halias : (n, c) ∈ (Document.array (.object fields :: items)).aliased o ↔
        n = o.rootName ∧ .alias (.array (.named (o.rootName ++ Name.itemSuffix))) = c := by
      rw [aliased, target?, Option.toList_some, List.map_singleton, List.mem_singleton,
        Prod.mk.injEq, eq_comm (a := c)]
    rw [mem_declared_iff (registry?_led o fields items), OrderedMap.get?_insert, List.mem_append,
      halias]
    by_cases hn : n = o.rootName
    · rw [if_pos hn, Option.some.injEq]
      refine ⟨fun h => Or.inr ⟨hn, h⟩, fun h => ?_⟩
      rcases h with h | h
      · obtain ⟨s, hs, he⟩ := List.mem_map.1 h
        have hname : s.name = o.rootName := (Prod.mk.inj he).1.trans hn
        exact absurd (List.mem_singleton.2 hname) (name_not_mem_of_lasting hs)
      · exact h.2
    · have hlater : n ∉ (Document.array (.object fields :: items)).later o :=
        fun h => hn (List.mem_singleton.1 h)
      rw [if_neg hn, get?_addAll_iff hlater]
      exact ⟨Or.inl, fun h => h.resolve_right fun h => hn h.1⟩
  | other d h =>
    obtain ⟨hsites, htarget, hdeclared, -⟩ := eq_of_not_opensObject o h
    rw [hdeclared, hsites, aliased, htarget]
    rfl

/-- **The declarations of a document are the records of the lasting sites and the alias.** -/
theorem declared_perm (o : Options) (d : Document) :
    (d.declared o).Perm ((lasting (d.later o) (d.sites o)).map
      (Site.declaration o.optionalProperties) ++ d.aliased o) :=
  (List.perm_ext_iff_of_nodup (List.Nodup.of_map _ (nodup_names_declared o d))
    (List.Nodup.of_map _ (nodup_names_lasting_append o d))).2 fun _ => mem_declared_iff_lasting

end Document

/-! ### Keys -/

/-- The keys of an object that is declared. -/
def Site.keys (s : Site) : List Text := s.fields.map Prod.fst

/-- The keys of the properties of a record; an alias has none. -/
def Definition.recordKeys : Definition → List Text
  | .record ps => ps.map Property.key
  | .alias _ => []

theorem recordKeys_record (optional : Bool) (s : Site) :
    (s.record optional).recordKeys = s.keys := by
  rw [Site.record, Definition.recordKeys, List.map_map]
  rfl

namespace Document

/-- The keys of all objects that are declared for a document. -/
def visitedKeys (o : Options) (d : Document) : List Text := (d.sites o).flatMap Site.keys

/-- The keys of the properties of all records among the declarations. -/
def declaredKeys (o : Options) (d : Document) : List Text :=
  (d.declared o).flatMap fun e => e.2.recordKeys

/-- The keys of the objects whose records are overwritten. -/
def overwrittenKeys (o : Options) (d : Document) : List Text :=
  (overwritten (d.later o) (d.sites o)).flatMap Site.keys

theorem declaredKeys_perm (o : Options) (d : Document) :
    (d.declaredKeys o).Perm ((lasting (d.later o) (d.sites o)).flatMap Site.keys) := by
  have hperm := (declared_perm o d).flatMap_right fun e => e.2.recordKeys
  have halias : (d.aliased o).flatMap (fun e => e.2.recordKeys) = [] := by
    unfold aliased
    cases d.target? o <;> rfl
  have hsites : ((lasting (d.later o) (d.sites o)).map
      (Site.declaration o.optionalProperties)).flatMap (fun e => e.2.recordKeys) =
        (lasting (d.later o) (d.sites o)).flatMap Site.keys := by
    rw [List.flatMap_map]
    exact List.flatMap_congr fun s _ => recordKeys_record _ s
  rw [List.flatMap_append, halias, hsites, List.append_nil] at hperm
  exact hperm

/-- **No key is doubled, and none is lost but to a name that is used again.**  The keys of the
objects that are declared are those of the records among the declarations together with those of the
objects whose records are overwritten; and nothing is overwritten exactly if no two of the
declarations that are made share a name. -/
theorem keys_are_kept (o : Options) (d : Document) :
    (d.visitedKeys o).Perm (d.declaredKeys o ++ d.overwrittenKeys o) ∧
    (overwritten (d.later o) (d.sites o) = [] ↔ (d.madeNames o).Nodup) ∧
    ((d.madeNames o).Nodup → (d.visitedKeys o).Perm (d.declaredKeys o)) := by
  have hall : (d.visitedKeys o).Perm (d.declaredKeys o ++ d.overwrittenKeys o) := by
    have hsites := (lasting_append_overwritten (d.later o) (d.sites o)).flatMap_right Site.keys
    rw [List.flatMap_append] at hsites
    exact hsites.symm.trans ((declaredKeys_perm o d).symm.append_right _)
  have hnames : overwritten (d.later o) (d.sites o) = [] ↔ (d.madeNames o).Nodup := by
    rw [madeNames_eq]
    exact overwritten_eq_nil_iff (nodup_later o d)
  refine ⟨hall, hnames, fun h => ?_⟩
  have hnone : d.overwrittenKeys o = [] := by
    rw [overwrittenKeys, hnames.2 h]
    rfl
  rw [hnone, List.append_nil] at hall
  exact hall

/-- The objects of `{"user": {"profile": {"name": "John"}}}` have three names. -/
theorem keys_are_kept_user :
    let profile : Json := .object [("name", .string "John")]
    let d : Document := .object [("user", .object [("profile", profile)])]
    (d.madeNames .standard).Nodup ∧ (d.visitedKeys .standard).Perm (d.declaredKeys .standard) := by
  intro profile d
  have hnames : (d.madeNames .standard).Nodup := by decide +kernel
  exact ⟨hnames, (keys_are_kept .standard d).2.2 hnames⟩

open Json in
/-- The objects under `a` and `A` share a name, so the key of the first one is lost. -/
theorem keys_are_not_kept :
    let d : Document := .object [("a", .object [("x", .null)]), ("A", .object [])]
    ofText? "\x7b\"a\":\x7b\"x\":null\x7d,\"A\":\x7b\x7d\x7d" = .ok d ∧
      ¬ (d.visitedKeys .standard).Perm (d.declaredKeys .standard) := by
  intro d
  have hx : NameText "x" "\"x\":null\x7d,\"A\":\x7b\x7d\x7d" "null\x7d,\"A\":\x7b\x7d\x7d" :=
    nameText_letter (by decide) _
  have hsmall : NameText "a" "\"a\":\x7b\"x\":null\x7d,\"A\":\x7b\x7d\x7d"
      "\x7b\"x\":null\x7d,\"A\":\x7b\x7d\x7d" :=
    nameText_letter (by decide) _
  have hcapital : NameText "A" "\"A\":\x7b\x7d\x7d" "\x7b\x7d\x7d" :=
    nameText_letter (by decide) _
  have htext : JsonText Readable maxDepth d.root
      "\x7b\"a\":\x7b\"x\":null\x7d,\"A\":\x7b\x7d\x7d" :=
    .blanks (.refl _) (.object (.refl _) (.cons hsmall
      (.object (.refl _) (.last hx .nullWord (.refl _))) (.refl _) (.refl _)
      (.last hcapital (.emptyObject (.refl _)) (.refl _)))) (.refl _)
  refine ⟨ofText?_eq_ok_iff.2 (read_of_jsonText htext), fun h => ?_⟩
  have hdeclared : d.declaredKeys .standard = ["a", "A"] := by
    rw [declaredKeys, declared_of_pairwise rfl (by decide)]
    rfl
  rw [hdeclared] at h
  exact absurd h.length_eq (by decide)

end Document

end JsonShape
