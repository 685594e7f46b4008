import JsonShape.Proofs.Registry.Keys

/-!
# The order of declarations is canonical

The names of declarations are written in ascending order and the root's name last, so what is
written depends on what a registry holds under each name and not on how it came there
(`ordered_congr`).  A registry holds the last registration of each name
(`Registry.get?_registered`); and the root is registered last, so its own declaration is the last
one that is written (`ordered_is_canonical`).
-/

namespace JsonShape

/-! ### The order of names -/

namespace Text

/-- One text comes before another in the order of their code points. -/
def Before (t u : Text) : Prop := List.Lex (fun c d : CodePoint => c.val < d.val) t u

theorem notAfter_iff {t u : Text} : t.notAfter u = true ↔ t = u ∨ t.Before u := by
  induction t generalizing u with
  | nil =>
    cases u with
    | nil => simp [notAfter]
    | cons d u => exact iff_of_true rfl (Or.inr .nil)
  | cons c t ih =>
    cases u with
    | nil => exact iff_of_false nofun fun h => h.elim nofun nofun
    | cons d u =>
      rw [notAfter, Bool.or_eq_true, Bool.and_eq_true, decide_eq_true_eq, decide_eq_true_eq, ih]
      constructor
      · rintro (h | ⟨rfl, rfl | h⟩)
        · exact Or.inr (.rel h)
        · exact Or.inl rfl
        · exact Or.inr (.cons h)
      · rintro (h | h)
        · obtain ⟨rfl, rfl⟩ := List.cons.inj h
          exact Or.inr ⟨rfl, Or.inl rfl⟩
        · cases h with
          | rel h => exact Or.inl h
          | cons h => exact Or.inr ⟨rfl, Or.inr h⟩

theorem notAfter_total (t u : Text) : (t.notAfter u || u.notAfter t) = true := by
  induction t generalizing u with
  | nil => rfl
  | cons c t ih =>
    cases u with
    | nil => rfl
    | cons d u =>
      have hrest := ih u
      rcases Nat.lt_trichotomy c.val d.val with h | h | h
      · simp [notAfter, h]
      · obtain rfl := Fin.ext h
        simpa [notAfter] using hrest
      · simp [notAfter, h]

theorem notAfter_trans {t u v : Text} (h : t.notAfter u = true) (h' : u.notAfter v = true) :
    t.notAfter v = true := by
  induction t generalizing u v with
  | nil => rfl
  | cons c t ih =>
    cases u with
    | nil => cases h
    | cons d u =>
      cases v with
      | nil => cases h'
      | cons e v =>
        simp only [notAfter, Bool.or_eq_true, Bool.and_eq_true, decide_eq_true_eq] at h h' ⊢
        rcases h with h | ⟨rfl, h⟩
        · rcases h' with h' | ⟨rfl, -⟩
          · exact Or.inl (Nat.lt_trans h h')
          · exact Or.inl h
        · rcases h' with h' | ⟨rfl, h'⟩
          · exact Or.inl h'
          · exact Or.inr ⟨rfl, ih h h'⟩

theorem notAfter_antisymm {t u : Text} (h : t.notAfter u = true) (h' : u.notAfter t = true) :
    t = u := by
  induction t generalizing u with
  | nil =>
    cases u with
    | nil => rfl
    | cons d u => cases h'
  | cons c t ih =>
    cases u with
    | nil => cases h
    | cons d u =>
      simp only [notAfter, Bool.or_eq_true, Bool.and_eq_true, decide_eq_true_eq] at h h'
      rcases h with h | ⟨rfl, h⟩
      · rcases h' with h' | ⟨rfl, -⟩
        · exact absurd h' (Nat.lt_asymm h)
        · exact absurd h (Nat.lt_irrefl _)
      · rcases h' with h' | ⟨-, h'⟩
        · exact absurd h' (Nat.lt_irrefl _)
        · rw [ih h h']

end Text

section Order

variable {root a b c : Text}

theorem precedes_iff : precedes root a b = true ↔ b = root ∨ (a ≠ root ∧ a.notAfter b = true) := by
  rw [precedes, Bool.or_eq_true, Bool.and_eq_true, decide_eq_true_eq, decide_eq_true_eq]

theorem precedes_total (root a b : Text) : (precedes root a b || precedes root b a) = true := by
  rw [Bool.or_eq_true, precedes_iff, precedes_iff]
  by_cases ha : a = root
  · exact Or.inr (Or.inl ha)
  · by_cases hb : b = root
    · exact Or.inl (Or.inl hb)
    · rcases (Bool.or_eq_true ..).mp (Text.notAfter_total a b) with h | h
      · exact Or.inl (Or.inr ⟨ha, h⟩)
      · exact Or.inr (Or.inr ⟨hb, h⟩)

theorem precedes_trans (h : precedes root a b = true) (h' : precedes root b c = true) :
    precedes root a c = true := by
  rw [precedes_iff] at h h' ⊢
  rcases h' with hc | ⟨hb, hbc⟩
  · exact Or.inl hc
  · rcases h with hb' | ⟨ha, hab⟩
    · exact absurd hb' hb
    · exact Or.inr ⟨ha, Text.notAfter_trans hab hbc⟩

theorem precedes_antisymm (h : precedes root a b = true) (h' : precedes root b a = true) :
    a = b := by
  rw [precedes_iff] at h h'
  rcases h with hb | ⟨ha, hab⟩
  · rcases h' with ha | ⟨hb', -⟩
    · exact ha.trans hb.symm
    · exact absurd hb hb'
  · rcases h' with ha' | ⟨-, hba⟩
    · exact absurd ha' ha
    · exact Text.notAfter_antisymm hab hba

end Order

/-! ### The entries of a map in order -/

section Ordered

variable {α : Type} (root : Text)

theorem pairwise_ordered (m : OrderedMap Text α) :
    (ordered root m).Pairwise fun a b => precedes root a.1 b.1 = true :=
  @List.pairwise_mergeSort (Text × α) (fun a b => precedes root a.1 b.1)
    (fun _ _ _ => precedes_trans) (fun a b => precedes_total root a.1 b.1) m.entries

theorem nodup_names_ordered (m : OrderedMap Text α) : ((ordered root m).map Prod.fst).Nodup :=
  ((perm_ordered root m).map Prod.fst).nodup_iff.2 m.nodup

theorem mem_ordered_iff {m : OrderedMap Text α} {n : Text} {c : α} :
    (n, c) ∈ ordered root m ↔ m.get? n = some c :=
  (perm_ordered root m).mem_iff.trans OrderedMap.mem_entries_iff

/-- Maps that hold the same under each name are written alike. -/
theorem ordered_congr {m k : OrderedMap Text α} (h : ∀ n, m.get? n = k.get? n) :
    ordered root m = ordered root k := by
  have hmem : ∀ e, e ∈ ordered root m ↔ e ∈ ordered root k := fun ⟨n, c⟩ => by
    rw [mem_ordered_iff, mem_ordered_iff, h]
  have hperm : (ordered root m).Perm (ordered root k) :=
    (List.perm_ext_iff_of_nodup (nodup_names_ordered root m).of_map
      (nodup_names_ordered root k).of_map).2 hmem
  refine List.Perm.eq_of_pairwise ?_ (pairwise_ordered root m) (pairwise_ordered root k) hperm
  rintro ⟨a, c⟩ ⟨b, d⟩ ha hb hab hba
  obtain rfl : a = b := precedes_antisymm hab hba
  have hget := (mem_ordered_iff root).1 ha
  rw [(mem_ordered_iff root).1 ((hmem _).2 hb)] at hget
  rw [Option.some.inj hget]

/-- Entries in order ascend strictly as long as the root's is not met. -/
theorem pairwise_before {l : List (Text × α)}
    (hp : l.Pairwise fun a b => precedes root a.1 b.1 = true) (hn : (l.map Prod.fst).Nodup)
    (hroot : root ∉ l.map Prod.fst) : (l.map Prod.fst).Pairwise Text.Before := by
  rw [List.Nodup, List.pairwise_map] at hn
  rw [List.pairwise_map]
  refine (hp.and hn).imp_of_mem fun {a b} _ hb ⟨hab, hne⟩ => ?_
  rcases precedes_iff.1 hab with hb' | ⟨-, hab⟩
  · exact absurd (hb' ▸ List.mem_map_of_mem hb) hroot
  · exact (Text.notAfter_iff.1 hab).resolve_left hne

/-- The names other than the root's ascend, and the root's entry comes last. -/
theorem exists_ordered_eq (m : OrderedMap Text α) :
    ∃ others, ordered root m = others ++ (m.get? root).toList.map (root, ·) ∧
      root ∉ others.map Prod.fst ∧ (others.map Prod.fst).Pairwise Text.Before := by
  have hp := pairwise_ordered root m
  have hn := nodup_names_ordered root m
  cases hget : m.get? root with
  | none =>
    have hroot : root ∉ (ordered root m).map Prod.fst := by
      intro hroot
      obtain ⟨⟨n, c⟩, he, rfl⟩ := List.mem_map.1 hroot
      rw [(mem_ordered_iff n).1 he] at hget
      cases hget
    exact ⟨ordered root m, (List.append_nil _).symm, hroot, pairwise_before root hp hn hroot⟩
  | some c =>
    obtain ⟨others, after, he⟩ := List.append_of_mem ((mem_ordered_iff root).2 hget)
    rw [he] at hp hn ⊢
    rw [List.map_append, List.map_cons, List.nodup_append, List.nodup_cons] at hn
    obtain ⟨hnothers, ⟨hafter, -⟩, hapart⟩ := hn
    have hroot : root ∉ others.map Prod.fst := fun h => hapart _ h _ List.mem_cons_self rfl
    obtain ⟨hpothers, hpafter, -⟩ := List.pairwise_append.1 hp
    -- what comes after the root's entry would have its name
    have hnone : after = [] := by
      refine List.eq_nil_iff_forall_not_mem.2 fun e he => hafter ?_
      rcases precedes_iff.1 ((List.pairwise_cons.1 hpafter).1 e he) with h | ⟨h, -⟩
      · exact List.mem_map.2 ⟨e, he, h⟩
      · exact absurd rfl h
    rw [hnone]
    exact ⟨others, rfl, hroot, pairwise_before root hpothers hnothers hroot⟩

end Ordered

/-! ### Registrations -/

namespace Registry

/-- The registry that definitions leave when they are registered under names, one after another. -/
def registered (rs : List (Text × Definition)) : Registry :=
  rs.foldl (fun reg r => reg.insert r.1 r.2) ∅

/-- The definition that was registered last under a name. -/
def lastOf? (n : Text) (rs : List (Text × Definition)) : Option Definition :=
  (rs.findRev? (·.1 = n)).map Prod.snd

theorem get?_registered (rs : List (Text × Definition)) (n : Text) :
    (registered rs).get? n = lastOf? n rs := by
  rw [lastOf?, List.findRev?_eq_find?_reverse]
  induction rs using List.reverseRecOn with
  | nil => rfl
  | append_singleton rs r ih =>
    have hlast : registered (rs ++ [r]) = (registered rs).insert r.1 r.2 := List.foldl_append
    rw [hlast, OrderedMap.get?_insert, List.reverse_append, List.reverse_singleton,
      List.singleton_append, List.find?_cons]
    by_cases h : n = r.1
    · simp [h]
    · simp [h, Ne.symm h, ih]

theorem mem_keys_registered {rs : List (Text × Definition)} {n : Text} :
    n ∈ (registered rs).keys ↔ n ∈ rs.map Prod.fst := by
  induction rs using List.reverseRecOn with
  | nil => exact Iff.rfl
  | append_singleton rs r ih =>
    have hlast : registered (rs ++ [r]) = (registered rs).insert r.1 r.2 := List.foldl_append
    rw [hlast, OrderedMap.mem_keys_insert, ih, List.map_append, List.mem_append,
      List.map_singleton, List.mem_singleton, or_comm]

end Registry

/-! ### The root's declaration -/

theorem Text.join_concat (separator p : Text) (ps : List Text) :
    Text.join separator (ps ++ [p]) = (ps.flatMap fun q => q ++ separator) ++ p := by
  induction ps with
  | nil => simp [join]
  | cons q ps ih =>
    cases ps with
    | nil => simp [join, List.intercalate]
    | cons r ps =>
      have hcons : join separator (q :: r :: ps ++ [p]) =
          q ++ separator ++ join separator (r :: ps ++ [p]) := by
        simp [join, List.intercalate]
      rw [hcons, ih, ← List.append_assoc]
      rfl

namespace Document

/-- The root's definition is the last one of the declarations, and its text ends theirs. -/
def EndsWith (o : Options) (d : Document) (c : Definition) : Prop :=
  ∃ others, d.declared o = others ++ [(o.rootName, c)] ∧ o.rootName ∉ others.map Prod.fst ∧
    d.declarations o =
      (others.flatMap fun e => e.2.text o e.1 ++ Text.ofString "\n\n") ++ c.text o o.rootName

variable {o : Options}

theorem endsWith_of_get? {d : Document} {reg : Registry} {c : Definition}
    (h : d.registry? o = some reg) (hc : reg.get? o.rootName = some c) : d.EndsWith o c := by
  obtain ⟨others, he, hroot, -⟩ := exists_ordered_eq o.rootName reg
  rw [hc] at he
  have hdeclared : d.declared o = others ++ [(o.rootName, c)] := by
    rw [declared, h]
    exact he
  refine ⟨others, hdeclared, hroot, ?_⟩
  rw [declarations, assembled, hdeclared, List.map_append, List.map_singleton, Text.join_concat,
    List.flatMap_map]

theorem endsWith_object (o : Options) (fields : List (Text × Json)) :
    Document.EndsWith o (.object fields)
      (Site.record o.optionalProperties ⟨o.rootName, fields⟩) := by
  refine endsWith_of_get? (registry?_object o fields) ?_
  rw [sites, JsonShape.sites, Registry.addAll_concat, OrderedMap.get?_insert, if_pos rfl]

theorem endsWith_led (o : Options) (fields : List (Text × Json)) (items : List Json) :
    Document.EndsWith o (.array (.object fields :: items))
      (.alias (.array (.named (o.rootName ++ Name.itemSuffix)))) := by
  refine endsWith_of_get? (registry?_led o fields items) ?_
  rw [OrderedMap.get?_insert, if_pos rfl]

end Document

/-- **Declarations are written in one order.**  Of whatever is registered, each name is written once
with its last definition, the names other than the root's ascend, and the root's is last; so what is
written does not depend on the order and the repetitions of the registrations.  The declarations of
a document that has a registry end with the root's own: the record of an object, or the alias of an
array. -/
theorem ordered_is_canonical :
    (∀ (root : Text) (rs : List (Text × Definition)),
      let written := ordered root (Registry.registered rs)
      (written.map Prod.fst).Nodup ∧
      (∀ n, n ∈ written.map Prod.fst ↔ n ∈ rs.map Prod.fst) ∧
      (∀ n c, (n, c) ∈ written ↔ Registry.lastOf? n rs = some c) ∧
      ∃ others, written = others ++ (Registry.lastOf? root rs).toList.map (root, ·) ∧
        root ∉ others.map Prod.fst ∧ (others.map Prod.fst).Pairwise Text.Before) ∧
    (∀ (o : Options) (rs qs : List (Text × Definition)),
      (∀ n, Registry.lastOf? n rs = Registry.lastOf? n qs) →
      (Registry.registered rs).text o = (Registry.registered qs).text o) ∧
    ∀ (o : Options) (fields : List (Text × Json)) (items : List Json),
      Document.EndsWith o (.object fields)
        (.record (fields.map (Property.ofField o.optionalProperties))) ∧
      Document.EndsWith o (.array (.object fields :: items))
        (.alias (.array (.named (o.rootName ++ Name.itemSuffix)))) := by
  refine ⟨fun root rs => ?_, fun o rs qs h => ?_, fun o fields items =>
    ⟨Document.endsWith_object o fields, Document.endsWith_led o fields items⟩⟩
  · refine ⟨nodup_names_ordered root _, fun n => ?_, fun n c => ?_, ?_⟩
    · rw [((perm_ordered root _).map Prod.fst).mem_iff]
      exact Registry.mem_keys_registered
    · rw [mem_ordered_iff, Registry.get?_registered]
    · rw [← Registry.get?_registered]
      exact exists_ordered_eq root _
  · have hget : ∀ n, (Registry.registered rs).get? n = (Registry.registered qs).get? n :=
      fun n => by rw [Registry.get?_registered, Registry.get?_registered, h]
    rw [Registry.text, Registry.text, ordered_congr o.rootName hget]

/-- A definition that is replaced later leaves no trace. -/
theorem ordered_is_canonical_replaced :
    let a : Text × Definition := ("A", .alias .emptyArray)
    let old : Text × Definition := ("B", .alias .emptyArray)
    let new : Text × Definition := ("B", .record [⟨"x", .scalar .null, false⟩])
    (∀ n, Registry.lastOf? n [old, a, new] = Registry.lastOf? n [a, new]) ∧
      (Registry.registered [old, a, new]).text .standard =
        (Registry.registered [a, new]).text .standard := by
  intro a old new
  have h : ∀ n, Registry.lastOf? n [old, a, new] = Registry.lastOf? n [a, new] := by
    intro n
    simp only [Registry.lastOf?, List.findRev?_eq_find?_reverse, List.reverse_cons,
      List.reverse_nil, List.nil_append, List.cons_append, List.find?_cons, List.find?_nil]
    by_cases hn : Text.ofString "B" = n <;> simp [old, new, hn]
  exact ⟨h, ordered_is_canonical.2.1 .standard [old, a, new] [a, new] h⟩

end JsonShape
