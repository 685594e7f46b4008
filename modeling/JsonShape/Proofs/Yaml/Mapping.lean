import JsonShape.Proofs.Answers
import JsonShape.Proofs.Yaml.Graph
import JsonShape.Proofs.Yaml.Tokens

/-!
# The value of a written mapping

The tokens of a mapping lead to a graph of one mapping and the scalars of its entries
(`document?_tokens`), and once these are looked at the value of the mapping is a dictionary
(`value_mapping`).  So a written mapping whose keys differ stands for the dictionary of its entries
(`EntriesWritten.read`).
-/

namespace JsonShape

/-! ### Dictionaries -/

namespace Datum

/-- Fields as the entries of a dictionary. -/
def textEntries (fields : List (Text × Datum)) : List (Datum × Datum) :=
  fields.map fun f => (.text f.1, f.2)

theorem putEntry_text {key : Text} {fields : List (Text × Datum)} (h : key ∉ fields.map Prod.fst)
    (d : Datum) :
    putEntry (.text key) d (textEntries fields) = textEntries (fields ++ [(key, d)]) := by
  induction fields with
  | nil => rfl
  | cons f fields ih =>
    rw [List.map_cons, List.mem_cons, not_or] at h
    have hne : (text f.1).sameKey (.text key) = false := by
      rw [sameKey]
      exact decide_eq_false (Ne.symm h.1)
    rw [textEntries, List.map_cons, putEntry, hne, if_neg Bool.false_ne_true]
    exact congrArg _ (ih h.2)

/-- Entries whose keys differ are all put into the dictionary. -/
theorem dictOf_textEntries {fields : List (Text × Datum)} (h : (fields.map Prod.fst).Nodup) :
    dictOf (textEntries fields) = .dict (textEntries fields) := by
  suffices hfold : ∀ before : List (Text × Datum), ((before ++ fields).map Prod.fst).Nodup →
      (textEntries fields).foldl (fun d e => putEntry e.1 e.2 d) (textEntries before) =
        textEntries (before ++ fields) from congrArg _ (hfold [] h)
  clear h
  induction fields with
  | nil => intro before _; rw [List.append_nil]; rfl
  | cons f fields ih =>
    intro before h
    have hkey : f.1 ∉ before.map Prod.fst := by
      rw [List.map_append, List.nodup_append] at h
      exact fun hmem => h.2.2 _ hmem _ List.mem_cons_self rfl
    rw [List.append_cons] at h ⊢
    rw [← ih _ h, ← putEntry_text hkey]
    rfl

end Datum

namespace Yaml

variable {e : Item} {es : List Item} {w : Text}

/-! ### Nodes -/

namespace Item

/-- The type of the value, which a plain scalar takes from its look. -/
def tag (e : Item) : Tag := if e.plain then .ofPlain e.text else .str

/-- The nodes of an entry stand at two places of a graph. -/
structure StandsAt (g : Graph) (r : Ref × Ref) (e : Item) : Prop where
  key : g.node r.1 = .scalar (.ofPlain e.key) e.key
  value : g.node r.2 = .scalar e.tag e.text

end Item

namespace Node

variable {fuel : Nat} {tokens : List Token} {handles : List (Text × Text)}
  {anchors : List (Text × Ref)} {g : Graph} {rs : List (Ref × Ref)} {s : Source}

theorem read_scalar (block bare : Bool) (text : Text) (plain : Bool) :
    read block bare (fuel + 1) ⟨.scalar text plain :: tokens, handles, anchors, g⟩ =
      .ok (g.size, ⟨tokens, handles, anchors,
        g.add (.scalar (if plain then .ofPlain text else .str) text)⟩) := by
  rw [read]
  rfl

theorem readPart_scalar (text : Text) (plain : Bool) :
    readPart (fuel + 2) ⟨.value :: .scalar text plain :: tokens, handles, anchors, g⟩ =
      .ok (g.size, ⟨tokens, handles, anchors,
        g.add (.scalar (if plain then .ofPlain text else .str) text)⟩) := by
  rw [readPart]
  exact read_scalar true true text plain

/-- The graph with the nodes of an entry. -/
def withEntry (g : Graph) (e : Item) : Graph :=
  (g.add (.scalar (.ofPlain e.key) e.key)).add (.scalar e.tag e.text)

theorem within_withEntry (g : Graph) (e : Item) : g.Within (withEntry g e) :=
  (Graph.within_add _ _).trans (Graph.within_add _ _)

theorem standsAt_withEntry (g : Graph) (e : Item) :
    e.StandsAt (withEntry g e) (g.size, g.size + 1) := by
  constructor
  · exact (Graph.node_add_of_lt _ (by rw [Graph.size_add]; exact Nat.lt_succ_self _)).trans
      (Graph.node_add_size _ _)
  · have hvalue := Graph.node_add_size (.scalar e.tag e.text)
      (g.add (.scalar (.ofPlain e.key) e.key))
    rwa [Graph.size_add] at hvalue

/-- What is in a graph is in one that it is within. -/
theorem StandsAt.within {h : Graph} {r : Ref × Ref} (he : e.StandsAt g r) (hgh : g.Within h)
    (hkey : r.1 < g.size) (hvalue : r.2 < g.size) : e.StandsAt h r :=
  ⟨(hgh.node _ hkey).trans he.key, (hgh.node _ hvalue).trans he.value⟩

/-- One entry is read from its tokens. -/
theorem readEntries_cons (e : Item)
    (h : readEntries (fuel + 2) ⟨tokens, handles, anchors, withEntry g e⟩ = .ok (rs, s)) :
    readEntries (fuel + 3) ⟨e.tokens ++ tokens, handles, anchors, g⟩ =
      .ok ((g.size, g.size + 1) :: rs, s) := by
  rw [readEntries]
  change (read true true (fuel + 2) ⟨.scalar e.key true ::
    .value :: .scalar e.text e.plain :: tokens, handles, anchors, g⟩ >>= _) = _
  rw [read_scalar]
  dsimp only [bind, Except.bind]
  rw [readPart_scalar]
  dsimp only
  rw [Graph.size_add]
  change (readEntries (fuel + 2) ⟨tokens, handles, anchors, withEntry g e⟩ >>= _) = _
  rw [h]
  rfl

/-- **The entries of a mapping** are read from their tokens. -/
theorem readEntries_tokens (es : List Item) (g : Graph) :
    ∃ rs h, readEntries (fuel + es.length + 2)
        ⟨es.flatMap Item.tokens ++ .blockEnd :: tokens, handles, anchors, g⟩ =
      .ok (rs, ⟨tokens, handles, anchors, h⟩) ∧ g.Within h ∧
        List.Forall₂ (fun r e => e.StandsAt h r) rs es := by
  induction es generalizing g with
  | nil =>
    refine ⟨[], g, ?_, .refl g, .nil⟩
    rw [readEntries]
    rfl
  | cons e es ih =>
    obtain ⟨rs, h, hread, hwithin, hrs⟩ := ih (withEntry g e)
    have hsize : (withEntry g e).size = g.size + 2 := by
      rw [withEntry, Graph.size_add, Graph.size_add]
    refine ⟨(g.size, g.size + 1) :: rs, h, ?_, (within_withEntry g e).trans hwithin, .cons ?_ hrs⟩
    · rw [List.flatMap_cons, List.append_assoc]
      exact readEntries_cons e hread
    · exact StandsAt.within (standsAt_withEntry g e) hwithin (by simp [hsize]) (by simp [hsize])

theorem read_mapping
    (h : readEntries fuel ⟨tokens, handles, anchors, g.add (.mapping .map [])⟩ = .ok (rs, s)) :
    read true false (fuel + 1) ⟨.blockMappingStart :: tokens, handles, anchors, g⟩ =
      .ok (g.size, { s with graph := s.graph.put g.size (.mapping .map rs) }) := by
  rw [read]
  change (readEntries fuel ⟨tokens, handles, anchors, g.add (.mapping .map [])⟩ >>= _) = _
  rw [h]
  rfl

theorem length_tokens (es : List Item) : (es.flatMap Item.tokens).length = 4 * es.length := by
  induction es with
  | nil => rfl
  | cons e es ih =>
    rw [List.flatMap_cons, List.length_append, ih, List.length_cons, Item.tokens]
    simp only [List.length_cons, List.length_nil]
    omega

/-- **The tokens of a mapping** make one mapping, and the scalars of its entries. -/
theorem document?_tokens (es : List Item) :
    ∃ rs g, document? (.blockMappingStart :: (es.flatMap Item.tokens ++ [.blockEnd, .streamEnd])) =
        .ok (some (0, g)) ∧ g.node 0 = .mapping .map rs ∧
      List.Forall₂ (fun r e => e.StandsAt g r) rs es := by
  obtain ⟨rs, h, hentries, hwithin, hrs⟩ := @readEntries_tokens (15 * es.length + 13) [.streamEnd]
    coreHandles [] es (Graph.empty.add (.mapping .map []))
  have hroot := read_mapping hentries
  have hsize : 0 < h.size := hwithin.size
  have hplace : h.node 0 = .mapping .map [] := hwithin.node 0 (Nat.lt_succ_self 0)
  refine ⟨rs, h.put 0 (.mapping .map rs), ?_, Graph.node_put _ hsize, hrs.imp fun r e he => ?_⟩
  · generalize htokens : es.flatMap Item.tokens ++ [.blockEnd, .streamEnd] = tokens at hroot ⊢
    have hfuel : 4 * (Token.blockMappingStart :: tokens).length + 4 =
        (15 * es.length + 13 + es.length + 2) + 1 := by
      rw [← htokens, List.length_cons, List.length_append, length_tokens]
      simp only [List.length_cons, List.length_nil]
      omega
    change some <$> readRoot coreHandles (.blockMappingStart :: tokens) = _
    rw [readRoot, hfuel, hroot]
    rfl
  · -- a scalar stands where no mapping does
    have hne {q : Ref} {tag : Tag} {t : Text} (hq : h.node q = .scalar tag t) : 0 ≠ q := by
      rintro rfl
      cases hplace.symm.trans hq
    exact ⟨(Graph.node_put_of_ne _ (hne he.key)).trans he.key,
      (Graph.node_put_of_ne _ (hne he.value)).trans he.value⟩

end Node

/-! ### Values -/

namespace Item

/-- The value of an entry. -/
def value (e : Item) : Datum := (scalarValue e.tag e.text).toOption.getD .null

/-- An entry has a value, and its key is no other than a text. -/
structure Sound (e : Item) : Prop where
  key : Tag.ofPlain e.key = .str
  value : scalarValue e.tag e.text = .ok e.value

theorem sound_of_value {d : Datum} (hkey : Tag.ofPlain e.key = .str)
    (h : scalarValue e.tag e.text = .ok d) : e.Sound ∧ e.value = d := by
  have hvalue : e.value = d := by rw [value, h]; rfl
  exact ⟨⟨hkey, by rw [hvalue, h]⟩, hvalue⟩

end Item

namespace Building

variable {fuel : Nat} {b : Building} {rs : List (Ref × Ref)}

theorem visitEntry_of_sound (he : e.Sound) {r : Ref × Ref} (hb : b.Agrees (fuel + 1))
    (hr : e.StandsAt b.graph r) :
    ∃ c, b.visitEntry (fuel + 1) r = .ok c ∧ Follows (fuel + 1) b c ∧
      c.IsThere r.1 ∧ c.IsThere r.2 := by
  have hkey := Graph.start_scalar hr.key (d := .text e.key) (by rw [he.key]; rfl) fuel
  have hvalue := Graph.start_scalar hr.value he.value fuel
  obtain ⟨c, hc, hbc, hthere⟩ := visit_scalar hb hkey.1 hkey.2
  rw [← hbc.graph] at hkey hvalue
  obtain ⟨d, hd, hcd, hthere'⟩ := visit_scalar hbc.agrees hvalue.1 hvalue.2
  refine ⟨d, ?_, hbc.trans hcd, hcd.isThere _ hthere, hthere'⟩
  rw [visitEntry, hc]
  dsimp only [bind, Except.bind]
  rw [hbc.agrees.valueOf hthere hkey.1]
  exact hd

/-- The nodes of entries are put there one after the other. -/
theorem visitEntries_of_sound {g : Graph} (h : ∀ e ∈ es, e.Sound) (hb : b.Agrees (fuel + 1))
    (hg : b.graph = g) (hrs : List.Forall₂ (fun r e => e.StandsAt g r) rs es) :
    ∃ c, rs.foldlM (visitEntry (fuel + 1)) b = .ok c ∧ Follows (fuel + 1) b c ∧
      ∀ r ∈ rs, c.IsThere r.1 ∧ c.IsThere r.2 := by
  induction hrs generalizing b with
  | nil => exact ⟨b, rfl, ⟨rfl, rfl, fun _ => id, hb⟩, List.forall_mem_nil _⟩
  | @cons r e rs es hr hrs ih =>
    obtain ⟨he, hes⟩ := List.forall_mem_cons.1 h
    obtain ⟨c, hc, hbc, hkey, hvalue⟩ := visitEntry_of_sound he hb (hg ▸ hr)
    obtain ⟨d, hd, hcd, hthere⟩ := ih hes hbc.agrees (hbc.graph.trans hg)
    refine ⟨d, ?_, hbc.trans hcd, List.forall_mem_cons.2
      ⟨⟨hcd.isThere _ hkey, hcd.isThere _ hvalue⟩, hthere⟩⟩
    rw [List.foldlM_cons, hc]
    exact hd

/-- The value of a scalar that is there. -/
theorem value_scalar {r : Ref} {tag : Tag} {t : Text} {x : Datum} (hb : b.Agrees (fuel + 1))
    (hthere : b.IsThere r) (hnode : b.graph.node r = .scalar tag t)
    (hx : scalarValue tag t = .ok x) (turns : Nat) (path : List Ref) :
    b.value (turns + 1) path r = x := by
  have hvalue := hb.valueOf hthere (Graph.start_scalar hnode hx fuel).1
  rw [value, hnode, hvalue, ite_self]

/-- **The value of a mapping** whose scalars are there is the dictionary of its entries. -/
theorem value_mapping {root : Ref} (h : ∀ e ∈ es, e.Sound) (hkeys : (es.map Item.key).Nodup)
    (hb : b.Agrees (fuel + 1)) (hroot : b.graph.node root = .mapping .map rs)
    (hrs : List.Forall₂ (fun r e => e.StandsAt b.graph r) rs es)
    (hthere : ∀ r ∈ rs, b.IsThere r.1 ∧ b.IsThere r.2) (turns : Nat) :
    b.value (turns + 2) [] root =
      .dict (Datum.textEntries (es.map fun e => (e.key, e.value))) := by
  have hentries : rs.map (fun r =>
      (b.value (turns + 1) [root] r.1, b.value (turns + 1) [root] r.2)) =
      Datum.textEntries (es.map fun e => (e.key, e.value)) := by
    clear hroot hkeys
    induction hrs with
    | nil => rfl
    | @cons r e rs es hr hrs ih =>
      obtain ⟨he, hes⟩ := List.forall_mem_cons.1 h
      obtain ⟨⟨hkey, hvalue⟩, hthere⟩ := List.forall_mem_cons.1 hthere
      rw [List.map_cons, ih hes hthere,
        value_scalar hb hkey hr.key (x := .text e.key) (by rw [he.key]; rfl),
        value_scalar hb hvalue hr.value he.value]
      rfl
  have hfields : ((es.map fun e => (e.key, e.value)).map Prod.fst).Nodup := by
    rwa [List.map_map]
  rw [value, hroot, if_neg (by simp)]
  exact (congrArg Datum.dictOf hentries).trans (Datum.dictOf_textEntries hfields)

/-- **A mapping is looked at** once, and then nothing is waiting. -/
theorem run_mapping {g : Graph} {root : Ref} (h : ∀ e ∈ es, e.Sound)
    (hroot : g.node root = .mapping .map rs)
    (hrs : List.Forall₂ (fun r e => e.StandsAt g r) rs es) (turns : Nat) :
    ∃ b c, visit (fuel + 1) ⟨g, [], []⟩ root = .ok b ∧
      b.run (fuel + 1) (turns + 2) = .ok c ∧ c.graph = g ∧ c.Agrees (fuel + 1) ∧
      ∀ r ∈ rs, c.IsThere r.1 ∧ c.IsThere r.2 := by
  have htag : g.tag root = .map := by rw [Graph.tag, hroot]; rfl
  have hstart : g.start (fuel + 1) root = .ok (.dict []) := by rw [Graph.start, htag]
  have hentries : g.entries root = rs := by rw [Graph.entries, hroot]; rfl
  have hmerge : g.merge (fuel + 1) root = .ok g := by
    refine Graph.mergeFrom_texts (fun r hr => ?_) _ _
    rw [hentries] at hr
    obtain ⟨e, he, hstands⟩ := exists_of_mem_forall₂ hrs hr
    rw [Graph.tag, hstands.key]
    exact (h e he).key
  let b : Building := ⟨g, [(root, .dict [])], []⟩
  have hb : b.Agrees (fuel + 1) := by
    intro r x hx
    obtain ⟨rfl, rfl⟩ : root = r ∧ .dict [] = x := by
      rw [List.lookup_cons] at hx
      split at hx
      · next hr => exact ⟨(eq_of_beq hr).symm, Option.some.inj hx⟩
      · cases hx
    exact hstart
  obtain ⟨c, hc, hbc, hthere⟩ := visitEntries_of_sound h hb rfl hrs
  refine ⟨⟨g, [(root, .dict [])], [root]⟩, c, ?_, ?_, hbc.graph, hbc.agrees, hthere⟩
  · have hnone : (List.lookup root ([] : List (Ref × Datum))).isSome = false := rfl
    rw [visit, hnone, if_neg (by decide), hstart, htag]
    rfl
  · have hfill : fill (fuel + 1) b root = .ok c := by
      rw [fill, hroot]
      dsimp only
      rw [hmerge]
      dsimp only [bind, Except.bind]
      rw [hentries]
      exact hc
    have hrest : run (fuel + 1) (turns + 1) c = .ok c := by
      rw [run, hbc.waiting]
    rw [run]
    exact (congrArg (· >>= run (fuel + 1) (turns + 1)) hfill).trans hrest

end Building

/-- **A written mapping stands for the dictionary of its entries.** -/
theorem EntriesWritten.read (h : EntriesWritten (e :: es) w) (hsound : ∀ d ∈ e :: es, d.Sound)
    (hkeys : ((e :: es).map Item.key).Nodup) :
    Yaml.read w =
      .ok (.dict (Datum.textEntries ((e :: es).map fun d => (d.key, d.value)))) := by
  obtain ⟨rs, g, hdocument, hroot, hrs⟩ := Node.document?_tokens (e :: es)
  obtain ⟨turns, hturns⟩ : ∃ turns, (Token.scan w).length + 1 = turns + 2 :=
    ⟨_, congrArg (fun s => List.length s + 1) h.scan⟩
  obtain ⟨b, c, hb, hc, rfl, hagrees, hthere⟩ :=
    @Building.run_mapping _ (turns + 1) _ _ _ hsound hroot hrs turns
  rw [Yaml.read]
  dsimp only
  rw [hturns, h.scan, hdocument]
  change (Building.visit (turns + 2) ⟨_, [], []⟩ 0 >>= _) = _
  rw [hb]
  change (Building.run (turns + 2) (turns + 2) b >>= _) = _
  rw [hc]
  exact congrArg Except.ok (Building.value_mapping hsound hkeys hagrees hroot hrs hthere turns)

end Yaml

end JsonShape
