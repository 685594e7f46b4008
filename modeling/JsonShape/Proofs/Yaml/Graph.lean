import JsonShape.Yaml.Value

/-!
# Graphs of YAML nodes and their values

What a graph has is in all that it is `Within`.  A scalar has its value at once, so putting scalars
there changes nothing else (`Building.visit_scalar`, `Building.Follows`).
-/

namespace JsonShape.Yaml

/-! ### Graphs -/

namespace Graph

variable {g h k : Graph} {q r : Ref} {n : Node}

theorem size_add (n : Node) (g : Graph) : (g.add n).size = g.size + 1 := Array.size_push n

theorem node_add_size (n : Node) (g : Graph) : (g.add n).node g.size = n := by
  rw [node, add, size, Array.getElem?_push_size]
  rfl

theorem node_add_of_lt (n : Node) (hr : r < g.size) : (g.add n).node r = g.node r := by
  rw [node, add, Array.getElem?_push_lt hr, node, Array.getElem?_eq_getElem hr]

theorem node_put_of_ne (n : Node) (h : q ≠ r) : (g.put q n).node r = g.node r := by
  rw [node, put, Array.getElem?_setIfInBounds_ne h, node]

theorem node_put (n : Node) (hr : r < g.size) : (g.put r n).node r = n := by
  rw [node, put, Array.getElem?_setIfInBounds_self_of_lt hr]
  rfl

/-- All nodes of a graph are in another one, at the same places. -/
structure Within (g h : Graph) : Prop where
  size : g.size ≤ h.size
  node : ∀ r < g.size, h.node r = g.node r

theorem Within.refl (g : Graph) : g.Within g := ⟨Nat.le_refl _, fun _ _ => rfl⟩

theorem Within.trans (hgh : g.Within h) (hhk : h.Within k) : g.Within k :=
  ⟨Nat.le_trans hgh.size hhk.size, fun r hr =>
    (hhk.node r (Nat.lt_of_lt_of_le hr hgh.size)).trans (hgh.node r hr)⟩

theorem within_add (n : Node) (g : Graph) : g.Within (g.add n) :=
  ⟨by rw [size_add]; exact Nat.le_succ _, fun _ hr => node_add_of_lt n hr⟩

end Graph

/-! ### Values -/

namespace Graph

variable {g : Graph} {r : Ref}

/-- A scalar is its value at once, and no collection. -/
theorem start_scalar {tag : Tag} {t : Text} {d : Datum} (hnode : g.node r = .scalar tag t)
    (h : scalarValue tag t = .ok d) (fuel : Nat) :
    g.start (fuel + 1) r = .ok d ∧ (g.tag r).isCollection = false := by
  have htag : g.tag r = tag := by rw [Graph.tag, hnode]; rfl
  have htext : g.text (fuel + 1) r = .ok t := by rw [text, hnode]
  rw [start, htag]
  cases tag with
  | seq | omap | pairs | map | set | merge | value | other => cases h
  | _ => exact ⟨by simp [htext, hnode, h, bind, Except.bind], rfl⟩

/-- Nothing is merged into a mapping whose keys are texts. -/
theorem mergeFrom_texts {inner : Ref → Graph → Except Fault Graph}
    (h : ∀ e ∈ g.entries r, g.tag e.1 = .str) (steps index : Nat) :
    mergeFrom inner r steps index [] g = .ok g := by
  induction steps generalizing index with
  | zero => rfl
  | succ steps ih =>
    rw [mergeFrom]
    split
    · exact ih index
    · next k v hentry =>
      have hkey : g.tag k = .str := h (k, v) (List.mem_of_getElem? hentry)
      rw [hkey, if_neg (by decide), if_neg (by decide)]
      exact ih (index + 1)

end Graph

namespace Building

variable {fuel : Nat} {b c d : Building} {r : Ref} {rs : List (Ref × Ref)}

def IsThere (b : Building) (r : Ref) : Prop := ∃ x, b.values.lookup r = some x

/-- Every node that is there was at once what it is said to have been. -/
def Agrees (fuel : Nat) (b : Building) : Prop :=
  ∀ r x, b.values.lookup r = some x → b.graph.start fuel r = .ok x

theorem Agrees.valueOf {x : Datum} (hb : b.Agrees fuel) (hr : b.IsThere r)
    (hx : b.graph.start fuel r = .ok x) : b.valueOf r = x := by
  obtain ⟨y, hy⟩ := hr
  rw [Building.valueOf, hy]
  exact Except.ok.inj ((hb r y hy).symm.trans hx)

/-- Some scalars are there beside what was there. -/
structure Follows (fuel : Nat) (b c : Building) : Prop where
  graph : c.graph = b.graph
  waiting : c.waiting = b.waiting
  isThere : ∀ r, b.IsThere r → c.IsThere r
  agrees : c.Agrees fuel

theorem Follows.trans (hbc : Follows fuel b c) (hcd : Follows fuel c d) : Follows fuel b d :=
  ⟨hcd.graph.trans hbc.graph, hcd.waiting.trans hbc.waiting,
    fun r hr => hcd.isThere r (hbc.isThere r hr), hcd.agrees⟩

theorem visit_scalar {x : Datum} (hb : b.Agrees fuel) (hstart : b.graph.start fuel r = .ok x)
    (htag : (b.graph.tag r).isCollection = false) :
    ∃ c, b.visit fuel r = .ok c ∧ Follows fuel b c ∧ c.IsThere r := by
  rw [visit]
  split
  · next hr => exact ⟨b, rfl, ⟨rfl, rfl, fun _ => id, hb⟩, Option.isSome_iff_exists.1 hr⟩
  · rw [hstart, htag]
    refine ⟨_, rfl, ⟨rfl, rfl, ?_, ?_⟩, x, List.lookup_cons_self⟩
    · rintro q ⟨y, hy⟩
      by_cases hq : q = r
      · exact ⟨x, by rw [hq]; exact List.lookup_cons_self⟩
      · exact ⟨y, by rw [List.lookup_cons, beq_false_of_ne hq]; exact hy⟩
    · intro q y hy
      by_cases hq : q = r
      · subst hq
        rw [List.lookup_cons_self] at hy
        obtain rfl := Option.some.inj hy
        exact hstart
      · rw [List.lookup_cons, beq_false_of_ne hq] at hy
        exact hb q y hy

end Building

end JsonShape.Yaml
