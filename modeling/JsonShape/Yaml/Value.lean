import JsonShape.Datum
import JsonShape.Text.Base64
import JsonShape.Yaml.Node
import JsonShape.Yaml.Number

/-!
# The values of YAML nodes

`Yaml.read` takes the value of the only document of a text.  A collection is there before its items
are looked at, and it is looked at in its turn; so a node that is met again is there already, and of
several faults the one nearest to the root is met first.  Entries are merged into a mapping when it
is looked at, and stay in it.
-/

namespace JsonShape.Yaml

namespace Graph

/-! ### Merged mappings -/

section Merging

variable (inner : Ref → Graph → Except Fault Graph)

/-- The entries of several mappings, those of the last one first. -/
def allEntries : List Ref → Graph → Except Fault (List (Ref × Ref) × Graph)
  | [], g => .ok ([], g)
  | r :: rs, g =>
    match g.node r with
    | .mapping .. => do
      let g ← inner r g
      let (more, after) ← allEntries rs g
      .ok (more ++ g.entries r, after)
    | _ => .error .malformed

/-- The entries that the value of a merge key stands for: those of a mapping, or of each mapping of
a sequence, the first of which counts most. -/
def mergedEntries (v : Ref) (g : Graph) : Except Fault (List (Ref × Ref) × Graph) :=
  match g.node v with
  | .mapping .. => do
    let g ← inner v g
    .ok (g.entries v, g)
  | .sequence _ items => allEntries inner items g
  | .scalar .. => .error .malformed

/-- Looks at some entries of the mapping at a place, from an index on, after `merged` was taken from
those before.  A merge key is taken out, and an equals sign for a key becomes an ordinary text. -/
def mergeFrom (r : Ref) : (steps index : Nat) → (merged : List (Ref × Ref)) → Graph →
    Except Fault Graph
  | 0, _, merged, g =>
    .ok (if merged = [] then g else g.putEntries r (merged ++ g.entries r))
  | steps + 1, index, merged, g =>
    match (g.entries r)[index]? with
    | none => mergeFrom r steps index merged g
    | some (k, v) =>
      if g.tag k = .merge then do
        let (more, g) ← mergedEntries inner v (g.putEntries r ((g.entries r).eraseIdx index))
        mergeFrom r steps index (merged ++ more) g
      else if g.tag k = .value then
        mergeFrom r steps (index + 1) merged (g.put k ((g.node k).retag .str))
      else mergeFrom r steps (index + 1) merged g

end Merging

/-- Merges into the mapping at a place, in front, the entries that its merge keys stand for. -/
def merge : (fuel : Nat) → Ref → Graph → Except Fault Graph
  | 0, _, _ => .error .tooDeep
  | fuel + 1, r, g => mergeFrom (merge fuel) r (g.entries r).length 0 [] g

/-! ### Scalars -/

/-- The text of a scalar, or of the value that a mapping gives for an equals sign. -/
def text (g : Graph) : (fuel : Nat) → Ref → Except Fault Text
  | 0, _ => .error .tooDeep
  | fuel + 1, r =>
    match g.node r with
    | .scalar _ t => .ok t
    | .mapping _ es =>
      match es.find? fun e => g.tag e.1 = .value with
      | some e => text g fuel e.2
      | none => .error .malformed
    | .sequence .. => .error .malformed

end Graph

/-- The value of a text under a tag for scalars. -/
def scalarValue (tag : Tag) (t : Text) : Except Fault Datum :=
  match tag with
  | .null => .ok .null
  | .bool =>
    let word := t.map CodePoint.lowerAscii
    match Tag.boolWords.lookup word with
    | some b => .ok (.bool b)
    | none => .error (.unknownWord word)
  | .int => (readInt t).map .int
  | .float => (readFloat t).map .double
  | .binary =>
    if t.all (·.val < 0x80) then
      match Base64.decode t with
      | some bytes => .ok (.bytes bytes)
      | none => .error .malformed
    else .error .malformed
  | .timestamp =>
    match Stamp.ofText? t with
    | none => .error .noDate
    | some s =>
      match s.check with
      | .ok _ => .ok (.date t)
      | .error f => .error (.badDate f)
  | .str => .ok (.text t)
  | _ => .error .malformed

/-! ### Values -/

/-- What a node is at once: a collection is empty at first. -/
def Graph.start (g : Graph) (fuel : Nat) (r : Ref) : Except Fault Datum :=
  match g.tag r with
  | .seq => .ok (.list [])
  | .omap => .ok (.list [])
  | .pairs => .ok (.list [])
  | .map => .ok (.dict [])
  | .set => .ok (.set [])
  | .merge => .error .malformed
  | .value => .error .malformed
  | .other => .error .malformed
  | tag => do
    let t ← g.text fuel r
    -- a date is matched with the text of the node itself
    if tag = .timestamp && (g.node r) matches .mapping .. then .error .notText
    scalarValue tag t

def Tag.isCollection : Tag → Bool
  | .seq | .omap | .pairs | .map | .set => true
  | _ => false

/-- Whether a value can be a key. -/
def isKey : Datum → Bool
  | .list _ => false
  | .dict _ => false
  | .set _ => false
  | _ => true

/-- A document on the way to its value. -/
structure Building where
  graph : Graph
  /-- The nodes that are there, and what they were at once. -/
  values : List (Ref × Datum)
  /-- The collections that are not looked at yet, in their turn. -/
  waiting : List Ref

namespace Building

/-- What the node at a place was at once. -/
def valueOf (b : Building) (r : Ref) : Datum := (b.values.lookup r).getD .null

/-- Puts a node there, unless it is there already. -/
def visit (fuel : Nat) (b : Building) (r : Ref) : Except Fault Building :=
  if (b.values.lookup r).isSome then .ok b
  else do
    let d ← b.graph.start fuel r
    let waiting := if (b.graph.tag r).isCollection then b.waiting ++ [r] else b.waiting
    .ok { b with values := (r, d) :: b.values, waiting }

/-- Puts the nodes of an entry there; a collection cannot be a key. -/
def visitEntry (fuel : Nat) (b : Building) (e : Ref × Ref) : Except Fault Building := do
  let b ← b.visit fuel e.1
  if !isKey (b.valueOf e.1) then .error .malformed
  b.visit fuel e.2

/-- Puts the nodes of a mapping there that has a single entry. -/
def visitPair (fuel : Nat) (b : Building) (r : Ref) : Except Fault Building :=
  match b.graph.node r with
  | .mapping _ [(k, v)] => do
    let b ← b.visit fuel k
    b.visit fuel v
  | _ => .error .malformed

/-- Looks at a collection. -/
def fill (fuel : Nat) (b : Building) (r : Ref) : Except Fault Building :=
  match b.graph.node r with
  | .sequence tag items =>
    match tag with
    | .seq => items.foldlM (visit fuel) b
    | .omap | .pairs => items.foldlM (visitPair fuel) b
    | _ => .error .malformed
  | .mapping tag _ =>
    match tag with
    | .map | .set => do
      let graph ← b.graph.merge fuel r
      (graph.entries r).foldlM (visitEntry fuel) { b with graph }
    | _ => .error .malformed
  | .scalar .. => .error .malformed

/-- Looks at all collections in their turn. -/
def run (fuel : Nat) : (turns : Nat) → Building → Except Fault Building
  | 0, b => .ok b
  | turns + 1, b =>
    match b.waiting with
    | [] => .ok b
    | r :: rest => do
      let b ← fill fuel { b with waiting := rest } r
      run fuel turns b

/-- The value of a node inside those on a path; a collection inside itself is left empty. -/
def value (b : Building) : (fuel : Nat) → (path : List Ref) → Ref → Datum
  | 0, _, _ => .null
  | fuel + 1, path, r =>
    let inner := b.value fuel (r :: path)
    if path.contains r then b.valueOf r
    else
      match b.graph.node r with
      | .sequence .seq items => .list (items.map inner)
      | .sequence _ items => .list (items.map fun i =>
          .tuple ((b.graph.entries i).flatMap fun e => [inner e.1, inner e.2]))
      | .mapping .map es => .dictOf (es.map fun e => (inner e.1, inner e.2))
      | .mapping .set es => .setOf (es.map fun e => inner e.1)
      | _ => b.valueOf r

end Building

/-- **The value that a YAML text stands for.** -/
def read (t : Text) : Except Fault Datum := do
  let tokens := Token.scan t
  match ← Node.document? tokens with
  | none => .ok .null
  | some (root, graph) =>
    -- there are no more collections than tokens
    let fuel := tokens.length + 1
    let b ← Building.visit fuel ⟨graph, [], []⟩ root
    let b ← b.run fuel fuel
    .ok (b.value fuel [] root)

end JsonShape.Yaml
