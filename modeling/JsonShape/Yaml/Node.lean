import JsonShape.Yaml.Graph
import JsonShape.Yaml.Token

/-!
# YAML nodes

`Node.document?` makes the graph of a document from its tokens: an alias leads to the node of its
anchor, and what is omitted is an empty plain scalar.  A collection has its place before its items
are read.
-/

namespace JsonShape.Yaml

namespace Node

/-- The tokens to come, the handles of tags, and the nodes so far with their anchors. -/
structure Source where
  tokens : List Token
  handles : List (Text × Text)
  anchors : List (Text × Ref)
  graph : Graph

namespace Source

/-- The same source with other tokens to come. -/
def at' (s : Source) (tokens : List Token) : Source := { s with tokens }

/-- The fault of a token that does not fit. -/
def fault (s : Source) : Fault :=
  match s.tokens with
  | .fault f :: _ => f
  | _ => .malformed

/-- One more node, which may be named by an anchor. -/
def add (s : Source) (anchor : Option Text) (n : Node) : Ref × Source :=
  let anchors :=
    match anchor with
    | some a => (a, s.graph.size) :: s.anchors
    | none => s.anchors
  (s.graph.size, { s with anchors, graph := s.graph.add n })

/-- A node that is omitted. -/
def omitted (s : Source) : Ref × Source := s.add none .empty

/-- Whether an anchor is taken already. -/
def isTaken (s : Source) (anchor : Option Text) : Bool :=
  anchor.any fun a => (s.anchors.lookup a).isSome

end Source

/-- The anchor and the tag before a node. -/
structure Properties where
  anchor : Option Text
  tag : Option Text

def Properties.isSome (p : Properties) : Bool := p.anchor.isSome || p.tag.isSome

/-- Whether the type of a node is left to its looks. -/
def Properties.isFree (p : Properties) : Bool := p.tag.isNone || p.tag = some (Text.ofString "!")

/-- The tag of a collection. -/
def Properties.tagOr (p : Properties) (free : Tag) : Tag :=
  if p.isFree then free else (p.tag.elim free Tag.ofUri)

/-- The tag of a scalar. -/
def Properties.scalarTag (p : Properties) (text : Text) (plain : Bool) : Tag :=
  match p.tag with
  | none => if plain then .ofPlain text else .str
  | some uri => if p.isFree then .ofPlain text else .ofUri uri

/-- The full name of a tag. -/
def fullName (s : Source) (handle : Option Text) (suffix : Text) : Except Fault Text :=
  match handle with
  | none => .ok suffix
  | some h =>
    match s.handles.lookup h with
    | some uri => .ok (uri ++ suffix)
    | none => .error .malformed

/-- A sequence and its items. -/
def Source.addSequence (s : Source) (p : Properties)
    (readItems : Source → Except Fault (List Ref × Source)) : Except Fault (Ref × Source) := do
  let (r, s) := s.add p.anchor (.sequence (p.tagOr .seq) [])
  let (items, s) ← readItems s
  .ok (r, { s with graph := s.graph.put r (.sequence (p.tagOr .seq) items) })

/-- A mapping and its entries. -/
def Source.addMapping (s : Source) (p : Properties)
    (readEntries : Source → Except Fault (List (Ref × Ref) × Source)) :
    Except Fault (Ref × Source) := do
  let (r, s) := s.add p.anchor (.mapping (p.tagOr .map) [])
  let (entries, s) ← readEntries s
  .ok (r, { s with graph := s.graph.put r (.mapping (p.tagOr .map) entries) })

/-- An anchor and a tag, in either order.  Behind a tag the next token is looked at before its name
is. -/
def takeProperties (s : Source) : Except Fault (Properties × Source) :=
  match s.tokens with
  | .anchor a :: .tag h t :: rest => (fullName s h t).map fun t => (⟨some a, some t⟩, s.at' rest)
  | .anchor a :: rest => .ok (⟨some a, none⟩, s.at' rest)
  | .tag h t :: .anchor a :: rest => (fullName s h t).map fun t => (⟨some a, some t⟩, s.at' rest)
  | .tag _ _ :: .fault f :: _ => .error f
  | .tag h t :: rest => (fullName s h t).map fun t => (⟨none, some t⟩, s.at' rest)
  | _ => .ok (⟨none, none⟩, s)

/-- Whether the item after a hyphen is omitted. -/
def endsItem : List Token → Bool
  | .blockEntry :: _ => true
  | .blockEnd :: _ => true
  | _ => false

/-- Whether the node after a key or a colon of a block mapping is omitted. -/
def endsPart : List Token → Bool
  | .key :: _ => true
  | .value :: _ => true
  | .blockEnd :: _ => true
  | _ => false

/-- Whether the node at this place of a flow collection is omitted. -/
def endsFlowPart : List Token → Bool
  | .flowEntry :: _ => true
  | .flowSequenceEnd :: _ => true
  | .flowMappingEnd :: _ => true
  | _ => false

mutual

/-- A node.  Block collections may stand only where `block` holds, and a sequence without an
indentation of its own only where `bare` holds. -/
def read (block bare : Bool) : (fuel : Nat) → Source → Except Fault (Ref × Source)
  | 0, s => .error s.fault
  | fuel + 1, s =>
    match s.tokens with
    | .alias a :: rest =>
      match s.anchors.lookup a with
      | some r => .ok (r, s.at' rest)
      | none => .error .malformed
    | _ => do
      let (p, s) ← takeProperties s
      if s.isTaken p.anchor then .error s.fault
      match s.tokens with
      | .scalar text plain :: rest =>
        .ok ((s.at' rest).add p.anchor (.scalar (p.scalarTag text plain) text))
      | .flowSequenceStart :: rest => (s.at' rest).addSequence p (readFlowItems true fuel)
      | .flowMappingStart :: rest => (s.at' rest).addMapping p (readFlowEntries true fuel)
      | token :: rest =>
        if bare && token matches .blockEntry then s.addSequence p (readBareItems fuel)
        else if block && token matches .blockSequenceStart then
          (s.at' rest).addSequence p (readItems fuel)
        else if block && token matches .blockMappingStart then
          (s.at' rest).addMapping p (readEntries fuel)
        else if p.isSome && !(token matches .fault _) then
          let tag := if p.isFree then .null else p.tag.elim .null Tag.ofUri
          .ok (s.add p.anchor (.scalar tag []))
        else .error s.fault
      | [] => .error s.fault

/-- The items of a block sequence, to its end. -/
def readItems : (fuel : Nat) → Source → Except Fault (List Ref × Source)
  | 0, s => .error s.fault
  | fuel + 1, s =>
    match s.tokens with
    | .blockEntry :: rest => do
      let (n, s) ←
        if endsItem rest then .ok (s.at' rest).omitted else read true false fuel (s.at' rest)
      let (ns, s) ← readItems fuel s
      .ok (n :: ns, s)
    | .blockEnd :: rest => .ok ([], s.at' rest)
    | _ => .error s.fault

/-- The items of a sequence that has no indentation of its own. -/
def readBareItems : (fuel : Nat) → Source → Except Fault (List Ref × Source)
  | 0, s => .error s.fault
  | fuel + 1, s =>
    match s.tokens with
    | .blockEntry :: rest => do
      let (n, s) ←
        if endsItem rest || endsPart rest then .ok (s.at' rest).omitted
        else read true false fuel (s.at' rest)
      let (ns, s) ← readBareItems fuel s
      .ok (n :: ns, s)
    | _ => .ok ([], s)

/-- The entries of a block mapping, to its end. -/
def readEntries : (fuel : Nat) → Source → Except Fault (List (Ref × Ref) × Source)
  | 0, s => .error s.fault
  | fuel + 1, s =>
    match s.tokens with
    | .key :: rest => do
      let (k, s) ←
        if endsPart rest then .ok (s.at' rest).omitted else read true true fuel (s.at' rest)
      let (v, s) ← readPart fuel s
      let (es, s) ← readEntries fuel s
      .ok ((k, v) :: es, s)
    | .blockEnd :: rest => .ok ([], s.at' rest)
    | _ => .error s.fault

/-- The value of an entry of a block mapping. -/
def readPart : (fuel : Nat) → Source → Except Fault (Ref × Source)
  | 0, s => .error s.fault
  | fuel + 1, s =>
    match s.tokens with
    | .value :: rest =>
      if endsPart rest then .ok (s.at' rest).omitted else read true true fuel (s.at' rest)
    | _ => .ok s.omitted

/-- The node after a key or a colon in a flow collection. -/
def readFlowPart : (fuel : Nat) → Source → Except Fault (Ref × Source)
  | 0, s => .error s.fault
  | fuel + 1, s =>
    if endsFlowPart s.tokens then .ok s.omitted else read false false fuel s

/-- The node after a key in a flow collection, and the value of its entry. -/
def readFlowEntry : (fuel : Nat) → Source → Except Fault ((Ref × Ref) × Source)
  | 0, s => .error s.fault
  | fuel + 1, s => do
    let (k, s) ←
      match s.tokens with
      | .value :: _ => .ok s.omitted
      | _ => readFlowPart fuel s
    match s.tokens with
    | .value :: rest =>
      let (v, s) ← readFlowPart fuel (s.at' rest)
      .ok ((k, v), s)
    | _ =>
      let (v, s) := s.omitted
      .ok ((k, v), s)

/-- The items of a flow sequence, to its end; before all but the first there is a comma. -/
def readFlowItems (first : Bool) : (fuel : Nat) → Source → Except Fault (List Ref × Source)
  | 0, s => .error s.fault
  | fuel + 1, s =>
    match first, s.tokens with
    | _, .flowSequenceEnd :: rest => .ok ([], s.at' rest)
    | false, .flowEntry :: rest => readFlowItems true fuel (s.at' rest)
    | false, _ => .error s.fault
    | true, .key :: rest => do
      let (e, s) ← readFlowEntry fuel (s.at' rest)
      let (n, s) := s.add none (.mapping .map [e])
      let (ns, s) ← readFlowItems false fuel s
      .ok (n :: ns, s)
    | true, _ => do
      let (n, s) ← read false false fuel s
      let (ns, s) ← readFlowItems false fuel s
      .ok (n :: ns, s)

/-- The entries of a flow mapping, to its end; before all but the first there is a comma. -/
def readFlowEntries (first : Bool) :
    (fuel : Nat) → Source → Except Fault (List (Ref × Ref) × Source)
  | 0, s => .error s.fault
  | fuel + 1, s =>
    match first, s.tokens with
    | _, .flowMappingEnd :: rest => .ok ([], s.at' rest)
    | false, .flowEntry :: rest => readFlowEntries true fuel (s.at' rest)
    | false, _ => .error s.fault
    | true, .key :: rest => do
      let (e, s) ← readFlowEntry fuel (s.at' rest)
      let (es, s) ← readFlowEntries false fuel s
      .ok (e :: es, s)
    | true, _ => do
      let (k, s) ← read false false fuel s
      let (v, s) := s.omitted
      let (es, s) ← readFlowEntries false fuel s
      .ok ((k, v) :: es, s)

end

/-! ### Documents -/

/-- The handles that every document has. -/
def coreHandles : List (Text × Text) := [("!", "!"), ("!!", Tag.coreUri)]

/-- The directives before a document: whether there was a version, and the handles. -/
def readDirectives : (versioned : Bool) → (handles : List (Text × Text)) → List Token →
    Except Fault (List (Text × Text) × List Token)
  | versioned, handles, .version major :: rest =>
    if versioned || major ≠ 1 then .error .malformed else readDirectives true handles rest
  | versioned, handles, .handle name uri :: rest =>
    if (handles.lookup name).isSome then .error .malformed
    else readDirectives versioned ((name, uri) :: handles) rest
  | versioned, handles, .directive :: rest => readDirectives versioned handles rest
  | _, handles, rest => .ok (handles ++ coreHandles, rest)

/-- The end of the stream, with any number of document ends before it.  The start of another
document is looked for, but there may be none. -/
def readEnd : List Token → Except Fault Unit
  | .documentEnd :: rest => readEnd rest
  | [.streamEnd] => .ok ()
  | tokens => do
    let (_, rest) ← readDirectives false [] tokens
    match rest with
    | .fault f :: _ => .error f
    | _ => .error .malformed

/-- Whether a document has no content. -/
def endsDocument : List Token → Bool
  | .version _ :: _ => true
  | .handle _ _ :: _ => true
  | .directive :: _ => true
  | .documentStart :: _ => true
  | .documentEnd :: _ => true
  | .streamEnd :: _ => true
  | _ => false

/-- The root of a document that goes to the end of the stream, and its graph. -/
def readRoot (handles : List (Text × Text)) (tokens : List Token) : Except Fault (Ref × Graph) := do
  let (root, s) ← read true false (4 * tokens.length + 4) ⟨tokens, handles, [], .empty⟩
  readEnd s.tokens
  .ok (root, s.graph)

/-- **The root of the only document of a stream,** if there is a document at all, and its graph. -/
def document? (tokens : List Token) : Except Fault (Option (Ref × Graph)) :=
  match tokens with
  | [.streamEnd] => .ok none
  | .documentEnd :: _ => .error .malformed
  | tokens =>
    if endsDocument tokens then do
      let (handles, tokens) ← readDirectives false [] tokens
      match tokens with
      | .documentStart :: rest =>
        if endsDocument rest then do
          readEnd rest
          .ok (some (Graph.empty.size, Graph.empty.add .empty))
        else some <$> readRoot handles rest
      | .fault f :: _ => .error f
      | _ => .error .malformed
    else some <$> readRoot coreHandles tokens

end Node

end JsonShape.Yaml
