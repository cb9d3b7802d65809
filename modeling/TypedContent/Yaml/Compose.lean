import TypedContent.Yaml.Graph
import TypedContent.Yaml.Token.Scan

/-!
# From tokens to a graph

The tokens of a document become scalars, sequences and mappings.  An alias stands for the node that
carries its anchor, inside of that node too.  A token that cannot be read is a fault as soon as it is
looked at, and not before.
-/

namespace TypedContent.Yaml

/-- What is left of the tokens, the handles of tags, and the nodes so far. -/
structure Reading where
  tokens : List Token
  handles : List (String × String)
  anchors : List (String × Nat)
  graph : Graph

namespace Reading

/-- What a text fails with that cannot go on with the token at the head. -/
def unexpected : List Token → Fault
  | .fault f :: _ => f
  | _ => .malformed

def fault (r : Reading) : Fault := unexpected r.tokens

def skip (r : Reading) : Reading := { r with tokens := r.tokens.tail }

/-- A tag in full. -/
def expandTag (r : Reading) : Option String → String → Except Fault String
  | none, suffix => .ok suffix
  | some handle, suffix =>
    match r.handles.lookup handle with
    | some base => .ok (base ++ suffix)
    | none => .error .malformed

/-- The anchor and the tag in front of a node. -/
structure Properties where
  anchor : Option String
  tag : Option String

def Properties.isEmpty (p : Properties) : Bool := p.anchor.isNone && p.tag.isNone

/-- The properties of the node that follows, in either order.  Behind a tag that comes first an
anchor is looked for before the tag is expanded. -/
def properties (r : Reading) : Except Fault (Properties × Reading) := do
  match r.tokens with
  | .anchor a :: .tag h s :: rest =>
    pure (⟨some a, some (← r.expandTag h s)⟩, { r with tokens := rest })
  | .tag h s :: .anchor a :: rest =>
    pure (⟨some a, some (← r.expandTag h s)⟩, { r with tokens := rest })
  | .anchor a :: rest => pure (⟨some a, none⟩, { r with tokens := rest })
  | .tag _ _ :: .fault f :: _ => throw f
  | .tag h s :: rest => pure (⟨none, some (← r.expandTag h s)⟩, { r with tokens := rest })
  | _ => pure (⟨none, none⟩, r)

/-- Adds a node and gives it an anchor, which no other node may have. -/
def add (r : Reading) (anchor : Option String) (n : Node) : Except Fault (Nat × Reading) :=
  let (i, graph) := r.graph.add n
  match anchor with
  | none => .ok (i, { r with graph })
  | some a =>
    match r.anchors.lookup a with
    | some _ => .error .malformed
    | none => .ok (i, { r with graph, anchors := (a, i) :: r.anchors })

def addScalar (r : Reading) (p : Properties) (plain : Bool) (text : String) :
    Except Fault (Nat × Reading) :=
  r.add p.anchor ⟨.ofScalar plain text p.tag, .scalar text⟩

/-- Adds the node where nothing is written. -/
def addNothing (r : Reading) : Nat × Reading :=
  let (i, graph) := r.graph.add ⟨.null, .scalar ""⟩
  (i, { r with graph })

def addSequence (r : Reading) (p : Properties) : Except Fault (Nat × Reading) :=
  r.add p.anchor ⟨.ofCollection .sequence p.tag, .sequence []⟩

def addMapping (r : Reading) (p : Properties) : Except Fault (Nat × Reading) :=
  r.add p.anchor ⟨.ofCollection .mapping p.tag, .mapping []⟩

def fill (r : Reading) (i : Nat) (c : Content) : Reading := { r with graph := r.graph.setContent i c }

/-! ## What ends an entry -/

def endsBlockEntry : List Token → Bool
  | .blockEntry :: _ => true
  | .blockEnd :: _ => true
  | _ => false

def endsBlockPart : List Token → Bool
  | .key :: _ => true
  | .value :: _ => true
  | .blockEnd :: _ => true
  | _ => false

def endsFlowPart : List Token → Bool
  | .flowEntry :: _ => true
  | .flowSequenceEnd :: _ => true
  | .flowMappingEnd :: _ => true
  | _ => false

def endsFlowKey : List Token → Bool
  | .value :: _ => true
  | ts => endsFlowPart ts

/-- The place of a node: inside of a flow collection, at the start of a line, or in an entry of a
block mapping, where a sequence need not be indented. -/
inductive Place where
  | flow
  | block
  | entry
  deriving DecidableEq

mutual

/-- Reads a node.  Every call takes a token, which bounds their number. -/
def node (place : Place) : Nat → Reading → Except Fault (Nat × Reading)
  | 0, r => .error r.fault
  | fuel + 1, r =>
    match r.tokens with
    | .alias name :: _ =>
      match r.anchors.lookup name with
      | some i => .ok (i, r.skip)
      | none => .error .malformed
    | _ => do
      let (p, r) ← r.properties
      content place p fuel r

/-- Reads what follows the properties of a node; behind properties that may be nothing. -/
def content (place : Place) (p : Properties) : Nat → Reading → Except Fault (Nat × Reading)
  | 0, r => .error r.fault
  | fuel + 1, r =>
    let sequence (r : Reading) (items : Reading → Except Fault (List Nat × Reading)) :
        Except Fault (Nat × Reading) := do
      let (i, r) ← r.addSequence p
      let (ns, r) ← items r
      pure (i, r.fill i (.sequence ns))
    let mapping (r : Reading) (entries : Reading → Except Fault (List (Nat × Nat) × Reading)) :
        Except Fault (Nat × Reading) := do
      let (i, r) ← r.addMapping p
      let (es, r) ← entries r
      pure (i, r.fill i (.mapping es))
    match r.tokens, place with
    | .blockEntry :: _, .entry => sequence r (flatEntries fuel)
    | .scalar text plain :: _, _ => r.skip.addScalar p plain text
    | .flowSequenceStart :: _, _ => sequence r.skip (flowItems true fuel)
    | .flowMappingStart :: _, _ => mapping r.skip (flowPairs true fuel)
    | .blockSequenceStart :: _, .block => sequence r.skip (blockEntries fuel)
    | .blockSequenceStart :: _, .entry => sequence r.skip (blockEntries fuel)
    | .blockMappingStart :: _, .block => mapping r.skip (blockPairs fuel)
    | .blockMappingStart :: _, .entry => mapping r.skip (blockPairs fuel)
    | .fault f :: _, _ => .error f
    | _, _ => if p.isEmpty then .error .malformed else r.addScalar p true ""

/-- A node, or nothing if the entry ends here. -/
def optional (ends : List Token → Bool) (place : Place) :
    Nat → Reading → Except Fault (Nat × Reading)
  | 0, r => .error r.fault
  | fuel + 1, r => if ends r.tokens then .ok r.addNothing else node place fuel r

/-- The entries of a block sequence, with its end. -/
def blockEntries : Nat → Reading → Except Fault (List Nat × Reading)
  | 0, r => .error r.fault
  | fuel + 1, r =>
    match r.tokens with
    | .blockEntry :: _ => do
      let (n, r) ← optional endsBlockEntry .block fuel r.skip
      let (ns, r) ← blockEntries fuel r
      pure (n :: ns, r)
    | .blockEnd :: _ => .ok ([], r.skip)
    | _ => .error r.fault

/-- The entries of a sequence that is not indented; anything else ends it. -/
def flatEntries : Nat → Reading → Except Fault (List Nat × Reading)
  | 0, r => .error r.fault
  | fuel + 1, r =>
    match r.tokens with
    | .blockEntry :: _ => do
      let (n, r) ← optional (fun ts => endsBlockEntry ts || endsBlockPart ts) .block fuel r.skip
      let (ns, r) ← flatEntries fuel r
      pure (n :: ns, r)
    | .fault f :: _ => .error f
    | _ => .ok ([], r)

/-- The entries of a block mapping, with its end.  A value may be left out. -/
def blockPairs : Nat → Reading → Except Fault (List (Nat × Nat) × Reading)
  | 0, r => .error r.fault
  | fuel + 1, r =>
    match r.tokens with
    | .key :: _ => do
      let (k, r) ← optional endsBlockPart .entry fuel r.skip
      let (v, r) ← valueAfter endsBlockPart .entry fuel r
      let (es, r) ← blockPairs fuel r
      pure ((k, v) :: es, r)
    | .blockEnd :: _ => .ok ([], r.skip)
    | _ => .error r.fault

/-- The value behind a key, if there is one. -/
def valueAfter (ends : List Token → Bool) (place : Place) :
    Nat → Reading → Except Fault (Nat × Reading)
  | 0, r => .error r.fault
  | fuel + 1, r =>
    match r.tokens with
    | .value :: _ => optional ends place fuel r.skip
    | .fault f :: _ => .error f
    | _ => .ok r.addNothing

/-- The items of a flow sequence, with its end.  A key with its value is a mapping of one entry. -/
def flowItems (first : Bool) : Nat → Reading → Except Fault (List Nat × Reading)
  | 0, r => .error r.fault
  | fuel + 1, r =>
    match r.tokens with
    | .flowSequenceEnd :: _ => .ok ([], r.skip)
    | ts => do
      let r ← if first then pure r else match ts with
        | .flowEntry :: _ => pure r.skip
        | _ => throw r.fault
      match r.tokens with
      | .flowSequenceEnd :: _ => pure ([], r.skip)
      | .key :: _ => do
        let (i, r) ← r.addMapping ⟨none, none⟩
        let (k, r) ← optional endsFlowKey .flow fuel r.skip
        let (v, r) ← valueAfter endsFlowPart .flow fuel r
        let (ns, r) ← flowItems false fuel (r.fill i (.mapping [(k, v)]))
        pure (i :: ns, r)
      | _ => do
        let (n, r) ← node .flow fuel r
        let (ns, r) ← flowItems false fuel r
        pure (n :: ns, r)

/-- The entries of a flow mapping, with its end.  A node alone is a key without a value. -/
def flowPairs (first : Bool) : Nat → Reading → Except Fault (List (Nat × Nat) × Reading)
  | 0, r => .error r.fault
  | fuel + 1, r =>
    match r.tokens with
    | .flowMappingEnd :: _ => .ok ([], r.skip)
    | ts => do
      let r ← if first then pure r else match ts with
        | .flowEntry :: _ => pure r.skip
        | _ => throw r.fault
      match r.tokens with
      | .flowMappingEnd :: _ => pure ([], r.skip)
      | .key :: _ => do
        let (k, r) ← optional endsFlowKey .flow fuel r.skip
        let (v, r) ← valueAfter endsFlowPart .flow fuel r
        let (es, r) ← flowPairs false fuel r
        pure ((k, v) :: es, r)
      | _ => do
        let (k, r) ← node .flow fuel r
        let (v, r) := r.addNothing
        let (es, r) ← flowPairs false fuel r
        pure ((k, v) :: es, r)

end

/-! ## Documents -/

/-- The handles that need no directive. -/
def standardHandles : List (String × String) := [("!", "!"), ("!!", "tag:yaml.org,2002:")]

/-- Reads the directives of a document.  There is at most one version, of the major number 1, and
at most one directive for a handle. -/
def directives (version : Bool) (handles : List (String × String)) :
    List Token → Except Fault (List (String × String) × List Token)
  | .directive (.version major) :: rest =>
    if version || major ≠ 1 then .error .malformed else directives true handles rest
  | .directive (.tag handle base) :: rest =>
    if (handles.lookup handle).isSome then .error .malformed
    else directives version ((handle, base) :: handles) rest
  | .directive .other :: rest => directives version handles rest
  | ts => .ok (handles, ts)

/-- Reads the directives of a document and the mark behind them, with which it starts. -/
def openMarked (tokens : List Token) : Except Fault Reading := do
  let (handles, ts) ← directives false [] tokens
  match ts with
  | .documentStart :: rest => pure ⟨rest, handles ++ standardHandles, [], .empty⟩
  | ts => throw (unexpected ts)

def endsDocument : List Token → Bool
  | .directive _ :: _ => true
  | .documentStart :: _ => true
  | .documentEnd :: _ => true
  | .streamEnd :: _ => true
  | _ => false

def isDocumentEnd : Token → Bool
  | .documentEnd => true
  | _ => false

/-- Whether directives or the mark that starts a document stand here; behind them the content may be
missing. -/
def isMarked : List Token → Bool
  | .directive _ :: _ => true
  | .documentStart :: _ => true
  | _ => false

/-- Nothing may follow the only document.  Of what follows the directives are read at least. -/
def close (tokens : List Token) : Except Fault Unit :=
  match tokens.dropWhile isDocumentEnd with
  | .streamEnd :: _ => .ok ()
  | ts => do
    let _ ← openMarked ts
    throw .malformed

end Reading

/-- A graph and the number of its root. -/
structure Document where
  graph : Graph
  root : Nat

/-- The only document that some tokens hold, if there is any. -/
def Document.ofTokens? (tokens : List Token) : Except Fault (Option Document) :=
  match tokens with
  | .streamEnd :: _ => .ok none
  | _ => do
    let fuel := 4 * tokens.length + 4
    let (root, r) ← if Reading.isMarked tokens then do
        Reading.optional Reading.endsDocument .block fuel (← Reading.openMarked tokens)
      else Reading.node .block fuel ⟨tokens, Reading.standardHandles, [], .empty⟩
    Reading.close r.tokens
    pure (some ⟨r.graph, root⟩)

end TypedContent.Yaml
