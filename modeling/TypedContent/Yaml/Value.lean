import TypedContent.Text.Base64
import TypedContent.Yaml.Compose
import TypedContent.Yaml.Merge
import TypedContent.Yaml.Number

/-!
# Values of documents

A node whose tag and kind agree has a value.  Outer nodes are looked at before inner ones, each
once, so the first fault of a document is the one nearest to the root.
-/

namespace TypedContent.Yaml

/-- The value of a node.  Of a collection it is told whether it is empty. -/
inductive Value where
  | null
  | bool (b : Bool)
  | int (n : Int)
  | real (x : Double)
  | text (s : String)
  | bytes (content : List UInt8)
  | date
  | moment
  | list (isEmpty : Bool)
  | map (isEmpty : Bool)
  | set (isEmpty : Bool)
  /-- A collection that holds, however deep, an integer that is too long to be written. -/
  | overlong (collection : Value)
  deriving Inhabited

namespace Value

/-- The name of a value's kind, as messages give it. -/
def kindName : Value → String
  | null => "NoneType"
  | bool _ => "bool"
  | int _ => "int"
  | real _ => "float"
  | text _ => "str"
  | bytes _ => "bytes"
  | date => "date"
  | moment => "datetime"
  | list _ => "list"
  | map _ => "dict"
  | set _ => "set"
  | overlong v => v.kindName

/-- A value is present unless it is null, false, zero or empty. -/
def isPresent : Value → Bool
  | null => false
  | bool b => b
  | int n => n != 0
  | real x => !x.isZero
  | text s => s != ""
  | bytes content => !content.isEmpty
  | date => true
  | moment => true
  | list isEmpty => !isEmpty
  | map isEmpty => !isEmpty
  | set isEmpty => !isEmpty
  | overlong v => v.isPresent

/-- Collections are no keys. -/
def isKey : Value → Bool
  | list _ => false
  | map _ => false
  | set _ => false
  | overlong _ => false
  | _ => true

/-- An integer that is too long to be written. -/
def isLongInteger : Value → Bool
  | int n => (Text.decimal? n).isNone
  | _ => false

/-- The texts among the keys of a mapping, each where it first stands and with its last value. -/
def textEntries : List (Value × Value) → List (String × Value)
  | es => es.foldl (fun done e =>
    match e.1 with
    | text k => put k e.2 done
    | _ => done) []
where
  put (k : String) (v : Value) : List (String × Value) → List (String × Value)
    | [] => [(k, v)]
    | (l, w) :: es => if l = k then (l, v) :: es else (l, w) :: put k v es

end Value

/-! ## Scalars -/

/-- The text of a scalar, or of a mapping that stands for one; `fuel` bounds how often one mapping
stands for another. -/
def Graph.scalarText? (g : Graph) : Nat → Nat → Option String
  | 0, _ => none
  | fuel + 1, i =>
    match g.contentOf i with
    | .scalar s => some s
    | .mapping entries =>
      match entries.find? fun e => g.tagOf e.1 = .value with
      | some (_, v) => g.scalarText? fuel v
      | none => none
    | .sequence _ => none

namespace Scalar

def truth : List (String × Bool) :=
  [("yes", true), ("no", false), ("true", true), ("false", false), ("on", true), ("off", false)]

def boolOf (s : String) : Except Fault Value :=
  let key := String.ofList (Text.Casing.lower s.toList)
  match truth.lookup key with
  | some b => .ok (.bool b)
  | none => .error (.boolean key)

def momentOf (s : String) : Except Fault Value :=
  match Moment.ofChars? (Tag.withoutLineFeed s.toList) with
  | none => .error .noTimestamp
  | some m => (m.check).map fun _ => if m.time.isSome then .moment else .date

def bytesOf (s : String) : Except Fault Value :=
  if s.toList.all (·.toNat < 128) then
    match Text.Base64.decode? s.toList with
    | some content => .ok (.bytes content)
    | none => .error .malformed
  else .error .malformed

/-- The value of a text under a tag for scalars; `isScalar` tells whether it is that of a scalar
itself. -/
def value (t : Tag) (isScalar : Bool) (s : String) : Except Fault Value :=
  match t with
  | .null => .ok .null
  | .bool => boolOf s
  | .int => (Number.integer s.toList).map .int
  | .float => (Number.real s.toList).map .real
  | .binary => bytesOf s
  | .timestamp => if isScalar then momentOf s else .error .collectionAsTimestamp
  | .text => .ok (.text s)
  | _ => .error .malformed

end Scalar

/-! ## Building values -/

/-- The values of nodes so far, by their numbers.  Those of collections in `waiting` count as empty
until their contents are looked at. -/
structure Builder where
  graph : Graph
  values : Array (Option Value)
  waiting : List Nat

namespace Builder

def ofGraph (g : Graph) : Builder := ⟨g, Array.replicate g.size none, []⟩

def value? (b : Builder) (i : Nat) : Option Value := b.values[i]?.join

def valueOf (b : Builder) (i : Nat) : Value := (b.value? i).getD .null

/-- Sets the value of a node. -/
def put (b : Builder) (i : Nat) (v : Value) : Builder :=
  { b with values := b.values.setIfInBounds i (some v) }

/-- Looks at a node.  A collection gets its contents later. -/
def visit (b : Builder) (i : Nat) : Except Fault Builder :=
  let later (v : Value) : Except Fault Builder :=
    .ok { b.put i v with waiting := b.waiting ++ [i] }
  if (b.value? i).isSome then .ok b
  else match b.graph.tagOf i with
    | .sequence => later (.list true)
    | .mapping => later (.map true)
    | .set => later (.set true)
    | .orderedMapping => later (.list true)
    | .pairs => later (.list true)
    | t =>
      let isScalar := match b.graph.contentOf i with
        | .scalar _ => true
        | _ => false
      match b.graph.scalarText? (b.graph.size + 1) i with
      | none => .error .malformed
      | some s => (Scalar.value t isScalar s).map (b.put i)

/-- Looks at a key and then at its value. -/
def visitEntry (b : Builder) (e : Nat × Nat) : Except Fault Builder := do
  let b ← b.visit e.1
  if (b.valueOf e.1).isKey then b.visit e.2 else throw .malformed

/-- Looks at an item that has to be a mapping of one entry. -/
def visitPair (b : Builder) (i : Nat) : Except Fault Builder := do
  match b.graph.contentOf i with
  | .mapping [(k, v)] => (← b.visit k).visit v
  | _ => throw .malformed

def visitItems (b : Builder) (i : Nat) (visit : Builder → Nat → Except Fault Builder) :
    Except Fault Builder :=
  match b.graph.contentOf i with
  | .sequence items => do pure ((← items.foldlM visit b).put i (.list items.isEmpty))
  | _ => .error .malformed

def visitEntries (b : Builder) (i : Nat) (v : Bool → Value) : Except Fault Builder := do
  if !b.graph.isMapping i then throw .malformed
  let graph ← b.graph.merge i
  let entries := graph.entriesOf i
  pure ((← entries.foldlM visitEntry { b with graph }).put i (v entries.isEmpty))

/-- Looks at the contents of a collection. -/
def visitContents (b : Builder) (i : Nat) : Except Fault Builder :=
  match b.graph.tagOf i with
  | .mapping => b.visitEntries i .map
  | .set => b.visitEntries i .set
  | .sequence => b.visitItems i visit
  | _ => b.visitItems i visitPair

/-- Looks at the contents of all collections that wait; each node waits only once. -/
def finish : Nat → Builder → Except Fault Builder
  | 0, b => .ok b
  | fuel + 1, b =>
    match b.waiting with
    | [] => .ok b
    | i :: rest => do finish fuel (← { b with waiting := rest }.visitContents i)

/-- The nodes that a collection holds. -/
def parts (b : Builder) (i : Nat) : List Nat :=
  let both (e : Nat × Nat) : List Nat := [e.1, e.2]
  match b.graph.tagOf i, b.graph.contentOf i with
  | .mapping, .mapping entries => entries.flatMap both
  | .set, .mapping entries => entries.map (·.1)
  | .sequence, .sequence items => items
  | .orderedMapping, .sequence items => items.flatMap fun j => (b.graph.entriesOf j).flatMap both
  | .pairs, .sequence items => items.flatMap fun j => (b.graph.entriesOf j).flatMap both
  | _, _ => []

/-- The nodes that hold one of the `marked` ones, and these; each round is one level. -/
def holders (b : Builder) : Nat → List Nat → List Nat
  | 0, marked => marked
  | fuel + 1, marked =>
    let found := (List.range b.graph.size).filter fun i =>
      !marked.contains i && (b.parts i).any marked.contains
    if found.isEmpty then marked else b.holders fuel (marked ++ found)

/-- The nodes with an integer that is too long to be written, and all that hold one. -/
def overlong (b : Builder) : List Nat :=
  b.holders b.graph.size ((List.range b.graph.size).filter fun i => (b.valueOf i).isLongInteger)

/-- The value of a node, which may be one of the nodes `overlong`. -/
def fullValue (b : Builder) (overlong : List Nat) (i : Nat) : Value :=
  if overlong.contains i && !(b.valueOf i).isLongInteger then .overlong (b.valueOf i)
  else b.valueOf i

end Builder

/-- The value of the root of a document, and the entries of a root that is a mapping. -/
structure Contents where
  root : Value
  entries : List (Value × Value)

def Document.contents (d : Document) : Except Fault Contents := do
  let b ← (Builder.ofGraph d.graph).visit d.root
  let b ← b.finish (d.graph.size + 1)
  let overlong := b.overlong
  pure ⟨b.valueOf d.root,
    (b.graph.entriesOf d.root).map fun (k, v) => (b.valueOf k, b.fullValue overlong v)⟩

/-- The contents of the only document in a text; without a document they are null. -/
def read (text : List Char) : Except Fault Contents := do
  match ← Document.ofTokens? (tokensOf text) with
  | none => pure ⟨.null, []⟩
  | some d => d.contents

end TypedContent.Yaml
