import TypedContent.Yaml.Graph

/-!
# Merging

The entries of a mapping that stand under a merge key are replaced by those of the mappings that it
leads to.  What is merged stands in front, so that the mapping's own entries win; of several
mappings that are merged by one key the first wins.  A key that would stand for the value of the
mapping becomes a text.

Merging changes the graph itself: a mapping that was merged into another one has been merged, too.
-/

namespace TypedContent.Yaml

namespace Graph

/-- Merges into each of some mappings, and gives their entries, those of the last mapping first. -/
def mergeItems (inner : Graph → Nat → Except Fault Graph) (g : Graph) :
    List Nat → Except Fault (List (Nat × Nat) × Graph)
  | [] => .ok ([], g)
  | i :: is => do
    if !g.isMapping i then throw .malformed
    let g ← inner g i
    let here := g.entriesOf i
    let (rest, g) ← mergeItems inner g is
    pure (rest ++ here, g)

/-- What a merge key with the value `v` brings in. -/
def mergeValue (inner : Graph → Nat → Except Fault Graph) (g : Graph) (v : Nat) :
    Except Fault (List (Nat × Nat) × Graph) :=
  match g.contentOf v with
  | .mapping _ => do
    let g ← inner g v
    pure (g.entriesOf v, g)
  | .sequence items => mergeItems inner g items
  | .scalar _ => .error .malformed

/-- Looks at the entries of mapping `i` from number `k` on; `merged` is what was brought in so far.
The entries are looked up anew each time, since the mapping may have been merged into itself. -/
def mergeFrom (inner : Graph → Nat → Except Fault Graph) (i : Nat) :
    Nat → Graph → Nat → List (Nat × Nat) → Except Fault Graph
  | 0, g, _, merged => .ok (finish g merged)
  | steps + 1, g, k, merged =>
    match (g.entriesOf i)[k]? with
    | none => .ok (finish g merged)
    | some (key, v) =>
      if g.tagOf key = .merge then do
        let g := g.setContent i (.mapping ((g.entriesOf i).eraseIdx k))
        let (here, g) ← mergeValue inner g v
        mergeFrom inner i steps g k (merged ++ here)
      else
        let g := if g.tagOf key = .value then g.setTag key .text else g
        mergeFrom inner i steps g (k + 1) merged
where
  finish (g : Graph) (merged : List (Nat × Nat)) : Graph :=
    if merged.isEmpty then g else g.setContent i (.mapping (merged ++ g.entriesOf i))

/-- Merges into a mapping what its merge keys lead to.  Each level of merging uses up a merge key,
so their number bounds the depth. -/
def mergeAt : Nat → Graph → Nat → Except Fault Graph
  | 0, g, _ => .ok g
  | depth + 1, g, i => mergeFrom (mergeAt depth) i ((g.entriesOf i).length + 1) g 0 []

def merge (g : Graph) (i : Nat) : Except Fault Graph := mergeAt (g.entryCount + 1) g i

end Graph

end TypedContent.Yaml
