/-!
# Classes of code points

A property of characters is kept as a list of closed ranges of code points, and a mapping between
characters as a list of runs: every `step`-th code point from `first` to `last` moves by the same
distance.
-/

namespace TypedContent.Text

/-- Closed ranges of code points. -/
abbrev Ranges := List (Nat × Nat)

def Ranges.holds (rs : Ranges) (n : Nat) : Bool := rs.any fun r => r.1 ≤ n && n ≤ r.2

/-- `first`, `first + step`, … up to `last` are mapped to `target`, `target + step`, … -/
structure Run where
  first : Nat
  last : Nat
  step : Nat
  target : Nat

def Run.image? (r : Run) (n : Nat) : Option Nat :=
  if r.first ≤ n ∧ n ≤ r.last ∧ (n - r.first) % r.step = 0 then some (r.target + (n - r.first))
  else none

/-- A mapping of characters: single images in runs, and the characters whose image is longer. -/
structure Mapping where
  runs : List Run
  expansions : List (Nat × List Nat)

def Mapping.apply (m : Mapping) (c : Char) : List Char :=
  match m.runs.findSome? (·.image? c.toNat) with
  | some n => [Char.ofNat n]
  | none =>
    match m.expansions.lookup c.toNat with
    | some ns => ns.map Char.ofNat
    | none => [c]

end TypedContent.Text
