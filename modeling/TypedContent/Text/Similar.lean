/-!
# Similar texts

Two texts are the more similar, the more characters they share: those of their longest common
block, and of the blocks to the left and to the right of it.
-/

namespace TypedContent.Text.Similar

/-- How many characters two texts begin with in common. -/
def commonStart : List Char → List Char → Nat
  | a :: as, b :: bs => if a = b then commonStart as bs + 1 else 0
  | _, _ => 0

/-- The longest common block: where it begins in both texts, and its length.  Of several the first
counts. -/
def longestBlock (a b : List Char) : Nat × Nat × Nat :=
  (List.range a.length).foldl (fun best i =>
    (List.range b.length).foldl (fun best j =>
      let n := commonStart (a.drop i) (b.drop j)
      if best.2.2 < n then (i, j, n) else best) best) (0, 0, 0)

/-- How many characters two texts share; each block leaves a shorter text on both sides. -/
def shared : Nat → List Char → List Char → Nat
  | 0, _, _ => 0
  | fuel + 1, a, b =>
    let (i, j, n) := longestBlock a b
    if n = 0 then 0
    else n + shared fuel (a.take i) (b.take j) + shared fuel (a.drop (i + n)) (b.drop (j + n))

/-- Twice the shared characters, and the characters of both texts. -/
structure Score where
  shared : Nat
  total : Nat

def score (a b : String) : Score :=
  ⟨shared (a.length + 1) a.toList b.toList, a.length + b.length⟩

/-- At least three fifths of the characters are shared. -/
def Score.isClose (s : Score) : Bool := 3 * s.total ≤ 10 * s.shared

/-- The more similar candidate stands first; of equal ones the greater text. -/
def isBefore (x y : String × Score) : Bool :=
  let l := x.2.shared * y.2.total
  let r := y.2.shared * x.2.total
  r < l || (l == r && decide (y.1 ≤ x.1))

/-- No more characters are shared than the shorter text has; texts whose lengths rule each other
out need not be compared. -/
def mayBeClose (a b : String) : Bool := Score.isClose ⟨min a.length b.length, a.length + b.length⟩

/-- The three candidates that are most similar to a text, in order of the alphabet. -/
def closest (candidates : List String) (s : String) : List String :=
  let close := ((candidates.filter (mayBeClose · s)).map fun c => (c, score c s)).filter (·.2.isClose)
  (((close.mergeSort isBefore).take 3).map (·.1)).mergeSort fun a b => decide (a ≤ b)

end TypedContent.Text.Similar
