/-!
# Wildcards

A wildcard pattern matches a whole text.  `*` stands for any run of characters, `?` for one, and
`[…]` for one of a set, which may hold ranges and is negated by `!`.  A bracket that is never
closed stands for itself.
-/

namespace TypedContent.Preload

inductive Piece where
  /-- Any run of characters. -/
  | run
  /-- One character, any. -/
  | any
  | char (c : Char)
  /-- One character inside the given ranges, or outside all of them. -/
  | set (negated : Bool) (ranges : List (Char × Char))

namespace Piece

/-- Whether a piece for one character admits `c`. -/
def admits (c : Char) : Piece → Bool
  | run => false
  | any => true
  | char d => c == d
  | set negated ranges => (ranges.any fun r => r.1 ≤ c && c ≤ r.2) != negated

/-- A text and what is left of it behind each of its characters, the longest first. -/
def suffixes : List Char → List (List Char)
  | [] => [[]]
  | c :: s => (c :: s) :: suffixes s

/-- What is left behind a piece for one character, if it admits the first one. -/
def behind? (p : Piece) : List Char → Option (List Char)
  | [] => none
  | c :: s => if p.admits c then some s else none

/-- What may be left behind a piece, where `rests` may be left before it, the longest first.
Behind a run that is anything the longest rest ends with. -/
def step (rests : List (List Char)) : Piece → List (List Char)
  | run =>
    match rests with
    | [] => []
    | s :: _ => suffixes s
  | p => rests.filterMap p.behind?

/-- Whether the pieces match the whole text. -/
def matchAll (ps : List Piece) (s : List Char) : Bool :=
  (ps.foldl step [s]).any List.isEmpty

end Piece

namespace Wildcard

/-! ## Sets -/

/-- Cuts the inside of a bracket at its range signs.  The first `wait` characters hold none, nor do
the two behind a range sign. -/
def chunks (wait : Nat) (done : List Char) : List Char → List (List Char)
  | [] => [done.reverse]
  | c :: s =>
    if c = '-' ∧ wait = 0 then done.reverse :: chunks 2 [] s else chunks (wait - 1) (c :: done) s

/-- A range sign at the very end stands for itself. -/
def keepLastSign : List (List Char) → List (List Char)
  | [] => []
  | [c, []] => [c ++ ['-']]
  | c :: cs => c :: keepLastSign cs

/-- Takes out the ranges that run backwards, with both their ends. -/
def dropBackward : List (List Char) → List (List Char)
  | [] => []
  | c :: cs =>
    match dropBackward cs with
    | [] => [c]
    | d :: ds =>
      match c.getLast?, d.head? with
      | some last, some first => if first < last then (c.dropLast ++ d.tail) :: ds else c :: d :: ds
      | _, _ => c :: d :: ds

def singles (cs : List Char) : List (Char × Char) := cs.map fun c => (c, c)

/-- Between two chunks lies a range, all other characters stand for themselves. -/
def ranges (before : List Char) : List (List Char) → List (Char × Char)
  | [] => singles before
  | d :: ds =>
    match before.getLast?, d.head? with
    | some first, some last => singles before.dropLast ++ (first, last) :: ranges d.tail ds
    | _, _ => singles before ++ ranges d ds

/-- The piece for a bracket with `inside`. -/
def setPiece (inside : List Char) : Piece :=
  let wait := if inside.head? = some '!' then 2 else 1
  match dropBackward (keepLastSign (chunks wait [] inside)) with
  | [] => .set false []
  | ['!'] :: [] => .any
  | ('!' :: c) :: cs => .set true (ranges c cs)
  | c :: cs => .set false (ranges c cs)

/-- The inside of a bracket and the text behind it.  A closing bracket that comes first, or right
behind the negation, belongs to the inside. -/
def bracket? (s : List Char) : Option (List Char × List Char) :=
  let lead := if s.head? = some '!' then 1 else 0
  let lead := if (s.drop lead).head? = some ']' then lead + 1 else lead
  let body := s.drop lead
  match body.dropWhile (· ≠ ']') with
  | [] => none
  | _ :: rest => some (s.take lead ++ body.takeWhile (· ≠ ']'), rest)

/-- Reads a pattern; `fuel` bounds the number of pieces. -/
def piecesFrom : Nat → List Char → List Piece
  | 0, _ => []
  | _, [] => []
  | fuel + 1, '*' :: s => .run :: piecesFrom fuel s
  | fuel + 1, '?' :: s => .any :: piecesFrom fuel s
  | fuel + 1, '[' :: s =>
    match bracket? s with
    | none => .char '[' :: piecesFrom fuel s
    | some (inside, rest) => setPiece inside :: piecesFrom fuel rest
  | fuel + 1, c :: s => .char c :: piecesFrom fuel s

/-- The pieces of a pattern, each of which takes at least one character of it. -/
def pieces (pattern : List Char) : List Piece := piecesFrom pattern.length pattern

end Wildcard

/-- Whether a text matches a wildcard pattern. -/
def matchesWildcard (pattern text : String) : Bool :=
  Piece.matchAll (Wildcard.pieces pattern.toList) text.toList

namespace Piece

/-! ## What a match is -/

/-- Whether pieces match a text, said of one piece at a time. -/
inductive Matches : List Piece → List Char → Prop
  | nil : Matches [] []
  | run (t : List Char) {s : List Char} {ps : List Piece} :
      Matches ps s → Matches (.run :: ps) (t ++ s)
  | one {p : Piece} {c : Char} {s : List Char} {ps : List Piece} :
      p.admits c = true → Matches ps s → Matches (p :: ps) (c :: s)

theorem mem_suffixes {t s : List Char} : t ∈ suffixes s ↔ t <:+ s := by
  induction s with
  | nil => rw [suffixes, List.mem_singleton, List.suffix_nil]
  | cons c s ih => rw [suffixes, List.mem_cons, ih, List.suffix_cons_iff]

/-- The longest rest first, and each of the others is an end of those before it. -/
def Nested (rests : List (List Char)) : Prop := rests.Pairwise fun s t => t <:+ s

theorem nested_suffixes (s : List Char) : Nested (suffixes s) := by
  induction s with
  | nil => exact List.pairwise_singleton _ _
  | cons c s ih =>
    refine List.Pairwise.cons ?_ ih
    exact fun t ht => (mem_suffixes.mp ht).trans (List.suffix_cons c s)

theorem behind?_eq_some_iff {p : Piece} {s t : List Char} :
    p.behind? s = some t ↔ ∃ c, s = c :: t ∧ p.admits c = true := by
  cases s with
  | nil => simp [behind?]
  | cons c s => simp only [behind?, Option.ite_none_right_eq_some, Option.some.injEq]; grind

theorem nested_filterMap_behind? {rests : List (List Char)} (h : Nested rests) (p : Piece) :
    Nested (rests.filterMap p.behind?) := by
  refine List.Pairwise.filterMap _ ?_ h
  intro a b hab s hs t ht
  obtain ⟨c, rfl, -⟩ := behind?_eq_some_iff.mp hs
  obtain ⟨d, rfl, -⟩ := behind?_eq_some_iff.mp ht
  rcases List.suffix_cons_iff.mp hab with e | hab
  · injection e with _ e
    exact e ▸ List.suffix_refl _
  · exact (List.suffix_cons d t).trans hab

theorem nested_step {rests : List (List Char)} (h : Nested rests) (p : Piece) :
    Nested (step rests p) := by
  match p, rests, h with
  | .run, [], _ => exact List.Pairwise.nil
  | .run, s :: _, _ => exact nested_suffixes s
  | .any, _, h => exact nested_filterMap_behind? h .any
  | .char d, _, h => exact nested_filterMap_behind? h (.char d)
  | .set negated ranges, _, h => exact nested_filterMap_behind? h (.set negated ranges)

theorem matches_run_iff {ps : List Piece} {s : List Char} :
    Matches (.run :: ps) s ↔ ∃ t, t <:+ s ∧ Matches ps t := by
  constructor
  · intro h
    cases h with
    | run t h => exact ⟨_, List.suffix_append t _, h⟩
    | one hc _ => exact absurd hc Bool.false_ne_true
  · rintro ⟨t, ⟨u, rfl⟩, h⟩
    exact .run u h

theorem matches_one_iff {p : Piece} {ps : List Piece} {s : List Char} (hp : p ≠ .run) :
    Matches (p :: ps) s ↔ ∃ t, p.behind? s = some t ∧ Matches ps t := by
  constructor
  · intro h
    cases h with
    | run t h => exact absurd rfl hp
    | one hc h => exact ⟨_, behind?_eq_some_iff.mpr ⟨_, rfl, hc⟩, h⟩
  · rintro ⟨t, h, ht⟩
    obtain ⟨c, rfl, hc⟩ := behind?_eq_some_iff.mp h
    exact .one hc ht

/-- Some rest matches a piece and what follows it, if behind that piece one is left that matches
what follows. -/
theorem exists_mem_step {rests : List (List Char)} (h : Nested rests) (p : Piece)
    (ps : List Piece) :
    (∃ t ∈ step rests p, Matches ps t) ↔ ∃ s ∈ rests, Matches (p :: ps) s := by
  have single : ∀ q : Piece, q ≠ .run →
      ((∃ t ∈ rests.filterMap q.behind?, Matches ps t) ↔ ∃ s ∈ rests, Matches (q :: ps) s) := by
    intro q hq
    simp only [List.mem_filterMap, matches_one_iff hq]
    grind
  match p, rests, h, single with
  | .run, [], _, _ => simp [step]
  | .run, s :: rests, h, _ =>
    simp only [step, mem_suffixes, matches_run_iff, List.mem_cons]
    constructor
    · exact fun ⟨t, ht, hm⟩ => ⟨s, .inl rfl, t, ht, hm⟩
    · rintro ⟨s', rfl | hs', t, ht, hm⟩
      · exact ⟨t, ht, hm⟩
      · exact ⟨t, ht.trans (List.rel_of_pairwise_cons h hs'), hm⟩
  | .any, _, _, single => exact single .any nofun
  | .char d, _, _, single => exact single (.char d) nofun
  | .set negated ranges, _, _, single => exact single (.set negated ranges) nofun

/-- The search over all rests at once decides the match. -/
theorem matchAll_iff (ps : List Piece) (s : List Char) : matchAll ps s = true ↔ Matches ps s := by
  have general : ∀ (ps : List Piece) (rests : List (List Char)), Nested rests →
      ((ps.foldl step rests).any List.isEmpty = true ↔ ∃ t ∈ rests, Matches ps t) := by
    intro ps
    induction ps with
    | nil =>
      intro rests _
      rw [List.foldl_nil, List.any_eq_true]
      constructor
      · rintro ⟨t, ht, he⟩
        exact ⟨t, ht, List.isEmpty_iff.mp he ▸ .nil⟩
      · rintro ⟨t, ht, hm⟩
        cases hm
        exact ⟨[], ht, rfl⟩
    | cons p ps ih =>
      intro rests h
      rw [List.foldl_cons, ih _ (nested_step h p), exists_mem_step h]
  rw [matchAll, general ps [s] (List.pairwise_singleton _ _)]
  exact ⟨fun ⟨t, ht, hm⟩ => List.mem_singleton.mp ht ▸ hm, fun hm => ⟨s, List.mem_singleton_self s, hm⟩⟩

end Piece

end TypedContent.Preload
