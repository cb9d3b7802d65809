import TypedContent.Text.Quoted

/-!
# Paths

A path is an anchor and a list of parts.  Empty parts and single dots are left out when a path is
read; double dots stay, since what stands before them may not be there.
-/

namespace TypedContent.Files

/-- What a path is relative to: the current directory, or the root under one of its two names. -/
inductive Anchor where
  | here
  | root
  | doubleRoot
  deriving DecidableEq

def Anchor.text : Anchor → String
  | .here => ""
  | .root => "/"
  | .doubleRoot => "//"

structure Path where
  anchor : Anchor
  parts : List String
  deriving DecidableEq

namespace Path

/-- Cuts a text at every slash. -/
def splitSlash : List Char → List (List Char)
  | [] => [[]]
  | '/' :: r => [] :: splitSlash r
  | c :: r =>
    match splitSlash r with
    | [] => [[c]]
    | l :: ls => (c :: l) :: ls

def anchorOf : List Char → Anchor
  | '/' :: '/' :: '/' :: _ => .root
  | '/' :: '/' :: _ => .doubleRoot
  | '/' :: _ => .root
  | _ => .here

/-- The parts that a text names. -/
def partsOf (s : List Char) : List String :=
  ((splitSlash s).filter fun p => p ≠ [] ∧ p ≠ ['.']).map String.ofList

def ofString (s : String) : Path := ⟨anchorOf s.toList, partsOf s.toList⟩

def toString (p : Path) : String :=
  match p.anchor, p.parts with
  | .here, [] => "."
  | a, parts => a.text ++ "/".intercalate parts

instance : ToString Path := ⟨toString⟩

/-- A path that names the root is not relative to anything. -/
def join (p q : Path) : Path :=
  match q.anchor with
  | .here => ⟨p.anchor, p.parts ++ q.parts⟩
  | _ => q

/-- The path of something inside the directory `p`. -/
def child (p : Path) (name : String) : Path := ⟨p.anchor, p.parts ++ [name]⟩

def parent (p : Path) : Path := ⟨p.anchor, p.parts.dropLast⟩

/-- The last part; a path without parts has the empty name. -/
def name (p : Path) : String := p.parts.getLast?.getD ""

def hasNul (p : Path) : Bool := p.parts.any fun s => s.toList.contains '\x00'

/-- A path taken from `base` without asking what is on disk: double dots take back the part before
them. -/
def collapse (base : List String) : List String → List String
  | [] => base
  | part :: rest => if part = ".." then collapse base.dropLast rest else collapse (base ++ [part]) rest

/-- The absolute path that `p` stands for in the directory `base`. -/
def resolve (base : List String) (p : Path) : Path :=
  ⟨.root, collapse (if p.anchor = .here then base else []) p.parts⟩

/-- The directories above a path, nearest first. -/
def ancestors (p : Path) : List Path :=
  (List.range p.parts.length).map fun i => ⟨p.anchor, p.parts.take (p.parts.length - 1 - i)⟩

/-- Splits a file name before its last dot; a dot in front or at the end does not count. -/
def stemChars (s : List Char) : List Char :=
  let ending := s.reverse.takeWhile (· ≠ '.')
  let front := (s.reverse.drop (ending.length + 1)).reverse
  if ending.isEmpty || front.isEmpty then s else front

/-- A file name without its extension. -/
def stemOf (name : String) : String := String.ofList (stemChars name.toList)

theorem parent_child (p : Path) (name : String) : (p.child name).parent = p := by
  simp [child, parent]

theorem name_child (p : Path) (n : String) : (p.child n).name = n := by
  simp [child, name]

end Path

end TypedContent.Files
