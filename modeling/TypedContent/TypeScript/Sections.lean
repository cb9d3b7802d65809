import TypedContent.Text.Lines

/-!
# Sections

A source text is assembled from named sections, each a list of lines.  The text is the lines of all
sections in the order in which the sections were opened, ended by a line feed.

An `Operation` is one step of such an assembly; `Sections.perform` carries it out and answers.
-/

namespace TypedContent.TypeScript

structure Sections where
  entries : List (String × List String)

namespace Sections

def empty : Sections := ⟨[]⟩

inductive Refusal where
  | duplicate (name : String)
  | unknown (name : String)

def Refusal.message : Refusal → String
  | .duplicate name => "Duplicate section: " ++ name
  | .unknown name => name

def names (s : Sections) : List String := s.entries.map (·.1)

def lines (s : Sections) : List String := s.entries.flatMap (·.2)

def text (s : Sections) : String := Text.joinLines s.lines ++ "\n"

/-- Opens a section at the end. -/
def addSection (s : Sections) (name : String) (lines : List String) : Except Refusal Sections :=
  if name ∈ s.names then .error (.duplicate name) else .ok ⟨s.entries ++ [(name, lines)]⟩

def get (s : Sections) (name : String) : Except Refusal (List String) :=
  match s.entries.lookup name with
  | some lines => .ok lines
  | none => .error (.unknown name)

/-- Adds a line at the end of the first section of that name. -/
def appendTo (name line : String) : List (String × List String) → List (String × List String)
  | [] => []
  | (n, ls) :: es => if n = name then (n, ls ++ [line]) :: es else (n, ls) :: appendTo name line es

def append (s : Sections) (name line : String) : Except Refusal Sections :=
  if name ∈ s.names then .ok ⟨appendTo name line s.entries⟩ else .error (.unknown name)

inductive Operation where
  | addSection (name : String) (lines : List String)
  | append (name line : String)
  | get (name : String)
  | names
  | lines
  | build

inductive Answer where
  | lines (ls : List String)
  | text (t : String)
  | refused (r : Refusal)

def answerOf : Except Refusal (List String) → Answer
  | .ok ls => .lines ls
  | .error r => .refused r

/-- An operation that fails leaves the sections as they are. -/
def perform (s : Sections) : Operation → Sections × Answer
  | .addSection name lines =>
    match s.addSection name lines with
    | .ok t => (t, .lines lines)
    | .error r => (s, .refused r)
  | .append name line =>
    match s.append name line with
    | .ok t => (t, answerOf (t.get name))
    | .error r => (s, .refused r)
  | .get name => (s, answerOf (s.get name))
  | .names => (s, .lines s.names)
  | .lines => (s, .lines s.lines)
  | .build => (s, .text s.text)

/-- The answers to a sequence of operations. -/
def performAll (s : Sections) : List Operation → List Answer
  | [] => []
  | op :: ops => (s.perform op).2 :: performAll (s.perform op).1 ops

theorem map_fst_appendTo (name line : String) (es : List (String × List String)) :
    (appendTo name line es).map (·.1) = es.map (·.1) := by
  induction es with
  | nil => rfl
  | cons e es ih =>
    by_cases h : e.1 = name <;> simp [appendTo, h, ih]

end Sections

end TypedContent.TypeScript
