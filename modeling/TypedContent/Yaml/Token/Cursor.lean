import TypedContent.Yaml.Token.Basic

/-!
# A place in a document

The text from a place on, with its line and its column.  Behind the end of the text stands a NUL
character, which no document holds.
-/

namespace TypedContent.Yaml

structure Cursor where
  rest : List Char
  /-- The length of the whole text. -/
  size : Nat
  index : Nat
  line : Nat
  column : Nat

def isBreak (c : Char) : Bool :=
  c == '\n' || c == '\r' || c == '\u0085' || c == '\u2028' || c == '\u2029'

def isEnd (c : Char) : Bool := c == '\x00'

def isBreakOrEnd (c : Char) : Bool := isBreak c || isEnd c

/-- A blank, a line break, or the end. -/
def isSpaceOrEnd (c : Char) : Bool := c == ' ' || isBreakOrEnd c

/-- A blank, a tabulator, a line break, or the end. -/
def isGapOrEnd (c : Char) : Bool := c == '\t' || isSpaceOrEnd c

def isNameChar (c : Char) : Bool :=
  ('0' ≤ c && c ≤ '9') || ('A' ≤ c && c ≤ 'Z') || ('a' ≤ c && c ≤ 'z') || c == '-' || c == '_'

def isHex (c : Char) : Bool :=
  ('0' ≤ c && c ≤ '9') || ('A' ≤ c && c ≤ 'F') || ('a' ≤ c && c ≤ 'f')

namespace Cursor

def ofText (text : List Char) : Cursor := ⟨text, text.length, 0, 0, 0⟩

/-- The number of characters that are left. -/
def remaining (s : Cursor) : Nat := s.size - s.index

/-- The character `k` places ahead. -/
def peek (s : Cursor) (k : Nat) : Char := s.rest.getD k '\x00'

def head (s : Cursor) : Char := s.peek 0

/-- Goes one character ahead. -/
def step (s : Cursor) : Cursor :=
  match s.rest with
  | [] => s
  | c :: rest =>
    if isBreak c && !(c == '\r' && rest.head? == some '\n') then
      { s with rest, index := s.index + 1, line := s.line + 1, column := 0 }
    else if c == '\ufeff' then { s with rest, index := s.index + 1 }
    else { s with rest, index := s.index + 1, column := s.column + 1 }

def advance (s : Cursor) : Nat → Cursor
  | 0 => s
  | n + 1 => s.step.advance n

/-- The longest run of characters of a class. -/
def run (s : Cursor) (p : Char → Bool) : List Char := s.rest.takeWhile p

/-- Goes behind the longest run of characters of a class. -/
def skip (s : Cursor) (p : Char → Bool) : Cursor := s.advance (s.run p).length

def skipBlanks (s : Cursor) : Cursor := s.skip (· == ' ')

/-- Goes behind a comment that starts here. -/
def skipComment (s : Cursor) : Cursor :=
  if s.head == '#' then s.skip (!isBreakOrEnd ·) else s

/-- Takes a line break, if there is one; all but two kinds count as line feeds. -/
def lineBreak (s : Cursor) : List Char × Cursor :=
  let c := s.head
  if c == '\r' && s.peek 1 == '\n' then (['\n'], s.advance 2)
  else if c == '\n' || c == '\r' || c == '\u0085' then (['\n'], s.step)
  else if c == '\u2028' || c == '\u2029' then ([c], s.step)
  else ([], s)

/-- Whether a document marker of three equal characters stands here. -/
def atMarker (s : Cursor) (c : Char) : Bool :=
  s.peek 0 == c && s.peek 1 == c && s.peek 2 == c && isGapOrEnd (s.peek 3)

def atAnyMarker (s : Cursor) : Bool := s.atMarker '-' || s.atMarker '.'

end Cursor

end TypedContent.Yaml
