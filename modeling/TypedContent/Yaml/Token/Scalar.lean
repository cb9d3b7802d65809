import TypedContent.Yaml.Token.Cursor

/-!
# Scalars in a document

The text of a scalar is written plainly, between quotes, or as a block.  Line breaks inside it are
folded: one becomes a blank, of several the first is dropped.
-/

namespace TypedContent.Yaml

open Cursor

/-- What a line break and the empty lines behind it stand for. -/
def folded (lineBreak : List Char) (breaks : List Char) : List Char :=
  if lineBreak ≠ ['\n'] then lineBreak ++ breaks
  else if breaks.isEmpty then [' '] else breaks

/-! ## Quoted scalars -/

/-- Empty lines inside quotes; `fuel` bounds their number. -/
def quotedBreaks : Nat → Cursor → Except Fault (List Char × Cursor)
  | 0, s => .ok ([], s)
  | fuel + 1, s =>
    if s.atAnyMarker then .error .malformed
    else
      let s := s.skip fun c => c == ' ' || c == '\t'
      if isBreak s.head then
        let (b, s) := s.lineBreak
        (quotedBreaks fuel s).map fun (bs, s) => (b ++ bs, s)
      else .ok ([], s)

/-- A gap inside quotes. -/
def quotedGap (fuel : Nat) (s : Cursor) : Except Fault (List Char × Cursor) := do
  let gap := s.run fun c => c == ' ' || c == '\t'
  let s := s.advance gap.length
  if isEnd s.head then .error .malformed
  else if isBreak s.head then
    let (b, s) := s.lineBreak
    let (bs, s) ← quotedBreaks fuel s
    pure (folded b bs, s)
  else pure (gap, s)

def escapes : List (Char × Char) :=
  [('0', '\x00'), ('a', '\x07'), ('b', '\x08'), ('t', '\t'), ('\t', '\t'), ('n', '\n'),
   ('v', '\x0b'), ('f', '\x0c'), ('r', '\r'), ('e', '\x1b'), (' ', ' '), ('"', '"'),
   ('\\', '\\'), ('/', '/'), ('N', '\u0085'), ('_', '\u00a0'), ('L', '\u2028'), ('P', '\u2029')]

/-- The number of hexadecimal digits behind the letter of an escape. -/
def escapeWidths : List (Char × Nat) := [('x', 2), ('u', 4), ('U', 8)]

def hexDigitValue (c : Char) : Nat :=
  if '0' ≤ c ∧ c ≤ '9' then c.toNat - 48
  else if 'a' ≤ c then c.toNat - 87
  else c.toNat - 55

def hexNumber (ds : List Char) : Nat := ds.foldl (fun n c => n * 16 + hexDigitValue c) 0

/-- What the escape stands for whose letter is here. -/
def escape (fuel : Nat) (s : Cursor) : Except Fault (List Char × Cursor) :=
  let c := s.head
  match escapes.lookup c, escapeWidths.lookup c with
  | some d, _ => .ok ([d], s.step)
  | none, some width =>
    let digits := s.step.rest.take width
    if digits.length = width ∧ digits.all isHex then
      let n := hexNumber digits
      if 0x110000 ≤ n then .error (.codePoint n)
      else .ok ([if n.isValidChar then Char.ofNat n else '\ufffd'], s.step.advance width)
    else .error .malformed
  | none, none =>
    if isBreak c then quotedBreaks fuel s.lineBreak.2 else .error .malformed

/-- Reads the text between quotes, up to the closing one. -/
def quotedFrom (double : Bool) : Nat → Cursor → Except Fault (List Char × Cursor)
  | 0, _ => .error .malformed
  | fuel + 1, s =>
    let c := s.head
    let more (read : List Char) (s : Cursor) : Except Fault (List Char × Cursor) :=
      (quotedFrom double fuel s).map fun (t, s) => (read ++ t, s)
    if double && c == '"' then .ok ([], s.step)
    else if !double && c == '\'' then
      if s.peek 1 == '\'' then more ['\''] (s.advance 2) else .ok ([], s.step)
    else if double && c == '\\' then do
      let (t, s) ← escape fuel s.step
      more t s
    else if isGapOrEnd c then do
      let (t, s) ← quotedGap fuel s
      more t s
    else more [c] s.step

/-- Reads a quoted scalar from its opening quote on. -/
def quotedScalar (double : Bool) (s : Cursor) : Except Fault (List Char × Cursor) :=
  quotedFrom double (s.remaining + 1) s.step

/-! ## Block scalars -/

/-- What becomes of the line breaks at the end of a block. -/
inductive Chomping where
  | strip
  | clip
  | keep

/-- Goes to the end of a line on which only blanks and a comment are left. -/
def ignoredLine (s : Cursor) : Except Fault Cursor :=
  let s := s.skipBlanks.skipComment
  if isBreakOrEnd s.head then .ok s.lineBreak.2 else .error .malformed

def chomping? (c : Char) : Option Chomping :=
  if c == '+' then some .keep else if c == '-' then some .strip else none

/-- An indentation from 1 to 9. -/
def increment? (c : Char) : Except Fault (Option Nat) :=
  if c == '0' then .error .malformed
  else if '1' ≤ c ∧ c ≤ '9' then .ok (some (c.toNat - 48))
  else .ok none

/-- The marks behind the sign of a block scalar, in either order. -/
def blockMarks (s : Cursor) : Except Fault (Chomping × Option Nat × Cursor) := do
  let (chomp, increment, s) ← match chomping? s.head with
    | some chomp => do
      let s := s.step
      match ← increment? s.head with
      | some n => pure (chomp, some n, s.step)
      | none => pure (chomp, none, s)
    | none => do
      match ← increment? s.head with
      | some n =>
        let s := s.step
        match chomping? s.head with
        | some chomp => pure (chomp, some n, s.step)
        | none => pure (Chomping.clip, some n, s)
      | none => pure (Chomping.clip, none, s)
  if isSpaceOrEnd s.head then .ok (chomp, increment, s) else .error .malformed

/-- The empty lines at the start of a block, and the widest indentation among them. -/
def blockStart : Nat → Nat → Cursor → List Char × Nat × Cursor
  | 0, widest, s => ([], widest, s)
  | fuel + 1, widest, s =>
    if s.head == ' ' then
      let s := s.step
      blockStart fuel (max widest s.column) s
    else if isBreak s.head then
      let (b, s) := s.lineBreak
      let (bs, widest, s) := blockStart fuel widest s
      (b ++ bs, widest, s)
    else ([], widest, s)

/-- Goes over blanks up to a column. -/
def indentTo (indent : Nat) : Nat → Cursor → Cursor
  | 0, s => s
  | fuel + 1, s =>
    if s.column < indent ∧ s.head = ' ' then indentTo indent fuel s.step else s

/-- The empty lines inside a block. -/
def blockBreaks (indent : Nat) : Nat → Cursor → List Char × Cursor
  | 0, s => ([], s)
  | fuel + 1, s =>
    let s := indentTo indent indent s
    if isBreak s.head then
      let (b, s) := s.lineBreak
      let (bs, s) := blockBreaks indent fuel s
      (b ++ bs, s)
    else ([], s)

/-- Reads the lines of a block.  `breaks` are the empty lines before the next one. -/
def blockLines (fold : Bool) (chomp : Chomping) (indent : Nat) :
    Nat → List Char → Cursor → List Char × Cursor
  | 0, _, s => ([], s)
  | fuel + 1, breaks, s =>
    let spaced := s.head == ' ' || s.head == '\t'
    let line := s.run (!isBreakOrEnd ·)
    let (b, s) := (s.advance line.length).lineBreak
    let (breaks', s) := blockBreaks indent (s.remaining + 1) s
    if s.column = indent ∧ !isEnd s.head then
      let joint :=
        if fold && b == ['\n'] && !spaced && !(s.head == ' ' || s.head == '\t') then
          if breaks'.isEmpty then [' '] else []
        else b
      let (t, s) := blockLines fold chomp indent fuel breaks' s
      (breaks ++ line ++ joint ++ t, s)
    else
      let tail := match chomp with
        | .strip => []
        | .clip => b
        | .keep => b ++ breaks'
      (breaks ++ line ++ tail, s)

/-- Reads a block scalar from its sign on, inside a collection of the given indentation. -/
def blockScalar (fold : Bool) (parentIndent : Int) (s : Cursor) :
    Except Fault (List Char × Cursor) := do
  let (chomp, increment, s) ← blockMarks s.step
  let s ← ignoredLine s
  let least := (max (parentIndent + 1) 1).toNat
  let fuel := s.remaining + 1
  let (breaks, indent, s) := match increment with
    | some n =>
      let (bs, s) := blockBreaks (least + n - 1) fuel s
      (bs, least + n - 1, s)
    | none =>
      let (bs, widest, s) := blockStart fuel 0 s
      (bs, max least widest, s)
  if s.column = indent ∧ !isEnd s.head then
    pure (blockLines fold chomp indent fuel breaks s)
  else
    pure (match chomp with | .keep => breaks | _ => [], s)

/-! ## Plain scalars -/

/-- Whether a plain scalar ends before the character at the head. -/
def endsPlain (flow : Bool) (c next : Char) : Bool :=
  isGapOrEnd c ||
    (c == ':' && (isGapOrEnd next || (flow && ",[]\x7b\x7d".toList.contains next))) ||
    (flow && ",?[]\x7b\x7d".toList.contains c)

/-- A part of a plain scalar without gaps. -/
def plainRun (flow : Bool) : List Char → List Char
  | [] => []
  | c :: r => if endsPlain flow c (r.headD '\x00') then [] else c :: plainRun flow r

/-- Empty lines behind a line of a plain scalar; `none` where a document marker stands. -/
def plainBreaks : Nat → Cursor → Option (List Char) × Cursor
  | 0, s => (some [], s)
  | fuel + 1, s =>
    if s.head == ' ' then plainBreaks fuel s.step
    else if isBreak s.head then
      let (b, s) := s.lineBreak
      if s.atAnyMarker then (none, s)
      else
        let (bs, s) := plainBreaks fuel s
        (bs.map (b ++ ·), s)
    else (some [], s)

/-- The gap behind a part of a plain scalar, and whether it goes over a line break.  An empty gap
ends the scalar. -/
def plainGap (s : Cursor) : List Char × Bool × Cursor :=
  let blanks := s.run (· == ' ')
  let s := s.advance blanks.length
  if isBreak s.head then
    let (b, s) := s.lineBreak
    if s.atAnyMarker then ([], true, s)
    else
      match plainBreaks (s.remaining + 1) s with
      | (none, s) => ([], true, s)
      | (some bs, s) => (folded b bs, true, s)
  else (blanks, false, s)

/-- Reads a plain scalar.  `gap` is what stands before the next part; the flag tells whether the
scalar was ended by a line break. -/
def plainFrom (flow : Bool) (indent : Int) : Nat → List Char → Bool → Cursor → List Char × Bool × Cursor
  | 0, _, broken, s => ([], broken, s)
  | fuel + 1, gap, broken, s =>
    if s.head == '#' then ([], broken, s)
    else
      match plainRun flow s.rest with
      | [] => ([], broken, s)
      | part =>
        let (gap', broken', s) := plainGap (s.advance part.length)
        if gap'.isEmpty || s.head == '#' || (!flow && (s.column : Int) < indent) then
          (gap ++ part, broken', s)
        else
          let (t, broken, s) := plainFrom flow indent fuel gap' broken' s
          (gap ++ part ++ t, broken, s)

/-- Reads a plain scalar inside a collection of the given indentation. -/
def plainScalar (flow : Bool) (parentIndent : Int) (s : Cursor) : List Char × Bool × Cursor :=
  plainFrom flow (parentIndent + 1) (s.remaining + 1) [] false s

end TypedContent.Yaml
