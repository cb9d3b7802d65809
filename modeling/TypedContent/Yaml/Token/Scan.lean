import TypedContent.Yaml.Token.Scalar
import TypedContent.Text.Digits
import TypedContent.Text.Encoding

/-!
# From text to tokens

The lexer keeps the columns of the open block collections, and for every level of flow collections
the place where a key may have started.  That it was a key shows only at the colon behind it; the
key token is then put in where the key starts.
-/

namespace TypedContent.Yaml

open Cursor

/-- Where a key may have started: the number of the token there, and its place in the text.  A
required one has to be a key, or the text is no document. -/
structure SimpleKey where
  token : Nat
  required : Bool
  index : Nat
  line : Nat
  column : Nat

structure Lexer where
  cursor : Cursor
  /-- The tokens so far, last first. -/
  tokens : List Token
  /-- The number of the tokens. -/
  count : Nat
  flowLevel : Nat
  indent : Int
  /-- The indentations around the current one, innermost first. -/
  outer : List Int
  keyAllowed : Bool
  /-- The possible key of every flow level, innermost first. -/
  keys : List (Nat × SimpleKey)

namespace Lexer

def ofText (text : List Char) : Lexer := ⟨.ofText text, [], 0, 0, -1, [], true, []⟩

def emit (s : Lexer) (t : Token) : Lexer :=
  { s with tokens := t :: s.tokens, count := s.count + 1 }

def inFlow (s : Lexer) : Bool := s.flowLevel != 0

def moveTo (s : Lexer) (c : Cursor) : Lexer := { s with cursor := c }

def allowKey (s : Lexer) (b : Bool) : Lexer := { s with keyAllowed := b }

/-! ## Indentation -/

/-- Closes the block collections that are indented further than `column`. -/
def closeBlocks (column : Int) : List Int → Lexer → Lexer
  | [], s => s
  | outer :: rest, s =>
    if column < s.indent then closeBlocks column rest { s.emit .blockEnd with indent := outer, outer := rest }
    else s

def unwind (s : Lexer) (column : Int) : Lexer :=
  if s.inFlow then s else closeBlocks column s.outer s

/-- Opens a block collection at a column, unless it is open already. -/
def indentAt (s : Lexer) (column : Nat) : Option Lexer :=
  if s.indent < column then some { s with outer := s.indent :: s.outer, indent := column } else none

/-! ## Possible keys -/

/-- A key ends on its line, within 1024 characters. -/
def SimpleKey.isStale (k : SimpleKey) (c : Cursor) : Bool :=
  k.line != c.line || k.index + 1024 < c.index

def dropStaleKeys (s : Lexer) : Except Fault Lexer :=
  if s.keys.any fun (_, k) => SimpleKey.isStale k s.cursor && k.required then .error .malformed
  else .ok { s with keys := s.keys.filter fun (_, k) => !SimpleKey.isStale k s.cursor }

/-- Gives up the possible key of the current level. -/
def dropKey (s : Lexer) : Except Fault Lexer :=
  match s.keys.lookup s.flowLevel with
  | some k =>
    if k.required then .error .malformed
    else .ok { s with keys := s.keys.filter fun (l, _) => l ≠ s.flowLevel }
  | none => .ok s

/-- Notes that a key may start here. -/
def saveKey (s : Lexer) : Except Fault Lexer :=
  if s.keyAllowed then do
    let s ← s.dropKey
    let required := !s.inFlow && s.indent == s.cursor.column
    let k := ⟨s.count, required, s.cursor.index, s.cursor.line, s.cursor.column⟩
    pure { s with keys := (s.flowLevel, k) :: s.keys }
  else pure s

/-- Puts a token before the token of the given number. -/
def insertAt (number : Nat) (t : Token) (s : Lexer) : Lexer :=
  let behind := s.count - number
  { s with tokens := s.tokens.take behind ++ t :: s.tokens.drop behind, count := s.count + 1 }

/-! ## Gaps between tokens -/

/-- Goes over blanks, comments and line breaks; outside of flow collections a key may start on a
new line. -/
def skipGap : Nat → Lexer → Lexer
  | 0, s => s
  | fuel + 1, s =>
    let c := s.cursor.skipBlanks.skipComment
    if isBreak c.head then skipGap fuel ((s.moveTo c.lineBreak.2).allowKey (s.keyAllowed || !s.inFlow))
    else s.moveTo c

def toNextToken (s : Lexer) : Lexer :=
  let c := s.cursor
  let s := if c.index = 0 ∧ c.head = '\ufeff' then s.moveTo c.step else s
  skipGap (s.cursor.remaining + 1) s

/-! ## Directives and tags -/

/-- A name at the head, and what has to stand behind it. -/
def name (c : Cursor) (ends : Char → Bool) : Except Fault (String × Cursor) :=
  match c.run isNameChar with
  | [] => .error .malformed
  | n =>
    let c := c.advance n.length
    if ends c.head then .ok (String.ofList n, c) else .error .malformed

def isDigit (c : Char) : Bool := '0' ≤ c && c ≤ '9'

def number (c : Cursor) : Except Fault (Nat × Cursor) :=
  let digits := c.run isDigit
  match Text.natural 10 digits with
  | .ok n => .ok (n, c.advance digits.length)
  | .error .malformed => .error .malformed
  | .error (.tooLong n) => .error (.longInteger n)

/-- A tag's handle: one mark, or a name between two. -/
def tagHandle (c : Cursor) : Except Fault (String × Cursor) :=
  if c.head != '!' then .error .malformed
  else if c.peek 1 == ' ' then .ok ("!", c.step)
  else
    let n := c.step.run isNameChar
    let behind := c.step.advance n.length
    if behind.head == '!' then .ok (String.ofList ('!' :: n ++ ['!']), behind.step)
    else .error .malformed

def isTagChar (c : Char) : Bool :=
  ('0' ≤ c && c ≤ '9') || ('A' ≤ c && c ≤ 'Z') || ('a' ≤ c && c ≤ 'z') ||
    "-;/?:@&=+$,_.!~*'()[]".toList.contains c

/-- Bytes written with percent signs. -/
def percentBytes : Nat → Cursor → Except Fault (List UInt8 × Cursor)
  | 0, c => .ok ([], c)
  | fuel + 1, c =>
    if c.head != '%' then .ok ([], c)
    else
      let a := c.peek 1
      let b := c.peek 2
      if isHex a && isHex b then
        (percentBytes fuel (c.advance 3)).map fun (bs, c) => (UInt8.ofNat (hexNumber [a, b]) :: bs, c)
      else .error .malformed

def tagText : Nat → Cursor → Except Fault (List Char × Cursor)
  | 0, c => .ok ([], c)
  | fuel + 1, c =>
    if c.head == '%' then do
      let (bytes, c) ← percentBytes fuel c
      match String.fromUTF8? (ByteArray.mk bytes.toArray) with
      | none => .error .malformed
      | some s => (tagText fuel c).map fun (t, c) => (s.toList ++ t, c)
    else if isTagChar c.head then
      (tagText fuel c.step).map fun (t, d) => (c.head :: t, d)
    else .ok ([], c)

/-- A tag as it is written out. -/
def tagUri (c : Cursor) : Except Fault (String × Cursor) := do
  if c.head != '%' && !isTagChar c.head then .error .malformed
  else
    let (t, c) ← tagText (c.remaining + 1) c
    pure (String.ofList t, c)

def require (b : Bool) : Except Fault Unit := if b then .ok () else .error .malformed

def directive (c : Cursor) : Except Fault (Directive × Cursor) := do
  let (n, c) ← name c.step isSpaceOrEnd
  let (d, c) ← match n with
    | "YAML" => do
      let (major, c) ← number c.skipBlanks
      require (c.head == '.')
      let (_, c) ← number c.step
      require (isSpaceOrEnd c.head)
      pure (Directive.version major, c)
    | "TAG" => do
      let (handle, c) ← tagHandle c.skipBlanks
      require (c.head == ' ')
      let (base, c) ← tagUri c.skipBlanks
      require (isSpaceOrEnd c.head)
      pure (Directive.tag handle base, c)
    | _ => pure (Directive.other, c.skip (!isBreakOrEnd ·))
  let c ← ignoredLine c
  pure (d, c)

/-- Whether a second mark stands in the tag at the head. -/
def hasHandle (c : Cursor) : Bool :=
  ((c.step.run fun d => !isSpaceOrEnd d).contains '!')

def tag (c : Cursor) : Except Fault (Token × Cursor) := do
  let next := c.peek 1
  let (t, c) ← if next == '<' then do
      let (uri, c) ← tagUri (c.advance 2)
      require (c.head == '>')
      pure (Token.tag none uri, c.step)
    else if isGapOrEnd next then pure (Token.tag none "!", c.step)
    else do
      let (handle, c) ← if hasHandle c then tagHandle c else pure ("!", c.step)
      let (suffix, c) ← tagUri c
      pure (Token.tag (some handle) suffix, c)
  require (isSpaceOrEnd c.head)
  pure (t, c)

def endsAnchor (c : Char) : Bool := isGapOrEnd c || "?:,]\x7d%@`".toList.contains c

/-! ## Tokens -/

/-- A token of one character. -/
def sign (s : Lexer) (t : Token) : Lexer := (s.moveTo s.cursor.step).emit t

def documentMark (s : Lexer) (t : Token) : Except Fault Lexer := do
  let s ← (s.unwind (-1)).dropKey
  pure (((s.allowKey false).moveTo (s.cursor.advance 3)).emit t)

def flowStart (s : Lexer) (t : Token) : Except Fault Lexer := do
  let s ← s.saveKey
  pure (({ s with flowLevel := s.flowLevel + 1 }.allowKey true).sign t)

def flowEnd (s : Lexer) (t : Token) : Except Fault Lexer := do
  let s ← s.dropKey
  pure (({ s with flowLevel := s.flowLevel - 1 }.allowKey false).sign t)

def flowEntry (s : Lexer) : Except Fault Lexer := do
  let s ← s.dropKey
  pure ((s.allowKey true).sign .flowEntry)

/-- Opens a block collection at the head, where one may start. -/
def openBlock (s : Lexer) (t : Token) : Except Fault Lexer :=
  if s.inFlow then .ok s
  else if !s.keyAllowed then .error .malformed
  else match s.indentAt s.cursor.column with
    | some s => .ok (s.emit t)
    | none => .ok s

def blockEntry (s : Lexer) : Except Fault Lexer := do
  let s ← s.openBlock .blockSequenceStart
  let s ← s.dropKey
  pure ((s.allowKey true).sign .blockEntry)

def key (s : Lexer) : Except Fault Lexer := do
  let s ← s.openBlock .blockMappingStart
  let s ← s.dropKey
  pure ((s.allowKey (!s.inFlow)).sign .key)

def value (s : Lexer) : Except Fault Lexer :=
  match s.keys.lookup s.flowLevel with
  | some k =>
    let s := { s with keys := s.keys.filter fun (l, _) => l ≠ s.flowLevel }
    let s := s.insertAt k.token .key
    let s := if s.inFlow then s
      else match s.indentAt k.column with
        | some s => s.insertAt k.token .blockMappingStart
        | none => s
    .ok ((s.allowKey false).sign .value)
  | none => do
    let s ← s.openBlock .blockMappingStart
    let s ← s.dropKey
    pure ((s.allowKey (!s.inFlow)).sign .value)

def named (s : Lexer) (t : String → Token) : Except Fault Lexer := do
  let s ← s.saveKey
  let (n, c) ← name s.cursor.step endsAnchor
  pure (((s.allowKey false).moveTo c).emit (t n))

def tagged (s : Lexer) : Except Fault Lexer := do
  let s ← s.saveKey
  let (t, c) ← tag s.cursor
  pure (((s.allowKey false).moveTo c).emit t)

def block (s : Lexer) (fold : Bool) : Except Fault Lexer := do
  let s ← (s.allowKey true).dropKey
  let (t, c) ← blockScalar fold s.indent s.cursor
  pure ((s.moveTo c).emit (.scalar (String.ofList t) false))

def quoted (s : Lexer) (double : Bool) : Except Fault Lexer := do
  let s ← s.saveKey
  let (t, c) ← quotedScalar double s.cursor
  pure (((s.allowKey false).moveTo c).emit (.scalar (String.ofList t) false))

def plain (s : Lexer) : Except Fault Lexer := do
  let s ← s.saveKey
  let (t, broken, c) := plainScalar s.inFlow s.indent s.cursor
  pure (((s.allowKey broken).moveTo c).emit (.scalar (String.ofList t) true))

def directiveToken (s : Lexer) : Except Fault Lexer := do
  let s ← (s.unwind (-1)).dropKey
  let (d, c) ← directive s.cursor
  pure (((s.allowKey false).moveTo c).emit (.directive d))

/-- Whether a plain scalar can start with the character at the head. -/
def startsPlain (s : Lexer) : Bool :=
  let c := s.cursor.head
  !(isGapOrEnd c || "-?:,[]\x7b\x7d#&*!|>'\"%@`".toList.contains c) ||
    (!isGapOrEnd (s.cursor.peek 1) && (c == '-' || (!s.inFlow && (c == '?' || c == ':'))))

/-- Reads the next token, which is not the end. -/
def next (s : Lexer) : Except Fault Lexer :=
  let c := s.cursor
  let beforeGap := isGapOrEnd (c.peek 1)
  if c.head == '%' && c.column == 0 then s.directiveToken
  else if c.column == 0 && c.atMarker '-' then s.documentMark .documentStart
  else if c.column == 0 && c.atMarker '.' then s.documentMark .documentEnd
  else if c.head == '[' then s.flowStart .flowSequenceStart
  else if c.head == '\x7b' then s.flowStart .flowMappingStart
  else if c.head == ']' then s.flowEnd .flowSequenceEnd
  else if c.head == '\x7d' then s.flowEnd .flowMappingEnd
  else if c.head == ',' then s.flowEntry
  else if c.head == '-' && beforeGap then s.blockEntry
  else if c.head == '?' && (s.inFlow || beforeGap) then s.key
  else if c.head == ':' && (s.inFlow || beforeGap) then s.value
  else if c.head == '*' then s.named .alias
  else if c.head == '&' then s.named .anchor
  else if c.head == '!' then s.tagged
  else if c.head == '|' && !s.inFlow then s.block false
  else if c.head == '>' && !s.inFlow then s.block true
  else if c.head == '\'' then s.quoted false
  else if c.head == '"' then s.quoted true
  else if s.startsPlain then s.plain
  else .error .malformed

/-- The tokens that may be looked at before the next one is read.  Where a key may start, it has to
show first whether it does. -/
def settled (s : Lexer) : List Token :=
  let waiting := s.keys.filterMap fun (_, k) =>
    if SimpleKey.isStale k s.cursor then none else some (s.count - k.token)
  s.tokens.drop (waiting.foldl max 0)

/-- The tokens of a text that cannot be read any further. -/
def fail (s : Lexer) (f : Fault) : List Token := .fault f :: s.settled

/-- Reads tokens up to the end of the text or to the first fault; each takes a character. -/
def all : Nat → Lexer → List Token
  | 0, s => .streamEnd :: s.tokens
  | fuel + 1, before =>
    match before.toNextToken.dropStaleKeys with
    | .error f => before.fail f
    | .ok s =>
      let s := s.unwind s.cursor.column
      if isEnd s.cursor.head then
        match (s.unwind (-1)).dropKey with
        | .error f => before.fail f
        | .ok s => .streamEnd :: s.tokens
      else
        match s.next with
        | .error f => before.fail f
        | .ok s => all fuel s

end Lexer

/-- The characters that a document may hold. -/
def isDocumentChar (c : Char) : Bool :=
  c == '\t' || c == '\n' || c == '\r' || (' ' ≤ c && c ≤ '~') || c == '\u0085' ||
    ('\u00a0' ≤ c && c ≤ '\ufffd') || 0x10000 ≤ c.toNat

/-- The tokens of a text, the last one being the end or a fault. -/
def tokensOf (text : List Char) : List Token :=
  if text.all isDocumentChar then (Lexer.all (text.length + 1) (Lexer.ofText text)).reverse
  else [.fault .malformed]

end TypedContent.Yaml
