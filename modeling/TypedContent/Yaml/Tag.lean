import TypedContent.Yaml.Token.Cursor

/-!
# Tags

A tag says what a node stands for.  A plain scalar without a tag is tagged by its text: numbers,
truth values, points in time and a few marks have a form of their own, and all else is text.
-/

namespace TypedContent.Yaml

inductive Tag where
  | null
  | bool
  | int
  | float
  | binary
  | timestamp
  | text
  | sequence
  | mapping
  | set
  | orderedMapping
  | pairs
  /-- The key whose value is merged into the mapping. -/
  | merge
  /-- The key of a mapping that stands for a scalar. -/
  | value
  | unknown
  deriving DecidableEq

namespace Tag

def standard : List (String × Tag) :=
  [("null", null), ("bool", bool), ("int", int), ("float", float), ("binary", binary),
   ("timestamp", timestamp), ("str", text), ("seq", sequence), ("map", mapping), ("set", set),
   ("omap", orderedMapping), ("pairs", pairs), ("merge", merge), ("value", value)]

/-- The tag of a name in full. -/
def ofName (name : String) : Tag :=
  let base := "tag:yaml.org,2002:".toList
  if base.isPrefixOf name.toList then
    (standard.lookup (String.ofList (name.toList.drop base.length))).getD unknown
  else unknown

/-! ## The forms of plain scalars -/

def isDigit (c : Char) : Bool := '0' ≤ c && c ≤ '9'

/-- A digit, or the underscore that groups digits. -/
def isGroupedDigit (c : Char) : Bool := isDigit c || c == '_'

/-- Digits that start with one of a class. -/
def isGrouped (first : Char → Bool) : List Char → Bool
  | [] => false
  | c :: cs => first c && cs.all isGroupedDigit

def withoutSign : List Char → List Char
  | '-' :: cs => cs
  | '+' :: cs => cs
  | cs => cs

/-- A text cut at every occurrence of a character. -/
def splitAt (mark : Char) : List Char → List (List Char)
  | [] => [[]]
  | c :: cs =>
    if c = mark then [] :: splitAt mark cs
    else match splitAt mark cs with
      | [] => [[c]]
      | p :: ps => (c :: p) :: ps

/-- One of the lower places of a number to the base 60. -/
def isSixtieth : List Char → Bool
  | [c] => isDigit c
  | [c, d] => '0' ≤ c && c ≤ '5' && isDigit d
  | _ => false

/-- Two or more places to the base 60. -/
def isSexagesimal (first : Char → Bool) (s : List Char) : Bool :=
  match splitAt ':' s with
  | p :: q :: ps => isGrouped first p && (q :: ps).all isSixtieth
  | _ => false

def isNonZeroDigit (c : Char) : Bool := '1' ≤ c && c ≤ '9'

def isInteger (s : List Char) : Bool :=
  match withoutSign s with
  | '0' :: 'b' :: ds => !ds.isEmpty && ds.all fun c => c == '0' || c == '1' || c == '_'
  | '0' :: 'x' :: ds => !ds.isEmpty && ds.all fun c => isHex c || c == '_'
  | '0' :: ds => ds.all fun c => ('0' ≤ c && c ≤ '7') || c == '_'
  | ds => isGrouped isNonZeroDigit ds || isSexagesimal isNonZeroDigit ds

/-- Nothing, or an exponent with its sign. -/
def isExponent : List Char → Bool
  | [] => true
  | e :: s :: ds => (e == 'e' || e == 'E') && (s == '+' || s == '-') && !ds.isEmpty && ds.all isDigit
  | _ => false

/-- Digits and perhaps an exponent, as they stand behind a point. -/
def isFraction (s : List Char) : Bool := isExponent (s.dropWhile isGroupedDigit)

def beforePoint (s : List Char) : List Char := s.takeWhile (· != '.')
def behindPoint (s : List Char) : List Char := (s.dropWhile (· != '.')).drop 1

def isFloat (s : List Char) : Bool :=
  let t := withoutSign s
  ["inf", "Inf", "INF"].any (fun w => t == '.' :: w.toList) ||
    ["nan", "NaN", "NAN"].any (fun w => s == '.' :: w.toList) ||
    match s with
    | '.' :: c :: cs => isDigit c && isFraction cs
    | _ => t.contains '.' &&
      ((isGrouped isDigit (beforePoint t) && isFraction (behindPoint t)) ||
        (isSexagesimal isDigit (beforePoint t) && (behindPoint t).all isGroupedDigit))

def isBool (s : List Char) : Bool :=
  ["yes", "Yes", "YES", "no", "No", "NO", "true", "True", "TRUE", "false", "False", "FALSE",
   "on", "On", "ON", "off", "Off", "OFF"].any fun w => s == w.toList

def isNull (s : List Char) : Bool := ["~", "null", "Null", "NULL", ""].any fun w => s == w.toList

/-- One or two digits, and what stands behind them. -/
def shortNumber : List Char → Option (List Char × List Char)
  | c :: d :: cs => if isDigit c then if isDigit d then some ([c, d], cs) else some ([c], d :: cs) else none
  | [c] => if isDigit c then some ([c], []) else none
  | [] => none

/-- Exactly `n` digits, and what stands behind them. -/
def fixedNumber (n : Nat) (s : List Char) : Option (List Char × List Char) :=
  if (s.take n).length = n ∧ (s.take n).all isDigit then some (s.take n, s.drop n) else none

def sign? (c : Char) : List Char → Option (List Char)
  | d :: cs => if c = d then some cs else none
  | [] => none

end Tag

/-- The parts of a point in time, as they are written.  Without `time` it is a date. -/
structure Moment where
  year : List Char
  month : List Char
  day : List Char
  time : Option (List Char × List Char × List Char)
  /-- The sign, the hours and the minutes by which local time is ahead. -/
  offset : Option (Char × List Char × List Char)

namespace Moment

open Tag

def isGap (c : Char) : Bool := c == ' ' || c == '\t'

/-- The offset at the end of a point in time, which may be missing. -/
def offset? (s : List Char) : Option (Option (Char × List Char × List Char)) :=
  if s.isEmpty then some none
  else match s.dropWhile isGap with
    | ['Z'] => some none
    | c :: cs =>
      if c == '+' || c == '-' then do
        let (hours, cs) ← shortNumber cs
        match cs with
        | [] => pure (some (c, hours, []))
        | ':' :: cs =>
          let (minutes, cs) ← fixedNumber 2 cs
          if cs.isEmpty then pure (some (c, hours, minutes)) else none
        | _ => none
      else none
    | [] => none

/-- What separates the date from the time. -/
def behindDate : List Char → Option (List Char)
  | 'T' :: cs => some cs
  | 't' :: cs => some cs
  | c :: cs => if isGap c then some (cs.dropWhile isGap) else none
  | [] => none

def ofChars? (s : List Char) : Option Moment := do
  let (year, s) ← fixedNumber 4 s
  let s ← sign? '-' s
  let (month, s) ← shortNumber s
  let s ← sign? '-' s
  let (day, s) ← shortNumber s
  if s.isEmpty then pure ⟨year, month, day, none, none⟩
  else
    let s ← behindDate s
    let (hour, s) ← shortNumber s
    let s ← sign? ':' s
    let (minute, s) ← fixedNumber 2 s
    let s ← sign? ':' s
    let (second, s) ← fixedNumber 2 s
    let s := match s with
      | '.' :: cs => cs.dropWhile isDigit
      | cs => cs
    let offset ← offset? s
    pure ⟨year, month, day, some (hour, minute, second), offset⟩

/-- A plain scalar is a point in time if a bare date has two digits for month and day. -/
def isPlainForm (m : Moment) : Bool :=
  m.time.isSome || (m.month.length == 2 && m.day.length == 2)

end Moment

namespace Tag

/-- One line feed at the end does not count. -/
def withoutLineFeed (s : List Char) : List Char :=
  if s.getLast? = some '\n' then s.dropLast else s

/-- The tag of a plain scalar. -/
def ofPlain (text : List Char) : Tag :=
  let s := withoutLineFeed text
  if text = ['\n'] then Tag.text
  else if isBool s then bool
  else if isFloat s then float
  else if isInteger s then int
  else if s = ['<', '<'] then merge
  else if isNull s then null
  else if (Moment.ofChars? s).any Moment.isPlainForm then timestamp
  else if s = ['='] then value
  else if s = ['!'] ∨ s = ['&'] ∨ s = ['*'] then unknown
  else Tag.text

/-- The tag that the text of a scalar has by itself. -/
def ofText (plain : Bool) (s : String) : Tag := if plain then ofPlain s.toList else text

/-- The tag of a scalar for which a tag may be written.  The tag `!` asks for the tag that the text
has when it is plain. -/
def ofScalar (plain : Bool) (s : String) : Option String → Tag
  | none => ofText plain s
  | some "!" => ofText true s
  | some name => ofName name

/-- The tag of a collection. -/
def ofCollection (default : Tag) : Option String → Tag
  | none => default
  | some "!" => default
  | some name => ofName name

end Tag

end TypedContent.Yaml
