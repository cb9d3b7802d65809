import TypedContent.Json.Value
import TypedContent.Text.Digits

/-!
# Reading JSON

The reader accepts one value with white space around it, and besides the grammar of JSON the
literals `NaN`, `Infinity` and `-Infinity`.  Of two fields with one name the later value counts, at
the place of the earlier.  A refusal names what was expected, and where.
-/

namespace TypedContent.Json

inductive ReadFault where
  | byteOrderMark
  | value
  | fieldName
  | colon
  | comma
  | unterminatedString
  | controlCharacter
  | escape
  | unicodeEscape
  | extraData
  /-- An integer has too many digits. -/
  | longInteger (digits : Nat)

/-- What is wrong, and at which character, counted from zero. -/
structure ReadError where
  fault : ReadFault
  position : Nat

def ReadFault.message : ReadFault → String
  | byteOrderMark => "Unexpected UTF-8 BOM (decode using utf-8-sig)"
  | value => "Expecting value"
  | fieldName => "Expecting property name enclosed in double quotes"
  | colon => "Expecting ':' delimiter"
  | comma => "Expecting ',' delimiter"
  | unterminatedString => "Unterminated string starting at"
  | controlCharacter => "Invalid control character at"
  | escape => "Invalid \\escape"
  | unicodeEscape => "Invalid \\uXXXX escape"
  | extraData => "Extra data"
  | longInteger digits => Text.longNumeralMessage digits

/-- A refusal with its line, its column and its position in `text`. -/
def ReadError.message (text : List Char) (e : ReadError) : String :=
  match e.fault with
  | .longInteger _ => e.fault.message
  | _ =>
    let before := text.take e.position
    e.fault.message ++ ": line " ++ toString (before.count '\n' + 1) ++ " column " ++
      toString ((before.reverse.takeWhile (· != '\n')).length + 1) ++ " (char " ++
      toString e.position ++ ")"

/-- The text from a position on. -/
structure Cursor where
  position : Nat
  rest : List Char

def isSpace (c : Char) : Bool := c == ' ' || c == '\t' || c == '\n' || c == '\r'

def skipSpace (position : Nat) : List Char → Cursor
  | [] => ⟨position, []⟩
  | c :: r => if isSpace c then skipSpace (position + 1) r else ⟨position, c :: r⟩

def Cursor.skipSpace (k : Cursor) : Cursor := Json.skipSpace k.position k.rest

/-! ## Strings -/

def hexValue? (c : Char) : Option Nat :=
  if '0' ≤ c ∧ c ≤ '9' then some (c.toNat - 48)
  else if 'a' ≤ c ∧ c ≤ 'f' then some (c.toNat - 87)
  else if 'A' ≤ c ∧ c ≤ 'F' then some (c.toNat - 55)
  else none

def hexValue4? (a b c d : Char) : Option Nat := do
  let a ← hexValue? a
  let b ← hexValue? b
  let c ← hexValue? c
  let d ← hexValue? d
  pure (((a * 16 + b) * 16 + c) * 16 + d)

def escaped? : Char → Option Char
  | '"' => some '"'
  | '\\' => some '\\'
  | '/' => some '/'
  | 'b' => some '\u0008'
  | 'f' => some '\u000c'
  | 'n' => some '\n'
  | 'r' => some '\r'
  | 't' => some '\t'
  | _ => none

/-- The character of a code unit; half of a surrogate pair alone is none. -/
def unitChar (n : Nat) : Char := if n.isValidChar then Char.ofNat n else '\ufffd'

def isHighHalf (n : Nat) : Bool := 0xD800 ≤ n && n < 0xDC00
def isLowHalf (n : Nat) : Bool := 0xDC00 ≤ n && n < 0xE000

def joinHalves (high low : Nat) : Char := Char.ofNat (0x10000 + (high - 0xD800) * 0x400 + (low - 0xDC00))

/-- Reads on behind an opening quote, which stood at `start`. -/
def readString (start position : Nat) : List Char → Except ReadError (List Char × Cursor)
  | [] => .error ⟨.unterminatedString, start⟩
  | '"' :: r => .ok ([], ⟨position + 1, r⟩)
  | '\\' :: r =>
    match r with
    | [] => .error ⟨.unterminatedString, start⟩
    | 'u' :: r =>
      match r with
      | a :: b :: c :: d :: r =>
        if r.isEmpty then .error ⟨.unicodeEscape, position + 1⟩
        else match hexValue4? a b c d with
          | none => .error ⟨.unicodeEscape, position + 1⟩
          | some n =>
            let single := fun _ : Unit =>
              (readString start (position + 6) r).map fun (s, k) => (unitChar n :: s, k)
            if isHighHalf n then
              match r with
              | '\\' :: 'u' :: a :: b :: c :: d :: r' =>
                if r'.isEmpty then single ()
                else match hexValue4? a b c d with
                  | none => .error ⟨.unicodeEscape, position + 7⟩
                  | some m =>
                    if isLowHalf m then
                      (readString start (position + 12) r').map fun (s, k) => (joinHalves n m :: s, k)
                    else single ()
              | _ => single ()
            else single ()
      | _ => .error ⟨.unicodeEscape, position + 1⟩
    | e :: r =>
      match escaped? e with
      | none => .error ⟨.escape, position⟩
      | some c => (readString start (position + 2) r).map fun (s, k) => (c :: s, k)
  | c :: r =>
    if c.toNat < 0x20 then .error ⟨.controlCharacter, position⟩
    else (readString start (position + 1) r).map fun (s, k) => (c :: s, k)

/-! ## Numbers -/

/-- A number as it is written: its sign, and the digits of its parts.  Without a fraction and an
exponent it is an integer. -/
structure Literal where
  negative : Bool
  whole : List Char
  fraction : Option (List Char)
  exponent : Option (Bool × List Char)

/-- A fraction at the start of a text. -/
def fraction? : List Char → Option (List Char × List Char)
  | '.' :: d :: r =>
    if d.isDigit then some (d :: r.takeWhile Char.isDigit, r.dropWhile Char.isDigit) else none
  | _ => none

/-- An exponent at the start of a text, and whether it is negative. -/
def exponent? : List Char → Option ((Bool × List Char) × List Char)
  | e :: r =>
    if e == 'e' || e == 'E' then
      let (negative, r) := match r with
        | '+' :: r => (false, r)
        | '-' :: r => (true, r)
        | _ => (false, r)
      match r.takeWhile Char.isDigit with
      | [] => none
      | ds => some ((negative, ds), r.dropWhile Char.isDigit)
    else none
  | [] => none

/-- The integer part of a number, which has no superfluous zero. -/
def whole? : List Char → Option (List Char × List Char)
  | '0' :: r => some (['0'], r)
  | c :: r =>
    if '1' ≤ c ∧ c ≤ '9' then some (c :: r.takeWhile Char.isDigit, r.dropWhile Char.isDigit) else none
  | [] => none

/-- The longest start of a text that is a number, and what is behind it. -/
def literal? (s : List Char) : Option (Literal × List Char) :=
  let (negative, s) := match s with
    | '-' :: r => (true, r)
    | s => (false, s)
  (whole? s).map fun (whole, r) =>
    let (fraction, r) := match fraction? r with
      | some (ds, r) => (some ds, r)
      | none => (none, r)
    let (exponent, r) := match exponent? r with
      | some (e, r) => (some e, r)
      | none => (none, r)
    (⟨negative, whole, fraction, exponent⟩, r)

def digitsOf (ds : List Char) : List Nat := ds.map fun c => c.toNat - 48

def intOf (negative : Bool) (ds : List Char) : Int :=
  Double.signed negative (Double.ofDigits (digitsOf ds))

/-- What a number means; the position is that of an integer that is too long. -/
def Literal.value (position : Nat) (l : Literal) : Except ReadError Json :=
  match l.fraction, l.exponent with
  | none, none =>
    if Text.maxDigits < l.whole.length then .error ⟨.longInteger l.whole.length, position⟩
    else .ok (int (intOf l.negative l.whole))
  | fraction, exponent =>
    let behind := fraction.getD []
    let power := (exponent.map fun (negative, ds) => intOf negative ds).getD 0
    .ok (real (.ofDecimal l.negative (digitsOf (l.whole ++ behind)) (power - behind.length)))

def readNumber (k : Cursor) : Except ReadError (Json × Cursor) :=
  match literal? k.rest with
  | none => .error ⟨.value, k.position⟩
  | some (l, r) => (l.value k.position).map fun v => (v, ⟨k.position + (k.rest.length - r.length), r⟩)

/-! ## Values -/

def literals : List (String × Json) :=
  [("null", null), ("true", bool true), ("false", bool false), ("NaN", real .nan),
   ("Infinity", real (.infinite false)), ("-Infinity", real (.infinite true))]

def readLiteral? (k : Cursor) : Option (Json × Cursor) :=
  literals.findSome? fun (text, v) =>
    if text.toList.isPrefixOf k.rest then
      some (v, ⟨k.position + text.length, k.rest.drop text.length⟩)
    else none

mutual

/-- Reads a value that starts here.  Each nested value uses up one unit of `depth`. -/
def readValue (depth : Nat) (k : Cursor) : Except ReadError (Json × Cursor) :=
  match depth with
  | 0 => .error ⟨.value, k.position⟩
  | depth + 1 =>
    match k.rest with
    | [] => .error ⟨.value, k.position⟩
    | '"' :: r => (readString k.position (k.position + 1) r).map fun (s, k) => (str (String.ofList s), k)
    | '\x7b' :: r =>
      let k := skipSpace (k.position + 1) r
      match k.rest with
      | '\x7d' :: r => .ok (obj [], ⟨k.position + 1, r⟩)
      | _ => readFields depth [] k
    | '[' :: r =>
      let k := skipSpace (k.position + 1) r
      match k.rest with
      | ']' :: r => .ok (arr [], ⟨k.position + 1, r⟩)
      | _ => readItems depth [] k
    | _ =>
      match readLiteral? k with
      | some r => .ok r
      | none => readNumber k

/-- Reads an array on from an item; `done` holds the items before it, last first. -/
def readItems (depth : Nat) (done : List Json) (k : Cursor) : Except ReadError (Json × Cursor) :=
  match depth with
  | 0 => .error ⟨.value, k.position⟩
  | depth + 1 => do
    let (v, k) ← readValue depth k
    let k := k.skipSpace
    match k.rest with
    | ']' :: r => .ok (arr (v :: done).reverse, ⟨k.position + 1, r⟩)
    | ',' :: r => readItems depth (v :: done) (skipSpace (k.position + 1) r)
    | _ => .error ⟨.comma, k.position⟩

/-- Reads an object on from a field name; `done` holds the fields before it. -/
def readFields (depth : Nat) (done : List (String × Json)) (k : Cursor) : Except ReadError (Json × Cursor) :=
  match depth with
  | 0 => .error ⟨.value, k.position⟩
  | depth + 1 =>
    match k.rest with
    | '"' :: r => do
      let (name, k) ← readString k.position (k.position + 1) r
      let k := k.skipSpace
      match k.rest with
      | ':' :: r =>
        let (v, k) ← readValue depth (skipSpace (k.position + 1) r)
        let k := k.skipSpace
        let done := setField (String.ofList name) v done
        match k.rest with
        | '\x7d' :: r => .ok (obj done, ⟨k.position + 1, r⟩)
        | ',' :: r => readFields depth done (skipSpace (k.position + 1) r)
        | _ => .error ⟨.comma, k.position⟩
      | _ => .error ⟨.colon, k.position⟩
    | _ => .error ⟨.fieldName, k.position⟩

end

/-- Reads a whole text.  Every step of the reader consumes a character, so twice the length of the
text bounds their number. -/
def readDocument (text : List Char) : Except ReadError Json := do
  let (v, k) ← readValue (2 * text.length + 2) (skipSpace 0 text)
  let k := k.skipSpace
  if k.rest.isEmpty then .ok v else .error ⟨.extraData, k.position⟩

/-- Reads a text that was not told by its bytes: a byte order mark is refused as such. -/
def read (text : List Char) : Except ReadError Json :=
  match text with
  | '\ufeff' :: _ => .error ⟨.byteOrderMark, 0⟩
  | _ => readDocument text

end TypedContent.Json
