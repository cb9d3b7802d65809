import TypedContent.Text.Quoted

/-!
# Text as bytes

Files hold UTF-8.  What a server sends may also be UTF-16 or UTF-32, recognised by its first
bytes.  A text that cannot be decoded is described by the bytes at fault and the reason.

`decodeUtf8_toUTF8`: the bytes of a text decode to that text.
-/

namespace TypedContent.Text

inductive Encoding where
  | utf8
  | utf16 (bigEndian : Bool)
  | utf32 (bigEndian : Bool)

def Encoding.name : Encoding → String
  | .utf8 => "utf-8"
  | .utf16 false => "utf-16-le"
  | .utf16 true => "utf-16-be"
  | .utf32 false => "utf-32-le"
  | .utf32 true => "utf-32-be"

inductive DecodeFault where
  | invalidStart
  | invalidContinuation
  | unexpectedEnd
  | truncated
  | outOfRange

def DecodeFault.message : DecodeFault → String
  | .invalidStart => "invalid start byte"
  | .invalidContinuation => "invalid continuation byte"
  | .unexpectedEnd => "unexpected end of data"
  | .truncated => "truncated data"
  | .outOfRange => "code point not in range(0x110000)"

/-- The bytes at fault stand at `position`. -/
structure DecodeError where
  encoding : Encoding
  position : Nat
  bytes : List UInt8
  fault : DecodeFault

def DecodeError.message (e : DecodeError) : String :=
  let place := match e.bytes with
    | [b] => "byte 0x" ++ String.ofList (hex 2 b.toNat) ++ " in position " ++ toString e.position
    | bs => "bytes in position " ++ toString e.position ++ "-" ++
        toString (e.position + bs.length - 1)
  "'" ++ e.encoding.name ++ "' codec can't decode " ++ place ++ ": " ++ e.fault.message

/-- Stands for half of a surrogate pair, which no character is. -/
def replacement : Char := '\ufffd'

/-! ## UTF-8 -/

def isContinuation (b : UInt8) : Bool := 0x80 ≤ b && b < 0xC0

/-- The second byte of a sequence of three or four rules out overlong forms, surrogates and code
points above U+10FFFF. -/
def isSecond (lead b : UInt8) : Bool :=
  isContinuation b && (lead != 0xE0 || 0xA0 ≤ b) && (lead != 0xED || b < 0xA0) &&
    (lead != 0xF0 || 0x90 ≤ b) && (lead != 0xF4 || b < 0x90)

/-- Three bytes that encode half of a surrogate pair. -/
def isSurrogate (lead b c : UInt8) : Bool :=
  lead == 0xED && isContinuation b && 0xA0 ≤ b && isContinuation c

/-- The code point written by a lead byte's payload and continuation bytes. -/
def utf8Char (payload : Nat) (rest : List UInt8) : Char :=
  let n := rest.foldl (fun n b => n * 64 + (b.toNat - 0x80)) payload
  if n.isValidChar then Char.ofNat n else replacement

/-- Decodes from `pos` on; `surrogates` lets the encoded halves of surrogate pairs through, which
otherwise have a wrong second byte. -/
def utf8Chars (surrogates : Bool) (pos : Nat) : List UInt8 → Except DecodeError (List Char)
  | [] => .ok []
  | b :: r =>
    let fail (bytes : List UInt8) (fault : DecodeFault) : Except DecodeError (List Char) :=
      .error ⟨.utf8, pos, bytes, fault⟩
    if b < 0x80 then (utf8Chars surrogates (pos + 1) r).map (Char.ofNat b.toNat :: ·)
    else if b < 0xC2 then fail [b] .invalidStart
    else if b < 0xE0 then
      match r with
      | [] => fail [b] .unexpectedEnd
      | c :: r =>
        if !isContinuation c then fail [b] .invalidContinuation
        else (utf8Chars surrogates (pos + 2) r).map (utf8Char (b.toNat - 0xC0) [c] :: ·)
    else if b < 0xF0 then
      match r with
      | [] => fail [b] .unexpectedEnd
      | [c] => if isSecond b c then fail [b, c] .unexpectedEnd
          else fail [b] .invalidContinuation
      | c :: d :: r =>
        if surrogates && isSurrogate b c d then
          (utf8Chars surrogates (pos + 3) r).map (replacement :: ·)
        else if !isSecond b c then fail [b] .invalidContinuation
        else if !isContinuation d then fail [b, c] .invalidContinuation
        else (utf8Chars surrogates (pos + 3) r).map (utf8Char (b.toNat - 0xE0) [c, d] :: ·)
    else if b < 0xF5 then
      match r with
      | [] => fail [b] .unexpectedEnd
      | [c] => if isSecond b c then fail [b, c] .unexpectedEnd
          else fail [b] .invalidContinuation
      | [c, d] =>
        if !isSecond b c then fail [b] .invalidContinuation
        else if isContinuation d then fail [b, c, d] .unexpectedEnd
        else fail [b, c] .invalidContinuation
      | c :: d :: e :: r =>
        if !isSecond b c then fail [b] .invalidContinuation
        else if !isContinuation d then fail [b, c] .invalidContinuation
        else if !isContinuation e then fail [b, c, d] .invalidContinuation
        else (utf8Chars surrogates (pos + 4) r).map (utf8Char (b.toNat - 0xF0) [c, d, e] :: ·)
    else fail [b] .invalidStart

/-- The text of a file. -/
def decodeUtf8 (bytes : ByteArray) : Except DecodeError String :=
  match String.fromUTF8? bytes with
  | some s => .ok s
  | none => (utf8Chars false 0 bytes.toList).map String.ofList

theorem decodeUtf8_toUTF8 (s : String) : decodeUtf8 s.toUTF8 = .ok s := by
  have h : String.fromUTF8? s.toByteArray = some s := by
    simp [String.fromUTF8?, String.fromUTF8, s.isValidUTF8]
  show decodeUtf8 s.toByteArray = .ok s
  unfold decodeUtf8
  rw [h]

/-! ## UTF-16 and UTF-32 -/

/-- The number written by bytes in the given order. -/
def unitValue (bigEndian : Bool) (bytes : List UInt8) : Nat :=
  (if bigEndian then bytes else bytes.reverse).foldl (fun n b => n * 256 + b.toNat) 0

def utf16Units (big : Bool) (pos : Nat) : List UInt8 → Except DecodeError (List Nat)
  | [] => .ok []
  | [b] => .error ⟨.utf16 big, pos, [b], .truncated⟩
  | b :: c :: r => (utf16Units big (pos + 2) r).map (unitValue big [b, c] :: ·)

/-- Joins surrogate pairs. -/
def ofUnits : List Nat → List Char
  | [] => []
  | [u] => [if u.isValidChar then Char.ofNat u else replacement]
  | u :: v :: r =>
    if 0xD800 ≤ u ∧ u < 0xDC00 ∧ 0xDC00 ≤ v ∧ v < 0xE000 then
      Char.ofNat (0x10000 + (u - 0xD800) * 0x400 + (v - 0xDC00)) :: ofUnits r
    else (if u.isValidChar then Char.ofNat u else replacement) :: ofUnits (v :: r)

def utf32Chars (big : Bool) (pos : Nat) : List UInt8 → Except DecodeError (List Char)
  | [] => .ok []
  | a :: b :: c :: d :: r =>
    let n := unitValue big [a, b, c, d]
    if 0x110000 ≤ n then .error ⟨.utf32 big, pos, [a, b, c, d], .outOfRange⟩
    else (utf32Chars big (pos + 4) r).map
      ((if n.isValidChar then Char.ofNat n else replacement) :: ·)
  | bs => .error ⟨.utf32 big, pos, bs, .truncated⟩

/-! ## Text in an encoding that its first bytes show -/

/-- A byte order mark, or else the place of the zero bytes among the first four, tells the
encoding.  The second component is the length of the mark. -/
def detect : List UInt8 → Encoding × Nat
  | 0x00 :: 0x00 :: 0xFE :: 0xFF :: _ => (.utf32 true, 4)
  | 0xFF :: 0xFE :: 0x00 :: 0x00 :: _ => (.utf32 false, 4)
  | 0xFE :: 0xFF :: _ => (.utf16 true, 2)
  | 0xFF :: 0xFE :: _ => (.utf16 false, 2)
  | 0xEF :: 0xBB :: 0xBF :: _ => (.utf8, 3)
  | a :: b :: c :: d :: _ =>
    if a = 0 then (if b ≠ 0 then .utf16 true else .utf32 true, 0)
    else if b = 0 then (if c ≠ 0 ∨ d ≠ 0 then .utf16 false else .utf32 false, 0)
    else (.utf8, 0)
  | [a, b] => (if a = 0 then .utf16 true else if b = 0 then .utf16 false else .utf8, 0)
  | _ => (.utf8, 0)

/-- The text of a message body.  Positions in errors count from behind the mark in UTF-8. -/
def decodeDetected (bytes : ByteArray) : Except DecodeError (List Char) :=
  let bs := bytes.toList
  match detect bs with
  | (.utf8, k) => utf8Chars true 0 (bs.drop k)
  | (.utf16 big, k) => (utf16Units big k (bs.drop k)).map ofUnits
  | (.utf32 big, k) => utf32Chars big k (bs.drop k)

end TypedContent.Text
