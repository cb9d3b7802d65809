import TypedContent.Text.Blank

/-!
# Digits and numerals

Every decimal digit of the Unicode standard counts, whatever its script.  A numeral may be signed,
may stand between blanks other than the separators U+001C to U+001F, and may be grouped by single
underscores.
-/

namespace TypedContent.Text

/-- The zeros of all scripts; each is followed by the other nine digits. -/
def zeros : List Nat :=
  [0x30, 0x660, 0x6F0, 0x7C0, 0x966, 0x9E6, 0xA66, 0xAE6, 0xB66, 0xBE6, 0xC66, 0xCE6, 0xD66,
   0xDE6, 0xE50, 0xED0, 0xF20, 0x1040, 0x1090, 0x17E0, 0x1810, 0x1946, 0x19D0, 0x1A80, 0x1A90,
   0x1B50, 0x1BB0, 0x1C40, 0x1C50, 0xA620, 0xA8D0, 0xA900, 0xA9D0, 0xA9F0, 0xAA50, 0xABF0,
   0xFF10, 0x104A0, 0x10D30, 0x11066, 0x110F0, 0x11136, 0x111D0, 0x112F0, 0x11450, 0x114D0,
   0x11650, 0x116C0, 0x11730, 0x118E0, 0x11950, 0x11C50, 0x11D50, 0x11DA0, 0x16A60, 0x16AC0,
   0x16B50, 0x1D7CE, 0x1D7D8, 0x1D7E2, 0x1D7EC, 0x1D7F6, 0x1E140, 0x1E2F0, 0x1E950, 0x1FBF0]

/-- The value of a decimal digit. -/
def digit? (c : Char) : Option Nat :=
  zeros.findSome? fun z => if z ≤ c.toNat ∧ c.toNat < z + 10 then some (c.toNat - z) else none

/-- The value of a digit in bases up to 36. -/
def digitIn? (base : Nat) (c : Char) : Option Nat :=
  let value := match digit? c with
    | some n => some n
    | none =>
      if 'a' ≤ c ∧ c ≤ 'z' then some (c.toNat - 'a'.toNat + 10)
      else if 'A' ≤ c ∧ c ≤ 'Z' then some (c.toNat - 'A'.toNat + 10)
      else none
  value.filter (· < base)

/-- Why a text is no numeral. -/
inductive NumeralFault where
  | malformed
  /-- The numeral has more digits than are read. -/
  | tooLong (digits : Nat)

/-- The most digits of a numeral whose base is no power of two. -/
def maxDigits : Nat := 4300

def limitMessage : String :=
  "Exceeds the limit (" ++ toString maxDigits ++ " digits) for integer string conversion"

def limitAdvice : String := "; use sys.set_int_max_str_digits() to increase the limit"

/-- What is said about a numeral with too many digits. -/
def longNumeralMessage (digits : Nat) : String :=
  limitMessage ++ ": value has " ++ toString digits ++ " digits" ++ limitAdvice

/-- What is said about an integer whose numeral would have too many digits. -/
def longIntegerMessage : String := limitMessage ++ limitAdvice

/-- The numeral of an integer in base ten, unless it is too long. -/
def decimal? (n : Int) : Option String :=
  if Nat.pow 10 maxDigits ≤ n.natAbs then none else some (toString n)

/-- Whether underscores stand singly between digits; `wanted` says that a digit has to come next. -/
def isGrouped (wanted : Bool) : List Char → Bool
  | [] => !wanted
  | '_' :: cs => !wanted && isGrouped true cs
  | _ :: cs => isGrouped false cs

/-- The value of digits that follow `n`; underscores do not count. -/
def digitsValue (base n : Nat) : List Char → Nat
  | [] => n
  | c :: cs => digitsValue base ((digitIn? base c).elim n fun d => n * base + d) cs

/-- The marks that may stand before the digits of a base. -/
def baseMark : Nat → List Char
  | 2 => ['b', 'B']
  | 8 => ['o', 'O']
  | 16 => ['x', 'X']
  | _ => []

/-- Only bases with a mark are powers of two. -/
def isLimited (base : Nat) : Bool := (baseMark base).isEmpty

/-- What stands behind the mark of the base, if there is one; an underscore may follow it. -/
def withoutMark (base : Nat) : List Char → List Char
  | '0' :: m :: cs =>
    if (baseMark base).contains m then
      match cs with
      | '_' :: cs => cs
      | cs => cs
    else '0' :: m :: cs
  | cs => cs

/-- A numeral without sign and blanks.  Its length is looked at before what stands behind it. -/
def natural (base : Nat) (s : List Char) : Except NumeralFault Nat :=
  let isPart (c : Char) : Bool := (digitIn? base c).isSome || c == '_'
  let s := withoutMark base s
  let numeral := s.takeWhile isPart
  let digits := numeral.countP (· ≠ '_')
  if !isGrouped true numeral then .error .malformed
  else if isLimited base && decide (maxDigits < digits) then .error (.tooLong digits)
  else if s.dropWhile isPart ≠ [] then .error .malformed
  else .ok (digitsValue base 0 numeral)

/-- A blank that may surround a numeral. -/
def isMargin (c : Char) : Bool := isBlank c && !(0x1C ≤ c.toNat && c.toNat ≤ 0x1F)

def withoutMargins (s : List Char) : List Char :=
  ((s.dropWhile isMargin).reverse.dropWhile isMargin).reverse

/-- The integer that a numeral stands for. -/
def integer (base : Nat) (s : List Char) : Except NumeralFault Int :=
  match withoutMargins s with
  | '-' :: cs => (natural base cs).map fun n => -(n : Int)
  | '+' :: cs => (natural base cs).map fun n => (n : Int)
  | cs => (natural base cs).map fun n => (n : Int)

def integer? (base : Nat) (s : List Char) : Option Int := (integer base s).toOption

end TypedContent.Text
