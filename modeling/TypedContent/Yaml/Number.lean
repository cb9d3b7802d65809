import TypedContent.Double
import TypedContent.Text.Casing
import TypedContent.Text.Digits
import TypedContent.Yaml.Tag

/-!
# Numbers and points in time

What the text of a scalar means under a tag for a number or a point in time.  A text that a tag was
written at need not have the form of such a number.  Of a number with a fraction only the size
counts, its sign is left out.
-/

namespace TypedContent.Yaml

namespace Number

def isMinus (s : List Char) : Bool := s.head? == some '-'

/-- A text without underscores, without its sign; it must not be empty. -/
def unsigned (s : List Char) : Except Fault (List Char) :=
  match s.filter (· != '_') with
  | [] => .error .emptyNumber
  | cs => .ok (Tag.withoutSign cs)

def integerIn (base : Nat) (s : List Char) : Except Fault Int :=
  match Text.integer base s with
  | .ok n => .ok n
  | .error .malformed => .error (.integer base (String.ofList s))
  | .error (.tooLong digits) => .error (.longInteger digits)

/-- The number with the given places to the base 60. -/
def sexagesimal (places : List Int) : Int := places.foldl (fun n p => n * 60 + p) 0

def magnitude (s : List Char) : Except Fault Int :=
  match s with
  | [] => .error .emptyNumber
  | ['0'] => .ok 0
  | '0' :: 'b' :: ds => integerIn 2 ds
  | '0' :: 'x' :: ds => integerIn 16 ds
  | '0' :: ds => integerIn 8 ('0' :: ds)
  | s =>
    if s.contains ':' then ((Tag.splitAt ':' s).mapM (integerIn 10)).map sexagesimal
    else integerIn 10 s

def integer (s : List Char) : Except Fault Int := do
  let n ← magnitude (← unsigned s)
  pure (if isMinus (s.filter (· != '_')) then -n else n)

/-! ## Numbers with a fraction -/

/-- Takes leading digits. -/
def digitsOf (s : List Char) : List Nat × List Char :=
  ((s.takeWhile fun c => (Text.digit? c).isSome).filterMap Text.digit?,
   s.dropWhile fun c => (Text.digit? c).isSome)

/-- The exponent at the end of a decimal, zero if there is none. -/
def exponent? : List Char → Option Int
  | [] => some 0
  | e :: s =>
    if e = 'e' ∨ e = 'E' then
      match digitsOf (Tag.withoutSign s) with
      | ([], _) => none
      | (ds, []) => some (Double.signed (isMinus s) (Double.ofDigits ds))
      | _ => none
    else none

/-- The number of a decimal without a sign. -/
def decimal? (negative : Bool) (s : List Char) : Option Double :=
  let (whole, rest) := digitsOf s
  let (fraction, rest) := match rest with
    | '.' :: rest => digitsOf rest
    | rest => ([], rest)
  let ds := whole ++ fraction
  if ds.isEmpty then none
  else (exponent? rest).map fun e => .ofDecimal negative ds (e - fraction.length)

/-- The numbers that are words. -/
def words (negative : Bool) : List (String × Double) :=
  [("inf", .infinite negative), ("infinity", .infinite negative), ("nan", .nan)]

/-- A number with its sign, between blanks. -/
def single (s : List Char) : Except Fault Double :=
  let t := Text.withoutMargins s
  let negative := isMinus t
  let t := Tag.withoutSign t
  match (words negative).lookup (String.ofList (Text.Casing.lower t)) with
  | some x => .ok x
  | none =>
    match decimal? negative t with
    | some x => .ok x
    | none => .error (.float (String.ofList s))

/-- The number with the given places to the base 60, the lowest first, on top of `sum`; `weight` is
that of the first place. -/
def weighted (sum : Double) (weight : Nat) : List Double → Except Fault Double
  | [] => .ok sum
  | place :: places =>
    match Double.ofNat? weight with
    | none => .error .tooManyPlaces
    | some w => weighted (sum.add (place.mul w)) (weight * 60) places

/-- The size of a number with a fraction. -/
def real (s : List Char) : Except Fault Double := do
  let t ← unsigned (Text.Casing.lower s)
  if t = ".inf".toList then pure (.infinite false)
  else if t = ".nan".toList then pure .nan
  else if t.contains ':' then
    weighted (.finite false 0) 1 (← (Tag.splitAt ':' t).mapM single).reverse
  else single t

end Number

namespace Moment

def value (ds : List Char) : Nat := ds.foldl (fun n c => n * 10 + (c.toNat - 48)) 0

def isLeap (year : Nat) : Bool := year % 4 == 0 && (year % 100 != 0 || year % 400 == 0)

def daysIn (year month : Nat) : Nat :=
  if month = 2 then (if isLeap year then 29 else 28)
  else if month = 4 ∨ month = 6 ∨ month = 9 ∨ month = 11 then 30
  else 31

/-- A span of minutes, as messages show it: days of either sign, and seconds of the day. -/
def showSpan (minutes : Int) : String :=
  let days := minutes.fdiv 1440
  let seconds := minutes.fmod 1440 * 60
  let parts := (if days = 0 then [] else ["days=" ++ toString days]) ++
    (if seconds = 0 then [] else ["seconds=" ++ toString seconds])
  "datetime.timedelta(" ++ (if parts.isEmpty then "0" else ", ".intercalate parts) ++ ")"

/-- An offset is less than a day. -/
def checkOffset : Option (Char × List Char × List Char) → Except Fault Unit
  | none => .ok ()
  | some (sign, hours, minutes) =>
    let span := value hours * 60 + value minutes
    if span < 1440 then .ok ()
    else .error (.date ("offset must be a timedelta strictly between -timedelta(hours=24) and " ++
      "timedelta(hours=24), not " ++ showSpan (if sign = '-' then -(span : Int) else span) ++ "."))

def check (m : Moment) : Except Fault Unit := do
  let year := value m.year
  let month := value m.month
  let day := value m.day
  checkOffset m.offset
  if year = 0 then throw (.date "year 0 is out of range")
  else if month < 1 ∨ 12 < month then throw (.date "month must be in 1..12")
  else if day < 1 ∨ daysIn year month < day then throw (.date "day is out of range for month")
  else match m.time with
    | none => pure ()
    | some (hour, minute, second) =>
      if 23 < value hour then throw (.date "hour must be in 0..23")
      else if 59 < value minute then throw (.date "minute must be in 0..59")
      else if 59 < value second then throw (.date "second must be in 0..59")
      else pure ()

end Moment

end TypedContent.Yaml
