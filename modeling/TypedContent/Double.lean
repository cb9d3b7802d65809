/-!
# Numbers of double precision

A finite number is a sign and a count of units, a unit being the least number above zero.  What is
computed exactly is then rounded to the nearest number, a half to the even one.  A number is shown
with the fewest digits that tell it from its neighbours.
-/

namespace TypedContent

inductive Double where
  | finite (negative : Bool) (units : Nat)
  | infinite (negative : Bool)
  | nan
  deriving DecidableEq, Inhabited

namespace Double

/-- The significant bits of a number. -/
def precision : Nat := 53

/-- One is this power of two, counted in units. -/
def unitBits : Nat := 1074

/-- The units of one. -/
def one : Nat := Nat.pow 2 unitBits

/-- The units of the greatest finite number. -/
def maxUnits : Nat := (Nat.pow 2 precision - 1) * Nat.pow 2 2045

/-- A quotient as a whole number, a half rounded to the even one. -/
def nearest (n d : Nat) : Nat :=
  if 2 * (n % d) < d ∨ (2 * (n % d) = d ∧ n / d % 2 = 0) then n / d else n / d + 1

/-- A quotient rounded to as many significant bits as a number has. -/
def rounded (n d : Nat) : Nat :=
  let step := Nat.pow 2 ((n / d).log2 + 1 - precision)
  nearest n (d * step) * step

def ofUnits (negative : Bool) (units : Nat) : Double :=
  if maxUnits < units then infinite negative else finite negative units

/-- The number nearest to a quotient. -/
def ofRatio (negative : Bool) (n d : Nat) : Double := ofUnits negative (rounded (n * one) d)

def isZero : Double → Bool
  | finite _ units => units == 0
  | _ => false

/-! ## Decimals -/

def ofDigits (ds : List Nat) : Nat := ds.foldl (fun n d => n * 10 + d) 0

/-- Beyond this power of ten every number is infinite, and below its inverse zero. -/
def maxPower : Int := 400

/-- The number nearest to digits times a power of ten. -/
def ofDecimal (negative : Bool) (ds : List Nat) (exponent : Int) : Double :=
  let ds := ds.dropWhile (· = 0)
  let size := exponent + ds.length
  if ds = [] ∨ size < -maxPower then finite negative 0
  else if maxPower < size then infinite negative
  else if exponent < 0 then ofRatio negative (ofDigits ds) (Nat.pow 10 exponent.natAbs)
  else ofRatio negative (ofDigits ds * Nat.pow 10 exponent.natAbs) 1

/-! ## Arithmetic -/

def signed (negative : Bool) (units : Nat) : Int := if negative then -(units : Int) else units

def add : Double → Double → Double
  | nan, _ => nan
  | _, nan => nan
  | infinite a, infinite b => if a = b then infinite a else nan
  | infinite a, finite _ _ => infinite a
  | finite _ _, infinite b => infinite b
  | finite a m, finite b n =>
    let sum := signed a m + signed b n
    if sum = 0 then finite (a && b) 0 else ofUnits (decide (sum < 0)) (rounded sum.natAbs 1)

def mul : Double → Double → Double
  | nan, _ => nan
  | _, nan => nan
  | infinite a, infinite b => infinite (a != b)
  | infinite a, finite b n => if n = 0 then nan else infinite (a != b)
  | finite a m, infinite b => if m = 0 then nan else infinite (a != b)
  | finite a m, finite b n => ofUnits (a != b) (rounded (m * n) one)

/-- A natural number, unless it is too large. -/
def ofNat? (n : Nat) : Option Double :=
  match ofRatio false n 1 with
  | infinite _ => none
  | x => some x

/-! ## Showing -/

/-- How many digits stand before the point; for a number below one tenth, how many zeros stand
behind it, as a negative number. -/
def pointOf (units : Nat) : Int := (toString (units * Nat.pow 10 330 / one)).length - 330

/-- The first `width` digits of a number, adjusted so that they are read as that number.  `point`
tells where they begin. -/
def digits? (units : Nat) (point : Int) (width : Nat) : Option Nat :=
  let power := (width : Int) - point
  let n := if power < 0 then units else units * Nat.pow 10 power.natAbs
  let d := if power < 0 then one * Nat.pow 10 power.natAbs else one
  let fits (k : Nat) : Bool :=
    (if power < 0 then rounded (k * Nat.pow 10 power.natAbs * one) 1
      else rounded (k * one) (Nat.pow 10 power.natAbs)) == units
  let best := nearest n d
  if fits best then some best
  else if fits (n / d) then some (n / d)
  else if fits (n / d + 1) then some (n / d + 1)
  else none

/-- The fewest digits that tell a number from its neighbours, and how many there would be before
the point. -/
def shortest (units : Nat) : Nat × Int :=
  let point := pointOf units
  ((List.range 17).findSome? fun i =>
    (digits? units point (i + 1)).map fun k =>
      (k, point + (toString k).length - ((i + 1 : Nat) : Int))).getD (0, 0)

def zeros (n : Nat) : List Char := List.replicate n '0'

def withoutZeros (ds : List Char) : List Char := (ds.reverse.dropWhile (· = '0')).reverse

/-- Digits with a point. -/
def plainDigits (ds : List Char) (point : Int) : List Char :=
  if point ≤ 0 then '0' :: '.' :: zeros point.natAbs ++ ds
  else if (ds.length : Int) ≤ point then ds ++ zeros (point.natAbs - ds.length) ++ ['.', '0']
  else ds.take point.natAbs ++ '.' :: ds.drop point.natAbs

/-- One digit before the point, and an exponent of at least two digits. -/
def scientificDigits (ds : List Char) (point : Int) : List Char :=
  let e := point - 1
  let exponent := (toString e.natAbs).toList
  ds.take 1 ++ (if ds.length ≤ 1 then [] else '.' :: ds.drop 1) ++
    'e' :: (if e < 0 then '-' else '+') :: zeros (2 - exponent.length) ++ exponent

def magnitude (units : Nat) : List Char :=
  if units = 0 then ['0', '.', '0']
  else
    let (k, point) := shortest units
    let ds := withoutZeros (toString k).toList
    if -4 < point ∧ point ≤ 16 then plainDigits ds point else scientificDigits ds point

def shown : Double → String
  | finite negative units => (if negative then "-" else "") ++ String.ofList (magnitude units)
  | infinite negative => if negative then "-inf" else "inf"
  | nan => "nan"

end Double

end TypedContent
