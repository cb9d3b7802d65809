import TypedContent.Files.Path
import TypedContent.Text.Quoted

/-!
# Hosts in brackets

Brackets in the network location of a URL hold an IPv6 address or an address of a later version.
-/

namespace TypedContent.Net

/-- Why a text is no URL. -/
inductive UrlError where
  | brackets
  | futureAddress
  | notAnAddress (host : String)
  | version4Address
  | normalization (netloc : String)

def UrlError.message : UrlError → String
  | .brackets => "Invalid IPv6 URL"
  | .futureAddress => "IPvFuture address is invalid"
  | .notAnAddress host => Text.quoted host ++ " does not appear to be an IPv4 or IPv6 address"
  | .version4Address => "An IPv4 address cannot be in brackets"
  | .normalization netloc =>
    "netloc '" ++ netloc ++ "' contains invalid characters under NFKC normalization"

namespace Host

def isDigit (c : Char) : Bool := '0' ≤ c && c ≤ '9'

def isHex (c : Char) : Bool := isDigit c || ('A' ≤ c && c ≤ 'F') || ('a' ≤ c && c ≤ 'f')

/-- A text cut at every occurrence of a character. -/
def cutAt (mark : Char) : List Char → List (List Char)
  | [] => [[]]
  | c :: cs =>
    if c = mark then [] :: cutAt mark cs
    else match cutAt mark cs with
      | [] => [[c]]
      | p :: ps => (c :: p) :: ps

/-- A number below 256 without leading zeros. -/
def isOctet (s : List Char) : Bool :=
  !s.isEmpty && s.all isDigit && s.length ≤ 3 && (s == ['0'] || s.head? != some '0') &&
    s.foldl (fun n c => n * 10 + (c.toNat - 48)) 0 ≤ 255

def isVersion4 (s : List Char) : Bool :=
  let octets := cutAt '.' s
  octets.length == 4 && octets.all isOctet

def isHextet (s : List Char) : Bool := !s.isEmpty && s.length ≤ 4 && s.all isHex

/-- Groups of an address; an IPv4 address at the end counts as two. -/
def groups? (s : List Char) : Option (List (List Char)) :=
  let parts := cutAt ':' s
  if parts.length < 3 then none
  else match parts.getLast? with
    | some final =>
      if final.contains '.' then
        if isVersion4 final then some (parts.dropLast ++ [['0'], ['0']]) else none
      else some parts
    | none => none

/-- The groups around an empty one, which stands for at least one group of zeros.  At an end of the
address it is written as two empty groups. -/
def isAbridged (before behind : List (List Char)) : Bool :=
  let before := if before == [[]] then [] else before
  let behind := if behind == [[]] then [] else behind
  before.all isHextet && behind.all isHextet && before.length + behind.length < 8

def isGroups (parts : List (List Char)) : Bool :=
  let inner := (parts.drop 1).dropLast
  match inner.findIdx? (·.isEmpty) with
  | none => parts.length == 8 && parts.all isHextet
  | some i =>
    parts.length ≤ 9 && (inner.drop (i + 1)).all (!·.isEmpty) &&
      isAbridged (parts.take (i + 1)) (parts.drop (i + 2))

/-- An IPv6 address, perhaps with a zone behind a percent sign. -/
def isVersion6 (s : List Char) : Bool :=
  let address := s.takeWhile (· != '%')
  let zone := s.drop (address.length + 1)
  let zoned := address.length < s.length
  !s.contains '/' && (!zoned || (!zone.isEmpty && !zone.contains '%')) &&
    (groups? address).any isGroups

/-- An address of a later version: its number, a point, and at least one character that is no line
feed. -/
def isFuture (s : List Char) : Bool :=
  match s with
  | 'v' :: cs =>
    match cs.dropWhile isHex with
    | '.' :: rest => !(cs.takeWhile isHex).isEmpty && !rest.isEmpty && !rest.contains '\n'
    | _ => false
  | _ => false

def check (s : List Char) : Except UrlError Unit :=
  if s.head? = some 'v' then if isFuture s then .ok () else .error .futureAddress
  else if isVersion6 s then .ok ()
  else if isVersion4 s then .error .version4Address
  else .error (.notAnAddress (String.ofList s))

end Host

end TypedContent.Net
