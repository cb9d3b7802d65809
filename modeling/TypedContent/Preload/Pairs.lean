import TypedContent.Schema.Validation

/-!
# Options given as pairs

Options are given as an object, or as a list of pairs of a name and a value.  A later pair replaces
the value of an earlier one with its name, in the place of the earlier one.
-/

namespace TypedContent.Preload

open Schema

/-- The name in a pair: a text, or some other value, known by how a message shows it. -/
inductive PairName where
  | text (name : String)
  | other (shown : String)
  deriving DecidableEq

inductive PairsFault where
  | notList (kind : String)
  | notPair (index : Nat)
  | wrongLength (index length : Nat)
  | collectionAsName (kind : String)
  /-- Some names are no texts. -/
  | names (e : Invalid)

def PairsFault.message : PairsFault → String
  | .notList kind => "'" ++ kind ++ "' object is not iterable"
  | .notPair index =>
    "cannot convert dictionary update sequence element #" ++ toString index ++ " to a sequence"
  | .wrongLength index length =>
    "dictionary update sequence element #" ++ toString index ++ " has length " ++
      toString length ++ "; 2 is required"
  | .collectionAsName kind => "unhashable type: '" ++ kind ++ "'"
  | .names e => e.message

/-- Truth values as names are the numbers one and zero. -/
def PairName.ofJson : Json → Except PairsFault PairName
  | .str s => .ok (.text s)
  | .null => .ok (.other Json.null.shown)
  | .bool b => .ok (.other (if b then "1" else "0"))
  | .int n => .ok (.other (toString n))
  | .real x => .ok (.other x.shown)
  | v => .error (.collectionAsName v.kindName)

namespace Pairs

/-- What a value holds one after the other: a text its characters, and an object its names. -/
def elements? : Json → Option (List Json)
  | .arr vs => some vs
  | .str s => some (s.toList.map fun c => .str (String.singleton c))
  | .obj fields => some (fields.map fun f => .str f.1)
  | _ => none

def pair (index : Nat) (v : Json) : Except PairsFault (PairName × Json) :=
  match elements? v with
  | none => .error (.notPair index)
  | some [name, value] => (PairName.ofJson name).map fun n => (n, value)
  | some vs => .error (.wrongLength index vs.length)

/-- Puts the pairs, counted from `index`, behind those that are there. -/
def collect (index : Nat) (done : List (PairName × Json)) :
    List Json → Except PairsFault (List (PairName × Json))
  | [] => .ok done
  | v :: vs =>
    match pair index v with
    | .ok (name, value) => collect (index + 1) (Json.setField name value done) vs
    | .error e => .error e

def misnamed? : PairName × Json → Option Violation
  | (.text _, _) => none
  | (.other shown, _) => some ⟨[.field "options", .field shown, .field "[key]"], .text⟩

def field? : PairName × Json → Option (String × Json)
  | (.text name, v) => some (name, v)
  | (.other _, _) => none

/-- The options in a value that is no object. -/
def read (v : Json) : Except PairsFault (List (String × Json)) :=
  match elements? v with
  | none => .error (.notList v.kindName)
  | some vs =>
    match collect 0 [] vs with
    | .error e => .error e
    | .ok pairs =>
      match pairs.filterMap misnamed? with
      | [] => .ok (pairs.filterMap field?)
      | violations => .error (.names ⟨"LoaderContext", violations⟩)

end Pairs

/-- The options in a value; one that is not present holds none. -/
def optionFields (v : Json) : Except PairsFault (List (String × Json)) :=
  if v.isPresent then
    match v with
    | .obj fields => .ok fields
    | v => Pairs.read v
  else .ok []

end TypedContent.Preload
