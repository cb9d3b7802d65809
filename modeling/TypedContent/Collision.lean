import TypedContent.Distinct
import TypedContent.Identifier
import TypedContent.Text.Quoted

/-!
# Collisions

Distinct names may lead to one identifier.  `Collision.find?` reports the first class of distinct
names that do; repeating a name is no collision.
-/

namespace TypedContent

/-- All the names lead to `identifier`, or to identifiers that case folding makes equal. -/
structure Collision where
  what : String
  identifier : String
  names : List String

namespace Collision

def message (c : Collision) : String :=
  c.what ++ " collision: " ++ ", ".intercalate (c.names.map Text.quoted) ++ " all map to '" ++
    c.identifier ++ "'"

def foldCase (s : String) : String := String.ofList (Text.Casing.fold s.toList)

/-- Identifiers with equal keys are the same; `folded` disregards case. -/
def key (derive : String → String) (folded : Bool) (name : String) : String :=
  if folded then foldCase (derive name) else derive name

/-- The names with a key, in order. -/
def classOf (key : String) (keyed : List (String × String)) : List String :=
  (keyed.filter fun e => e.1 = key).map (·.2)

/-- The class of the earliest name that shares its key with another name. -/
def find? (what : String) (derive : String → String) (folded : Bool) (names : List String) :
    Option Collision :=
  let keyed := (distinct names).map fun n => (key derive folded n, n)
  keyed.findSome? fun (k, _) =>
    match classOf k keyed with
    | first :: second :: rest => some ⟨what, derive first, first :: second :: rest⟩
    | _ => none

end Collision

end TypedContent
