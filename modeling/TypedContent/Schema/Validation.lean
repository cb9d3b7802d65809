import TypedContent.Json.Value

/-!
# Checking data against a shape

Every field is checked, and each one at fault is listed with its place and what it lacks, in the
order of the shape's fields.
-/

namespace TypedContent.Schema

inductive Step where
  | field (name : String)
  | item (index : Nat)

def Step.render : Step → String
  | .field name => name
  | .item index => toString index

inductive Lack where
  | missing
  | text
  /-- Bytes that encode no text. -/
  | encodedText
  | nonEmptyText
  | list
  | object
  | dictionary
  | rule (message : String)

def Lack.render : Lack → String
  | .missing => "missing"
  | .text => "string_type"
  | .encodedText => "string_unicode"
  | .nonEmptyText => "string_too_short"
  | .list => "tuple_type"
  | .object => "model_type"
  | .dictionary => "dict_type"
  | .rule message => "Value error, " ++ message

structure Violation where
  place : List Step
  lack : Lack

def Violation.render (v : Violation) : String :=
  ".".intercalate (v.place.map Step.render) ++ ": " ++ v.lack.render

/-- The data does not have the shape called `shape`. -/
structure Invalid where
  shape : String
  violations : List Violation

def Invalid.message (e : Invalid) : String :=
  toString e.violations.length ++ " invalid for " ++ e.shape ++ " (" ++
    "; ".intercalate (e.violations.map Violation.render) ++ ")"

/-- A value, or everything that stands against it. -/
abbrev Checked (α : Type) := Except (List Violation) α

/-- Checks two parts, and lists the violations of both. -/
def both {α β : Type} : Checked α → Checked β → Checked (α × β)
  | .ok a, .ok b => .ok (a, b)
  | .ok _, .error f => .error f
  | .error e, .ok _ => .error e
  | .error e, .error f => .error (e ++ f)

/-- Moves the places of violations below a step. -/
def below {α : Type} (s : Step) : Checked α → Checked α
  | .ok a => .ok a
  | .error vs => .error (vs.map fun v => { v with place := s :: v.place })

/-- Checks the items of a list, counted from `index`. -/
def items {α : Type} (check : Json → Checked α) (index : Nat) : List Json → Checked (List α)
  | [] => .ok []
  | v :: vs =>
    match both (below (.item index) (check v)) (items check (index + 1) vs) with
    | .ok (a, rest) => .ok (a :: rest)
    | .error e => .error e

def object : Json → Checked (List (String × Json))
  | .obj fields => .ok fields
  | _ => .error [⟨[], .object⟩]

/-- The first field that is there, of several names for the same. -/
def firstOf (names : List String) (fields : List (String × Json)) : Option (String × Json) :=
  names.findSome? fun n => (fields.lookup n).map fun v => (n, v)

def requiredText (name : String) (fields : List (String × Json)) : Checked String :=
  match fields.lookup name with
  | none => .error [⟨[.field name], .missing⟩]
  | some (.str s) => .ok s
  | some _ => .error [⟨[.field name], .text⟩]

/-- An optional text; absent it is `default`. -/
def defaultText (default name : String) (fields : List (String × Json)) : Checked String :=
  match fields.lookup name with
  | none => .ok default
  | some (.str s) => .ok s
  | some _ => .error [⟨[.field name], .text⟩]

/-- An optional text under one of several names; absent or null it is empty. -/
def looseText (names : List String) (fields : List (String × Json)) : Checked String :=
  match firstOf names fields with
  | none => .ok ""
  | some (_, .null) => .ok ""
  | some (_, .str s) => .ok s
  | some (n, _) => .error [⟨[.field n], .text⟩]

/-- Names the shape in what a check found. -/
def named {α : Type} (shape : String) : Checked α → Except Invalid α
  | .ok a => .ok a
  | .error vs => .error ⟨shape, vs⟩

end TypedContent.Schema
