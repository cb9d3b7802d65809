import TypedContent.Schema.Validation

/-!
# Options of the expansion

Which files are modules, which ending their names lose, and which files are left out.
-/

namespace TypedContent.Preload

open Schema

structure Options where
  pattern : String
  extension : String
  exclude : Option String

inductive OptionsError where
  | notObject (kind : String)
  | invalid (e : Invalid)

def OptionsError.message : OptionsError → String
  | .notObject kind => "Invalid PreLoad options: expected an object, got " ++ kind
  | .invalid e => "Invalid PreLoad options: " ++ e.message

def checkPattern (fields : List (String × Json)) : Checked String :=
  match requiredText "pattern" fields with
  | .ok "" => .error [⟨[.field "pattern"], .nonEmptyText⟩]
  | r => r

def checkExclude (fields : List (String × Json)) : Checked (Option String) :=
  match fields.lookup "exclude" with
  | none => .ok none
  | some .null => .ok none
  | some (.str s) => .ok (some s)
  | some _ => .error [⟨[.field "exclude"], .text⟩]

def checkOptions (fields : List (String × Json)) : Checked Options :=
  match both (checkPattern fields) (both (requiredText "extension" fields) (checkExclude fields)) with
  | .ok (pattern, extension, exclude) => .ok ⟨pattern, extension, exclude⟩
  | .error e => .error e

def Options.ofJson : Json → Except OptionsError Options
  | .obj fields =>
    match checkOptions fields with
    | .ok o => .ok o
    | .error vs => .error (.invalid ⟨"PreLoadOptions", vs⟩)
  | v => .error (.notObject v.kindName)

end TypedContent.Preload
