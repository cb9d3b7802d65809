import TypedContent.Schema.Validation

/-!
# Content types

What a content server tells of its content types: a summary of each in the overview, and for one
type its definition with all properties, in the server's order.
-/

namespace TypedContent.Schema

/-- A content type as the overview lists it; `guid` identifies it in further requests. -/
structure TypeSummary where
  name : String
  displayName : String
  description : String
  guid : String

/-- A property of a content type; `tag` names its type. -/
structure PropertyDefinition where
  name : String
  displayName : String
  description : String
  tag : String

structure TypeDefinition extends TypeSummary where
  properties : List PropertyDefinition

/-- The names under which the name for display may come. -/
def displayNames : List String := ["displayName", "display_name"]

def summaryOfFields (fields : List (String × Json)) : Checked TypeSummary :=
  match both (requiredText "name" fields) (both (looseText displayNames fields)
      (both (looseText ["description"] fields) (looseText ["guid"] fields))) with
  | .ok (name, display, description, guid) => .ok ⟨name, display, description, guid⟩
  | .error e => .error e

def propertyOfFields (fields : List (String × Json)) : Checked PropertyDefinition :=
  match both (requiredText "name" fields) (both (looseText displayNames fields)
      (both (looseText ["description"] fields) (looseText ["type"] fields))) with
  | .ok (name, display, description, tag) => .ok ⟨name, display, description, tag⟩
  | .error e => .error e

def checkSummary (v : Json) : Checked TypeSummary := object v >>= summaryOfFields

def checkProperty (v : Json) : Checked PropertyDefinition := object v >>= propertyOfFields

/-- The list of properties; absent or null it is empty. -/
def propertiesOfFields (fields : List (String × Json)) : Checked (List PropertyDefinition) :=
  below (.field "properties") <|
    match fields.lookup "properties" with
    | none => .ok []
    | some .null => .ok []
    | some (.arr vs) => items checkProperty 0 vs
    | some _ => .error [⟨[], .list⟩]

def checkDefinition (v : Json) : Checked TypeDefinition := do
  let fields ← object v
  match both (summaryOfFields fields) (propertiesOfFields fields) with
  | .ok (summary, properties) => .ok ⟨summary, properties⟩
  | .error e => .error e

def TypeSummary.ofJson (v : Json) : Except Invalid TypeSummary :=
  named "TypeDefinition" (checkSummary v)

def PropertyDefinition.ofJson (v : Json) : Except Invalid PropertyDefinition :=
  named "PropertyDefinition" (checkProperty v)

def TypeDefinition.ofJson (v : Json) : Except Invalid TypeDefinition :=
  named "TypeDefinitionData" (checkDefinition v)

/-- The summary as an object with the names that the server uses. -/
def TypeSummary.toJson (t : TypeSummary) : Json :=
  .obj [("name", .str t.name), ("displayName", .str t.displayName),
    ("description", .str t.description), ("guid", .str t.guid)]

end TypedContent.Schema
