import TypedContent.Identifier

/-!
# Property types

A property's tag is one of a closed table of tags, matched exactly, or the name of another content
type, or unknown.  An unknown tag leaves the property untyped, with the tag in a comment.
-/

namespace TypedContent.TypeScript

/-- The property types of the content delivery library. -/
inductive PropertyType where
  | boolean
  | number
  | string
  | contentReference
  | contentReferenceList
  | contentArea
  | linkList

def PropertyType.name : PropertyType → String
  | .boolean => "BooleanProperty"
  | .number => "NumberProperty"
  | .string => "StringProperty"
  | .contentReference => "ContentReferenceProperty"
  | .contentReferenceList => "ContentReferenceListProperty"
  | .contentArea => "ContentAreaProperty"
  | .linkList => "LinkListProperty"

def propertyTags : List (String × PropertyType) :=
  [("Boolean", .boolean), ("Decimal", .number), ("Number", .number), ("FloatNumber", .number),
   ("String", .string), ("string", .string), ("LongString", .string), ("XhtmlString", .string),
   ("Url", .string), ("ContentReference", .contentReference), ("PageReference", .contentReference),
   ("ContentReferenceList", .contentReferenceList), ("ContentArea", .contentArea),
   ("LinkCollection", .linkList)]

/-- What a tag means among the content types `known`. -/
inductive TagMeaning where
  | property (type : PropertyType)
  | model (name : String)
  | unknown (tag : String)

def TagMeaning.of (known : List String) (tag : String) : TagMeaning :=
  match propertyTags.lookup tag with
  | some type => .property type
  | none => if tag ∈ known then .model tag else .unknown tag

/-- The type expression that stands behind the field's colon. -/
def TagMeaning.expression : TagMeaning → String
  | .property type => "ContentDelivery." ++ type.name
  | .model name => Identifier.dataName name
  | .unknown tag => "ContentDelivery.Property<any> // Original type: " ++ tag

def TagMeaning.isModel : TagMeaning → Bool
  | .model _ => true
  | _ => false

/-- Whether the tag refers to another content type. -/
def isReference (known : List String) (tag : String) : Bool := (TagMeaning.of known tag).isModel

theorem isReference_iff (known : List String) (tag : String) :
    isReference known tag = true ↔ propertyTags.lookup tag = none ∧ tag ∈ known := by
  unfold isReference TagMeaning.of
  cases h : propertyTags.lookup tag with
  | some t => simp [TagMeaning.isModel]
  | none => by_cases hk : tag ∈ known <;> simp [TagMeaning.isModel, hk]

end TypedContent.TypeScript
