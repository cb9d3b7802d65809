import TypedContent.Text.Casing

/-!
# Identifiers of generated code

All identifiers of a content type are its name, made safe, with a suffix.  A field keeps the
property's name but for the case of the first character.
-/

namespace TypedContent.Identifier

def isWordChar (c : Char) : Bool :=
  ('a' ≤ c && c ≤ 'z') || ('A' ≤ c && c ≤ 'Z') || ('0' ≤ c && c ≤ '9') || c == '_'

/-- Letters, digits and underscores stay, every other character becomes an underscore. -/
def wordChars (name : List Char) : List Char := name.map fun c => if isWordChar c then c else '_'

/-- Puts an underscore where nothing or a digit stands first. -/
def guardFirst : List Char → List Char
  | [] => ['_']
  | c :: r => if c.isDigit then '_' :: c :: r else c :: r

/-- The stem that all identifiers of a content type share. -/
def stem (name : String) : String := String.ofList (guardFirst (wordChars name.toList))

/-- The interface that describes the data of a content type. -/
def dataName (name : String) : String := stem name ++ "Data"

/-- The class of a content type's instances. -/
def typeName (name : String) : String := stem name ++ "Type"

/-- The interface for the properties of a component that shows the content type. -/
def propsName (name : String) : String := stem name ++ "Props"

/-- The field of a property: its name with the first character in lower case. -/
def fieldName (name : String) : String :=
  match name.toList with
  | [] => ""
  | c :: r => String.ofList (Text.Casing.lower [c] ++ r)

theorem isWordChar_wordChars (name : List Char) : ∀ c ∈ wordChars name, isWordChar c = true := by
  intro c hc
  simp only [wordChars, List.mem_map] at hc
  obtain ⟨d, _, rfl⟩ := hc
  split
  · assumption
  · decide

end TypedContent.Identifier
