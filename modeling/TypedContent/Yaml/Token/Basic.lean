/-!
# Tokens of YAML documents

A document is a sequence of tokens.  Collections in block form are bracketed by tokens too, which
the indentation of the text stands for.
-/

namespace TypedContent.Yaml

/-- What a document fails with. -/
inductive Fault where
  /-- The text is no document, or a value does not fit its tag. -/
  | malformed
  /-- An escape names the code point `n` above U+10FFFF. -/
  | codePoint (n : Nat)
  | integer (base : Nat) (text : String)
  /-- An integer has too many digits. -/
  | longInteger (digits : Nat)
  | float (text : String)
  | date (reason : String)
  | boolean (text : String)
  /-- A number has no characters. -/
  | emptyNumber
  /-- A text tagged as a point in time is none. -/
  | noTimestamp
  /-- A collection is tagged as a point in time. -/
  | collectionAsTimestamp
  /-- A number has so many places to the base 60 that the first one weighs too much. -/
  | tooManyPlaces

inductive Directive where
  | version (major : Nat)
  | tag (handle base : String)
  | other

inductive Token where
  | directive (d : Directive)
  | documentStart
  | documentEnd
  | blockSequenceStart
  | blockMappingStart
  | blockEnd
  | flowSequenceStart
  | flowSequenceEnd
  | flowMappingStart
  | flowMappingEnd
  | blockEntry
  | flowEntry
  | key
  | value
  | alias (name : String)
  | anchor (name : String)
  | tag (handle : Option String) (suffix : String)
  | scalar (text : String) (plain : Bool)
  | streamEnd
  /-- The text cannot be read any further. -/
  | fault (f : Fault)

end TypedContent.Yaml
