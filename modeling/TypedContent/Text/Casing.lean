import TypedContent.Text.Casing.Table

/-!
# Letter case

Upper and lower case of single characters, and case folding, which makes two texts comparable
without regard to case.  Folding can lengthen a text: `ß` folds to `ss`.
-/

namespace TypedContent.Text.Casing

def lowerMapping : Mapping := ⟨lowerRuns, lowerExpansions⟩
def upperMapping : Mapping := ⟨upperRuns, upperExpansions⟩
def foldMapping : Mapping := ⟨foldRuns, foldExpansions⟩

def lower (s : List Char) : List Char := s.flatMap lowerMapping.apply
def upper (s : List Char) : List Char := s.flatMap upperMapping.apply
def fold (s : List Char) : List Char := s.flatMap foldMapping.apply

end TypedContent.Text.Casing
