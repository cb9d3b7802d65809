/-!
# Placeholders

A placeholder is the annotation `@PreLoad("path","target","base")`, where no argument holds a double
quote or a line feed.  `Placeholder.find?` gives the first one of a source, with the text before it
and behind it.
-/

namespace TypedContent.Preload

/-- The modules below `path` are registered in the variable `target`, under module paths that begin
with `base`. -/
structure Placeholder where
  path : String
  target : String
  base : String

namespace Placeholder

def opening : List Char := "@PreLoad(\"".toList
def between : List Char := "\",\"".toList
def closing : List Char := "\")".toList

/-- The placeholder as it stands in a source. -/
def text (a : Placeholder) : List Char :=
  opening ++ a.path.toList ++ between ++ a.target.toList ++ between ++ a.base.toList ++ closing

def isArgumentChar (c : Char) : Bool := c != '"' && c != '\n'

/-- What is left behind `lit`, if the text starts with it. -/
def skip (lit s : List Char) : Option (List Char) :=
  if lit.isPrefixOf s then some (s.drop lit.length) else none

/-- The longest argument at the start of a text, with what is left behind it. -/
def argument (s : List Char) : String × List Char :=
  (String.ofList (s.takeWhile isArgumentChar), s.dropWhile isArgumentChar)

/-- The placeholder at the very start of a text, with what is left behind it. -/
def parse? (s : List Char) : Option (Placeholder × List Char) := do
  let s ← skip opening s
  let (path, s) := argument s
  let s ← skip between s
  let (target, s) := argument s
  let s ← skip between s
  let (base, s) := argument s
  let s ← skip closing s
  pure (⟨path, target, base⟩, s)

/-- The first placeholder, between the text before it and the text behind it. -/
def find? : List Char → Option (List Char × Placeholder × List Char)
  | [] => none
  | c :: s =>
    match parse? (c :: s) with
    | some (a, rest) => some ([], a, rest)
    | none => (find? s).map fun (before, a, rest) => (c :: before, a, rest)

theorem skip_append (lit s : List Char) : skip lit (lit ++ s) = some s := by
  simp [skip]

theorem eq_append_of_skip {lit s t : List Char} (h : skip lit s = some t) : s = lit ++ t := by
  unfold skip at h
  split at h
  · rename_i hp
    obtain ⟨u, rfl⟩ := List.isPrefixOf_iff_prefix.mp hp
    simpa using h
  · cases h

theorem argument_append (s : List Char) :
    (argument s).1.toList ++ (argument s).2 = s := by
  simp [argument]

end Placeholder

end TypedContent.Preload
