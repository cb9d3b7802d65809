import TypedContent.Text.Blank
import TypedContent.Text.Lines

/-!
# Documentation comments

A comment block has a title, a description and tags.  Text inside it cannot close it: the closing
mark is broken by a backslash.
-/

namespace TypedContent.TypeScript

/-- Breaks every closing mark. -/
def guardClosing : List Char → List Char
  | [] => []
  | '*' :: '/' :: r => '*' :: '\\' :: '/' :: guardClosing r
  | c :: r => c :: guardClosing r

/-- A line inside a comment block, without blanks at its end. -/
def commentLine (indent line : String) : String :=
  match Text.trimRight (guardClosing line.toList) with
  | [] => indent ++ " *"
  | text => indent ++ " * " ++ String.ofList text

/-- The lines of a comment block. -/
def commentBlock (indent title description : String) (tags : List String) : List String :=
  let body := [title, ""] ++ (Text.splitLines description.toList).map String.ofList ++
    tags.flatMap fun tag => ["", tag]
  [indent ++ "/**"] ++ body.map (commentLine indent) ++ [indent ++ " */"]

end TypedContent.TypeScript
