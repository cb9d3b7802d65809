import TypedContent.Schema.Validation

/-!
# Generated files

A generated file has a path relative to the output directory, its content, and a reason.
-/

namespace TypedContent.TypeScript

open Schema

structure SourceFile where
  path : String
  content : String
  reason : String

/-- The ending of model files. -/
def extension : String := ".ts"

def checkSourceFile (v : Json) : Checked SourceFile := do
  let fields ← object v
  match both (requiredText "path" fields)
      (both (requiredText "content" fields) (defaultText "" "reason" fields)) with
  | .ok (path, content, reason) => .ok ⟨path, content, reason⟩
  | .error e => .error e

def SourceFile.ofJson (v : Json) : Except Invalid SourceFile :=
  named "GeneratedFile" (checkSourceFile v)

end TypedContent.TypeScript
