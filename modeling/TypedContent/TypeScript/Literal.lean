/-!
# String literals

Inside a literal the backslash and the quote in use are escaped; nothing else is.
-/

namespace TypedContent.TypeScript

def escapeLiteralChar (quote c : Char) : List Char :=
  if c = '\\' ∨ c = quote then ['\\', c] else [c]

/-- What stands between the quotes of a literal. -/
def escapeLiteral (quote : Char) (s : String) : String :=
  String.ofList (s.toList.flatMap (escapeLiteralChar quote))

end TypedContent.TypeScript
