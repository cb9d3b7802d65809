import TypedContent.Schema.Validation

/-!
# Error envelopes

A server that refuses a request is answered for by an object with an `error` and the `contentType`
of the refusal.  A payload is such an envelope when both are present and not empty.
-/

namespace TypedContent.Schema

def isNetworkError : Json → Bool
  | .obj fields =>
    ((fields.lookup "error").any Json.isPresent) && ((fields.lookup "contentType").any Json.isPresent)
  | _ => false

structure NetworkError where
  error : Json
  contentType : String

def NetworkError.toJson (e : NetworkError) : Json :=
  .obj [("error", e.error), ("contentType", .str e.contentType)]

def checkContentType (fields : List (String × Json)) : Checked String :=
  match firstOf ["contentType", "content_type"] fields with
  | none => .error [⟨[.field "contentType"], .missing⟩]
  | some (_, .str s) => .ok s
  | some (n, _) => .error [⟨[.field n], .text⟩]

def checkNetworkError (v : Json) : Checked NetworkError := do
  let fields ← object v
  let error : Checked Json := match fields.lookup "error" with
    | none => .error [⟨[.field "error"], .missing⟩]
    | some e => .ok e
  match both error (checkContentType fields) with
  | .ok (error, contentType) => .ok ⟨error, contentType⟩
  | .error e => .error e

def NetworkError.ofJson (v : Json) : Except Invalid NetworkError :=
  named "NetworkErrorData" (checkNetworkError v)

end TypedContent.Schema
