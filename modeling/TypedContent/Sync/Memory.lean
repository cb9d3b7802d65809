import TypedContent.Sync.Client

/-!
# Servers in memory

A server in memory answers from a list of type definitions.  It can be told to fail, or to answer
with some other value.  It cannot go past a definition that is no object.
-/

namespace TypedContent.Sync

/-- How a question fails: with an envelope for an error, or with an exception. -/
inductive Failing where
  | envelope (error : Json)
  | raise (reason : String)

/-- Why a question has no answer. -/
inductive MemoryFault where
  | raised (path reason : String)
  /-- A definition of another kind than an object was asked for what only objects have. -/
  | notObject (kind part : String)

def MemoryFault.message : MemoryFault → String
  | .raised path reason => "Error while fetching " ++ path ++ ": " ++ reason
  | .notObject kind part => "'" ++ kind ++ "' object has no attribute '" ++ part ++ "'"

structure MemoryServer where
  baseUrl : String
  types : List Json
  overviewFailure : Option Failing
  typeFailures : List (String × Failing)
  /-- Values that take the place of answers. -/
  overviewPayload : Option Json
  typePayloads : List (String × Json)

namespace MemoryServer

def ofTypes (baseUrl : String) (types : List Json) : MemoryServer :=
  ⟨baseUrl, types, none, [], none, []⟩

def path : Question → String
  | .overview => "model"
  | .type guid => "model/" ++ guid

/-- A type definition without its properties. -/
def withoutProperties : Json → Except MemoryFault Json
  | .obj fields => .ok (.obj (fields.filter fun f => f.1 ≠ "properties"))
  | v => .error (.notObject v.kindName "items")

def failureOf (s : MemoryServer) : Question → Option Failing
  | .overview => s.overviewFailure
  | .type guid => s.typeFailures.lookup guid

def payloadOf (s : MemoryServer) : Question → Option Json
  | .overview => s.overviewPayload
  | .type guid => s.typePayloads.lookup guid

def hasGuid (guid : String) (fields : List (String × Json)) : Bool :=
  match fields.lookup "guid" with
  | some (.str g) => g == guid
  | _ => false

/-- The first definition with an identifier. -/
def definition? (guid : String) : List Json → Except MemoryFault (Option Json)
  | [] => .ok none
  | .obj fields :: ts => if hasGuid guid fields then .ok (some (.obj fields)) else definition? guid ts
  | v :: _ => .error (.notObject v.kindName "get")

def notFound : Json := .obj [("error", .str "not found"), ("contentType", .str "Errors.NotFound")]

/-- What the server knows of a question. -/
def known (s : MemoryServer) : Question → Except MemoryFault Json
  | .overview => (s.types.mapM withoutProperties).map .arr
  | .type guid => (definition? guid s.types).map fun found => found.getD notFound

/-- The answer to a question.  A value that takes the place of an answer does so only where the
server can answer. -/
def answer (s : MemoryServer) (q : Question) : Except MemoryFault Json := do
  let usual ← match s.failureOf q with
    | some (.raise reason) => throw (.raised (path q) reason)
    | some (.envelope e) =>
      pure (.obj [("error", e), ("contentType", .str "Errors.NetworkError")])
    | none => s.known q
  pure ((s.payloadOf q).getD usual)

def client (s : MemoryServer) : Client where
  baseUrl := s.baseUrl
  answer _ q := ⟨[], none, (s.answer q).mapError (·.message)⟩

end MemoryServer

end TypedContent.Sync
