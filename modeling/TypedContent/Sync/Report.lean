import TypedContent.Json.Value

/-!
# Reports

What a run did: the types it found, the files it wrote and removed, and what failed.
-/

namespace TypedContent.Sync

structure Report where
  baseUrl : String
  modelPath : String
  /-- The user whose token the server was shown; null for anonymous access. -/
  user : Json
  typeNames : List String
  written : List String
  removed : List String
  failed : List String
  /-- The path of the registry, if it was written. -/
  registry : Option String
  aborted : Bool
  errors : List String

namespace Report

/-- The report of a run that has not done anything yet. -/
def empty (baseUrl modelPath : String) : Report :=
  { baseUrl, modelPath, user := .null, typeNames := [], written := [], removed := [], failed := []
    registry := none, aborted := false, errors := [] }

def ok (r : Report) : Bool := !r.aborted && r.failed.isEmpty && r.registry.isSome

/-- A run that was not aborted but failed in part is partial if it wrote any model. -/
def status (r : Report) : String :=
  if r.aborted then "aborted"
  else if r.ok then "ok"
  else if r.written.isEmpty then "failed"
  else "partial"

/-- The same report of a run that was given up for one reason. -/
def abort (r : Report) (reason : String) : Report :=
  { r with aborted := true, errors := r.errors ++ [reason] }

def toJson (r : Report) : Json :=
  let texts (l : List String) : Json := .arr (l.map .str)
  .obj [("status", .str r.status), ("base_url", .str r.baseUrl), ("model_path", .str r.modelPath),
    ("user", r.user), ("types", texts r.typeNames), ("written", texts r.written),
    ("removed", texts r.removed), ("failed", texts r.failed),
    ("registry", r.registry.elim .null .str), ("errors", texts r.errors)]

theorem status_eq_ok_iff (r : Report) : r.status = "ok" ↔ r.ok = true := by
  unfold status
  cases ha : r.aborted with
  | true => simp [ok, ha]
  | false =>
    cases ho : r.ok with
    | true => simp
    | false => cases hw : r.written.isEmpty <;> simp

end Report

end TypedContent.Sync
