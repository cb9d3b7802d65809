import TypedContent.Distinct
import TypedContent.Schema.Definition
import TypedContent.Sync.Client

/-!
# The overview

The overview lists the content types of a server.  It is usable if each of its entries is a summary
of a type.  Of several entries with one name the first counts.
-/

namespace TypedContent.Sync

open Files Schema

/-- What is wrong with an overview. -/
inductive OverviewError where
  | notList (kind : String)
  | invalid (e : Invalid)

def OverviewError.message : OverviewError → String
  | .notList kind => "Unexpected model overview payload: " ++ kind
  | .invalid e => "Invalid model overview: " ++ e.message

def readOverview : Json → Except OverviewError (List TypeSummary)
  | .arr vs => (vs.mapM TypeSummary.ofJson).mapError .invalid
  | v => .error (.notList v.kindName)

structure Overview where
  log : List Log.Event
  exchange : Exchange
  types : Option (List TypeSummary)

/-- Asks for the overview. -/
def fetchOverview (c : Client) (d : Disk) : Overview :=
  let r := c.request d .overview "model overview"
  match r.payload with
  | none => ⟨r.log, r.exchange, none⟩
  | some payload =>
    match readOverview payload with
    | .ok types => ⟨r.log, r.exchange, some types⟩
    | .error e => ⟨r.log ++ [.main logger Log.Level.error e.message], r.exchange, none⟩

/-- Warnings of the entries that do not count since an earlier one has their name. -/
def duplicateWarnings (seen : List String) : List TypeSummary → List Log.Event
  | [] => []
  | t :: ts =>
    if t.name ∈ seen then
      .main logger Log.Level.warning
        ("Ignoring duplicate content type '" ++ t.name ++ "' (" ++ t.guid ++ ")") ::
        duplicateWarnings seen ts
    else duplicateWarnings (t.name :: seen) ts

/-- The entries that count. -/
def uniqueTypes (types : List TypeSummary) : List TypeSummary := distinctBy (·.name) types

end TypedContent.Sync
