import TypedContent.Command.Outcome
import TypedContent.Json.Writer
import TypedContent.Sync.Run

/-!
# Commands for models

`models sync` makes the model files agree with a server, and `models list` shows the types of a
server.
-/

namespace TypedContent.Command

open Files Settings Sync

def connectionOptions : List OptionSpec :=
  [⟨["--env", "-e"], true⟩, ⟨["--domain", "-d"], true⟩, ⟨["--insecure", "-i"], false⟩,
   ⟨["--root"], true⟩]

def jsonOption : OptionSpec := ⟨["--json-output", "--json"], false⟩

def syncSpec : Spec where
  path := "episync models sync"
  arguments := ""
  options := connectionOptions ++ [⟨["--model-dir"], true⟩, ⟨["--workers"], true⟩, jsonOption]
  isGroup := false

def listSpec : Spec where
  path := "episync models list"
  arguments := ""
  options := connectionOptions ++ [jsonOption]
  isGroup := false

def checkConnection (d : Disk) (o : OptionSpec) (v : String) : Except Refusal Unit :=
  match o.key with
  | "--env" => (checkChoice o (Environment.all.map (·.name)) v).mapError .misuse
  | "--root" => checkDirectory d o v
  | "--workers" => checkRange o 1 64 v
  | _ => .ok ()

def checkWords (d : Disk) (w : Words) : Except Refusal Unit := do
  checkGiven (checkConnection d) w
  checkCount 0 w

/-! ## Connecting -/

/-- Where the settings of a command come from. -/
def settingsRequest (w : Words) (environ : List (String × String)) : Settings.Request :=
  let given (key : String) : Json := (w.value? key).elim .null .str
  { root := (w.value? "--root").map Path.ofString
    environment := (w.value? "--env").getD Environment.development.name
    overrides := [("episerver_url", given "--domain"), ("model_dir", given "--model-dir")] ++
      (if w.isGiven "--insecure" then [("insecure", .bool true)] else [])
    environ }

def workersOf (w : Words) : Nat :=
  (((w.value? "--workers").bind fun v => Text.integer? 10 v.toList).map Int.toNat).getD defaultWorkers

/-- The job for some settings.  The tokens of a project are kept in its root directory. -/
def jobOf (s : Configuration) (network : Net.Network) (workers : Nat) : Job :=
  let tokens := (Net.TokenStore.ofServer s.rootDir s.serverUrl).toOption
  let service := Net.Service.ofUrl s.serverUrl tokens s.insecure Net.Service.defaultTimeout
  ⟨.ofService service network, s.modelPath, tokens.map Login.ofTokens, workers⟩

/-- Loads the settings and goes on with them. -/
def withSettings (world : World) (w : Words)
    (command : List Log.Event → Configuration → Outcome) : Outcome :=
  match Settings.load world.disk (settingsRequest w world.environ) with
  | (log, .error (.config e)) => .failed world.disk log e.message
  | (log, .error f) => .crashed world.disk log (.settings f)
  | (log, .ok s) => command log s

def lines (ls : List String) : String := String.join (ls.map (· ++ "\n"))

/-! ## Synchronizing -/

def errorLines (r : Report) : List String := r.errors.map ("   • " ++ ·)

def abortedText (r : Report) : String := lines ("❌ Synchronization aborted" :: errorLines r)

def headText (r : Report) : List String :=
  ["", "🔄 Episerver models — " ++ r.baseUrl, "   Output: " ++ r.modelPath,
   "   User:   " ++ (if r.user.isPresent then r.user.plain else "(anonymous)"), ""]

def bodyText (r : Report) : List String :=
  r.written.map (fun p => "   ✓ " ++ (Path.ofString p).name) ++
  r.removed.map ("   🗑 " ++ ·) ++
  r.failed.map ("   ✗ " ++ ·) ++
  ["", "   Result: " ++ toString r.written.length ++ "/" ++ toString r.typeNames.length ++
    " models written"] ++
  (if r.registry.isNone then ["   TypeMapper.ts was not written"] else [])

/-- What a run is reported with. -/
def reportText (quiet : Bool) (r : Report) : String :=
  if r.aborted then abortedText r
  else lines ((if quiet then [] else headText r) ++ bodyText r ++
    (if r.ok then [] else errorLines r) ++ [""])

/-- Makes the model files agree with the server. -/
def sync (world : World) (quiet : Bool) (w : Words) : Outcome :=
  withSettings world w fun log s =>
    let run := (jobOf s world.network (workersOf w)).run .sequential world.disk
    let log := log ++ run.log
    match run.report with
    | .error e => .crashed run.disk log (.access e)
    | .ok r =>
      let out := if w.isGiven jsonOption.key then r.toJson.indented 0 ++ "\n" else reportText quiet r
      ⟨if r.ok then 0 else 1, out, "", log, run.exchanges, run.disk, none⟩

/-! ## Listing -/

def listLine (t : Schema.TypeSummary) : String :=
  let label := if t.displayName ≠ "" ∧ t.displayName ≠ t.name then " — " ++ t.displayName else ""
  "   • " ++ t.name ++ label ++ "  → " ++ Identifier.dataName t.name

def listText (types : List Schema.TypeSummary) : String :=
  lines (("📋 " ++ toString types.length ++ " content types") :: types.map listLine)

/-- Shows the types of the server. -/
def list (world : World) (w : Words) : Outcome :=
  withSettings world w fun log s =>
    let o := fetchOverview (jobOf s world.network defaultWorkers).client world.disk
    let log := log ++ o.log
    match o.types with
    | none =>
      { Outcome.failed world.disk log "Unable to retrieve the content types" with
        exchanges := [o.exchange] }
    | some types =>
      let out := if w.isGiven jsonOption.key then
          (Json.arr (types.map (·.toJson))).indented 0 ++ "\n"
        else listText types
      ⟨0, out, "", log, [o.exchange], world.disk, none⟩

end TypedContent.Command
