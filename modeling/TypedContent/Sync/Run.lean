import TypedContent.Sync.Cleanup
import TypedContent.Sync.FanOut
import TypedContent.Sync.Overview
import TypedContent.Sync.Report

/-!
# Runs

A run makes the files of the model directory agree with the types of a server.  It is given up
before anything is removed or written if the directory or the overview cannot be used, or if two
types would share their identifiers.  After that no failure of one type stops the others.
-/

namespace TypedContent.Sync

open Files Schema

structure Job where
  client : Client
  directory : Path
  login : Option Login
  workers : Nat

def defaultWorkers : Nat := 8

/-- How many tasks run at a time for `n` types. -/
def Job.workersFor (j : Job) (n : Nat) : Nat := min (max 1 j.workers) (max n 1)

/-- A run so far.  The report is missing if the directory cannot be named at all, or an entry of it
cannot be looked up. -/
structure Run where
  disk : Disk
  log : List Log.Event
  exchanges : List Exchange
  report : Except AccessError Report

def info (message : String) : Log.Event := .main logger Log.Level.info message
def error (message : String) : Log.Event := .main logger Log.Level.error message

namespace Job

/-- The outcome of a fan-out, added to the report so far. -/
def conclude (r : Report) (f : FanOut) (order : List Nat) : Report :=
  { r with
    written := f.written.map (·.toString)
    failed := f.failed
    registry := f.registryPath.map (·.toString)
    errors := r.errors ++ f.registryErrors ++
      (f.failures order).map fun (name, e) => name ++ ": " ++ e.message }

def conclusionLog (r : Report) (f : FanOut) (order : List Nat) : List Log.Event :=
  (f.failures order).map (fun (name, e) =>
    error ("  - " ++ name ++ " not generated: " ++ e.message)) ++
  [info ("Finished: " ++ toString r.written.length ++ " written, " ++ toString r.failed.length ++
    " failed, " ++ toString r.removed.length ++ " removed")]

/-- Generates all models. -/
def generate (j : Job) (s : Schedule) (types : List TypeSummary) (r : Report) (d : Disk) : Run :=
  let w : Work := ⟨j.client, j.directory, types.map (·.name), j.workersFor types.length⟩
  let f := (FanOut.start d types).run w s
  let report := conclude r f s.collection
  { disk := f.disk
    log := info ("Start creating/updating " ++ toString types.length ++ " model definitions") ::
      f.log ++ conclusionLog report f s.collection
    exchanges := f.exchanges
    report := .ok report }

def aborted (r : Report) (d : Disk) (reason : String) : Run :=
  ⟨d, [error ("Aborting synchronization: " ++ reason)], [], .ok (r.abort reason)⟩

/-- Removes stale files, then generates all models. -/
def replace (j : Job) (s : Schedule) (types : List TypeSummary) (r : Report) (d : Disk) : Run :=
  let names := types.map (·.name)
  let r := { r with typeNames := names }
  match Collision.find? "model name" Identifier.stem true names with
  | some c => aborted r d c.message
  | none =>
    match clearModels d j.directory (names.map Identifier.dataName) with
    | (log, .error e) =>
      let rest := aborted r d e.message
      { rest with log := log ++ rest.log }
    | (log, .ok c) =>
      match c.stopped with
      | some e => ⟨c.disk, log ++ c.log, [], .error (.disk e)⟩
      | none =>
        let r := { r with removed := c.removed, errors := r.errors ++ c.errors }
        let rest := j.generate s types r c.disk
        { rest with log := log ++ c.log ++ rest.log }

/-- Asks for the overview and goes on with its types. -/
def survey (j : Job) (s : Schedule) (r : Report) (d : Disk) : Run :=
  let o := fetchOverview j.client d
  let log := info "Retrieving content types" :: o.log
  match o.types with
  | none => ⟨d, log, [o.exchange], .ok (r.abort "Unable to retrieve the content type overview")⟩
  | some types =>
    let rest := j.replace s (uniqueTypes types) r d
    { rest with
      log := log ++ duplicateWarnings [] types ++ rest.log
      exchanges := o.exchange :: rest.exchanges }

/-- A whole run. -/
def run (j : Job) (s : Schedule) (d : Disk) : Run :=
  let place := j.directory.toString
  let (loginLog, user) := currentUser j.login d
  let log := [info "Start: Episerver IContent model synchronization",
    info ("Using Episerver installed at: " ++ j.client.baseUrl)] ++ loginLog
  let r := { Report.empty j.client.baseUrl place with user }
  match d.makeDirectory j.directory with
  | (d, some (.disk e)) =>
    ⟨d, log ++ [error ("Unable to create model directory " ++ place ++ ": " ++ e.message)], [],
      .ok (r.abort ("create " ++ place ++ ": " ++ e.message))⟩
  | (d, some .nulInPath) => ⟨d, log, [], .error .nulInPath⟩
  | (d, none) =>
    let rest := j.survey s r d
    { rest with log := log ++ rest.log }

end Job

end TypedContent.Sync
