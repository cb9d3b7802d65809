import TypedContent.Distinct
import TypedContent.Sync.Generation

/-!
# The fan-out

The models of all types are generated by tasks, and the registry is written beside them.  A task
takes two steps: it fetches and generates, then it stores.  In which order the steps are taken is up
to a schedule, and so is the order in which the outcomes are collected.
-/

namespace TypedContent.Sync

open Files Schema TypeScript

/-- Whose turn it is. -/
inductive Turn where
  | registry
  | task (index : Nat)

/-- An order of the first turns, and of the collection; what it leaves out comes at the end. -/
structure Schedule where
  turns : List Turn
  collection : List Nat

/-- The registry first, then one task after the other. -/
def Schedule.sequential : Schedule := ⟨[], []⟩

inductive TaskState where
  | waiting
  | generated (outcome : Except ModelError SourceFile)
  | finished (outcome : Except ModelError Path)

def TaskState.isRunning : TaskState → Bool
  | .generated _ => true
  | _ => false

structure Task where
  type : TypeSummary
  state : TaskState

/-- What came of a task; one that has not finished has no model. -/
def Task.outcome (t : Task) : Except ModelError Path :=
  match t.state with
  | .finished outcome => outcome
  | .generated (.error e) => .error e
  | _ => .error (.unfetched t.type.guid)

structure FanOut where
  disk : Disk
  tasks : List Task
  registry : Option (Except AccessError Path)
  log : List Log.Event
  exchanges : List Exchange

/-- What stays the same during a fan-out.  At most `workers` tasks run at a time. -/
structure Work where
  client : Client
  directory : Path
  names : List String
  workers : Nat

namespace FanOut

def start (d : Disk) (types : List TypeSummary) : FanOut :=
  ⟨d, types.map fun t => ⟨t, .waiting⟩, none, [], []⟩

def running (f : FanOut) : Nat := (f.tasks.filter (·.state.isRunning)).length

def setState (f : FanOut) (i : Nat) (s : TaskState) : FanOut :=
  { f with tasks := f.tasks.modify i fun t => { t with state := s } }

def asWorker (log : List Log.Event) : List Log.Event := log.map (·.asWorker)

/-- A task takes its next step.  One that waits starts only if a worker is free. -/
def stepTask (w : Work) (i : Nat) (t : Task) (f : FanOut) : FanOut :=
  match t.state with
  | .waiting =>
    if f.running < w.workers then
      let g := generateModel w.client f.disk t.type w.names
      { f.setState i (.generated g.outcome) with
        log := f.log ++ asWorker g.log
        exchanges := f.exchanges ++ [g.exchange] }
    else f
  | .generated (.error e) => f.setState i (.finished (.error e))
  | .generated (.ok file) =>
    let (d, log, outcome) := storeModel f.disk w.directory t.type.name file
    { f.setState i (.finished outcome) with disk := d, log := f.log ++ asWorker log }
  | .finished _ => f

def stepRegistry (w : Work) (f : FanOut) : FanOut :=
  match f.registry with
  | some _ => f
  | none =>
    let s := storeRegistry f.disk w.directory w.names
    { f with disk := s.disk, log := f.log ++ s.log, registry := some s.outcome }

def step (w : Work) (f : FanOut) : Turn → FanOut
  | .registry => f.stepRegistry w
  | .task i =>
    match f.tasks[i]? with
    | some t => f.stepTask w i t
    | none => f

/-- Two turns for each task. -/
def round (n : Nat) : List Turn := (List.range n).flatMap fun i => [.task i, .task i]

/-- Turns that finish everything: in the first round all running tasks end, in the second the
waiting ones find a free worker. -/
def closing (n : Nat) : List Turn := .registry :: round n ++ round n

/-- Takes all turns of a schedule, and finishes what it left open. -/
def run (w : Work) (s : Schedule) (f : FanOut) : FanOut :=
  (s.turns ++ closing f.tasks.length).foldl (step w) f

/-! ## Outcomes -/

/-- The numbers below `n`, those of the list first. -/
def collectionOrder (order : List Nat) (n : Nat) : List Nat :=
  distinct (order.filter (· < n) ++ List.range n)

/-- The paths of the models that were written. -/
def written (f : FanOut) : List Path :=
  f.tasks.filterMap fun t => t.outcome.toOption

/-- The names of the types that failed. -/
def failed (f : FanOut) : List String :=
  f.tasks.filterMap fun t =>
    match t.outcome with
    | .ok _ => none
    | .error _ => some t.type.name

/-- The names of failed types with their errors, in the order of the collection. -/
def failures (f : FanOut) (order : List Nat) : List (String × ModelError) :=
  (collectionOrder order f.tasks.length).filterMap fun i =>
    match f.tasks[i]? with
    | none => none
    | some t =>
      match t.outcome with
      | .ok _ => none
      | .error e => some (t.type.name, e)

def registryErrors (f : FanOut) : List String :=
  match f.registry with
  | some (.error e) => [registryError e]
  | _ => []

def registryPath (f : FanOut) : Option Path :=
  match f.registry with
  | some (.ok p) => some p
  | _ => none

end FanOut

end TypedContent.Sync
