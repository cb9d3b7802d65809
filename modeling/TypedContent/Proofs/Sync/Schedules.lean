import TypedContent.Proofs.Sync.Report
import TypedContent.Sync.Memory

/-!
# Schedules do not matter

`run_schedule_irrelevant`: with a client whose answers about types do not change, a run ends with
the same files and says the same in its report, whatever the schedule and the number of workers.
Only the entries for failed types come in another order.
-/

namespace TypedContent.Sync

open Files Schema TypeScript

/-- The client answers the same about a type whenever it is asked. -/
def Client.Steady (c : Client) : Prop :=
  ∀ d e guid, (c.answer d (.type guid)).outcome = (c.answer e (.type guid)).outcome

/-- Failed types and written models are told in the order of the overview. -/
structure Report.InOrder (p : Path) (r : Report) : Prop where
  failed : r.failed.Sublist r.typeNames
  written : r.written.Sublist (r.typeNames.map fun name => (p.child (modelFileName name)).toString)

/-- The reports differ at most in the order of the entries for failed types, one for each. -/
structure Report.SameButOrder (r r' : Report) : Prop where
  rest : { r with errors := [] } = { r' with errors := [] }
  errors : ∃ (others : List String) (causes causes' : List (String × ModelError)),
    r.errors = others ++ causes.map failureLine ∧
    r'.errors = others ++ causes'.map failureLine ∧
    causes.Perm causes' ∧
    (causes.map (·.1)).Perm r.failed

/-- Two runs end the same way, without a report or with the same one. -/
inductive SameOutcome (p : Path) :
    Except AccessError Report → Except AccessError Report → Prop where
  | error (e : AccessError) : SameOutcome p (.error e) (.error e)
  | report {r r' : Report} (h : r.SameButOrder r') (order : r.InOrder p) :
      SameOutcome p (.ok r) (.ok r')

/-- What is concluded from a fan-out depends on its outcomes, and on the order for nothing else. -/
theorem Job.conclude_sameButOrder (r : Report) {f f' : FanOut} (ht : f.tasks = f'.tasks)
    (hr : f.registry = f'.registry) (order order' : List Nat) :
    (Job.conclude r f order).SameButOrder (Job.conclude r f' order') where
  rest := by
    simp only [Job.conclude, FanOut.written, FanOut.failed, FanOut.registryPath, ht, hr]
  errors := by
    have hp := FanOut.failures_perm f order
    have hp' := FanOut.failures_perm f' order'
    rw [← ht] at hp'
    refine ⟨r.errors ++ f.registryErrors, f.failures order, f'.failures order', rfl, ?_,
      hp.trans hp'.symm, ?_⟩
    · simp only [Job.conclude, FanOut.registryErrors, hr]
      rfl
    · have hnames := hp.map (·.1)
      rwa [← FanOut.failed_eq] at hnames

theorem Reached.inOrder {j : Job} {s : Schedule} {d : Disk} {r : Report} {l : Location}
    {listed types : List TypeSummary} {c : Cleanup} {g : TypeSummary → Except ModelError SourceFile}
    (h : Reached j s d r l listed types c g) : r.InOrder j.directory := by
  constructor
  · rw [h.failed_eq, h.typeNames_eq]
    exact List.filter_sublist.map _
  · rw [h.written_eq, h.typeNames_eq, List.map_map]
    exact List.filter_sublist.map _

/-- Where no type failed there are no entries to reorder. -/
theorem Report.SameButOrder.refl_of_failed_eq_nil {r : Report} (hf : r.failed = []) :
    r.SameButOrder r := by
  refine ⟨rfl, r.errors, [], [], ?_, ?_, .nil, ?_⟩ <;> simp [hf]

/-- A run that did nothing has the same outcome every time. -/
theorem SameOutcome.of_nothing_done {p : Path} {r : Report} (hf : r.failed = [])
    (hw : r.written = []) : SameOutcome p (.ok r) (.ok r) := by
  refine .report (.refl_of_failed_eq_nil hf) ⟨?_, ?_⟩ <;> simp [hf, hw]

/-- A run ends in the same way for all schedules and any number of workers.  The faults of a disk
depend on what is done to which file, and so are the same for all of them. -/
theorem run_schedule_irrelevant (j : Job) (hc : j.client.Steady) (m n : Nat) (s s' : Schedule)
    (d : Disk) :
    (∀ l, ({ j with workers := m }.run s d).disk.tree.find? l =
      ({ j with workers := n }.run s' d).disk.tree.find? l) ∧
    SameOutcome j.directory ({ j with workers := m }.run s d).report
      ({ j with workers := n }.run s' d).report := by
  generalize hm : { j with workers := m } = a
  generalize hn : { j with workers := n } = b
  have hdir : b.directory = a.directory := by rw [← hm, ← hn]
  have hoverview : b.overview = a.overview := by rw [← hm, ← hn]; rfl
  have hbegun : b.begun = a.begun := by rw [← hm, ← hn]; rfl
  have hanswer : ∀ d e guid, (a.client.answer d (.type guid)).outcome =
      (b.client.answer e (.type guid)).outcome := by rw [← hm, ← hn]; exact hc
  have hplace : j.directory = a.directory := by rw [← hm]
  rw [hplace]
  cases hp : prelude a.directory a.overview d with
  | mk e x =>
    cases x with
    | ready types c =>
      obtain ⟨rfl, l, listed, hprep⟩ := prelude_eq_ready hp
      obtain ⟨r, g, hr, -, h⟩ := hprep.exists_reached hp s
      rw [← hdir, ← hoverview] at hp hprep
      obtain ⟨r', g', hr', -, h'⟩ := hprep.exists_reached hp s'
      -- The same is generated in both runs, since no answer depends on when it is given.
      have hg : ∀ t ∈ types, g t = g' t := by
        intro t ht
        obtain ⟨seen, hgt⟩ := h.generated_eq ht
        obtain ⟨seen', hgt'⟩ := h'.generated_eq ht
        rw [hgt, hgt', hanswer seen seen' t.guid]
      have hsettled := h'.settled
      rw [hdir] at hsettled
      obtain ⟨htasks, hregistry, hdisk⟩ := h.settled.unique hsettled hg
      have hprepared : b.prepared d types c = a.prepared d types c := by
        rw [Job.prepared, Job.prepared, hbegun]
      rw [h.disk, h'.disk, hr, hr']
      refine ⟨hdisk, .report ?_ h.inOrder⟩
      rw [h.report, h'.report, hprepared]
      exact Job.conclude_sameButOrder _ htasks hregistry _ _
    | unnamed | stopped =>
      simp only [Job.run_disk, Job.run_report, Job.outline, hdir, hoverview, hp]
      exact ⟨fun _ => trivial, .error _⟩
    | noDirectory | noOverview | colliding | unlisted =>
      simp only [Job.run_disk, Job.run_report, Job.outline, hdir, hoverview, hbegun, hp]
      exact ⟨fun _ => trivial, .of_nothing_done rfl rfl⟩

def blogJob : Job where
  client := (MemoryServer.ofTypes "https://example.org"
    [.obj [("name", .str "Page"), ("guid", .str "1")],
     .obj [("name", .str "Post"), ("guid", .str "2")]]).client
  directory := ⟨.root, ["models"]⟩
  login := none
  workers := defaultWorkers

/-- One worker in order, and eight of which the second overtakes the first. -/
theorem run_schedule_irrelevant_blog :
    blogJob.client.Steady ∧
    (∀ l, ({ blogJob with workers := 1 }.run .sequential ⟨.empty, [], noFaults⟩).disk.tree.find? l =
      ({ blogJob with workers := 8 }.run ⟨[.task 1, .task 0, .task 1, .registry], [1, 0]⟩
        ⟨.empty, [], noFaults⟩).disk.tree.find? l) ∧
    SameOutcome blogJob.directory
      ({ blogJob with workers := 1 }.run .sequential ⟨.empty, [], noFaults⟩).report
      ({ blogJob with workers := 8 }.run ⟨[.task 1, .task 0, .task 1, .registry], [1, 0]⟩
        ⟨.empty, [], noFaults⟩).report := by
  have hsteady : blogJob.client.Steady := fun _ _ _ => rfl
  exact ⟨hsteady, run_schedule_irrelevant blogJob hsteady 1 8 _ _ _⟩

end TypedContent.Sync
