import TypedContent.Proofs.Sync.Report
import TypedContent.Sync.Memory

/-!
# Failures stay where they are

Two runs on the same disk whose clients differ only in what they answer about the types in `F`,
where all answers of the second fail.  `failures_isolated`: the second run differs from the first in
nothing but those types, and leaves their files as it found them.
-/

namespace TypedContent.Sync

open Files Schema TypeScript

/-- The second run differs from the first, which also started on `d`, only in the types in `F`. -/
structure Isolated (F : String → Prop) (d : Disk) (p : Path) (l : Location)
    (types : List TypeSummary) (a b : Run) (r r' : Report) : Prop where
  place : a.disk.entry p = .ok (l, .directory) ∧ b.disk.entry p = .ok (l, .directory)
  typeNames : r.typeNames = types.map (·.name) ∧ r'.typeNames = types.map (·.name)
  removed : r'.removed = r.removed
  registry : r'.registry = r.registry
  registryEntry : b.disk.tree.find? (registryAt l) = a.disk.tree.find? (registryAt l)
  /-- The registry lists all types, those that failed among them. -/
  registryFile : r'.registry.isSome = true → b.disk.tree.file? (registryAt l) =
    some (TypeScript.registryFile (types.map (·.name))).content.toUTF8
  model : ∀ t ∈ types, ¬ F t.name →
    b.disk.tree.find? (modelAt l t) = a.disk.tree.find? (modelAt l t)
  written_iff : ∀ t ∈ types, ¬ F t.name →
    ((modelPath p t).toString ∈ r'.written ↔ (modelPath p t).toString ∈ r.written)
  failed_iff : ∀ t ∈ types, ¬ F t.name → (t.name ∈ r'.failed ↔ t.name ∈ r.failed)
  failed : ∀ t ∈ types, F t.name → t.name ∈ r'.failed ∧ (modelPath p t).toString ∉ r'.written
  untouched : ∀ t ∈ types, F t.name →
    b.disk.tree.file? (modelAt l t) = d.tree.file? (modelAt l t)
  /-- The entries for types are the same outside `F`, and one for each type in `F`. -/
  errors : ∃ (others : List String) (causes causes' : List (String × ModelError)),
    r.errors = others ++ causes.map failureLine ∧
    r'.errors = others ++ causes'.map failureLine ∧
    (∀ t ∈ types, ¬ F t.name → ∀ e, (t.name, e) ∈ causes' ↔ (t.name, e) ∈ causes) ∧
    ∀ t ∈ types, F t.name → (causes'.map (·.1)).count t.name = 1

/-- The runs end in the same way before any type is asked about. -/
inductive StoppedAlike (a b : Run) : Prop where
  | unreported (e : AccessError) (ha : a.report = .error e) (hb : b.report = .error e)
      (hd : b.disk = a.disk)
  | aborted (r r' : Report) (ha : a.report = .ok r) (hb : b.report = .ok r')
      (har : r.aborted = true) (hbr : r'.aborted = true) (hnames : r'.typeNames = r.typeNames)
      (herrors : r'.errors = r.errors) (hd : b.disk = a.disk)

namespace Reached

variable {j j' : Job} {s s' : Schedule} {d : Disk} {r r' : Report} {l : Location}
  {listed types : List TypeSummary} {c : Cleanup}
  {g g' : TypeSummary → Except ModelError SourceFile}

/-- Runs that generate the same outside `F`, of which the second generates nothing in `F`. -/
theorem isolated {F : String → Prop} (h : Reached j s d r l listed types c g)
    (h' : Reached j' s' d r' l listed types c g') (hdir : j'.directory = j.directory)
    (hsame : ∀ t ∈ types, ¬ F t.name → g' t = g t)
    (hfail : ∀ t ∈ types, F t.name → ∃ e, g' t = .error e) :
    Isolated F d j.directory l types (j.run s d) (j'.run s' d) r r' := by
  have hoffF : ∀ t ∈ types, ¬ F t.name →
      failureOf j'.directory c.disk l g' t = failureOf j.directory c.disk l g t := by
    intro t ht hF
    simp only [failureOf, hdir, hsame t ht hF]
  have hinF : ∀ t ∈ types, F t.name → (failureOf j'.directory c.disk l g' t).isSome = true := by
    intro t ht hF
    obtain ⟨e, he⟩ := hfail t ht hF
    simp [failureOf, taskOutcome, he]
  refine ⟨⟨?_, ?_⟩, ⟨h.typeNames_eq, h'.typeNames_eq⟩, ?_, ?_, ?_, ?_, ?_, ?_, ?_, ?_, ?_, ?_⟩
  · rw [h.disk]
    exact h.settled.same.entry h.prepared.directory
  · rw [h'.disk, ← hdir]
    exact h'.settled.same.entry h'.prepared.directory
  · rw [h'.removed_eq, h.removed_eq]
  · rw [h'.registry_eq, h.registry_eq, hdir]
  · rw [h'.disk, h.disk, h'.settled.registryFile, h.settled.registryFile, hdir]
  · exact h'.registryFile
  · intro t ht hF
    rw [h'.disk, h.disk, h'.settled.model t ht, h.settled.model t ht, hsame t ht hF, hdir]
  · intro t ht hF
    rw [h.mem_written_iff ht, ← hoffF t ht hF, ← h'.mem_written_iff ht, hdir]
  · intro t ht hF
    rw [h.mem_failed_iff ht, ← hoffF t ht hF, ← h'.mem_failed_iff ht]
  · intro t ht hF
    refine ⟨(h'.mem_failed_iff ht).mpr (hinF t ht hF), fun hw => ?_⟩
    rw [← hdir] at hw
    have hnone := (h'.mem_written_iff ht).mp hw
    have hsome := hinF t ht hF
    simp_all
  · intro t ht hF
    obtain ⟨e, he⟩ := hfail t ht hF
    exact h'.file?_of_not_generated ht he
  · have herrors := h'.errors_eq
    rw [hdir] at herrors
    refine ⟨_, _, _, h.errors_eq, herrors, fun t ht hF e => ?_, fun t ht hF => ?_⟩
    · rw [h.mem_failures_iff ht, h'.mem_failures_iff ht, hoffF t ht hF]
    · have hmem := (h'.mem_failed_iff ht).mpr (hinF t ht hF)
      rw [h'.failures_names_perm.count_eq]
      exact List.count_eq_one_of_mem h'.nodup_failed hmem

end Reached

/-- Answers that fail for some types change nothing for the other types. -/
theorem failures_isolated (j : Job) (client : Client) (F : String → Prop) (d : Disk)
    (hov : ∀ e, (client.answer e .overview).outcome = (j.client.answer e .overview).outcome)
    (hsame : ∀ t ∈ j.types d, ¬ F t.name → ∀ e e',
      (client.answer e' (.type t.guid)).outcome = (j.client.answer e (.type t.guid)).outcome)
    (hfail : ∀ t ∈ j.types d, F t.name → ∀ e, Fails t (client.answer e (.type t.guid)).outcome)
    (s s' : Schedule) :
    StoppedAlike (j.run s d) ({ j with client }.run s' d) ∨
      ∃ r r' l, (j.run s d).report = .ok r ∧ ({ j with client }.run s' d).report = .ok r' ∧
        r.aborted = false ∧ r'.aborted = false ∧
        Isolated F d j.directory l (j.types d) (j.run s d) ({ j with client }.run s' d) r r' := by
  generalize hj : { j with client } = j'
  have hdir : j'.directory = j.directory := by rw [← hj]
  have hoverview : j'.overview = j.overview := by
    funext e
    rw [Job.overview, Job.overview, Job.fetchOverview_types, Job.fetchOverview_types, ← hj, hov e]
  cases hp : prelude j.directory j.overview d with
  | mk e x =>
    have hp' := hp
    rw [← hdir, ← hoverview] at hp'
    have hr := j.run_report s d
    have hr' := j'.run_report s' d
    have hd := j.run_disk s d
    have hd' := j'.run_disk s' d
    rw [Job.outline, hp] at hr hd
    rw [Job.outline, hp'] at hr' hd'
    cases x with
    | ready types c =>
      obtain ⟨rfl, l, listed, hprep⟩ := prelude_eq_ready hp
      obtain ⟨r, g, hr, ha, h⟩ := hprep.exists_reached hp s
      rw [← hdir, ← hoverview] at hprep
      obtain ⟨r', g', hr', ha', h'⟩ := hprep.exists_reached hp' s'
      refine .inr ⟨r, r', l, hr, hr', ha, ha', ?_⟩
      rw [← h.types_eq] at hsame hfail ⊢
      refine h.isolated h' hdir (fun t ht hF => ?_) fun t ht hF => ?_
      · obtain ⟨seen, hg⟩ := h.generated_eq ht
        obtain ⟨seen', hg'⟩ := h'.generated_eq ht
        rw [hg, hg', ← hj, hsame t ht hF seen seen']
      · obtain ⟨seen', hg'⟩ := h'.generated_eq ht
        rw [hg', ← hj]
        exact (exists_modelOf_eq_error_iff t _ _).mpr (hfail t ht hF seen')
    | unnamed | stopped =>
      exact .inl (.unreported _ hr hr' (hd'.trans hd.symm))
    | noDirectory | noOverview | colliding | unlisted =>
      refine .inl (.aborted _ _ hr hr' rfl rfl rfl ?_ (hd'.trans hd.symm))
      simp [Report.abort, Job.begun, Report.empty, hdir]

def shopServer : MemoryServer :=
  .ofTypes "https://example.org"
    [.obj [("name", .str "Cart"), ("guid", .str "1")],
     .obj [("name", .str "Item"), ("guid", .str "2")]]

def shopJob : Job where
  client := shopServer.client
  directory := ⟨.root, ["models"]⟩
  login := none
  workers := defaultWorkers

/-- The same server, which does not describe the first type. -/
def failingShop : Client :=
  { shopServer with typeFailures := [("1", .raise "timeout")] }.client

def shopDisk : Disk where
  tree := ⟨[(["models"], .directory), (["models", "CartData.ts"], .file .empty)]⟩
  current := []
  faults := noFaults

theorem failures_isolated_shop :
    (∀ e, (failingShop.answer e .overview).outcome = (shopJob.client.answer e .overview).outcome) ∧
    (∀ t ∈ shopJob.types shopDisk, ¬ t.name = "Cart" → ∀ e e',
      (failingShop.answer e' (.type t.guid)).outcome =
        (shopJob.client.answer e (.type t.guid)).outcome) ∧
    (∀ t ∈ shopJob.types shopDisk, t.name = "Cart" →
      ∀ e, Fails t (failingShop.answer e (.type t.guid)).outcome) ∧
    ∃ r r' l, (shopJob.run .sequential shopDisk).report = .ok r ∧
      ({ shopJob with client := failingShop }.run .sequential shopDisk).report = .ok r' ∧
      r.aborted = false ∧ r'.aborted = false ∧
      Isolated (· = "Cart") shopDisk shopJob.directory l (shopJob.types shopDisk)
        (shopJob.run .sequential shopDisk)
        ({ shopJob with client := failingShop }.run .sequential shopDisk) r r' := by
  have htypes : shopJob.types shopDisk = [⟨"Cart", "", "", "1"⟩, ⟨"Item", "", "", "2"⟩] := rfl
  have hov : ∀ e, (failingShop.answer e .overview).outcome =
      (shopJob.client.answer e .overview).outcome := fun _ => rfl
  have hsame : ∀ t ∈ shopJob.types shopDisk, ¬ t.name = "Cart" → ∀ e e',
      (failingShop.answer e' (.type t.guid)).outcome =
        (shopJob.client.answer e (.type t.guid)).outcome := by
    intro t ht hF e e'
    rw [htypes] at ht
    rcases List.mem_pair.mp ht with rfl | rfl
    · exact absurd rfl hF
    · rfl
  have hfail : ∀ t ∈ shopJob.types shopDisk, t.name = "Cart" →
      ∀ e, Fails t (failingShop.answer e (.type t.guid)).outcome := by
    intro t ht hF e
    rw [htypes] at ht
    rcases List.mem_pair.mp ht with rfl | rfl
    · exact .noAnswer (.raised _)
    · simp at hF
  refine ⟨hov, hsame, hfail, ?_⟩
  rcases failures_isolated shopJob failingShop (· = "Cart") shopDisk hov hsame hfail .sequential
    .sequential with h | h
  · have hrun : ((shopJob.run .sequential shopDisk).report.toOption.map (·.aborted)) =
        some false := by decide +kernel
    cases h with
    | unreported e ha => simp [ha, Except.toOption] at hrun
    | aborted r r' ha hb har => simp [ha, Except.toOption, har] at hrun
  · exact h

end TypedContent.Sync
