import TypedContent.Proofs.Sync.CleanRun
import TypedContent.Proofs.Sync.Questions
import TypedContent.Proofs.Sync.Schedules

/-!
# Accounts of runs

A run that goes through accounts for everything: `Accounted` says what its report and its questions
have to do with the overview, with the removals and with the writes.  `run_accounted` is that there
is always such an account, unless the run is given up or has no report at all; `Unreported` lists
the two reasons for the latter.
-/

namespace TypedContent.Sync

open Files Schema TypeScript

/-- The entries of a report about the registry, which is written on `d`. -/
def registryEntries (d : Disk) (p : Path) (names : List String) : List String :=
  match d.writeText (p.child registryFileName) (registryFile names).content with
  | .ok _ => []
  | .error e => [registryError e]

/-- The account of a run of `j` on `d`, in whose overview `listed` was read. -/
structure Accounted (j : Job) (d : Disk) (run : Run) (listed : List TypeSummary) (r : Report) :
    Prop where
  overview : ∃ payload,
    (j.client.answer (d.makeDirectory j.directory).1 .overview).outcome = .ok payload ∧
      readOverview payload = .ok listed
  typeNames : r.typeNames = overviewNames listed
  order : r.InOrder j.directory
  once : r.failed.Nodup ∧ r.written.Nodup
  either : ∀ name ∈ r.typeNames,
    name ∈ r.failed ↔ (j.directory.child (modelFileName name)).toString ∉ r.written
  /-- After the overview each name leads to one question, about the first entry of that name. -/
  questions : ∃ asked, run.exchanges.map (·.question) = .overview :: asked ∧
    (asked.map some).Perm (r.typeNames.map fun name =>
      (listed.find? fun t => t.name = name).map fun t => .type t.guid)
  /-- Each refused removal, the registry if it was not written, and each failed type. -/
  errors : ∃ (entries : List (String × Entry)) (causes : List (String × ModelError)),
    (d.makeDirectory j.directory).1.list j.directory = .ok entries ∧
    (causes.map (·.1)).Perm r.failed ∧
    r.errors =
      (sortedNames entries).filterMap (refusal? (d.makeDirectory j.directory).1 j.directory
        (r.typeNames.map Identifier.dataName)) ++
      registryEntries (d.makeDirectory j.directory).1 j.directory r.typeNames ++
      causes.map failureLine
  registry : r.registry = none ↔
    registryEntries (d.makeDirectory j.directory).1 j.directory r.typeNames ≠ []

/-- Why a run of `j` on `d` ends without a report. -/
inductive Unreported (j : Job) (d : Disk) : AccessError → Prop where
  | nul (h : j.directory.hasNul = true) : Unreported j d .nulInPath
  | tooLong (entries : List (String × Entry)) (name : String)
      (hl : (d.makeDirectory j.directory).1.list j.directory = .ok entries)
      (hmem : name ∈ sortedNames entries) (h : ¬ Disk.Fits j.directory name) :
      Unreported j d (.disk (.system .nameTooLong (j.directory.child name)))

namespace Reached

variable {j : Job} {s : Schedule} {d : Disk} {r : Report} {l : Location}
  {listed types : List TypeSummary} {c : Cleanup} {g : TypeSummary → Except ModelError SourceFile}

theorem questions (h : Reached j s d r l listed types c g) :
    ∃ asked, (j.run s d).exchanges.map (·.question) = .overview :: asked ∧
      asked.Perm (types.map fun t => .type t.guid) := by
  have htypes : (j.fanOut s types c.disk).tasks.map (·.type) = types := by
    rw [h.settled.tasks, List.map_map]
    exact List.map_id types
  refine ⟨_, ?_, FanOut.questions_run h.prepared.ready.workers s c.disk types htypes⟩
  rw [Job.run_questions, Job.outline, h.prepared.prelude_eq]
  rfl

theorem nodup_written (h : Reached j s d r l listed types c g) : r.written.Nodup := by
  have hpaths := h.prepared.nodup_modelFileNames.map fun m n =>
    (Path.toString_child_inj (p := j.directory) (m := m) (n := n)).mp
  rw [List.map_map] at hpaths
  rw [h.written_eq]
  exact hpaths.sublist (List.filter_sublist.map _)

theorem either (h : Reached j s d r l listed types c g) {name : String} (hn : name ∈ r.typeNames) :
    name ∈ r.failed ↔ (j.directory.child (modelFileName name)).toString ∉ r.written := by
  rw [h.typeNames_eq] at hn
  obtain ⟨t, ht, rfl⟩ := List.mem_map.mp hn
  have hwritten := h.mem_written_iff ht
  rw [modelPath] at hwritten
  rw [h.mem_failed_iff ht, hwritten]
  cases failureOf j.directory c.disk l g t <;> simp

/-- The first entry of each name. -/
theorem map_find?_eq (h : Reached j s d r l listed types c g) :
    r.typeNames.map (fun name => (listed.find? fun t => t.name = name).map
      fun t => Question.type t.guid) = types.map fun t => some (.type t.guid) := by
  rw [h.typeNames_eq, List.map_map]
  refine List.map_congr_left fun t ht => ?_
  rw [h.prepared.unique] at ht
  have hfirst := find?_eq_some_of_mem_distinctBy ht
  simp only [Function.comp, hfirst, Option.map_some]

/-- The registry is written on the disk of the fan-out as it would be before the cleanup. -/
theorem registryEntries_eq (h : Reached j s d r l listed types c g) (names : List String) :
    registryEntries (d.makeDirectory j.directory).1 j.directory names =
      match registryOutcome c.disk j.directory l with
      | .ok _ => []
      | .error e => [registryError e] := by
  have hwrite := Disk.writeText_child h.prepared.place isName_registryFileName.ne_dots
    (TypeScript.registryFile names).content
  rw [registryEntries, hwrite, registryOutcome,
    Disk.writeAccess_congr h.prepared.sameDirectories]
  cases (d.makeDirectory j.directory).1.writeAccess j.directory l registryFileName <;> rfl

theorem accounted (h : Reached j s d r l listed types c g) :
    Accounted j d (j.run s d) listed r where
  overview := by
    obtain ⟨payload, hpayload, hread⟩ := Job.overview_eq_some_iff.mp h.prepared.overview
    exact ⟨payload, eq_ok_of_usable_eq_some hpayload, hread⟩
  typeNames := h.typeNames_eq.trans h.names_eq
  order := h.inOrder
  once := ⟨h.nodup_failed, h.nodup_written⟩
  either := fun _ => h.either
  questions := by
    obtain ⟨asked, hasked, hperm⟩ := h.questions
    refine ⟨asked, hasked, ?_⟩
    rw [h.map_find?_eq]
    have hsome := hperm.map some
    rwa [List.map_map] at hsome
  errors := by
    refine ⟨_, _, h.prepared.listing, h.failures_names_perm, ?_⟩
    have hremovals := h.prepared.cleanup ▸ errors_removeStale h.prepared.place
      (h.prepared.cleanup ▸ h.prepared.finished)
    rw [h.errors_eq, otherErrors, h.registryEntries_eq, hremovals, h.typeNames_eq]
    rfl
  registry := by
    rw [h.registryEntries_eq, h.registry_eq]
    cases registryOutcome c.disk j.directory l <;> simp [Except.toOption]

end Reached

/-- A run gives an account of all it did, unless it is given up, or ends without a report for one
of two reasons. -/
theorem run_accounted (j : Job) (s : Schedule) (d : Disk) :
    (∃ r, (j.run s d).report = .ok r ∧
      (r.aborted = false → ∃ listed, Accounted j d (j.run s d) listed r)) ∨
    ∃ e, (j.run s d).report = .error e ∧ Unreported j d e := by
  cases hr : (j.run s d).report with
  | ok r =>
    refine .inl ⟨r, rfl, fun ha => ?_⟩
    obtain ⟨l, listed, types, c, g, h⟩ := exists_reached hr ha
    exact ⟨listed, h.accounted⟩
  | error e =>
    refine .inr ⟨e, rfl, ?_⟩
    rw [Job.run_report, Job.outline] at hr
    cases hp : prelude j.directory j.overview d with
    | mk f x =>
      rw [hp] at hr
      cases x with
      | noDirectory | noOverview | colliding | unlisted | ready => simp at hr
      | unnamed =>
        obtain rfl := Except.error.inj hr
        have hmake := makeDirectory_of_prelude hp rfl
        obtain ⟨-, hrefused⟩ := Disk.makeDirectory_eq_nulInPath_iff.mp hmake
        exact .nul (Disk.hasNul_of_allow_eq_nulInPath hrefused)
      | stopped x =>
        obtain rfl := Except.error.inj hr
        obtain ⟨l, listed, types, c, rfl, hclean, hstop⟩ := prelude_eq_stopped hp
        rw [hclean.cleanup] at hstop
        obtain ⟨before, name, behind, hnames, hfile, -⟩ := exists_of_stopped hclean.place hstop
        obtain ⟨-, hlocate, rfl⟩ := Disk.isFile_eq_error_iff.mp hfile
        refine .tooLong _ name hclean.listing ?_
          (Disk.locate_child_eq_error hclean.place hlocate)
        rw [hnames]
        exact List.mem_append_right _ List.mem_cons_self

/-- A run whose directory cannot be named has no report, not even that it was given up. -/
theorem not_exists_report_nul :
    ¬ ∃ r, ({ pageJob with directory := ⟨.here, ["a\x00b"]⟩ }.run .sequential staleDisk).report =
      .ok r := by
  rintro ⟨r, hr⟩
  have hnul : ({ pageJob with directory := ⟨.here, ["a\x00b"]⟩ }.run .sequential staleDisk).report =
    .error .nulInPath := rfl
  rw [hnul] at hr
  contradiction

end TypedContent.Sync
