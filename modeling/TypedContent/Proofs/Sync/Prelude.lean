import TypedContent.Proofs.Files.Making
import TypedContent.Proofs.Sync.Cleanup
import TypedContent.Proofs.Sync.FanOut
import TypedContent.Sync.Run

/-!
# Runs without their logs

Before its fan-out a run is a sequence of steps, each of which can end it: `prelude` is that
sequence, and depends on the client only through the overview.  `run_outline` reads the disk, the
questions and the report of a run off its prelude and its fan-out.

`prelude_eq_ready` says what holds when the fan-out is reached, and `Prepared.ready` that this is
all that the fan-out relies on.  `Cleaned.again` is for runs one after the other: where directories
and overview are the same, the second one gets as far as the first.
-/

namespace TypedContent.Sync

open Files Schema TypeScript

/-! ## The steps before the fan-out -/

/-- How far a run comes before its fan-out. -/
inductive Prelude where
  /-- The path of the directory names nothing. -/
  | unnamed
  | noDirectory (e : DiskError)
  | noOverview
  | colliding (names : List String) (c : Collision)
  | unlisted (names : List String) (e : ListError)
  /-- An entry of the directory was not looked up. -/
  | stopped (e : DiskError)
  | ready (types : List TypeSummary) (c : Cleanup)

/-- The names of the types of an overview, each once. -/
def overviewNames (listed : List TypeSummary) : List String := distinct (listed.map (·.name))

theorem map_name_uniqueTypes (listed : List TypeSummary) :
    (uniqueTypes listed).map (·.name) = overviewNames listed :=
  map_distinctBy _ _

def modelStems (types : List TypeSummary) : List String :=
  (types.map (·.name)).map Identifier.dataName

/-- No cleanup of a run takes away what the run stores. -/
theorem isStale_modelFileName {types : List TypeSummary} {t : TypeSummary} (ht : t ∈ types) :
    isStale (modelStems types) (modelFileName t.name) = false := by
  rw [isStale_eq_false_iff, stemOf_modelFileName]
  exact .inr (List.mem_map_of_mem (List.mem_map_of_mem ht))

theorem isStale_registryFileName (keep : List String) :
    isStale keep registryFileName = false := by
  rw [isStale_eq_false_iff]
  exact .inl (Path.stemOf_append_extension registryName (by decide))

def prelude (p : Path) (overview : Disk → Option (List TypeSummary)) (d : Disk) : Disk × Prelude :=
  match d.makeDirectory p with
  | (d, some .nulInPath) => (d, .unnamed)
  | (d, some (.disk e)) => (d, .noDirectory e)
  | (d, none) =>
    match overview d with
    | none => (d, .noOverview)
    | some listed =>
      let types := uniqueTypes listed
      let names := types.map (·.name)
      match Collision.find? "model name" Identifier.stem true names with
      | some c => (d, .colliding names c)
      | none =>
        match (clearModels d p (modelStems types)).2 with
        | .error e => (d, .unlisted names e)
        | .ok c =>
          match c.stopped with
          | some e => (c.disk, .stopped e)
          | none => (c.disk, .ready types c)

namespace Job

def overview (j : Job) (d : Disk) : Option (List TypeSummary) := (fetchOverview j.client d).types

/-- The types that a run of the job on `d` is about: the first of each name in the overview. -/
def types (j : Job) (d : Disk) : List TypeSummary :=
  ((j.overview (d.makeDirectory j.directory).1).map uniqueTypes).getD []

/-- The report of a run that has only begun. -/
def begun (j : Job) (d : Disk) : Report :=
  { Report.empty j.client.baseUrl j.directory.toString with user := (currentUser j.login d).2 }

def work (j : Job) (types : List TypeSummary) : Work :=
  ⟨j.client, j.directory, types.map (·.name), j.workersFor types.length⟩

def fanOut (j : Job) (s : Schedule) (types : List TypeSummary) (d : Disk) : FanOut :=
  (FanOut.start d types).run (j.work types) s

/-- The report of a run as its fan-out begins. -/
def prepared (j : Job) (d : Disk) (types : List TypeSummary) (c : Cleanup) : Report :=
  { j.begun d with typeNames := types.map (·.name), removed := c.removed, errors := c.errors }

/-- The disk, the questions and the report of a run, by its prelude. -/
def outline (j : Job) (s : Schedule) (d : Disk) :
    Disk × List Question × Except AccessError Report :=
  match prelude j.directory j.overview d with
  | (e, .unnamed) => (e, [], .error .nulInPath)
  | (e, .noDirectory x) =>
    (e, [], .ok ((j.begun d).abort ("create " ++ j.directory.toString ++ ": " ++ x.message)))
  | (e, .noOverview) =>
    (e, [.overview], .ok ((j.begun d).abort "Unable to retrieve the content type overview"))
  | (e, .colliding names c) =>
    (e, [.overview], .ok ({ j.begun d with typeNames := names }.abort c.message))
  | (e, .unlisted names x) =>
    (e, [.overview], .ok ({ j.begun d with typeNames := names }.abort x.message))
  | (e, .stopped x) => (e, [.overview], .error (.disk x))
  | (e, .ready types c) =>
    let f := j.fanOut s types e
    (f.disk, .overview :: f.exchanges.map (·.question),
      .ok (conclude (j.prepared d types c) f s.collection))

theorem fetchOverview_exchange (c : Client) (d : Disk) :
    (fetchOverview c d).exchange = ⟨.overview, (c.answer d .overview).request⟩ := by
  rw [← request_exchange c d .overview "model overview"]
  unfold fetchOverview
  simp only
  split
  · rfl
  · split <;> rfl

theorem fetchOverview_types (c : Client) (d : Disk) :
    (fetchOverview c d).types =
      (usable (c.answer d .overview).outcome).bind
        fun payload => (readOverview payload).toOption := by
  have h := request_payload c d .overview "model overview"
  unfold fetchOverview
  simp only
  rw [← h]
  split
  · rename_i hn
    rw [hn]
    rfl
  · rename_i payload hs
    rw [hs, Option.bind_some]
    split <;> simp_all [Except.toOption]

theorem overview_eq_some_iff {j : Job} {d : Disk} {listed : List TypeSummary} :
    j.overview d = some listed ↔
      ∃ payload, usable (j.client.answer d .overview).outcome = some payload ∧
        readOverview payload = .ok listed := by
  rw [overview, fetchOverview_types, Option.bind_eq_some_iff]
  refine exists_congr fun payload => and_congr_right fun _ => ?_
  cases readOverview payload <;> simp [Except.toOption]

/-- A run is its prelude and its fan-out, apart from what it logs. -/
theorem run_outline (j : Job) (s : Schedule) (d : Disk) :
    ((j.run s d).disk, (j.run s d).exchanges.map (·.question), (j.run s d).report) =
      j.outline s d := by
  unfold outline prelude run
  cases hm : d.makeDirectory j.directory with
  | mk e x =>
    cases x with
    | some a => cases a <;> rfl
    | none =>
      have hq := fetchOverview_exchange j.client e
      simp only [survey, overview]
      cases ho : (fetchOverview j.client e).types with
      | none => simp [hq, begun]
      | some listed =>
        simp only [replace]
        cases hc : Collision.find? "model name" Identifier.stem true
            ((uniqueTypes listed).map (·.name)) with
        | some c => simp [hq, aborted, begun]
        | none =>
          simp only [modelStems]
          cases hcl : clearModels e j.directory
              (((uniqueTypes listed).map (·.name)).map Identifier.dataName) with
          | mk log y =>
            cases y with
            | error x => simp [hq, aborted, begun]
            | ok c =>
              cases hst : c.stopped with
              | some x => simp [hq, hst]
              | none => simp [hq, hst, generate, begun, prepared, fanOut, work, Report.empty]

theorem run_disk (j : Job) (s : Schedule) (d : Disk) : (j.run s d).disk = (j.outline s d).1 := by
  rw [← run_outline]

theorem run_report (j : Job) (s : Schedule) (d : Disk) :
    (j.run s d).report = (j.outline s d).2.2 := by
  rw [← run_outline]

theorem run_questions (j : Job) (s : Schedule) (d : Disk) :
    (j.run s d).exchanges.map (·.question) = (j.outline s d).2.1 := by
  rw [← run_outline]

end Job

/-! ## When the fan-out is reached -/

/-- What was found and done by a run that cleaned up as `c` tells. -/
structure Cleaned (p : Path) (overview : Disk → Option (List TypeSummary)) (d : Disk)
    (l : Location) (listed types : List TypeSummary) (c : Cleanup) : Prop where
  made : (d.makeDirectory p).2 = none
  no_nul : p.hasNul = false
  place : (d.makeDirectory p).1.entry p = .ok (l, .directory)
  overview : overview (d.makeDirectory p).1 = some listed
  unique : types = uniqueTypes listed
  apart : Collision.find? "model name" Identifier.stem true (types.map (·.name)) = none
  cleared : (clearModels (d.makeDirectory p).1 p (modelStems types)).2 = .ok c
  listing : (d.makeDirectory p).1.list p = .ok ((d.makeDirectory p).1.tree.children l)
  cleanup : c = removeStale p (modelStems types)
    (sortedNames ((d.makeDirectory p).1.tree.children l)) (d.makeDirectory p).1

/-- The same before a fan-out, which starts on the disk `c.disk`. -/
structure Prepared (p : Path) (overview : Disk → Option (List TypeSummary)) (d : Disk)
    (l : Location) (listed types : List TypeSummary) (c : Cleanup) : Prop
    extends Cleaned p overview d l listed types c where
  finished : c.stopped = none

/-- How a prelude ends that cleaned up as `c` tells. -/
def Prelude.ofCleanup (types : List TypeSummary) (c : Cleanup) : Prelude :=
  match c.stopped with
  | some e => .stopped e
  | none => .ready types c

/-- The ends of a prelude that cleaned up. -/
def Prelude.hasCleaned : Prelude → Bool
  | .stopped _ | .ready _ _ => true
  | _ => false

theorem Cleaned.prelude_eq {p : Path} {overview : Disk → Option (List TypeSummary)} {d : Disk}
    {l : Location} {listed types : List TypeSummary} {c : Cleanup}
    (h : Cleaned p overview d l listed types c) :
    prelude p overview d = (c.disk, .ofCleanup types c) := by
  obtain ⟨made, -, -, overview, rfl, apart, cleared, -, -⟩ := h
  unfold prelude Prelude.ofCleanup
  cases hm : d.makeDirectory p with
  | mk e x =>
    rw [hm] at made overview cleared
    simp only at made overview cleared
    subst made
    simp only [overview, apart, cleared]
    cases c.stopped <;> rfl

theorem exists_cleaned {p : Path} {overview : Disk → Option (List TypeSummary)} {d : Disk}
    (h : (prelude p overview d).2.hasCleaned = true) :
    ∃ l listed types c, Cleaned p overview d l listed types c := by
  unfold prelude at h
  cases hm : d.makeDirectory p with
  | mk e x =>
    rw [hm] at h
    cases x with
    | some a => cases a <;> simp [Prelude.hasCleaned] at h
    | none =>
      simp only at h
      cases ho : overview e with
      | none => simp [ho, Prelude.hasCleaned] at h
      | some listed =>
        simp only [ho] at h
        cases hc : Collision.find? "model name" Identifier.stem true
            ((uniqueTypes listed).map (·.name)) with
        | some c => simp [hc, Prelude.hasCleaned] at h
        | none =>
          simp only [hc] at h
          cases hcl : (clearModels e p (modelStems (uniqueTypes listed))).2 with
          | error x => simp [hcl, Prelude.hasCleaned] at h
          | ok c =>
            obtain ⟨hnul, l, hp, hlist, hclean⟩ := clearModels_eq_ok hcl
            refine ⟨l, listed, uniqueTypes listed, c, ?_⟩
            constructor <;> simp_all

theorem prelude_eq_ready {p : Path} {overview : Disk → Option (List TypeSummary)} {d e : Disk}
    {types : List TypeSummary} {c : Cleanup} (h : prelude p overview d = (e, .ready types c)) :
    e = c.disk ∧ ∃ l listed, Prepared p overview d l listed types c := by
  obtain ⟨l, listed, types', c', hclean⟩ := exists_cleaned (p := p) (d := d) (by rw [h]; rfl)
  rw [hclean.prelude_eq, Prelude.ofCleanup] at h
  cases hs : c'.stopped with
  | some x => simp [hs] at h
  | none =>
    simp only [hs, Prod.mk.injEq, Prelude.ready.injEq] at h
    obtain ⟨rfl, rfl, rfl⟩ := h
    exact ⟨rfl, l, listed, hclean, hs⟩

theorem prelude_eq_stopped {p : Path} {overview : Disk → Option (List TypeSummary)} {d e : Disk}
    {x : DiskError} (h : prelude p overview d = (e, .stopped x)) :
    ∃ l listed types c, e = c.disk ∧ Cleaned p overview d l listed types c ∧
      c.stopped = some x := by
  obtain ⟨l, listed, types, c, hclean⟩ := exists_cleaned (p := p) (d := d) (by rw [h]; rfl)
  rw [hclean.prelude_eq, Prelude.ofCleanup] at h
  cases hs : c.stopped with
  | none => simp [hs] at h
  | some y =>
    simp only [hs, Prod.mk.injEq, Prelude.stopped.injEq] at h
    obtain ⟨rfl, rfl⟩ := h
    exact ⟨l, listed, types, c, rfl, hclean, hs⟩

theorem Prepared.prelude_eq {p : Path} {overview : Disk → Option (List TypeSummary)} {d : Disk}
    {l : Location} {listed types : List TypeSummary} {c : Cleanup}
    (h : Prepared p overview d l listed types c) :
    prelude p overview d = (c.disk, .ready types c) := by
  rw [h.toCleaned.prelude_eq, Prelude.ofCleanup, h.finished]

/-- Why a prelude ended without a directory, if it did. -/
def Prelude.refusal? : Prelude → Option AccessError
  | .unnamed => some .nulInPath
  | .noDirectory e => some (.disk e)
  | _ => none

/-- A prelude has no directory exactly if none could be made. -/
theorem prelude_refusal? (p : Path) (overview : Disk → Option (List TypeSummary)) (d : Disk) :
    (prelude p overview d).2.refusal? = (d.makeDirectory p).2 := by
  unfold prelude
  cases d.makeDirectory p with
  | mk e x =>
    cases x with
    | some a => cases a <;> rfl
    | none =>
      simp only
      split
      · rfl
      · split
        · rfl
        · split
          · rfl
          · split <;> rfl

/-- Before it cleans up a prelude does no more than make the directory. -/
theorem prelude_disk_of_not_hasCleaned {p : Path} {overview : Disk → Option (List TypeSummary)}
    {d : Disk} (h : (prelude p overview d).2.hasCleaned = false) :
    (prelude p overview d).1 = (d.makeDirectory p).1 := by
  unfold prelude at h ⊢
  cases hm : d.makeDirectory p with
  | mk e x =>
    cases x with
    | some a => cases a <;> rfl
    | none =>
      simp only [hm] at h ⊢
      split
      · rfl
      · split
        · rfl
        · split
          · rfl
          · split <;> simp_all [Prelude.hasCleaned]

/-- What a prelude comes to depends on what the disk is once the directory is made. -/
theorem prelude_congr {p : Path} {d e : Disk} (h : e.makeDirectory p = d.makeDirectory p)
    (overview : Disk → Option (List TypeSummary)) :
    prelude p overview e = prelude p overview d := by
  unfold prelude
  rw [h]

theorem makeDirectory_of_prelude {p : Path} {overview : Disk → Option (List TypeSummary)}
    {d e : Disk} {x : Prelude} (h : prelude p overview d = (e, x)) (hx : x.hasCleaned = false) :
    d.makeDirectory p = (e, x.refusal?) := by
  have hrefusal := prelude_refusal? p overview d
  have hbefore : (prelude p overview d).2.hasCleaned = false := by rw [h, hx]
  have hdisk := prelude_disk_of_not_hasCleaned hbefore
  rw [h] at hrefusal hdisk
  exact Prod.ext hdisk.symm hrefusal.symm

namespace Cleaned

variable {p : Path} {overview : Disk → Option (List TypeSummary)} {d : Disk} {l : Location}
  {listed types : List TypeSummary} {c : Cleanup}

/-- Making the directory and cleaning it leaves all directories as they are. -/
theorem sameDirectories (h : Cleaned p overview d l listed types c) :
    SameDirectories (d.makeDirectory p).1 c.disk := by
  rw [h.cleanup]
  exact sameDirectories_removeStale _ _ _ _

theorem directory (h : Cleaned p overview d l listed types c) :
    c.disk.entry p = .ok (l, .directory) :=
  h.sameDirectories.entry h.place

theorem nodup_names (h : Cleaned p overview d l listed types c) :
    (types.map (·.name)).Nodup := by
  rw [h.unique]
  exact nodup_map_distinctBy _ _

theorem makeDirectory_again (h : Cleaned p overview d l listed types c) {e : Disk}
    (hs : SameDirectories (d.makeDirectory p).1 e) : e.makeDirectory p = (e, none) :=
  Disk.makeDirectory_of_sameDirectories h.made h.place hs

/-- Another run on a disk with the same directories cleans up in the same way. -/
theorem again (h : Cleaned p overview d l listed types c) {e : Disk}
    (hs : SameDirectories (d.makeDirectory p).1 e) (ho : overview e = some listed) :
    Cleaned p overview e l listed types
      (removeStale p (modelStems types) (sortedNames (e.tree.children l)) e) := by
  have hmake := h.makeDirectory_again hs
  have hlist := Disk.list_congr hs h.place h.listing
  refine ⟨?_, h.no_nul, ?_, ?_, h.unique, h.apart, ?_, ?_, ?_⟩ <;> rw [hmake]
  · exact hs.entry h.place
  · exact ho
  · simp only [clearModels, hlist]
  · exact hlist

end Cleaned

namespace Prepared

variable {p : Path} {overview : Disk → Option (List TypeSummary)} {d : Disk} {l : Location}
  {listed types : List TypeSummary} {c : Cleanup}

/-- Types of one name, or of names with one stem, are one type. -/
theorem nodup_modelFileNames (h : Prepared p overview d l listed types c) :
    (types.map fun t => modelFileName t.name).Nodup := by
  have hinj : ∀ m ∈ types.map (·.name), ∀ n ∈ types.map (·.name),
      modelFileName m = modelFileName n → m = n := by
    intro m hm n hn he
    exact Collision.stem_injOn h.apart hm hn (modelFileName_inj.mp he)
  have hmap : types.map (fun t => modelFileName t.name) =
      (types.map (·.name)).map modelFileName := by
    rw [List.map_map]
    rfl
  rw [hmap, List.nodup_iff_pairwise_ne, List.pairwise_map]
  refine h.nodup_names.imp_of_mem fun {m n} hm hn hne he => hne (hinj m hm n hn he)

theorem ready {j : Job} (h : Prepared j.directory overview d l listed types c) :
    FanOut.Ready (j.work types) c.disk l types where
  directory := h.directory
  apart := h.nodup_modelFileNames
  workers := by
    simp only [Job.work, Job.workersFor]
    omega

/-- A file that is not stale is as it was before the run when the fan-out starts. -/
theorem file?_of_fresh (h : Prepared p overview d l listed types c) {name : String}
    (hfresh : isStale (modelStems types) name = false) :
    c.disk.tree.file? (l ++ [name]) = d.tree.file? (l ++ [name]) := by
  have hstale : ∀ other, isStale (modelStems types) other = true → l ++ [name] ≠ l ++ [other] := by
    intro other ho he
    obtain rfl := (List.cons.inj (List.append_cancel_left he)).1
    simp [hfresh] at ho
  have hup := Disk.append_singleton_ne_dropLast l name
  rw [h.cleanup, Tree.file?_congr (find?_removeStale h.place (fun other _ => hstale other) hup)]
  exact (d.makeDirectory_extends p).file? _

end Prepared

end TypedContent.Sync
