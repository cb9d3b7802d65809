import TypedContent.Proofs.Sync.Abort
import TypedContent.Proofs.Sync.Report
import TypedContent.Sync.Memory

/-!
# Runs stay in their directory

`run_confined`: whatever a server says, a run adds directories on the way to its own, and apart from
that only files directly in its directory come, go or change.  Those that it writes have names of
one form, `IsGeneratedName`: what a server calls a type, `../x` say, never gets into a path.
-/

namespace TypedContent.Sync

open Files Identifier Schema TypeScript

/-! ## Names -/

/-- The name of the registry, or one of `[A-Za-z_][A-Za-z0-9_]*Data.ts`. -/
def IsGeneratedName (name : String) : Prop :=
  name = "TypeMapper.ts" ∨ ∃ c r, name.toList = c :: r ++ "Data.ts".toList ∧
    (∀ x ∈ c :: r, isWordChar x = true) ∧ c.isDigit = false

theorem isGeneratedName_modelFileName (name : String) : IsGeneratedName (modelFileName name) := by
  obtain ⟨c, r, hcons, hdigit⟩ := exists_stem_eq_cons name
  refine .inr ⟨c, r, ?_, ?_, hdigit⟩
  · rw [toList_modelFileName, hcons]
    rfl
  · rw [← hcons]
    exact isWordChar_stem name

theorem isGeneratedName_registryFileName : IsGeneratedName registryFileName := .inl rfl

/-! ## Stages of a run -/

/-- A file directly in the directory of `p` came, went or changed; where there is one now, it was
written under a generated name. -/
structure ChangedInside (d e : Disk) (p : Path) (m : Location) : Prop where
  inside : ∃ l name, e.entry p = .ok (l, .directory) ∧ m = l ++ [name] ∧
    (e.tree.find? m ≠ none → IsGeneratedName name)
  before : d.tree.find? m ≠ some .directory
  after : e.tree.find? m ≠ some .directory

/-- All that differs between the disks is in the directory of `p` or on the way to it. -/
def Confined (d e : Disk) (p : Path) : Prop :=
  ∀ m, e.tree.find? m = d.tree.find? m ∨ MadeOnTheWay d e p m ∨ ChangedInside d e p m

/-- What a fan-out writes where. -/
def WritesInside (l : Location) (d e : Disk) : Prop :=
  ∀ m, e.tree.find? m = d.tree.find? m ∨
    ∃ name b, m = l ++ [name] ∧ IsGeneratedName name ∧ e.tree.find? m = some (.file b)

section Stages

variable {j : Job} {s : Schedule} {d e : Disk} {p : Path} {l : Location}
  {overview : Disk → Option (List TypeSummary)} {listed types : List TypeSummary} {c : Cleanup}

/-- Making directories keeps a path on its ground. -/
theorem grounded_of_extendsTo (hg : d.Grounded p) (h : ExtendsTo d e p) : e.Grounded p := by
  intro k hk
  rw [Disk.start, h.current] at hk
  exact h.directory (hg k hk)

theorem confined_of_extendsTo (h : ExtendsTo d e p) : Confined d e p :=
  fun m => (h.find m).imp_right .inl

/-- A cleanup only takes away files directly in the directory. -/
theorem Cleaned.find?_or (h : Cleaned p overview d l listed types c) (hg : d.Grounded p)
    (m : Location) :
    c.disk.tree.find? m = (d.makeDirectory p).1.tree.find? m ∨
      (∃ name, m = l ++ [name]) ∧ c.disk.tree.find? m = none ∧
        ∃ b, (d.makeDirectory p).1.tree.find? m = some (.file b) := by
  by_cases hm : ∃ name, m = l ++ [name]
  · rw [h.cleanup]
    exact (find?_removeStale_or _ _ _ _ m).imp_right fun hgone => ⟨hm, hgone⟩
  · refine .inl ?_
    -- An entry with the name of the double dots would lead there, but not to a file.
    by_cases hup : m = l.dropLast
    · have hground := grounded_of_extendsTo hg (d.makeDirectory_extends p)
      have hdir := hground.find?_dropLast h.place
      rw [hup, hdir, h.sameDirectories.directory, hdir]
    · rw [h.cleanup]
      exact find?_removeStale h.place (fun name _ _ he => hm ⟨name, he⟩) hup

/-- A run that cleaned up and then wrote only into its directory is confined. -/
theorem Cleaned.confined (h : Cleaned p overview d l listed types c) (hg : d.Grounded p)
    (hs : SameDirectories c.disk e) (hw : WritesInside l c.disk e) : Confined d e p := by
  have hmade := d.makeDirectory_extends p
  have hsame := h.sameDirectories.trans hs
  have hplace := hsame.entry h.place
  have hbefore : ∀ m, e.tree.find? m ≠ some .directory → d.tree.find? m ≠ some .directory :=
    fun m hm hd => hm ((hsame.directory m).mpr (hmade.directory hd))
  intro m
  rcases hw m with hkept | ⟨name, b, rfl, hname, hfile⟩
  · rcases h.find?_or hg m with hkept' | ⟨⟨name, rfl⟩, hnone, b, hfile⟩
    · exact (hmade.find m).imp (fun hm => (hkept.trans hkept').trans hm)
        fun hm => .inl (hm.of_sameDirectories hsame)
    · have hgone := hkept.trans hnone
      have hafter : e.tree.find? (l ++ [name]) ≠ some .directory := by simp [hgone]
      exact .inr (.inr ⟨⟨l, name, hplace, rfl, fun hne => absurd hgone hne⟩, hbefore _ hafter,
        hafter⟩)
  · have hafter : e.tree.find? (l ++ [name]) ≠ some .directory := by simp [hfile]
    exact .inr (.inr ⟨⟨l, name, hplace, rfl, fun _ => hname⟩, hbefore _ hafter, hafter⟩)

/-- What is stored is a file, or nothing is. -/
theorem stored_or {access : Except AccessError Unit} {old : Option Entry} (content : String) :
    stored access old content = old ∨ ∃ b, stored access old content = some (.file b) := by
  cases access with
  | ok u => exact .inr ⟨_, rfl⟩
  | error x => exact .inl rfl

namespace Reached

variable {r : Report} {g : TypeSummary → Except ModelError SourceFile}

theorem writesInside (h : Reached j s d r l listed types c g) :
    WritesInside l c.disk (j.run s d).disk := by
  intro m
  by_cases hreg : m = registryAt l
  · subst hreg
    rw [h.disk, h.settled.registryFile]
    refine (stored_or _).imp_right fun ⟨b, hb⟩ => ?_
    exact ⟨_, b, rfl, isGeneratedName_registryFileName, hb⟩
  · by_cases hmodel : ∃ t ∈ types, m = modelAt l t
    · obtain ⟨t, ht, rfl⟩ := hmodel
      rw [h.disk, h.settled.model t ht]
      cases g t with
      | error x => exact .inl rfl
      | ok f =>
        refine (stored_or _).imp_right fun ⟨b, hb⟩ => ?_
        exact ⟨_, b, rfl, isGeneratedName_modelFileName t.name, hb⟩
    · exact .inl (h.find?_eq hreg fun t ht he => hmodel ⟨t, ht, he⟩)

/-- Only paths in the directory are reported, with generated names. -/
theorem written_generated (h : Reached j s d r l listed types c g) :
    ∀ path ∈ r.written, ∃ name, IsGeneratedName name ∧ path = (j.directory.child name).toString := by
  rw [h.written_eq]
  intro path hpath
  obtain ⟨t, -, rfl⟩ := List.mem_map.mp hpath
  exact ⟨_, isGeneratedName_modelFileName t.name, rfl⟩

theorem registry_generated (h : Reached j s d r l listed types c g) {path : String}
    (hpath : r.registry = some path) :
    path = (j.directory.child "TypeMapper.ts").toString := by
  rw [h.registry_eq, registryOutcome] at hpath
  cases hw : c.disk.writeAccess j.directory l registryFileName with
  | error x => simp [hw, Except.map, Except.toOption] at hpath
  | ok u =>
    rw [hw] at hpath
    exact (Option.some.inj hpath).symm

end Reached

end Stages

theorem confined_run (j : Job) (s : Schedule) {d : Disk} (hg : d.Grounded j.directory) :
    Confined d (j.run s d).disk j.directory := by
  cases hp : prelude j.directory j.overview d with
  | mk e x =>
    have hdisk := j.run_disk s d
    rw [Job.outline, hp] at hdisk
    cases x with
    | unnamed | noDirectory | noOverview | colliding | unlisted =>
      have hmade := d.makeDirectory_extends j.directory
      rw [makeDirectory_of_prelude hp rfl] at hmade
      rw [hdisk]
      exact confined_of_extendsTo hmade
    | stopped x =>
      obtain ⟨l, listed, types, c, rfl, h, -⟩ := prelude_eq_stopped hp
      rw [hdisk]
      exact h.confined hg (.refl _) fun m => .inl rfl
    | ready types c =>
      obtain ⟨rfl, l, listed, hprep⟩ := prelude_eq_ready hp
      obtain ⟨r, g, -, -, h⟩ := hprep.exists_reached hp s
      refine hprep.toCleaned.confined hg ?_ h.writesInside
      rw [h.disk]
      exact h.settled.same

/-- A run changes nothing outside its directory, and writes there under generated names only. -/
theorem run_confined (j : Job) (s : Schedule) {d : Disk} (hg : d.Grounded j.directory) :
    Confined d (j.run s d).disk j.directory ∧ ∀ r, (j.run s d).report = .ok r →
      (∀ path ∈ r.written, ∃ name, IsGeneratedName name ∧
        path = (j.directory.child name).toString) ∧
      ∀ path, r.registry = some path →
        path = (j.directory.child "TypeMapper.ts").toString := by
  refine ⟨confined_run j s hg, fun r hr => ?_⟩
  cases ha : r.aborted with
  | true =>
    have h := harmless_of_aborted hr ha
    simp [h.written, h.registry]
  | false =>
    obtain ⟨l, listed, types, c, g, h⟩ := exists_reached hr ha
    exact ⟨h.written_generated, fun path => h.registry_generated⟩

/-- A server whose names would lead elsewhere if they were parts of paths. -/
def hostileJob : Job where
  client := (MemoryServer.ofTypes "https://example.org"
    [.obj [("name", .str "../x"), ("guid", .str "../../1")],
     .obj [("name", .str "/etc/y"), ("guid", .str "/")],
     .obj [("name", .str "7"), ("guid", .str "")]]).client
  directory := ⟨.here, ["..", "models"]⟩
  login := none
  workers := defaultWorkers

def workDisk : Disk where
  tree := ⟨[(["work"], .directory), (["xData.ts"], .file .empty)]⟩
  current := ["work"]
  faults := noFaults

theorem run_confined_hostile :
    workDisk.Grounded hostileJob.directory ∧
      Confined workDisk (hostileJob.run .sequential workDisk).disk hostileJob.directory ∧
      ∃ r, (hostileJob.run .sequential workDisk).report = .ok r ∧
        r.written = ["../models/___xData.ts", "../models/_etc_yData.ts", "../models/_7Data.ts"] ∧
        ∀ path ∈ r.written, ∃ name, IsGeneratedName name ∧
          path = (hostileJob.directory.child name).toString := by
  have hg : workDisk.Grounded hostileJob.directory := by
    intro k hk
    rcases List.prefix_cons_iff.mp hk with rfl | ⟨t, rfl, ht⟩
    · rfl
    · rw [List.prefix_nil.mp ht]
      rfl
  obtain ⟨hconfined, hreport⟩ := run_confined hostileJob .sequential hg
  have hrun : ((hostileJob.run .sequential workDisk).report.toOption.map (·.written)) =
      some ["../models/___xData.ts", "../models/_etc_yData.ts", "../models/_7Data.ts"] := by
    decide +kernel
  cases h : (hostileJob.run .sequential workDisk).report with
  | error e => simp [h, Except.toOption] at hrun
  | ok r =>
    simp only [h, Except.toOption, Option.map_some, Option.some.injEq] at hrun
    exact ⟨hg, hconfined, r, rfl, hrun, (hreport r h).1⟩

end TypedContent.Sync
