import TypedContent.Command.Program
import TypedContent.Proofs.Fallible
import TypedContent.Proofs.Sync.Abort
import TypedContent.Proofs.Sync.Accounting

/-!
# The code of a synchronization

The program ends with zero where the run was not given up and all that its report tells is that
stale files could not be removed (`ok_iff_onlyRefusals`); such a failure does not count.  Each other
one does: a run that is given up, a model or the registry that was not written, and a run without a
report (`sync_code`).  How the report is printed has no part in it.
-/

namespace TypedContent.Sync

open Files TypeScript

/-! ## Errors that do not count -/

/-- The run was not given up, and its errors are those of the stale files that could not be removed,
if any. -/
def OnlyRefusals (j : Job) (d : Disk) (r : Report) : Prop :=
  r.aborted = false ∧ ∃ entries, (d.makeDirectory j.directory).1.list j.directory = .ok entries ∧
    r.errors = (sortedNames entries).filterMap (refusal? (d.makeDirectory j.directory).1 j.directory
      (r.typeNames.map Identifier.dataName))

variable {j : Job} {s : Schedule} {d : Disk} {r : Report}

theorem Accounted.ok_iff {run : Run} {listed : List Schema.TypeSummary}
    (h : Accounted j d run listed r) (ha : r.aborted = false) :
    r.ok = true ↔ OnlyRefusals j d r := by
  obtain ⟨entries, causes, hlist, hcauses, herrors⟩ := h.errors
  have hfailed : r.failed = [] ↔ causes = [] := by
    rw [← List.perm_nil, ← hcauses.congr_left, List.perm_nil, List.map_eq_nil_iff]
  have hregistry : r.registry.isSome = true ↔
      registryEntries (d.makeDirectory j.directory).1 j.directory r.typeNames = [] := by
    rw [Option.isSome_iff_ne_none, ne_eq, h.registry, not_not]
  have hok : r.ok = true ↔ r.failed = [] ∧ r.registry.isSome = true := by
    simp [Report.ok, ha]
  rw [hok, hfailed, hregistry]
  constructor
  · rintro ⟨hnone, hwritten⟩
    refine ⟨ha, entries, hlist, ?_⟩
    rw [herrors, hnone, hwritten, List.map_nil, List.append_nil, List.append_nil]
  · rintro ⟨-, entries', hlist', herrors'⟩
    obtain rfl := Except.ok.inj (hlist.symm.trans hlist')
    rw [herrors, List.append_assoc, List.append_right_eq_self, List.append_eq_nil_iff,
      List.map_eq_nil_iff] at herrors'
    exact herrors'.symm

/-- However its tasks are scheduled: a run is all right exactly if nothing failed but removals. -/
theorem ok_iff_onlyRefusals (h : (j.run s d).report = .ok r) :
    r.ok = true ↔ OnlyRefusals j d r := by
  cases ha : r.aborted with
  | true => simp [Report.ok, OnlyRefusals, ha]
  | false =>
    obtain ⟨l, listed, types, c, g, hreached⟩ := exists_reached h ha
    exact hreached.accounted.ok_iff ha

/-- A report without errors is that of a run that was not given up. -/
theorem onlyRefusals_of_errors_eq_nil (h : (j.run s d).report = .ok r) (hr : r.errors = []) :
    OnlyRefusals j d r := by
  cases ha : r.aborted with
  | true =>
    obtain ⟨reason, hreason⟩ := (harmless_of_aborted h ha).errors
    cases hr.symm.trans hreason
  | false =>
    obtain ⟨l, listed, types, c, g, hreached⟩ := exists_reached h ha
    obtain ⟨entries, causes, hlist, -, herrors⟩ := hreached.accounted.errors
    rw [herrors, List.append_assoc, List.append_eq_nil_iff] at hr
    exact ⟨ha, entries, hlist, by rw [herrors, List.append_assoc, hr.2, List.append_nil]⟩

end TypedContent.Sync

namespace TypedContent.Command

open Files Settings Sync

/-! ## The code of the program -/

/-- The words of a command line start a synchronization: they name the command and do not ask for
help, logging is set up, which leads to the disk `d`, and the settings load. -/
structure Started (world : World) (line : List String) (d : Disk) (w : Words) (s : Configuration) :
    Prop where
  named : ∃ options rest groupOptions words,
    choose world.disk rootSpec [("models", Group.models), ("preload", .preload)] line =
      .command options .models rest ∧
    (∃ setup, Log.Setup.make (wantedLog options world.environ) [] world.disk = .ok (setup, d)) ∧
    choose d modelsSpec [("sync", ModelsCommand.sync), ("list", .list)] rest =
      .command groupOptions .sync words ∧
    syncSpec.read words = .ok w
  noHelp : w.isGiven "--help" = false
  checked : checkWords d w = .ok ()
  loaded : (load d (settingsRequest w world.environ)).2 = .ok s

/-- The run that the program makes for some settings. -/
def runOf (world : World) (d : Disk) (w : Words) (s : Configuration) : Run :=
  (jobOf s world.network (workersOf w)).run .sequential d

variable {world : World} {line : List String} {d : Disk} {w : Words} {s : Configuration}

/-- A code tells whether there is a report of a run that is all right. -/
def codeOf : Except AccessError Report → Nat
  | .error _ => 1
  | .ok r => if r.ok then 0 else 1

theorem code_sync (quiet : Bool) (h : (load d (settingsRequest w world.environ)).2 = .ok s) :
    (sync { world with disk := d } quiet w).code = codeOf (runOf world d w s).report := by
  unfold sync withSettings
  cases hload : load d (settingsRequest w world.environ) with
  | mk log loaded =>
    obtain rfl : loaded = .ok s := by rw [← h, hload]
    simp only [runOf]
    cases ((jobOf s world.network (workersOf w)).run .sequential d).report <;> rfl

/-- Neither logging nor the style of the output changes the code. -/
theorem code_run (stamp : Log.Stamp) (h : Started world line d w s) :
    (run stamp world line).code = codeOf (runOf world d w s).report := by
  obtain ⟨options, rest, groupOptions, words, hroot, ⟨setup, hsetup⟩, hgroup, hwords⟩ := h.named
  have hsync := code_sync (options.isGiven "--quiet") h.loaded
  rw [← hsync]
  simp only [run, hroot, hsetup, runGroup, runModels, hgroup, Outcome.unstyled, Spec.perform,
    hwords, h.noHelp, h.checked, Bool.false_eq_true, if_false]

theorem codeOf_eq_zero_iff {report : Except AccessError Report} :
    codeOf report = 0 ↔ ∃ r, report = .ok r ∧ r.ok = true := by
  cases report with
  | error e => simp [codeOf]
  | ok r => cases hr : r.ok <;> simp [codeOf, hr]

/-- What the code of the program tells of its run, however that is printed. -/
structure CodeTells (code : Nat) (j : Job) (d : Disk) (report : Except AccessError Report) :
    Prop where
  zero_or_one : code = 0 ∨ code = 1
  zero_iff : code = 0 ↔ ∃ r, report = .ok r ∧ OnlyRefusals j d r
  status : code = 0 ↔ ∃ r, report = .ok r ∧ r.status = "ok"
  /-- Where there are no errors at all the code is zero. -/
  noErrors : ∀ r, report = .ok r → r.errors = [] → code = 0

/-- The program ends with zero exactly if the run was not given up and nothing failed in it but
removals of stale files. -/
theorem sync_code (stamp : Log.Stamp) (h : Started world line d w s) :
    CodeTells (run stamp world line).code (jobOf s world.network (workersOf w)) d
      (runOf world d w s).report := by
  have hzero : (run stamp world line).code = 0 ↔ ∃ r, (runOf world d w s).report = .ok r ∧
      OnlyRefusals (jobOf s world.network (workersOf w)) d r := by
    rw [code_run stamp h, codeOf_eq_zero_iff]
    exact exists_congr fun r => and_congr_right fun hr => ok_iff_onlyRefusals hr
  refine ⟨?_, hzero, ?_, fun r hr hnone => ?_⟩
  · rw [code_run stamp h]
    unfold codeOf
    split
    · exact .inr rfl
    · split
      · exact .inl rfl
      · exact .inr rfl
  · rw [code_run stamp h, codeOf_eq_zero_iff]
    simp only [Report.status_eq_ok_iff]
  · exact hzero.mpr ⟨r, hr, onlyRefusals_of_errors_eq_nil hr hnone⟩

/-! ## A stale file that stays -/

/-- A project with one stale file, which the device does not let go, and a server without types. -/
def stuckWorld : World where
  disk := {
    tree := ⟨[([".env"], .file "EPI_URL=http://h/\n".toUTF8), (["models"], .directory),
      (["models", "OldData.ts"], .file "old".toUTF8)]⟩
    current := []
    faults := fun op name => if op = .remove ∧ name = "OldData.ts" then some "denied" else none }
  environ := []
  network := fun _ => .body "[]".toUTF8

def stuckLine : List String := ["models", "sync", "--model-dir", "models", "--json"]

def stuckWords : Words where
  options := [⟨⟨["--model-dir"], true⟩, "models"⟩, ⟨jsonOption, ""⟩]
  arguments := []

/-- What is loaded in the stuck world. -/
def stuckSettings? : Option Configuration :=
  (load stuckWorld.disk (settingsRequest stuckWords stuckWorld.environ)).2.toOption

theorem started_stuckWorld {s : Configuration} (h : stuckSettings? = some s) :
    Started stuckWorld stuckLine stuckWorld.disk stuckWords s where
  named := ⟨⟨[], stuckLine⟩, stuckLine.tail, ⟨[], stuckLine.tail⟩, stuckLine.tail.tail, rfl,
    ⟨_, rfl⟩, rfl, rfl⟩
  noHelp := by decide
  checked := rfl
  loaded := Fallible.eq_ok_of_toOption h

theorem report_stuckWorld : (stuckSettings?.bind fun s =>
    (runOf stuckWorld stuckWorld.disk stuckWords s).report.toOption.map fun r =>
      (r.ok, r.errors)) = some (true, ["remove OldData.ts: denied"]) := by
  decide +kernel

theorem exists_report_stuckWorld :
    ∃ s r, stuckSettings? = some s ∧
      (runOf stuckWorld stuckWorld.disk stuckWords s).report = .ok r ∧ r.ok = true ∧
      r.errors = ["remove OldData.ts: denied"] := by
  obtain ⟨s, hs, hreport⟩ := Option.bind_eq_some_iff.mp report_stuckWorld
  obtain ⟨r, hr, hfields⟩ := Option.map_eq_some_iff.mp hreport
  obtain ⟨hok, herrors⟩ := Prod.mk.inj hfields
  exact ⟨s, r, hs, Fallible.eq_ok_of_toOption hr, hok, herrors⟩

theorem sync_code_stuck :
    ∃ s, Started stuckWorld stuckLine stuckWorld.disk stuckWords s ∧
      CodeTells (run ⟨"", "", ""⟩ stuckWorld stuckLine).code
        (jobOf s stuckWorld.network (workersOf stuckWords)) stuckWorld.disk
        (runOf stuckWorld stuckWorld.disk stuckWords s).report := by
  obtain ⟨s, -, hs, -⟩ := exists_report_stuckWorld
  exact ⟨s, started_stuckWorld hs, sync_code _ (started_stuckWorld hs)⟩

/-- The program ends with zero and calls the run all right, though a stale file has stayed. -/
theorem sync_code_hides_refusal :
    ∃ s r, Started stuckWorld stuckLine stuckWorld.disk stuckWords s ∧
      (run ⟨"", "", ""⟩ stuckWorld stuckLine).code = 0 ∧
      (runOf stuckWorld stuckWorld.disk stuckWords s).report = .ok r ∧ r.status = "ok" ∧
      r.errors = ["remove OldData.ts: denied"] := by
  obtain ⟨s, r, hs, hr, hok, herrors⟩ := exists_report_stuckWorld
  have hstarted := started_stuckWorld hs
  refine ⟨s, r, hstarted, ?_, hr, r.status_eq_ok_iff.mpr hok, herrors⟩
  rw [code_run _ hstarted, codeOf_eq_zero_iff]
  exact ⟨r, hr, hok⟩

end TypedContent.Command
