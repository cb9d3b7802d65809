import TypedContent.Proofs.Command.InPlace
import TypedContent.Proofs.Preload.Failures

/-!
# Failures that a user is told of

When the expansion of a file fails, the program ends with the code 1.  It tells why if and only if
the failure is one of the expansion's own (`run_of_failure`), and these are all but the mishaps.
-/

namespace TypedContent.Command

open Files Preload Placeholder

variable {world : World} {line : List String} {d : Disk} {setup : Log.Setup} {w : Words}
  {text : String} {f : Preload.Failure}

/-! ## The command -/

/-- The words of a command line ask for an expansion: they name the command and do not ask for help,
logging is set up, which leads to the disk `d`, and the words are taken. -/
structure Applying (world : World) (line : List String) (d : Disk) (setup : Log.Setup) (w : Words) :
    Prop where
  named : ∃ options rest groupOptions words,
    choose world.disk rootSpec [("models", Group.models), ("preload", .preload)] line =
      .command options .preload rest ∧
    Log.Setup.make (wantedLog options world.environ) [] world.disk = .ok (setup, d) ∧
    choose d preloadSpec [("apply", ())] rest = .command groupOptions () words ∧
    applySpec.read words = .ok w
  noHelp : w.isGiven "--help" = false
  checked : checkApply d w = .ok ()

/-- What becomes of the text of the file that the words name. -/
def expansionOf (d : Disk) (w : Words) (text : String) :
    List Log.Event × Except Preload.Failure String :=
  expandWith d (directoryOf d (sourceOf w)) (.obj (preloadOptions w))
    ((sourceOf w).resolve d.current).toString text

/-- What the program makes of a failure of the expansion. -/
structure Tells (stamp : Log.Stamp) (setup : Log.Setup) (d : Disk) (f : Preload.Failure)
    (o : Outcome) : Prop where
  code : o.code = 1
  out : o.out = ""
  disk : o.disk = setup.writeFile stamp o.log d
  /-- A failure of its own is told behind what is logged. -/
  explained : f.IsOwn → o.crash = none ∧
    o.err = setup.consoleText stamp o.log ++ Text.unstyled ("❌ " ++ f.message ++ "\n")
  crashed : ¬ f.IsOwn → o.crash = some (.preload f) ∧ o.err = setup.consoleText stamp o.log

theorem isExplained_iff : isExplained f = true ↔ f.IsOwn := by
  cases f with
  | options e => exact iff_of_true rfl (.options e)
  | pattern pattern e => rw [Failure.isOwn_pattern_iff, isExplained, Option.isSome_iff_ne_none]
  | collision c => exact iff_of_true rfl (.collision c)
  | access e => exact iff_of_false Bool.false_ne_true (Failure.not_isOwn_access e)

/-- A path under which something was read has no NUL character. -/
theorem ofFile_of_readText (h : d.readText (sourceOf w) = .ok text) :
    LoaderContext.ofFile d (sourceOf w) (preloadOptions w) =
      .ok ⟨directoryOf d (sourceOf w), ((sourceOf w).resolve d.current).toString,
        .obj (preloadOptions w)⟩ := by
  obtain ⟨bytes, s, hbytes, -, -⟩ := Disk.readText_eq_ok h
  have hnul : (sourceOf w).hasNul = false := (Disk.readBytes_eq_ok hbytes).1
  rw [LoaderContext.ofFile, hnul]
  rfl

/-- The command ends with the failure of the expansion. -/
theorem apply_of_failure (hread : d.readText (sourceOf w) = .ok text)
    (hf : (expansionOf d w text).2 = .error f) :
    apply { world with disk := d } w =
      if isExplained f then .failed d (expansionOf d w text).1 f.message
      else .crashed d (expansionOf d w text).1 (.preload f) := by
  have hsource : Path.ofString (w.arguments.headD "") = sourceOf w := rfl
  have hcontext := ofFile_of_readText hread
  have hexpand : LoaderContext.expand ⟨directoryOf d (sourceOf w),
      ((sourceOf w).resolve d.current).toString, .obj (preloadOptions w)⟩ d text =
      ((expansionOf d w text).1, .error f) := Prod.ext rfl hf
  simp only [apply, hsource, hread, hcontext, hexpand]

/-- Logging and the style of the output are all that the program adds to the command. -/
theorem run_of_applying (stamp : Log.Stamp) (h : Applying world line d setup w) :
    run stamp world line =
      let o := (apply { world with disk := d } w).unstyled
      { o with
        err := setup.consoleText stamp o.log ++ o.err
        disk := setup.writeFile stamp o.log o.disk } := by
  obtain ⟨options, rest, groupOptions, words, hroot, hsetup, hgroup, hwords⟩ := h.named
  simp only [run, hroot, hsetup, runGroup, runPreload, hgroup, Spec.perform, hwords, h.noHelp,
    h.checked, Bool.false_eq_true, if_false]

theorem unstyled_empty : Text.unstyled "" = "" := by
  simp [Text.unstyled, Text.unstyledChars]

theorem run_of_failure (stamp : Log.Stamp) (h : Applying world line d setup w)
    (hread : d.readText (sourceOf w) = .ok text) (hf : (expansionOf d w text).2 = .error f) :
    Tells stamp setup d f (run stamp world line) := by
  rw [run_of_applying stamp h, apply_of_failure hread hf]
  by_cases hown : f.IsOwn
  · rw [if_pos (isExplained_iff.mpr hown)]
    exact ⟨rfl, unstyled_empty, rfl, fun _ => ⟨rfl, rfl⟩, fun hnot => absurd hown hnot⟩
  · rw [if_neg (mt isExplained_iff.mp hown)]
    refine ⟨rfl, unstyled_empty, rfl, fun hown' => absurd hown' hown, fun _ => ⟨rfl, ?_⟩⟩
    change _ ++ Text.unstyled "" = _
    rw [unstyled_empty, String.append_empty]

/-- An expansion ends in one of the ways that are accounted for, patterns are refused for the listed
reasons, and where the program makes the expansion it tells of a failure if and only if that is one
of the expansion's own. -/
theorem expansion_failures (d : Disk) (context : Path) (options : Json)
    (resource source : String) :
    Preload.Accounted d context options source
      (expandWith d context options resource source).2 ∧
    (∀ pattern e, Glob.ofString pattern = .error e ↔ Glob.Refused pattern e) ∧
    ∀ stamp world line setup w f, Applying world line d setup w →
      d.readText (sourceOf w) = .ok source → (expansionOf d w source).2 = .error f →
      Tells stamp setup d f (run stamp world line) := by
  refine ⟨expandWith_accounted d context options resource source,
    fun pattern e => Glob.ofString_eq_error_iff, ?_⟩
  intro stamp world line setup w f happlying hread hf
  exact run_of_failure stamp happlying hread hf

/-! ## A pattern that names the directory itself -/

def pointPlaceholder : Placeholder := ⟨"c", "A", ""⟩

def pointSource : String := String.ofList pointPlaceholder.text

/-- A file with a placeholder, beside the directory of which it speaks. -/
def pointWorld : World where
  disk := ⟨⟨[(["index.ts"], .file pointSource.toUTF8), (["c"], .directory)]⟩, [], noFaults⟩
  environ := []
  network := fun _ => .unreachable ""

def pointLine : List String :=
  ["preload", "apply", "index.ts", "--pattern", ".", "--extension", ".tsx"]

def pointWords : Words where
  options := [⟨⟨["--pattern"], true⟩, "."⟩, ⟨⟨["--extension"], true⟩, ".tsx"⟩]
  arguments := ["index.ts"]

theorem applying_pointWorld :
    ∃ setup, Applying pointWorld pointLine pointWorld.disk setup pointWords :=
  ⟨_, ⟨_, _, _, _, rfl, rfl, rfl, rfl⟩, by decide, rfl⟩

theorem isWritten_pointPlaceholder : pointPlaceholder.IsWritten :=
  ⟨by decide, by decide, by decide⟩

theorem find?_pointSource : find? pointSource.toList = some ([], pointPlaceholder, []) := by
  have hfind := find?_text isWritten_pointPlaceholder []
  rwa [List.append_nil] at hfind

theorem readText_pointWorld :
    pointWorld.disk.readText (sourceOf pointWords) = .ok pointSource :=
  Fallible.eq_ok_of_toOption (by decide +kernel)

theorem begun_pointWorld :
    Begun pointWorld.disk (directoryOf pointWorld.disk (sourceOf pointWords))
      (.obj (preloadOptions pointWords)) pointSource ⟨".", ".tsx", none⟩ pointPlaceholder
      ⟨.root, ["c"]⟩ where
  checked := rfl
  found := ⟨[], [], find?_pointSource⟩
  reached := Fallible.eq_ok_of_toOption (by decide +kernel)

theorem refused_point : Glob.Refused "." .noParts :=
  .noParts (by decide) ⟨by decide, by decide⟩ (by decide)

/-- The pattern is refused, and the program ends without telling why: nothing but what is logged
stands on the error output. -/
theorem apply_point :
    Glob.Refused "." .noParts ∧
      (expansionOf pointWorld.disk pointWords pointSource).2 = .error (.pattern "." .noParts) ∧
      ¬ (Failure.pattern "." .noParts).IsOwn ∧
      ∃ setup, Applying pointWorld pointLine pointWorld.disk setup pointWords ∧
        (run ⟨"", "", ""⟩ pointWorld pointLine).crash = some (.preload (.pattern "." .noParts)) ∧
        (run ⟨"", "", ""⟩ pointWorld pointLine).err =
          setup.consoleText ⟨"", "", ""⟩ (run ⟨"", "", ""⟩ pointWorld pointLine).log := by
  obtain ⟨setup, happlying⟩ := applying_pointWorld
  have hown : ¬ (Failure.pattern "." .noParts).IsOwn := by
    rw [Failure.isOwn_pattern_iff, not_not]
    rfl
  have hresult : (expansionOf pointWorld.disk pointWords pointSource).2 =
      .error (.pattern "." .noParts) :=
    begun_pointWorld.eq_error_iff.mpr (discoverModules_of_refused rfl refused_point)
  have htells := run_of_failure ⟨"", "", ""⟩ happlying readText_pointWorld hresult
  exact ⟨refused_point, hresult, hown, setup, happlying, htells.crashed hown⟩

end TypedContent.Command
