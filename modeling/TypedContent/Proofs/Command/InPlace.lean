import TypedContent.Command.Program
import TypedContent.Proofs.Preload.Expansion
import TypedContent.Proofs.Text.Lines

/-!
# Expanding a file in its place

After the command has succeeded the file holds what was before the first placeholder, the block, and
what was behind the placeholder, and nothing else on the disk has changed (`disk_of_find?_some`,
`disk_of_find?_none`).  But the file is read with uniform line ends, so that all this holds of its
bytes only where it has no carriage returns (`uniform_eq_self`).
-/

namespace TypedContent

namespace Command

open Files Preload Placeholder Text

variable {world : World} {w : Words} {words : List String} {d : Disk} {l : Location} {s : String}

/-! ## Reading and writing back -/

theorem readText_of_entry {p : Path} {text : String} (hfile : d.entry p = .ok (l, .file s.toUTF8))
    (h : d.readText p = .ok text) : text = String.ofList (uniformLines s.toList) := by
  obtain ⟨bytes, s', hbytes, hs, rfl⟩ := Disk.readText_eq_ok h
  obtain ⟨-, m, hentry⟩ := Disk.readBytes_eq_ok hbytes
  cases hfile.symm.trans hentry
  obtain rfl := Except.ok.inj ((decodeUtf8_toUTF8 s).symm.trans hs)
  rfl

theorem writeText_of_entry {p : Path} {e : Disk} {b : ByteArray}
    (hfile : d.entry p = .ok (l, .file b)) (h : d.writeText p s = .ok e) :
    e = d.setTree (d.tree.insert l (.file s.toUTF8)) := by
  obtain ⟨hl, -⟩ := Disk.entry_eq_ok_iff.mp hfile
  obtain ⟨m, hm, -, he⟩ := Disk.writeBytes_eq_ok h
  obtain rfl := Except.ok.inj (hl.symm.trans hm)
  exact he

theorem file?_insert (t : Tree) (hl : l ≠ []) (b : ByteArray) :
    (t.insert l (.file b)).file? l = some b := by
  rw [Tree.file?_eq_some_iff, Tree.find?_insert_of_ne_nil t _ hl, if_pos rfl]

/-! ## The command -/

theorem runPreload_apply (world : World) (words : List String) :
    runPreload world ("apply" :: words) =
      applySpec.perform world.disk words (checkApply world.disk) (apply world) := by
  rfl

theorem perform_eq_of_code {spec : Spec} {check : Words → Except Refusal Unit}
    {command : Words → Outcome} (hw : spec.read words = .ok w) (hhelp : w.isGiven "--help" = false)
    (hcode : (spec.perform d words check command).code = 0) :
    spec.perform d words check command = command w := by
  unfold Spec.perform at hcode ⊢
  simp only [hw, hhelp, Bool.false_eq_true, if_false] at hcode ⊢
  cases hc : check w with
  | ok _ => rfl
  | error r =>
    rw [hc] at hcode
    cases r <;> simp [Refusal.outcome, Outcome.misused, Outcome.crashed] at hcode

/-- The file that the words name. -/
def sourceOf (w : Words) : Path := Path.ofString (w.arguments.headD "")

/-- What the command went through if it succeeded. -/
theorem apply_of_code (hcode : (apply world w).code = 0) :
    ∃ text context result more, world.disk.readText (sourceOf w) = .ok text ∧
      LoaderContext.ofFile world.disk (sourceOf w) (preloadOptions w) = .ok context ∧
      (context.expand world.disk text).2 = .ok result ∧
      storeResult world.disk w (sourceOf w) (result != text) result =
        .ok ((apply world w).disk, more) := by
  unfold apply at hcode ⊢
  simp only at hcode ⊢
  unfold sourceOf
  generalize Path.ofString (w.arguments.headD "") = source at hcode ⊢
  cases hread : world.disk.readText source with
  | error e => simp [hread, Outcome.crashed] at hcode
  | ok text =>
    cases hcontext : LoaderContext.ofFile world.disk source (preloadOptions w) with
    | error e => simp [hread, hcontext, Outcome.crashed] at hcode
    | ok context =>
      cases hexpand : context.expand world.disk text with
      | mk log r =>
        simp only [hread, hcontext, hexpand] at hcode ⊢
        cases r with
        | error f =>
          simp only at hcode
          split at hcode <;> simp [Outcome.failed, Outcome.crashed] at hcode
        | ok result =>
          simp only at hcode ⊢
          cases hstore : storeResult world.disk w source (result != text) result with
          | error e => simp [hstore, Outcome.crashed] at hcode
          | ok x => exact ⟨text, context, result, x.2, rfl, rfl, by rw [hexpand], by rw [hstore]⟩

/-- The directory in which a path lies. -/
def directoryOf (d : Disk) (p : Path) : Path := (p.resolve d.current).parent

theorem expand_of_ofFile {p : Path} {fields : List (String × Json)} {context : LoaderContext}
    {text result : String} (h : LoaderContext.ofFile d p fields = .ok context)
    (hexpand : (context.expand d text).2 = .ok result) :
    ∃ o, Options.ofJson (.obj fields) = .ok o ∧
      (Preload.expand d (directoryOf d p) o (p.resolve d.current).toString text).2 = .ok result := by
  unfold LoaderContext.ofFile at h
  split at h
  · contradiction
  · obtain rfl := Except.ok.inj h
    unfold LoaderContext.expand expandWith at hexpand
    cases ho : Options.ofJson (.obj fields) with
    | error e => simp [ho] at hexpand
    | ok o =>
      simp only [ho] at hexpand
      exact ⟨o, rfl, hexpand⟩

/-- A block is no placeholder: it has more than one line. -/
theorem block_ne_text (a : Placeholder) (target : String) (modules : List Module) :
    (block target modules).toList ≠ a.text := by
  intro he
  have hlast := getLast?_block target modules
  rw [he, getLast?_text] at hlast
  simp at hlast

/-- The text with uniform line ends. -/
def uniform (s : String) : String := String.ofList (uniformLines s.toList)

theorem uniform_eq_self (h : '\r' ∉ s.toList) : uniform s = s := by
  rw [uniform, uniformLines_of_no_return _ h, String.ofList_toList]

/-- A placeholder of the uniform text stands in the text. -/
theorem exists_parts_of_find? {before rest : List Char} {a : Placeholder}
    (h : find? (uniform s).toList = some (before, a, rest)) :
    ∃ front back : String, s = front ++ String.ofList a.text ++ back ∧
      (uniform front).toList = before ∧ (uniform back).toList = rest := by
  obtain ⟨htext, ha, -⟩ := find?_eq_some_iff.mp h
  rw [uniform, String.toList_ofList] at htext
  obtain ⟨s₁, t, hs, hbefore, ht⟩ := exists_of_uniformLines_eq_append htext
  obtain ⟨m, s₂, rfl, hm, hrest⟩ := exists_of_uniformLines_eq_append ht
  have hself : uniformLines m = m := uniformLines_eq_self (hm ▸ ha.newline_not_mem)
  refine ⟨String.ofList s₁, String.ofList s₂, ?_, ?_, ?_⟩
  · rw [← String.toList_inj, hs, ← hm, hself]
    simp
  · rw [uniform, String.toList_ofList, String.toList_ofList, hbefore]
  · rw [uniform, String.toList_ofList, String.toList_ofList, hrest]

/-- What the command leaves where it has found a placeholder. -/
theorem disk_of_find?_some {before rest : List Char} {a : Placeholder}
    (hplace : w.isGiven "--in-place" = true)
    (hfile : world.disk.entry (sourceOf w) = .ok (l, .file s.toUTF8))
    (hcode : (apply world w).code = 0) (hfind : find? (uniform s).toList = some (before, a, rest)) :
    ∃ o modules, Options.ofJson (.obj (preloadOptions w)) = .ok o ∧
      modulesOf world.disk (directoryOf world.disk (sourceOf w)) o a = .ok modules ∧
      (apply world w).disk = world.disk.setTree (world.disk.tree.insert l (.file
        (String.ofList (before ++ (block a.target modules).toList ++ rest)).toUTF8)) := by
  obtain ⟨text, context, result, more, hread, hcontext, hexpand, hstore⟩ := apply_of_code hcode
  obtain rfl : text = uniform s := readText_of_entry hfile hread
  obtain ⟨o, ho, hexpand⟩ := expand_of_ofFile hcontext hexpand
  obtain ⟨modules, hmodules, hresult⟩ := exists_modules_of_expand hfind hexpand
  refine ⟨o, modules, ho, hmodules, ?_⟩
  have hchanged : (result != uniform s) = true := by
    rw [bne_iff_ne]
    rintro rfl
    rw [(find?_eq_some_iff.mp hfind).1, List.append_assoc] at hresult
    exact block_ne_text a a.target modules
      (List.append_cancel_right (List.append_cancel_left hresult)).symm
  unfold storeResult at hstore
  rw [hplace, hchanged, Bool.and_self, if_pos rfl] at hstore
  cases hwrite : world.disk.writeText (sourceOf w) result with
  | error x => simp [hwrite, Except.map] at hstore
  | ok e =>
    simp only [hwrite, Except.map, Except.ok.injEq, Prod.mk.injEq] at hstore
    rw [← hstore.1, writeText_of_entry hfile hwrite, ← hresult, String.ofList_toList]

theorem disk_of_find?_none (hfile : world.disk.entry (sourceOf w) = .ok (l, .file s.toUTF8))
    (hcode : (apply world w).code = 0) (hfind : find? (uniform s).toList = none) :
    (apply world w).disk = world.disk := by
  obtain ⟨text, context, result, more, hread, hcontext, hexpand, hstore⟩ := apply_of_code hcode
  obtain rfl : text = uniform s := readText_of_entry hfile hread
  obtain ⟨o, ho, hexpand⟩ := expand_of_ofFile hcontext hexpand
  obtain rfl := expand_of_find?_none hfind hexpand
  unfold storeResult at hstore
  rw [bne_self_eq_false, Bool.and_false, if_neg (by decide), Except.ok.injEq] at hstore
  exact (congrArg Prod.fst hstore).symm

/-- After a success the file holds what was before the first placeholder, the block, and what was
behind the placeholder, with uniform line ends; without a placeholder nothing is written. -/
theorem inPlace_bytes (hwords : applySpec.read words = .ok w)
    (hhelp : w.isGiven "--help" = false) (hplace : w.isGiven "--in-place" = true)
    (hfile : world.disk.entry (sourceOf w) = .ok (l, .file s.toUTF8))
    (hcode : (runPreload world ("apply" :: words)).code = 0) :
    match find? (uniform s).toList with
    | none => (runPreload world ("apply" :: words)).disk = world.disk
    | some (before, a, rest) => ∃ o modules front back,
        Options.ofJson (.obj (preloadOptions w)) = .ok o ∧
        modulesOf world.disk (directoryOf world.disk (sourceOf w)) o a = .ok modules ∧
        s = front ++ String.ofList a.text ++ back ∧
        (uniform front).toList = before ∧ (uniform back).toList = rest ∧
        ('\r' ∉ s.toList → uniform front = front ∧ uniform back = back) ∧
        (runPreload world ("apply" :: words)).disk =
          world.disk.setTree (world.disk.tree.insert l (.file ((uniform front).toUTF8 ++
            (block a.target modules).toUTF8 ++ (uniform back).toUTF8))) := by
  rw [runPreload_apply] at hcode ⊢
  have happly := perform_eq_of_code hwords hhelp hcode
  rw [happly] at hcode ⊢
  cases hfind : find? (uniform s).toList with
  | none => exact disk_of_find?_none hfile hcode hfind
  | some x =>
    obtain ⟨before, a, rest⟩ := x
    obtain ⟨front, back, hs, rfl, rfl⟩ := exists_parts_of_find? hfind
    obtain ⟨o, modules, ho, hmodules, hdisk⟩ := disk_of_find?_some hplace hfile hcode hfind
    refine ⟨o, modules, front, back, ho, hmodules, hs, rfl, rfl, fun hreturn => ?_, ?_⟩
    · have hparts : '\r' ∉ front.toList ∧ '\r' ∉ back.toList := by
        rw [hs] at hreturn
        simp only [String.toList_append, List.mem_append, not_or] at hreturn
        exact ⟨hreturn.1.1, hreturn.2⟩
      exact ⟨uniform_eq_self hparts.1, uniform_eq_self hparts.2⟩
    · have hbytes : ∀ x y : String, (x ++ y).toUTF8 = x.toUTF8 ++ y.toUTF8 :=
        fun _ _ => String.toByteArray_append
      rw [hdisk, String.ofList_append, String.ofList_append, String.ofList_toList,
        String.ofList_toList, String.ofList_toList, hbytes, hbytes]

/-! ## A file with carriage returns -/

deriving instance DecidableEq for OptionSpec, GivenOption, Words

def returnSource : String := "\r\n@PreLoad(\"n\",\"B\",\"\")\r\n"

def returnPlaceholder : Placeholder := ⟨"n", "B", ""⟩

def returnWorld : World where
  disk := ⟨⟨[(["a.ts"], .file returnSource.toUTF8)]⟩, [], noFaults⟩
  environ := []
  network := fun _ => .unreachable ""

def inPlaceLine : List String := ["a.ts", "--pattern", "*", "--extension", "", "--in-place"]

def inPlaceWords : Words where
  options := [⟨⟨["--pattern"], true⟩, "*"⟩, ⟨⟨["--extension"], true⟩, ""⟩,
    ⟨⟨["--in-place"], false⟩, ""⟩]
  arguments := ["a.ts"]

theorem read_inPlaceLine : applySpec.read inPlaceLine = .ok inPlaceWords :=
  Fallible.eq_ok_of_toOption (by decide +kernel)

theorem entry_returnWorld :
    returnWorld.disk.entry (sourceOf inPlaceWords) = .ok (["a.ts"], .file returnSource.toUTF8) := by
  have hsource : sourceOf inPlaceWords = ⟨.here, ["a.ts"]⟩ := by decide +kernel
  rw [hsource]
  rfl

theorem code_returnWorld : (runPreload returnWorld ("apply" :: inPlaceLine)).code = 0 := by
  decide +kernel

theorem find?_returnSource :
    find? (uniform returnSource).toList = some (['\n'], returnPlaceholder, ['\n']) := by
  decide +kernel

theorem inPlace_bytes_returnSource :
    applySpec.read inPlaceLine = .ok inPlaceWords ∧ inPlaceWords.isGiven "--help" = false ∧
      inPlaceWords.isGiven "--in-place" = true ∧
      returnWorld.disk.entry (sourceOf inPlaceWords) =
        .ok (["a.ts"], .file returnSource.toUTF8) ∧
      (runPreload returnWorld ("apply" :: inPlaceLine)).code = 0 ∧
      ∃ modules, (runPreload returnWorld ("apply" :: inPlaceLine)).disk.tree.file? ["a.ts"] =
        some ("\n".toUTF8 ++ (block "B" modules).toUTF8 ++ "\n".toUTF8) := by
  have hbytes := @inPlace_bytes returnWorld inPlaceWords inPlaceLine ["a.ts"] returnSource
    read_inPlaceLine rfl rfl entry_returnWorld code_returnWorld
  rw [find?_returnSource] at hbytes
  obtain ⟨o, modules, front, back, -, -, -, hfront, hback, -, hdisk⟩ := hbytes
  obtain hfront : uniform front = "\n" := String.toList_injective hfront
  obtain hback : uniform back = "\n" := String.toList_injective hback
  refine ⟨read_inPlaceLine, rfl, rfl, entry_returnWorld, code_returnWorld, modules, ?_⟩
  rw [hdisk, hfront, hback]
  exact file?_insert _ (by simp) _

/-- The file begins with a carriage return before its placeholder, and without one afterwards. -/
theorem inPlace_loses_returns :
    find? returnSource.toList = some (['\r', '\n'], returnPlaceholder, ['\r', '\n']) ∧
      (runPreload returnWorld ("apply" :: inPlaceLine)).code = 0 ∧
      ∃ bytes, (runPreload returnWorld ("apply" :: inPlaceLine)).disk.tree.file? ["a.ts"] =
          some bytes ∧ ∀ rest : ByteArray, bytes ≠ "\r\n".toUTF8 ++ rest := by
  have hcode := code_returnWorld
  have hplace : inPlaceWords.isGiven "--in-place" = true := rfl
  rw [runPreload_apply] at hcode ⊢
  have happly := perform_eq_of_code read_inPlaceLine rfl hcode
  rw [happly] at hcode ⊢
  have hleft := disk_of_find?_some hplace entry_returnWorld hcode find?_returnSource
  obtain ⟨o, modules, -, -, hdisk⟩ := hleft
  have hbytes := file?_insert returnWorld.disk.tree (l := ["a.ts"]) (by simp)
    (String.ofList (['\n'] ++ (block returnPlaceholder.target modules).toList ++ ['\n'])).toUTF8
  refine ⟨by decide +kernel, hcode, _, by rw [hdisk]; exact hbytes, fun rest he => ?_⟩
  -- The texts differ in their first byte.
  have hfeed : "\n".toByteArray.data.toList.head? = some 10 := rfl
  have hreturn : "\r\n".toByteArray.data.toList.head? = some 13 := rfl
  rw [List.append_assoc, String.ofList_append] at he
  have hfirst := congrArg (fun b : ByteArray => b.data.toList.head?) he
  simp [String.toUTF8, hfeed, hreturn] at hfirst

end Command

end TypedContent
