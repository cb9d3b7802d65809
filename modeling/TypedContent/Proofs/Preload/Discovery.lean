import TypedContent.Proofs.Preload.Bindings
import TypedContent.Proofs.Preload.Lookups

/-!
# Exactness of a discovery

`Discoverable` says which files of a directory are to be preloaded, without a search.  Proved here,
for every disk with a well-formed tree and every pattern:

* `mem_discoverFiles_iff`, `pairwise_discoverFiles`: a search finds exactly these files, in the
  order of their texts;
* `tellsTooLong_of_discoverFiles`: it fails only at a path that is too long for the system;
* `sameElements_discoverFiles`: the order in which directories are listed does not matter.

Together with the check of the bindings (`discovery_of_discoverFiles`) this is all that can come of
a discovery.  At the end stands a directory where a path is too long.
-/

namespace TypedContent.Preload

open Files Fallible

variable {d e : Disk} {directory : Path} {g : Glob} {exclude : Option String}
  {names : List String} {files : List (List String)} {base : String} {o : Options}

/-! ## Which files are to be preloaded -/

/-- The file holds stories or styles. -/
def IsAuxiliary (relative : String) : Prop :=
  ∃ ending ∈ auxiliaryEndings, ending.toList <:+ relative.toList

/-- The options exclude the file, by their pattern or by what follows `**/` in it. -/
def IsLeftOut (exclude : Option String) (relative : String) : Prop :=
  ∃ pattern, exclude = some pattern ∧ pattern ≠ "" ∧
    (Piece.Matches (Wildcard.pieces pattern.toList) relative.toList ∨
      ∃ rest, pattern.toList = "**/".toList ++ rest ∧
        Piece.Matches (Wildcard.pieces rest) relative.toList)

/-- `names` lead to a file in the directory that is to be preloaded. -/
structure Discoverable (d : Disk) (directory : Path) (g : Glob) (exclude : Option String)
    (names : List String) : Prop where
  isFile : d.isFile (Glob.below directory names) = .ok true
  selected : g.MatchesFile names
  visible : ∀ n ∈ names, n.toList.head? ≠ some '.'
  notAuxiliary : ¬ IsAuxiliary (relativeText names)
  notLeftOut : ¬ IsLeftOut exclude (relativeText names)

theorem isHidden_eq_false_iff :
    isHidden names = false ↔ ∀ n ∈ names, n.toList.head? ≠ some '.' := by
  simp [isHidden]

theorem isExcluded_iff {relative : String} :
    isExcluded exclude relative = true ↔ IsAuxiliary relative ∨ IsLeftOut exclude relative := by
  unfold isExcluded
  rw [Bool.or_eq_true]
  refine or_congr ?_ ?_
  · simp [IsAuxiliary, endsWith, List.isSuffixOf_iff_suffix]
  · unfold IsLeftOut
    split
    · simp
    · simp
    · rename_i pattern hne
      have hne : pattern ≠ "" := fun he => hne (by rw [he])
      simp only [Bool.or_eq_true, Bool.and_eq_true, matchesWildcard, Piece.matchAll_iff,
        String.toList_ofList, List.isPrefixOf_iff_prefix, Option.some.injEq, exists_eq_left', ne_eq,
        hne, not_false_eq_true, true_and]
      refine or_congr_right ⟨?_, ?_⟩
      · rintro ⟨⟨rest, hrest⟩, hm⟩
        rw [← hrest] at hm
        exact ⟨rest, hrest.symm, hm⟩
      · rintro ⟨rest, hrest, hm⟩
        rw [hrest]
        exact ⟨List.prefix_append _ _, hm⟩

namespace Discoverable

theorem dots_not_mem (h : Discoverable d directory g exclude names) : ".." ∉ names :=
  fun hm => h.visible _ hm rfl

theorem ne_nil (h : Discoverable d directory g exclude names) : names ≠ [] := h.selected.2.ne_nil.2

theorem hasDirectory (h : Discoverable d directory g exclude names) : d.HasDirectory directory :=
  Glob.hasDirectory_of_isFile_below h.ne_nil h.isFile

theorem isDirectory (h : Discoverable d directory g exclude names) :
    d.isDirectory directory = .ok true := by
  have hnul : (Glob.below directory []).hasNul = false :=
    Glob.hasNul_of_below (Disk.isFile_eq_ok_true_iff.mp h.isFile).1
  rw [Glob.below_nil] at hnul
  exact Disk.isDirectory_eq_ok_true_iff.mpr ⟨hnul, h.hasDirectory⟩

/-- The names of what is in a tree hold no slash. -/
theorem slashFree (h : Discoverable d directory g exclude names) (ht : d.tree.WellFormed) :
    SlashFree names := by
  obtain ⟨l, hl⟩ := h.hasDirectory
  obtain ⟨-, m, b, hm⟩ := Disk.isFile_eq_ok_true_iff.mp h.isFile
  have hfind := (Glob.entry_below hl h.dots_not_mem hm).2
  exact fun n hn => (Tree.isName_of_find? ht hfind n (List.mem_append_right l hn)).no_slash

end Discoverable

/-! ## The search -/

/-- What the pattern selects in a directory, hidden and excluded files left out, in order. -/
def searchFiles (d : Disk) (directory : Path) (g : Glob) (exclude : Option String) :
    Except DiskError (List (List String)) := do
  let selected ← g.select d directory
  let visible ← visibleFiles d directory selected
  pure ((sortedByText visible).filter fun names => !isExcluded exclude (relativeText names))

/-- The files that a discovery finds; where no directory is, there are none. -/
def discoverFiles (d : Disk) (directory : Path) (g : Glob) (exclude : Option String) :
    Except DiskError (List (List String)) :=
  match d.isDirectory directory with
  | .error e => .error e
  | .ok false => .ok []
  | .ok true => searchFiles d directory g exclude

/-- What becomes of modules when their bindings are checked. -/
def checkBindings (modules : List Module) : Except Failure (List Module) :=
  match bindingCollision? modules with
  | some c => .error (.collision c)
  | none => .ok modules

theorem discoverModules_eq (hg : Glob.ofString o.pattern = .ok g) :
    (discoverModules d directory base o).2 =
      match discoverFiles d directory g o.exclude with
      | .error e => .error (.access (.disk e))
      | .ok files => checkBindings (files.map (moduleOf directory base o.extension)) := by
  unfold discoverModules discoverFiles
  cases d.isDirectory directory with
  | error e => rfl
  | ok there =>
    cases there with
    | false => rfl
    | true =>
      simp only [hg, searchFiles, bind, Except.bind]
      cases g.select d directory with
      | error e => rfl
      | ok selected =>
        simp only
        cases visibleFiles d directory selected with
        | error e => rfl
        | ok files =>
          simp only [pure, Except.pure, checkBindings]
          cases bindingCollision? _ with
          | none => rfl
          | some c => rfl

theorem mem_visibleFiles {selected : List (List String)}
    (h : visibleFiles d directory selected = .ok files) :
    names ∈ files ↔ names ∈ selected ∧ d.isFile (Glob.below directory names) = .ok true ∧
      ∀ n ∈ names, n.toList.head? ≠ some '.' := by
  rw [mem_filterM h, ← isHidden_eq_false_iff]
  refine and_congr_right fun _ => ?_
  cases d.isFile (Glob.below directory names) with
  | error e => simp [bind, Except.bind]
  | ok file => simp [bind, Except.bind, pure, Except.pure]

theorem sortedByText_perm (files : List (List String)) : (sortedByText files).Perm files :=
  List.mergeSort_perm _ _

theorem searchFiles_eq_ok (h : searchFiles d directory g exclude = .ok files) :
    ∃ selected visible, Glob.selectFrom d directory g.onlyDirectories g.parts [] = .ok selected ∧
      visibleFiles d directory selected = .ok visible ∧
      files = (sortedByText visible).filter
        fun names => !isExcluded exclude (relativeText names) := by
  obtain ⟨selected, hs, h⟩ := exists_of_bind_eq_ok h
  obtain ⟨visible, hv, h⟩ := exists_of_bind_eq_ok h
  exact ⟨selected, visible, hs, hv, (Except.ok.inj h).symm⟩

theorem discoverFiles_eq_ok (h : discoverFiles d directory g exclude = .ok files) :
    (d.isDirectory directory = .ok false ∧ files = []) ∨
      (d.isDirectory directory = .ok true ∧ searchFiles d directory g exclude = .ok files) := by
  unfold discoverFiles at h
  split at h
  · contradiction
  · exact .inl ⟨by assumption, (Except.ok.inj h).symm⟩
  · exact .inr ⟨by assumption, h⟩

/-- Exactly the files that are to be preloaded are found. -/
theorem mem_discoverFiles_iff (ht : d.tree.WellFormed)
    (h : discoverFiles d directory g exclude = .ok files) :
    names ∈ files ↔ Discoverable d directory g exclude names := by
  rcases discoverFiles_eq_ok h with ⟨hd, rfl⟩ | ⟨hd, hsearch⟩
  · refine ⟨fun hn => absurd hn List.not_mem_nil, fun hn => ?_⟩
    rw [hn.isDirectory] at hd
    simp at hd
  · obtain ⟨selected, visible, hs, hv, rfl⟩ := searchFiles_eq_ok hsearch
    have hdirectory : d.isFile (Glob.below directory []) ≠ .ok true := by
      rw [Glob.below_nil]
      exact Glob.isFile_ne_of_hasDirectory (Disk.isDirectory_eq_ok_true_iff.mp hd).2
    rw [List.mem_filter, (sortedByText_perm visible).mem_iff, mem_visibleFiles hv, Bool.not_eq_true',
      ← Bool.not_eq_true, isExcluded_iff, not_or]
    constructor
    · rintro ⟨⟨hmem, hfile, hvisible⟩, haux, hout⟩
      obtain ⟨honly, more, hmore, hleads⟩ :=
        Glob.leads_of_mem_selectFrom ht hs hmem hdirectory hfile
      rw [List.nil_append] at hmore
      exact ⟨hfile, ⟨honly, hmore ▸ hleads⟩, hvisible, haux, hout⟩
    · intro hn
      refine ⟨⟨?_, hn.isFile, hn.visible⟩, hn.notAuxiliary, hn.notLeftOut⟩
      rw [hn.selected.1] at hs
      rw [← List.nil_append names]
      exact Glob.mem_selectFrom_of_leads ht hs hn.selected.2 hn.dots_not_mem hn.isFile

theorem nodup_discoverFiles (ht : d.tree.WellFormed)
    (h : discoverFiles d directory g exclude = .ok files) : files.Nodup := by
  rcases discoverFiles_eq_ok h with ⟨-, rfl⟩ | ⟨-, hsearch⟩
  · exact List.nodup_nil
  · obtain ⟨selected, visible, hs, hv, rfl⟩ := searchFiles_eq_ok hsearch
    have hvisible := nodup_filterM hv (Glob.nodup_selectFrom ht hs)
    exact ((sortedByText_perm visible).nodup_iff.mpr hvisible).filter _

/-- The files are in the order of their texts, which are all different. -/
theorem pairwise_discoverFiles (ht : d.tree.WellFormed)
    (h : discoverFiles d directory g exclude = .ok files) :
    files.Pairwise fun a b => relativeText a < relativeText b := by
  have hle : files.Pairwise fun a b => relativeText a ≤ relativeText b := by
    rcases discoverFiles_eq_ok h with ⟨-, rfl⟩ | ⟨-, hsearch⟩
    · exact .nil
    · obtain ⟨selected, visible, -, -, rfl⟩ := searchFiles_eq_ok hsearch
      exact (pairwise_mergeSort_text relativeText visible).filter _
  refine (hle.and (nodup_discoverFiles ht h)).imp_of_mem ?_
  rintro a b ha hb ⟨hab, hne⟩
  have hda := (mem_discoverFiles_iff ht h).mp ha
  have hdb := (mem_discoverFiles_iff ht h).mp hb
  have hinj := relativeText_inj hda.ne_nil hdb.ne_nil (hda.slashFree ht) (hdb.slashFree ht)
  exact Classical.byContradiction fun hlt =>
    hne (hinj.mp (String.le_antisymm hab (String.not_lt.mp hlt)))

/-! ## Failures, and the order of lists -/

/-- The search fails only at a path that it asks for and that is too long. -/
theorem exists_asks_of_searchFiles {x : DiskError}
    (h : searchFiles d directory g exclude = .error x) :
    ∃ names, Glob.Asks d directory g.onlyDirectories g.parts [] names ∧
      Glob.TellsTooLong d directory names x := by
  rcases bind_eq_error h with hs | ⟨selected, hs, h⟩
  · exact Glob.exists_asks_of_selectFrom hs
  · rcases bind_eq_error h with hv | ⟨visible, -, h⟩
    · obtain ⟨names, hmem, hnames⟩ := exists_step_of_filterM_eq_error hv
      rcases bind_eq_error hnames with hfile | ⟨file, -, hnames⟩
      · have hnul := (Disk.isFile_eq_error_iff.mp hfile).1
        exact ⟨names, Glob.asks_of_mem_selectFrom hs hmem hnul,
          Glob.tellsTooLong_of_isFile hfile⟩
      · contradiction
    · contradiction

/-- If there is such a path, the search fails. -/
theorem exists_searchFiles_eq_error (exclude : Option String)
    (h : Glob.Asks d directory g.onlyDirectories g.parts [] names)
    (hlong : d.locate (Glob.below directory names) = .error .nameTooLong) :
    ∃ x, searchFiles d directory g exclude = .error x := by
  cases hsearch : searchFiles d directory g exclude with
  | error x => exact ⟨x, rfl⟩
  | ok files =>
    obtain ⟨selected, visible, hs, hv, -⟩ := searchFiles_eq_ok hsearch
    rcases Glob.stops_of_asks h hlong with ⟨e, he⟩ | ⟨selected', hs', hmem, hnul⟩
    · simp [hs] at he
    · obtain rfl := Except.ok.inj (hs.symm.trans hs')
      obtain ⟨shown, hshown⟩ := step_of_filterM hv hmem
      obtain ⟨file, hfile, -⟩ := exists_of_bind_eq_ok hshown
      obtain ⟨e, he⟩ := Glob.exists_isFile_eq_error hnul hlong
      simp [hfile] at he

/-- Nothing stops the search but a path that it looks up and that is too long. -/
theorem tellsTooLong_of_discoverFiles {x : DiskError} (ht : d.tree.WellFormed)
    (h : discoverFiles d directory g exclude = .error x) :
    ∃ names, Glob.LooksUp d directory g.parts [] names ∧
      Glob.TellsTooLong d directory names x := by
  unfold discoverFiles at h
  split at h
  · rename_i x' hd
    obtain rfl := Except.error.inj h
    rw [← Glob.below_nil directory] at hd
    exact ⟨[], .here _ _, (Disk.isDirectory_eq_error_iff.mp hd).2⟩
  · contradiction
  · obtain ⟨names, hasks, hlong⟩ := exists_asks_of_searchFiles h
    exact ⟨names, hasks.looksUp ht, hlong⟩

theorem sameElements_visibleFiles (ht : d.tree.WellFormed) (h : d.SameEntries e)
    {selected selected' : List (List String)} (hperm : selected'.Perm selected) :
    SameElements (visibleFiles e directory selected') (visibleFiles d directory selected) := by
  unfold visibleFiles
  simp only [h.isFile ht, filterM_eq_gather]
  exact sameElements_gather_perm _ hperm

theorem sameElements_discoverFiles (ht : d.tree.WellFormed) (h : d.SameEntries e)
    (directory : Path) (g : Glob) (exclude : Option String) :
    SameElements (discoverFiles e directory g exclude) (discoverFiles d directory g exclude) := by
  unfold discoverFiles
  rw [h.isDirectory ht]
  split
  · exact .refl _
  · exact .refl _
  · refine (Glob.sameElements_selectFrom ht h _ _ _ _).bind fun hselected => ?_
    refine (sameElements_visibleFiles ht h hselected).bind fun hvisible => .ok ?_
    exact (((sortedByText_perm _).trans hvisible).trans (sortedByText_perm _).symm).filter _

/-- However the entries are listed, the same files come in the same order, or the search fails. -/
theorem discoverFiles_sameEntries (ht : d.tree.WellFormed) (h : d.SameEntries e) :
    discoverFiles e directory g exclude = discoverFiles d directory g exclude ∨
      ∃ x x', discoverFiles d directory g exclude = .error x ∧
        discoverFiles e directory g exclude = .error x' := by
  have hsame := sameElements_discoverFiles ht h directory g exclude
  generalize hd : discoverFiles d directory g exclude = r at hsame
  generalize he : discoverFiles e directory g exclude = s at hsame
  cases hsame with
  | error x' x => exact .inr ⟨x, x', rfl, rfl⟩
  | ok hperm =>
    refine .inl (congrArg _ (List.Perm.eq_of_pairwise (fun a b _ _ hab hba => ?_)
      (pairwise_discoverFiles (ht.perm h.entries) he) (pairwise_discoverFiles ht hd) hperm))
    exact absurd hba (String.lt_asymm hab)

/-! ## Discoveries -/

/-- Double dots in a pattern stay one of its parts. -/
theorem named_dots_mem_of_readParts {ss : List String} {ps : List GlobPart}
    (h : Glob.readParts ss = .ok ps) (hs : ".." ∈ ss) : GlobPart.named ".." ∈ ps := by
  induction ss generalizing ps with
  | nil => cases hs
  | cons s ss ih =>
    obtain ⟨p, hp, h⟩ := exists_of_bind_eq_ok h
    obtain ⟨ps', hps, h⟩ := exists_of_bind_eq_ok h
    obtain rfl := Except.ok.inj h
    rcases List.mem_cons.mp hs with rfl | hs
    · have hdots : Glob.readPart ".." = .ok (.named "..") := by rfl
      rw [hdots, Except.ok.injEq] at hp
      exact List.mem_cons.mpr (.inl hp)
    · exact List.mem_cons_of_mem _ (ih hps hs)

theorem named_dots_mem_of_ofString {pattern : String} (hg : Glob.ofString pattern = .ok g)
    (hdots : ".." ∈ (Path.ofString pattern).parts) : GlobPart.named ".." ∈ g.parts := by
  unfold Glob.ofString at hg
  split at hg
  · contradiction
  · simp only at hg
    split at hg
    · contradiction
    · split at hg
      · contradiction
      · cases hps : Glob.readParts (Path.ofString pattern).parts with
        | error x => simp [hps, Except.map] at hg
        | ok ps =>
          simp only [hps, Except.map, Except.ok.injEq] at hg
          exact hg ▸ named_dots_mem_of_readParts hps hdots

/-- What a discovery gives where the search does not fail: `files` are those that are to be
preloaded, and `result` is what becomes of their modules. -/
structure Discovery (d : Disk) (directory : Path) (base : String) (o : Options) (g : Glob)
    (files : List (List String)) (result : Except Failure (List Module)) : Prop where
  exact (names : List String) : names ∈ files ↔ Discoverable d directory g o.exclude names
  ordered : files.Pairwise fun a b => relativeText a < relativeText b
  dots : ".." ∈ (Path.ofString o.pattern).parts → files = []
  outcome : result = .ok (files.map (moduleOf directory base o.extension)) ∨
    ∃ c, result = .error (.collision c)
  collides : (∃ c, result = .error (.collision c)) ↔
    ∃ names names', Discoverable d directory g o.exclude names ∧
      Discoverable d directory g o.exclude names' ∧ names ≠ names' ∧
      (moduleOf directory base o.extension names).binding =
        (moduleOf directory base o.extension names').binding
  group (c : Collision) : result = .error (.collision c) →
    FirstShared (files.map (moduleOf directory base o.extension)) c
  distinct (modules : List Module) : result = .ok modules →
    (modules.map (·.binding)).Nodup ∧ (modules.map (·.specifier)).Nodup

theorem checkBindings_eq_ok_iff {modules modules' : List Module} :
    checkBindings modules = .ok modules' ↔
      modules' = modules ∧ (modules.map (·.binding)).Nodup := by
  rw [checkBindings, ← bindingCollision?_eq_none_iff]
  cases bindingCollision? modules <;> simp [eq_comm]

theorem checkBindings_eq_collision_iff {modules : List Module} {c : Collision} :
    checkBindings modules = .error (.collision c) ↔ FirstShared modules c := by
  rw [checkBindings, ← bindingCollision?_eq_some_iff]
  cases bindingCollision? modules <;> simp

theorem checkBindings_cases (modules : List Module) :
    checkBindings modules = .ok modules ∨ ∃ c, checkBindings modules = .error (.collision c) := by
  unfold checkBindings
  cases bindingCollision? modules with
  | none => exact .inl rfl
  | some c => exact .inr ⟨c, rfl⟩

theorem discovery_of_discoverFiles (ht : d.tree.WellFormed)
    (hg : Glob.ofString o.pattern = .ok g)
    (h : discoverFiles d directory g o.exclude = .ok files) :
    Discovery d directory base o g files
      (checkBindings (files.map (moduleOf directory base o.extension))) := by
  have hexact : ∀ names, names ∈ files ↔ Discoverable d directory g o.exclude names :=
    fun names => mem_discoverFiles_iff ht h
  constructor
  case exact => exact hexact
  case ordered => exact pairwise_discoverFiles ht h
  case dots =>
    intro hdots
    refine List.eq_nil_iff_forall_not_mem.mpr fun names hm => ?_
    have hn := (hexact names).mp hm
    exact hn.dots_not_mem (hn.selected.2.mem_of_named (named_dots_mem_of_ofString hg hdots))
  case outcome => exact checkBindings_cases _
  case collides =>
    simp only [checkBindings_eq_collision_iff, ← bindingCollision?_eq_some_iff, ← hexact]
    rw [← Option.isSome_iff_exists, ← Option.ne_none_iff_isSome, ne_eq,
      bindingCollision?_eq_none_iff, List.map_map,
      List.nodup_map_iff_inj_on (nodup_discoverFiles ht h)]
    simp only [Function.comp_apply]
    push Not
    constructor
    · rintro ⟨names, hm, names', hm', hb, hne⟩
      exact ⟨names, names', hm, hm', hne, hb⟩
    · rintro ⟨names, names', hm, hm', hne, hb⟩
      exact ⟨names, hm, names', hm', hb, hne⟩
  case group => exact fun c => checkBindings_eq_collision_iff.mp
  case distinct =>
    intro modules hmodules
    obtain ⟨rfl, hbindings⟩ := checkBindings_eq_ok_iff.mp hmodules
    exact ⟨hbindings, nodup_specifiers (fun names hm => ((hexact names).mp hm).slashFree ht)
      hbindings⟩

/-- A discovery is exact, and the same however the entries are listed, unless a path that it looks
up is too long for the system. -/
theorem discovery_exact (ht : d.tree.WellFormed) (directory : Path) (base : String)
    (hg : Glob.ofString o.pattern = .ok g) :
    (∃ files, Discovery d directory base o g files (discoverModules d directory base o).2 ∧
      ∀ e, d.SameEntries e →
        (discoverModules e directory base o).2 = (discoverModules d directory base o).2) ∨
    ∀ e, d.SameEntries e → ∃ names x,
      (discoverModules e directory base o).2 = .error (.access (.disk x)) ∧
        Glob.LooksUp e directory g.parts [] names ∧ Glob.TellsTooLong e directory names x := by
  cases h : discoverFiles d directory g o.exclude with
  | ok files =>
    refine .inl ⟨files, ?_, fun e he => ?_⟩
    · rw [discoverModules_eq hg, h]
      exact discovery_of_discoverFiles ht hg h
    · rw [discoverModules_eq hg, discoverModules_eq hg]
      rcases discoverFiles_sameEntries ht he with hsame | ⟨x, x', hx, -⟩
      · rw [hsame]
      · rw [h] at hx
        contradiction
  | error x =>
    refine .inr fun e he => ?_
    have hfails : ∃ x', discoverFiles e directory g o.exclude = .error x' := by
      rcases discoverFiles_sameEntries ht he with hsame | ⟨-, x', -, hx'⟩
      · exact ⟨x, hsame.trans h⟩
      · exact ⟨x', hx'⟩
    obtain ⟨x', hx'⟩ := hfails
    obtain ⟨names, hnames, hlong⟩ := tellsTooLong_of_discoverFiles (ht.perm he.entries) hx'
    exact ⟨names, x', by rw [discoverModules_eq hg, hx'], hnames, hlong⟩

/-- Components beside their stories and a hidden file. -/
def shelfDisk : Disk where
  tree := ⟨[(["c"], .directory), (["c", "Header.tsx"], .file .empty),
    (["c", "Header.stories.tsx"], .file .empty), (["c", ".old.tsx"], .file .empty),
    (["c", "list"], .directory), (["c", "list", "Item.tsx"], .file .empty)]⟩
  current := []
  faults := noFaults

def shelfOptions : Options := ⟨"**/*.tsx", ".tsx", none⟩

def shelfGlob : Glob := ⟨[.anyDepth, .wildcard (Wildcard.pieces "*.tsx".toList)], false⟩

theorem discovery_exact_shelf :
    shelfDisk.tree.WellFormed ∧ Glob.ofString shelfOptions.pattern = .ok shelfGlob ∧
      ∃ files, Discovery shelfDisk ⟨.root, ["c"]⟩ "app/" shelfOptions shelfGlob files
        (discoverModules shelfDisk ⟨.root, ["c"]⟩ "app/" shelfOptions).2 := by
  have ht : shelfDisk.tree.WellFormed := by decide
  have hg : Glob.ofString shelfOptions.pattern = .ok shelfGlob := rfl
  have hfound : (discoverFiles shelfDisk ⟨.root, ["c"]⟩ shelfGlob none).isOk = true := by
    decide +kernel
  refine ⟨ht, hg, ?_⟩
  obtain ⟨files, hfiles, -⟩ | hfails := discovery_exact ht ⟨.root, ["c"]⟩ "app/" hg
  · exact ⟨files, hfiles⟩
  · obtain ⟨-, x, hx, -⟩ := hfails shelfDisk (.refl _)
    rw [discoverModules_eq hg] at hx
    split at hx
    · rename_i x' hx'
      rw [show shelfOptions.exclude = none from rfl] at hx'
      rw [hx'] at hfound
      contradiction
    · rename_i files _
      rcases checkBindings_cases (files.map (moduleOf ⟨.root, ["c"]⟩ "app/" shelfOptions.extension))
        with hok | ⟨c, hc⟩
      · rw [hok] at hx
        contradiction
      · rw [hc] at hx
        simp at hx

/-! ## A path that is too long -/

/-- The root under one of its longer names. -/
def upwards (n : Nat) : Path := ⟨.root, List.replicate (n + 1) ".."⟩

theorem utf8ByteSize_upwards (n : Nat) : (upwards n).toString.utf8ByteSize = 3 * (n + 1) := by
  have hslash : "/".utf8ByteSize = 1 := rfl
  have hdots : "..".utf8ByteSize = 2 := rfl
  have hroot : Anchor.root.text.utf8ByteSize = 1 := rfl
  have hparts : ("/".intercalate (List.replicate (n + 1) "..")).utf8ByteSize = 3 * n + 2 := by
    induction n with
    | zero => simp [hdots]
    | succ n ih =>
      rw [List.replicate_succ, List.replicate_succ, String.intercalate_cons_cons,
        ← List.replicate_succ, String.utf8ByteSize_append, String.utf8ByteSize_append, ih, hslash,
        hdots]
      omega
  rw [upwards, Path.toString_of_ne_nil _ (by simp), String.utf8ByteSize_append, hparts, hroot]
  omega

theorem follow_replicate_dots (t : Tree) (n : Nat) :
    Disk.follow t [] (List.replicate n "..") = .ok [] := by
  induction n with
  | zero => rfl
  | succ n ih =>
    rw [List.replicate_succ, Disk.follow, Tree.find?_nil]
    exact ih

theorem entry_upwards {n : Nat} (hn : 3 * (n + 1) ≤ Disk.maxPath) (d : Disk) :
    d.entry (upwards n) = .ok ([], .directory) := by
  refine Disk.entry_eq_ok_iff.mpr ⟨?_, Tree.find?_nil _⟩
  rw [Disk.locate, if_neg (by rw [utf8ByteSize_upwards]; omega)]
  exact follow_replicate_dots _ _

theorem isFile_upwards {n : Nat} (hn : Disk.maxPath < 3 * (n + 1) + 2) (d : Disk) :
    d.isFile ((upwards n).child "a") = .error (.system .nameTooLong ((upwards n).child "a")) := by
  refine Disk.isFile_eq_error_iff.mpr ⟨?_, if_pos ?_, rfl⟩
  · have hnul : "..".toList.contains '\x00' = false := rfl
    rw [Path.hasNul, List.any_eq_false]
    intro s hs
    rcases List.mem_append.mp hs with hs | hs
    · rw [List.eq_of_mem_replicate hs, hnul]
      simp
    · rw [List.mem_singleton.mp hs]
      decide
  · have hname : "a".utf8ByteSize = 1 := rfl
    have hslash : "/".utf8ByteSize = 1 := rfl
    change _ < ((⟨.root, List.replicate (n + 1) ".."⟩ : Path).child "a").toString.utf8ByteSize
    rw [Path.toString_child_of_ne_nil _ (by simp), String.utf8ByteSize_append,
      String.utf8ByteSize_append, hname, hslash]
    have hup := utf8ByteSize_upwards n
    rw [upwards] at hup
    omega

def rootFileDisk : Disk where
  tree := ⟨[(["a"], .file .empty)]⟩
  current := []
  faults := noFaults

/-- The search lists the file `a`, and then cannot ask whether it is one. -/
theorem discoverModules_of_tooLong {p : Path} (hentry : rootFileDisk.entry p = .ok ([], .directory))
    (hlong : rootFileDisk.isFile (p.child "a") = .error (.system .nameTooLong (p.child "a"))) :
    (discoverModules rootFileDisk p "" ⟨"*", "", none⟩).2 =
      .error (.access (.disk (.system .nameTooLong (p.child "a")))) := by
  have hnul : p.hasNul = false := by
    rw [← Glob.below_nil p]
    exact Glob.hasNul_of_below (Disk.isFile_eq_error_iff.mp hlong).1
  have hdirectory : rootFileDisk.isDirectory p = .ok true :=
    Disk.isDirectory_eq_ok_true_iff.mpr ⟨hnul, [], hentry⟩
  have hselected : Glob.selectFrom rootFileDisk p false [.wildcard [.run]] [] = .ok [["a"]] := by
    rw [Glob.selectFrom_wildcard, Glob.childrenOf_of_entry (by rwa [Glob.below_nil])]
    rfl
  have hvisible : visibleFiles rootFileDisk p [["a"]] =
      .error (.system .nameTooLong (p.child "a")) := by
    rw [visibleFiles, filterM_eq_gather, gather, keep, show Glob.below p ["a"] = p.child "a" from rfl,
      hlong]
    rfl
  rw [discoverModules_eq (g := ⟨[.wildcard [.run]], false⟩) rfl, discoverFiles, hdirectory]
  simp only [searchFiles, Glob.select, hselected, hvisible, bind, Except.bind]

/-- A directory with a file that the pattern matches, but no discovery: its path is too long. -/
theorem discoverModules_upwards :
    rootFileDisk.tree.WellFormed ∧ Glob.ofString "*" = .ok ⟨[.wildcard [.run]], false⟩ ∧
      rootFileDisk.entry (upwards 1364) = .ok ([], .directory) ∧
      rootFileDisk.tree.find? ["a"] = some (.file .empty) ∧
      (discoverModules rootFileDisk (upwards 1364) "" ⟨"*", "", none⟩).2 =
        .error (.access (.disk (.system .nameTooLong ((upwards 1364).child "a")))) := by
  have hentry := entry_upwards (n := 1364) (by decide) rootFileDisk
  have hlong := isFile_upwards (n := 1364) (by decide) rootFileDisk
  exact ⟨by decide, rfl, hentry, rfl, discoverModules_of_tooLong hentry hlong⟩

end TypedContent.Preload
