import TypedContent.Proofs.Preload.Expansion

/-!
# Expansions that fail

`Glob.Refused` says which patterns are refused, and why (`Glob.ofString_eq_error_iff`).

An expansion ends with a text, with an error of its own, or with a mishap.  `Mishap` lists all of
these: the path in the placeholder holds a NUL character, the pattern names the directory itself,
which is refused without a word, or the system refuses to look a path up.  `expandWith_accounted`:
exactly these end an expansion without an error of its own.
-/

namespace TypedContent.Preload

open Files Fallible Placeholder

/-! ## Refused patterns -/

namespace Glob

variable {pattern part : String} {e : GlobError}

/-- The part holds two stars side by side, and more than these. -/
def MisplacesDepth (part : String) : Prop := part ≠ "**" ∧ ['*', '*'] <:+: part.toList

/-- Between its slashes the pattern has nothing but single dots. -/
def NamesItself (pattern : String) : Prop :=
  pattern.toList.head? ≠ some '/' ∧
    ∀ part ∈ Path.splitSlash pattern.toList, part = [] ∨ part = ['.']

/-- Why a pattern is refused. -/
inductive Refused (pattern : String) : GlobError → Prop
  | empty (h : pattern = "") : Refused pattern .empty
  | absolute (h : pattern.toList.head? = some '/') : Refused pattern .absolute
  | misplacedDepth {part : String} (hrelative : pattern.toList.head? ≠ some '/')
    (hpart : part ∈ (Path.ofString pattern).parts) (h : MisplacesDepth part) :
    Refused pattern .misplacedDepth
  | noParts (hne : pattern ≠ "") (h : NamesItself pattern)
    (hslash : pattern.toList.getLast? ≠ some '/') : Refused pattern .noParts
  | onlySlash (h : NamesItself pattern) (hslash : pattern.toList.getLast? = some '/') :
    Refused pattern .onlySlash

theorem hasDoubleStar_iff {s : List Char} : hasDoubleStar s = true ↔ ['*', '*'] <:+: s := by
  fun_induction hasDoubleStar s with
  | case1 s => exact ⟨fun _ => ⟨[], s, rfl⟩, fun _ => rfl⟩
  | case2 c s hstars ih =>
    have hstart : ¬ ['*', '*'] <+: c :: s := by
      rintro ⟨t, ht⟩
      obtain ⟨rfl, rfl⟩ := List.cons.inj ht
      exact hstars t rfl rfl
    rw [ih, List.infix_cons_iff]
    simp only [hstart, false_or]
  | case3 => simp

theorem readPart_eq_error_iff :
    readPart part = .error e ↔ e = .misplacedDepth ∧ MisplacesDepth part := by
  unfold readPart MisplacesDepth
  rw [← hasDoubleStar_iff]
  split
  · simp [*]
  · split
    · simp [*, eq_comm]
    · split <;> simp [*]

theorem readParts_eq_error_iff {ss : List String} :
    readParts ss = .error e ↔ e = .misplacedDepth ∧ ∃ s ∈ ss, MisplacesDepth s := by
  induction ss with
  | nil => simp [readParts]
  | cons s ss ih =>
    rw [List.exists_mem_cons_iff, readParts]
    cases hpart : readPart s with
    | error e' =>
      obtain ⟨rfl, hs⟩ := readPart_eq_error_iff.mp hpart
      simp [bind, Except.bind, hs, eq_comm]
    | ok p =>
      have hs : ¬ MisplacesDepth s := by
        intro hs
        simp [readPart_eq_error_iff.mpr ⟨rfl, hs⟩] at hpart
      rw [or_iff_right hs, ← ih]
      cases readParts ss <;> simp [bind, Except.bind, pure, Except.pure]

theorem anchorOf_eq_here_iff {s : List Char} : Path.anchorOf s = .here ↔ s.head? ≠ some '/' := by
  unfold Path.anchorOf
  split
  · simp
  · simp
  · simp
  · next hslash =>
    cases s with
    | nil => simp
    | cons c s =>
      have hc : c ≠ '/' := fun h => hslash s (h ▸ rfl)
      simp [hc]

theorem namesItself_iff :
    NamesItself pattern ↔
      pattern.toList.head? ≠ some '/' ∧ (Path.ofString pattern).parts = [] := by
  simp [NamesItself, Path.ofString, Path.partsOf, or_iff_not_imp_left]

theorem ofString_of_absolute (h : pattern.toList.head? = some '/') :
    ofString pattern = .error .absolute := by
  have hne : pattern ≠ "" := by
    rintro rfl
    contradiction
  have hanchor : (Path.ofString pattern).anchor ≠ .here := fun hhere =>
    anchorOf_eq_here_iff.mp hhere h
  simp [ofString, hne, hanchor]

theorem ofString_of_relative (hne : pattern ≠ "") (h : pattern.toList.head? ≠ some '/') :
    ofString pattern = if (Path.ofString pattern).parts = [] then
      .error (if pattern.toList.getLast? = some '/' then .onlySlash else .noParts)
    else (readParts (Path.ofString pattern).parts).map fun ps =>
      ⟨ps, pattern.toList.getLast? == some '/'⟩ := by
  have hanchor : (Path.ofString pattern).anchor = .here := anchorOf_eq_here_iff.mpr h
  simp [ofString, hne, hanchor]

theorem refused_of_ofString (h : ofString pattern = .error e) : Refused pattern e := by
  by_cases hne : pattern = ""
  · obtain rfl : .empty = e := by simpa [ofString, hne] using h
    exact .empty hne
  · by_cases hslash : pattern.toList.head? = some '/'
    · obtain rfl := Except.error.inj ((ofString_of_absolute hslash).symm.trans h)
      exact .absolute hslash
    · rw [ofString_of_relative hne hslash] at h
      split at h
      · next hparts =>
        have hitself := namesItself_iff.mpr ⟨hslash, hparts⟩
        obtain rfl := Except.error.inj h
        split
        · next hlast => exact .onlySlash hitself hlast
        · next hlast => exact .noParts hne hitself hlast
      · cases hread : readParts (Path.ofString pattern).parts with
        | ok ps => simp [hread, Except.map] at h
        | error e' =>
          obtain rfl : e' = e := by simpa [hread, Except.map] using h
          obtain ⟨rfl, part, hpart, hdepth⟩ := readParts_eq_error_iff.mp hread
          exact .misplacedDepth hslash hpart hdepth

theorem Refused.ofString_eq (h : Refused pattern e) : ofString pattern = .error e := by
  cases h with
  | empty h => rw [h, ofString, if_pos rfl]
  | absolute h => exact ofString_of_absolute h
  | @misplacedDepth part hrelative hpart h =>
    have hne : pattern ≠ "" := by
      rintro rfl
      contradiction
    have hread := readParts_eq_error_iff.mpr ⟨rfl, part, hpart, h⟩
    rw [ofString_of_relative hne hrelative, if_neg (List.ne_nil_of_mem hpart), hread]
    rfl
  | noParts hne h hslash =>
    obtain ⟨hrelative, hparts⟩ := namesItself_iff.mp h
    rw [ofString_of_relative hne hrelative, if_pos hparts, if_neg hslash]
  | onlySlash h hslash =>
    have hne : pattern ≠ "" := by
      rintro rfl
      contradiction
    obtain ⟨hrelative, hparts⟩ := namesItself_iff.mp h
    rw [ofString_of_relative hne hrelative, if_pos hparts, if_pos hslash]

/-- A pattern is refused for these reasons and no others. -/
theorem ofString_eq_error_iff : ofString pattern = .error e ↔ Refused pattern e :=
  ⟨refused_of_ofString, Refused.ofString_eq⟩

/-- Every refusal but that of a pattern that names the directory itself is explained. -/
theorem Refused.message?_eq_none_iff (h : Refused pattern e) (hne : pattern ≠ "") :
    e.message? = none ↔ NamesItself pattern := by
  cases h with
  | empty h => exact absurd h hne
  | absolute h => simp [GlobError.message?, NamesItself, h]
  | misplacedDepth hrelative hpart h =>
    simp [GlobError.message?, namesItself_iff, List.ne_nil_of_mem hpart]
  | noParts _ h _ => simp [GlobError.message?, h]
  | onlySlash h _ => simp [GlobError.message?, h]

end Glob

/-! ## Discoveries that fail -/

/-- The failures that the expansion has errors of its own for. -/
inductive Failure.IsOwn : Failure → Prop
  | options (e : OptionsError) : IsOwn (.options e)
  | pattern {pattern : String} {e : GlobError} {reason : String} (h : e.message? = some reason) :
    IsOwn (.pattern pattern e)
  | collision (c : Collision) : IsOwn (.collision c)

variable {d : Disk} {directory context : Path} {o : Options} {base resource source : String}
  {options : Json} {a : Placeholder} {f : Failure}

theorem Failure.isOwn_pattern_iff {pattern : String} {e : GlobError} :
    (Failure.pattern pattern e).IsOwn ↔ e.message? ≠ none := by
  rw [Option.ne_none_iff_exists']
  constructor
  · intro hown
    cases hown with
    | pattern h => exact ⟨_, h⟩
  · rintro ⟨reason, h⟩
    exact .pattern h

theorem Failure.not_isOwn_access (e : AccessError) : ¬ (Failure.access e).IsOwn := nofun

/-- The ways in which a discovery fails with no error of its own. -/
inductive DiscoveryMishap (d : Disk) (directory : Path) (o : Options) : Failure → Prop
  /-- The system refuses to look the directory up. -/
  | directory (hnul : directory.hasNul = false) (h : d.locate directory = .error .nameTooLong) :
    DiscoveryMishap d directory o (.access (.disk (.system .nameTooLong directory)))
  /-- The pattern is refused without a word. -/
  | pattern {e : GlobError} (hdirectory : d.isDirectory directory = .ok true)
    (h : Glob.Refused o.pattern e) (hsilent : e.message? = none) :
    DiscoveryMishap d directory o (.pattern o.pattern e)
  /-- The system refuses to look up a path that the search asks for. -/
  | search {g : Glob} {names : List String} {x : DiskError}
    (hdirectory : d.isDirectory directory = .ok true) (hg : Glob.ofString o.pattern = .ok g)
    (hasks : Glob.Asks d directory g.onlyDirectories g.parts [] names)
    (h : Glob.TellsTooLong d directory names x) : DiscoveryMishap d directory o (.access (.disk x))

theorem discoverModules_of_isDirectory_eq_error {x : DiskError}
    (h : d.isDirectory directory = .error x) :
    (discoverModules d directory base o).2 = .error (.access (.disk x)) := by
  simp only [discoverModules, h]

/-- In a directory a pattern that is refused ends the discovery. -/
theorem discoverModules_of_refused {e : GlobError} (hdirectory : d.isDirectory directory = .ok true)
    (h : Glob.Refused o.pattern e) :
    (discoverModules d directory base o).2 = .error (.pattern o.pattern e) := by
  simp only [discoverModules, hdirectory, h.ofString_eq]

theorem discoverFiles_of_isDirectory {g : Glob} {exclude : Option String}
    (h : d.isDirectory directory = .ok true) :
    discoverFiles d directory g exclude = searchFiles d directory g exclude := by
  simp only [discoverFiles, h]

/-- A discovery that fails with no error of its own fails in one of these ways. -/
theorem mishap_of_discoverModules (h : (discoverModules d directory base o).2 = .error f)
    (hown : ¬ f.IsOwn) : DiscoveryMishap d directory o f := by
  cases hdirectory : d.isDirectory directory with
  | error x =>
    obtain ⟨hnul, hlong, rfl⟩ := Disk.isDirectory_eq_error_iff.mp hdirectory
    rw [discoverModules_of_isDirectory_eq_error hdirectory] at h
    obtain rfl := Except.error.inj h
    exact .directory hnul hlong
  | ok there =>
    cases there with
    | false => simp [discoverModules, hdirectory] at h
    | true =>
      cases hg : Glob.ofString o.pattern with
      | error e =>
        have hrefused := Glob.refused_of_ofString hg
        rw [discoverModules_of_refused hdirectory hrefused] at h
        obtain rfl := Except.error.inj h
        rw [Failure.isOwn_pattern_iff, not_not] at hown
        exact .pattern hdirectory hrefused hown
      | ok g =>
        rw [discoverModules_eq hg, discoverFiles_of_isDirectory hdirectory] at h
        cases hsearch : searchFiles d directory g o.exclude with
        | error x =>
          obtain ⟨names, hasks, hlong⟩ := exists_asks_of_searchFiles hsearch
          rw [hsearch] at h
          obtain rfl := Except.error.inj h
          exact .search hdirectory hg hasks hlong
        | ok files =>
          rw [hsearch] at h
          obtain hok | ⟨c, hc⟩ :=
            checkBindings_cases (files.map (moduleOf directory base o.extension))
          · simp [hok] at h
          · obtain rfl := Except.error.inj (hc.symm.trans h)
            exact absurd (.collision c) hown

/-- Where there is such a way, the discovery fails in one of them. -/
theorem DiscoveryMishap.exists_error (h : DiscoveryMishap d directory o f) (base : String) :
    ∃ f', (discoverModules d directory base o).2 = .error f' ∧ ¬ f'.IsOwn := by
  cases h with
  | directory hnul h =>
    have hdirectory := Disk.isDirectory_eq_error_iff.mpr ⟨hnul, h, rfl⟩
    exact ⟨_, discoverModules_of_isDirectory_eq_error hdirectory, Failure.not_isOwn_access _⟩
  | pattern hdirectory h hsilent =>
    refine ⟨_, discoverModules_of_refused hdirectory h, ?_⟩
    rwa [Failure.isOwn_pattern_iff, not_not]
  | @search g names x hdirectory hg hasks h =>
    obtain ⟨x', hx'⟩ := exists_searchFiles_eq_error o.exclude hasks h.1
    refine ⟨.access (.disk x'), ?_, Failure.not_isOwn_access _⟩
    rw [discoverModules_eq hg, discoverFiles_of_isDirectory hdirectory, hx']

/-! ## Expansions that fail -/

/-- The options are checked, and the first placeholder leads to the directory. -/
structure Begun (d : Disk) (context : Path) (options : Json) (source : String) (o : Options)
    (a : Placeholder) (directory : Path) : Prop where
  checked : Options.ofJson options = .ok o
  found : ∃ before rest, find? source.toList = some (before, a, rest)
  reached : annotatedDirectory d context a = .ok directory

/-- The ways in which an expansion fails with no error of its own. -/
inductive Mishap (d : Disk) (context : Path) (options : Json) (source : String) : Failure → Prop
  /-- The path in the placeholder holds a NUL character. -/
  | nul {o : Options} {a : Placeholder} {before rest : List Char}
    (checked : Options.ofJson options = .ok o)
    (found : find? source.toList = some (before, a, rest))
    (h : (context.join (Path.ofString a.path)).hasNul = true) :
    Mishap d context options source (.access .nulInPath)
  | discovery {o : Options} {a : Placeholder} {directory : Path} {f : Failure}
    (begun : Begun d context options source o a directory)
    (h : DiscoveryMishap d directory o f) : Mishap d context options source f

theorem annotatedDirectory_eq_error_iff {e : AccessError} :
    annotatedDirectory d context a = .error e ↔
      e = .nulInPath ∧ (context.join (Path.ofString a.path)).hasNul = true := by
  unfold annotatedDirectory
  simp only
  split <;> simp [*, eq_comm]

theorem map_eq_error_iff {α β : Type} {r : Except Failure α} {g : α → β} :
    r.map g = .error f ↔ r = .error f := by
  cases r <;> simp [Except.map]

theorem Begun.eq_error_iff (h : Begun d context options source o a directory) :
    (expandWith d context options resource source).2 = .error f ↔
      (discoverModules d directory a.base o).2 = .error f := by
  obtain ⟨before, rest, hfind⟩ := h.found
  rw [expand_of_expandWith h.checked, expand_of_find?_some hfind, map_eq_error_iff, modulesOf,
    h.reached]

theorem mishap_of_expandWith (h : (expandWith d context options resource source).2 = .error f)
    (hown : ¬ f.IsOwn) : Mishap d context options source f := by
  cases checked : Options.ofJson options with
  | error e =>
    rw [expandWith, checked] at h
    obtain rfl := Except.error.inj h
    exact absurd (.options e) hown
  | ok o =>
    cases found : find? source.toList with
    | none => simp [expand_of_expandWith checked, expand, found] at h
    | some x =>
      obtain ⟨before, a, rest⟩ := x
      cases reached : annotatedDirectory d context a with
      | error e =>
        obtain ⟨rfl, hnul⟩ := annotatedDirectory_eq_error_iff.mp reached
        rw [expand_of_expandWith checked, expand_of_find?_some found, modulesOf, reached] at h
        obtain rfl := Except.error.inj h
        exact .nul checked found hnul
      | ok directory =>
        have begun : Begun d context options source o a directory :=
          ⟨checked, ⟨before, rest, found⟩, reached⟩
        exact .discovery begun (mishap_of_discoverModules (begun.eq_error_iff.mp h) hown)

theorem Mishap.exists_error (h : Mishap d context options source f) (resource : String) :
    ∃ f', (expandWith d context options resource source).2 = .error f' ∧ ¬ f'.IsOwn := by
  cases h with
  | nul checked found h =>
    refine ⟨.access .nulInPath, ?_, Failure.not_isOwn_access _⟩
    rw [expand_of_expandWith checked, expand_of_find?_some found, modulesOf,
      annotatedDirectory_eq_error_iff.mpr ⟨rfl, h⟩]
    rfl
  | @discovery o a directory f begun h =>
    obtain ⟨f', hf', hown⟩ := h.exists_error a.base
    exact ⟨f', begun.eq_error_iff.mpr hf', hown⟩

/-- How an expansion ends. -/
structure Accounted (d : Disk) (context : Path) (options : Json) (source : String)
    (result : Except Failure String) : Prop where
  ends : (∃ text, result = .ok text) ∨ (∃ f, result = .error f ∧ f.IsOwn) ∨
    ∃ f, result = .error f ∧ Mishap d context options source f
  mishaps : (∃ f, Mishap d context options source f) ↔ ∃ f, result = .error f ∧ ¬ f.IsOwn
  /-- In a directory a pattern that is refused ends the expansion, with an error of its own unless
  the pattern names the directory itself. -/
  refusals (o : Options) (a : Placeholder) (directory : Path) (e : GlobError) :
    Begun d context options source o a directory → d.isDirectory directory = .ok true →
    Glob.Refused o.pattern e → result = .error (.pattern o.pattern e) ∧
      ((Failure.pattern o.pattern e).IsOwn ↔ ¬ Glob.NamesItself o.pattern)

theorem left_of_both {α β : Type} {x : Schema.Checked α} {y : Schema.Checked β} {p : α × β}
    (h : Schema.both x y = .ok p) : x = .ok p.1 := by
  unfold Schema.both at h
  split at h
  · obtain rfl := Except.ok.inj h
    rfl
  all_goals contradiction

theorem checkPattern_ne_empty {fields : List (String × Json)} : checkPattern fields ≠ .ok "" := by
  unfold checkPattern
  split
  · simp
  · assumption

/-- Options that were checked have a pattern. -/
theorem pattern_ne_empty_of_ofJson (h : Options.ofJson options = .ok o) : o.pattern ≠ "" := by
  unfold Options.ofJson at h
  split at h
  · next fields =>
    split at h
    · next o' hchecked =>
      obtain rfl := Except.ok.inj h
      unfold checkOptions at hchecked
      split at hchecked
      · next pattern extension exclude hboth =>
        obtain rfl := Except.ok.inj hchecked
        rintro rfl
        exact checkPattern_ne_empty (left_of_both hboth)
      · contradiction
    · contradiction
  · contradiction

/-- However it ends, an expansion ends in one of the ways that are accounted for. -/
theorem expandWith_accounted (d : Disk) (context : Path) (options : Json)
    (resource source : String) : Accounted d context options source
      (expandWith d context options resource source).2 := by
  constructor
  case ends =>
    cases hresult : (expandWith d context options resource source).2 with
    | ok text => exact .inl ⟨text, rfl⟩
    | error f =>
      by_cases hown : f.IsOwn
      · exact .inr (.inl ⟨f, rfl, hown⟩)
      · exact .inr (.inr ⟨f, rfl, mishap_of_expandWith hresult hown⟩)
  case mishaps =>
    constructor
    · rintro ⟨f, h⟩
      exact h.exists_error resource
    · rintro ⟨f, hresult, hown⟩
      exact ⟨f, mishap_of_expandWith hresult hown⟩
  case refusals =>
    intro o a directory e begun hdirectory h
    refine ⟨begun.eq_error_iff.mpr (discoverModules_of_refused hdirectory h), ?_⟩
    rw [Failure.isOwn_pattern_iff, ne_eq,
      h.message?_eq_none_iff (pattern_ne_empty_of_ofJson begun.checked)]

end TypedContent.Preload
