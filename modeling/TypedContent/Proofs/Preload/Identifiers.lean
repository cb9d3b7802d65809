import TypedContent.Proofs.Preload.Expansion

/-!
# Names that a block declares

A block declares its target, unless that is qualified, and a binding for each module.  They are read
off its lines (`filterMap_declaredName?_blockLines`).  A binding puts the names of the directories
and of the file together as they stand, so it is an identifier exactly where these names can make
one (`isIdentifier_binding_iff`).  The bindings are apart from each other; the target is apart from
them only where no module is bound to it (`nodup_declaredNames_iff`).  `names_declared` says this of
every expansion.
-/

namespace TypedContent.Preload

open Files Placeholder

/-! ## Identifiers -/

/-- The characters beyond ASCII that an identifier may begin with, and those that it may have
inside, as Unicode has them. -/
structure Letters where
  begins : Char → Bool
  inside : Char → Bool

def Letters.canBegin (l : Letters) (c : Char) : Bool :=
  if c.toNat < 128 then c.isAlpha || c == '_' || c == '$' else l.begins c

def Letters.canStand (l : Letters) (c : Char) : Bool :=
  if c.toNat < 128 then c.isAlphanum || c == '_' || c == '$' else l.inside c

/-- The words that a module cannot declare as names. -/
def reservedWords : List String :=
  ["arguments", "await", "break", "case", "catch", "class", "const", "continue", "debugger",
   "default", "delete", "do", "else", "enum", "eval", "export", "extends", "false", "finally",
   "for", "function", "if", "implements", "import", "in", "instanceof", "interface", "let", "new",
   "null", "package", "private", "protected", "public", "return", "static", "super", "switch",
   "this", "throw", "true", "try", "typeof", "var", "void", "while", "with", "yield"]

/-- The text is written as an identifier is. -/
structure IsWord (l : Letters) (s : String) : Prop where
  begins : s.toList.head?.any l.canBegin = true
  stands : s.toList.all l.canStand = true

/-- The text can be declared as a name. -/
structure IsIdentifier (l : Letters) (s : String) : Prop extends IsWord l s where
  notReserved : s ∉ reservedWords

/-- An identifier, or a chain of them with dots in between.  Reserved words are not ruled out. -/
def IsTarget (l : Letters) (target : String) : Prop :=
  ∃ parts ≠ [], target = ".".intercalate parts ∧ ∀ part ∈ parts, IsWord l part

variable {l : Letters}

theorem mem_of_isTarget {target : String} (h : IsTarget l target) {c : Char}
    (hc : c ∈ target.toList) : c = '.' ∨ l.canStand c = true := by
  obtain ⟨parts, -, rfl, hparts⟩ := h
  induction parts with
  | nil => cases hc
  | cons part parts ih =>
    have hpart := List.all_eq_true.mp (hparts part List.mem_cons_self).stands
    cases parts with
    | nil => exact .inr (hpart c (by simpa using hc))
    | cons next parts =>
      have hcons : (".".intercalate (part :: next :: parts)).toList =
          part.toList ++ '.' :: (".".intercalate (next :: parts)).toList := by simp
      rw [hcons] at hc
      rcases List.mem_append.mp hc with hc | hc
      · exact .inr (hpart c hc)
      · rcases List.mem_cons.mp hc with rfl | hc
        · exact .inl rfl
        · exact ih (fun p hp => hparts p (List.mem_cons_of_mem _ hp)) hc

/-- What cannot stand in an identifier, and is no dot, is not in a target. -/
theorem not_mem_of_isTarget {target : String} (h : IsTarget l target) {c : Char} (hdot : c ≠ '.')
    (hc : l.canStand c = false) : c ∉ target.toList := by
  intro hmem
  rcases mem_of_isTarget h hmem with he | he
  · exact hdot he
  · exact Bool.false_ne_true (hc.symm.trans he)

theorem isTarget_of_isWord {target : String} (h : IsWord l target) : IsTarget l target :=
  ⟨[target], by simp, by simp, by simpa using h⟩

/-- A target without dots is one word. -/
theorem isWord_of_isTarget {target : String} (h : IsTarget l target)
    (hdot : '.' ∉ target.toList) : IsWord l target := by
  obtain ⟨parts, hne, rfl, hparts⟩ := h
  obtain ⟨part, parts, rfl⟩ := List.exists_cons_of_ne_nil hne
  cases parts with
  | nil => simpa using hparts part List.mem_cons_self
  | cons next parts => exact absurd (by simp) hdot

/-! ## What the lines of a block declare -/

/-- The names that a block declares. -/
def declaredNames (target : String) (modules : List Module) : List String :=
  (if target.toList.contains '.' then [] else [target]) ++ modules.map (·.binding)

/-- The name that a line declares: of a variable up to its type, or of an import up to a blank. -/
def declaredName? (line : String) : Option String :=
  match line.toList with
  | 'l' :: 'e' :: 't' :: ' ' :: rest => some (String.ofList (rest.takeWhile (· ≠ ':')))
  | 'i' :: 'm' :: 'p' :: 'o' :: 'r' :: 't' :: ' ' :: rest =>
    some (String.ofList (rest.takeWhile (· ≠ ' ')))
  | _ => none

theorem takeWhile_append {s : List Char} {c : Char} (h : c ∉ s) (rest : List Char) :
    (s ++ c :: rest).takeWhile (· ≠ c) = s := by
  have hs : ∀ x ∈ s, decide (x ≠ c) = true := fun x hx => decide_eq_true (ne_of_mem_of_not_mem hx h)
  rw [List.takeWhile_append_of_pos hs, List.takeWhile_cons_of_neg (by simp), List.append_nil]

theorem declaredName?_importLine {m : Module} (h : ' ' ∉ m.binding.toList) :
    declaredName? (importLine m) = some m.binding := by
  have hline : (importLine m).toList = "import ".toList ++
      (m.binding.toList ++ ' ' :: ("from '".toList ++ (m.specifier.toList ++ "';".toList))) := by
    simp [importLine, String.toList_append]
  rw [declaredName?, hline]
  change some (String.ofList ((m.binding.toList ++ ' ' :: _).takeWhile (· ≠ ' '))) = _
  rw [takeWhile_append h, String.ofList_toList]

/-- What is put between `let` and the type is the name that is declared. -/
theorem declaredName?_declaration {target : String} (h : ':' ∉ target.toList) :
    declaredName? ("let " ++ target ++ ": \x7b [module: string]: any \x7d = \x7b\x7d;") =
      some target := by
  have hline : ("let " ++ target ++ ": \x7b [module: string]: any \x7d = \x7b\x7d;").toList =
      "let ".toList ++
        (target.toList ++ ':' :: " \x7b [module: string]: any \x7d = \x7b\x7d;".toList) := by
    simp [String.toList_append]
  rw [declaredName?, hline]
  change some (String.ofList ((target.toList ++ ':' :: _).takeWhile (· ≠ ':'))) = _
  rw [takeWhile_append h, String.ofList_toList]

theorem filterMap_declaredName?_declarationLines {target : String} (h : IsTarget l target) :
    (declarationLines target).filterMap declaredName? =
      if target.toList.contains '.' then [] else [target] := by
  have hcolon : ':' ∉ target.toList := not_mem_of_isTarget h (by decide) rfl
  unfold declarationLines
  split
  · rfl
  · rw [List.filterMap_cons_some (declaredName?_declaration hcolon), List.filterMap_nil]

theorem filterMap_declaredName?_guardLines (target : String) :
    (guardLines target).filterMap declaredName? = [] := by
  have hguard : declaredName? ("try \x7b " ++ target ++ " = " ++ target ++
      " || \x7b\x7d; \x7d catch (e) \x7b " ++ target ++ " = \x7b\x7d; \x7d") = none := by
    simp [declaredName?, String.toList_append]
  rw [guardLines, List.filterMap_cons_none hguard]
  rfl

/-- A word and a blank do not begin a text that has a bracket before any blank. -/
theorem word_blank_ne (word : List Char) {t : List Char} (hword : '[' ∉ word) (ht : ' ' ∉ t)
    (u v : List Char) : word ++ ' ' :: u ≠ t ++ '[' :: v := by
  intro he
  rcases List.append_eq_append_iff.mp he with ⟨a, rfl, ha⟩ | ⟨a, rfl, ha⟩
  · cases a with
    | nil => simp at ha
    | cons c a =>
      obtain ⟨rfl, -⟩ := List.cons.inj ha
      exact ht (List.mem_append_right word List.mem_cons_self)
  · cases a with
    | nil => simp at ha
    | cons c a =>
      obtain ⟨rfl, -⟩ := List.cons.inj ha
      exact hword (List.mem_append_right t List.mem_cons_self)

theorem declaredName?_registrationLine {target : String} (h : IsTarget l target) (m : Module) :
    declaredName? (registrationLine target m) = none := by
  have hblank : ' ' ∉ target.toList := not_mem_of_isTarget h (by decide) rfl
  have hline : (registrationLine target m).toList = target.toList ++ '[' ::
      ('"' :: (m.specifier.toList ++ ("\"] = ".toList ++ (m.binding.toList ++ [';'])))) := by
    simp [registrationLine, String.toList_append]
  rw [declaredName?, hline]
  split
  · next he => exact absurd he.symm (word_blank_ne "let".toList (by decide) hblank _ _)
  · next he => exact absurd he.symm (word_blank_ne "import".toList (by decide) hblank _ _)
  · rfl

theorem filterMap_declaredName?_blockLines {target : String} {modules : List Module}
    (h : IsTarget l target) (hm : ∀ m ∈ modules, ' ' ∉ m.binding.toList) :
    (blockLines target modules).filterMap declaredName? = declaredNames target modules := by
  have himports : (modules.map importLine).filterMap declaredName? = modules.map (·.binding) := by
    rw [List.filterMap_map, ← List.filterMap_eq_map]
    exact List.filterMap_congr fun m hmem => declaredName?_importLine (hm m hmem)
  have hregistrations : (modules.map (registrationLine target)).filterMap declaredName? = [] := by
    rw [List.filterMap_map, List.filterMap_eq_nil_iff]
    exact fun m _ => declaredName?_registrationLine h m
  have hstart : declaredName? "// Start: Injected PreLoad script" = none := rfl
  have hend : declaredName? "// End: Injected PreLoad script" = none := rfl
  simp only [blockLines, List.filterMap_append, List.filterMap_cons_none hstart,
    List.filterMap_cons_none hend, List.filterMap_nil, himports, hregistrations,
    filterMap_declaredName?_declarationLines h, filterMap_declaredName?_guardLines,
    List.nil_append, List.append_nil, declaredNames]

theorem nodup_declaredNames_iff {target : String} {modules : List Module}
    (h : (modules.map (·.binding)).Nodup) :
    (declaredNames target modules).Nodup ↔
      ('.' ∉ target.toList → target ∉ modules.map (·.binding)) := by
  unfold declaredNames
  by_cases hdot : '.' ∈ target.toList
  · simp [hdot, h]
  · simp [hdot, h]

/-! ## Bindings -/

/-- What a binding is put together from: the names of the directories, and that of the file without
its extension. -/
def bindingParts (extension : String) (names : List String) : List String :=
  names.dropLast ++ [moduleName extension (names.getLast?.getD "")]

variable {directory : Path} {base extension : String} {names : List String}

theorem filter_relativeText (h : SlashFree names) :
    (relativeText names).toList.filter (· ≠ '/') = names.flatMap String.toList := by
  have hname : ∀ n ∈ names, n.toList.filter (· ≠ '/') = n.toList := fun n hn =>
    List.filter_eq_self.mpr fun c hc => decide_eq_true (ne_of_mem_of_not_mem hc (h n hn))
  induction names with
  | nil => rfl
  | cons n names ih =>
    have hn := hname n List.mem_cons_self
    cases names with
    | nil => simpa [relativeText] using hn
    | cons n' names =>
      rw [toList_relativeText_cons_cons, List.filter_append, hn, List.filter_cons_of_neg (by simp),
        ih (fun m hm => h m (List.mem_cons_of_mem n hm))
          fun m hm => hname m (List.mem_cons_of_mem n hm)]
      rfl

/-- Nothing is put between the parts, and nothing in them is changed. -/
theorem toList_binding_eq_flatMap (h : SlashFree names) :
    (moduleOf directory base extension names).binding.toList =
      (bindingParts extension names).flatMap String.toList := by
  have habove : SlashFree names.dropLast := fun n hn => h n (List.mem_of_mem_dropLast hn)
  change (String.ofList _ ++ _ : String).toList = _
  rw [String.toList_append, String.toList_ofList, filter_relativeText habove, bindingParts,
    List.flatMap_append, List.flatMap_singleton]

theorem isIdentifier_binding_iff (h : SlashFree names) {m : Module}
    (hm : m = moduleOf directory base extension names) :
    IsIdentifier l m.binding ↔ m.binding.toList.head?.any l.canBegin = true ∧
      (∀ part ∈ bindingParts extension names, part.toList.all l.canStand = true) ∧
      m.binding ∉ reservedWords := by
  have hstands : m.binding.toList.all l.canStand = true ↔
      ∀ part ∈ bindingParts extension names, part.toList.all l.canStand = true := by
    rw [hm, toList_binding_eq_flatMap h, List.all_flatMap, List.all_eq_true]
  rw [← hstands]
  exact ⟨fun hb => ⟨hb.begins, hb.stands, hb.notReserved⟩, fun hb => ⟨⟨hb.1, hb.2.1⟩, hb.2.2⟩⟩

/-! ## Blocks in the place of placeholders -/

variable {d : Disk} {context : Path} {o : Options} {options : Json} {resource s r : String}
  {a : Placeholder} {before rest : List Char} {modules : List Module}

/-- The modules of a placeholder are those of the files that are to be preloaded. -/
theorem exists_files_of_modulesOf (ht : d.tree.WellFormed)
    (h : modulesOf d context o a = .ok modules) :
    ∃ (directory : Path) (files : List (List String)),
      annotatedDirectory d context a = .ok directory ∧
      modules = files.map (moduleOf directory a.base o.extension) ∧
      (∀ names ∈ files, ∃ g, Glob.ofString o.pattern = .ok g ∧
        Discoverable d directory g o.exclude names) ∧
      (modules.map (·.binding)).Nodup := by
  unfold modulesOf at h
  split at h
  · contradiction
  · next directory hdirectory =>
    cases hg : Glob.ofString o.pattern with
    | ok g =>
      rw [discoverModules_eq hg] at h
      split at h
      · contradiction
      · next files hfiles =>
        obtain ⟨rfl, hbindings⟩ := checkBindings_eq_ok_iff.mp h
        exact ⟨directory, files, hdirectory, rfl,
          fun names hn => ⟨g, rfl, (mem_discoverFiles_iff ht hfiles).mp hn⟩, hbindings⟩
    | error e =>
      -- Without a pattern there are modules only of a directory that is not there.
      unfold discoverModules at h
      rw [hg] at h
      split at h
      · contradiction
      · obtain rfl := Except.ok.inj h
        exact ⟨directory, [], hdirectory, rfl, by simp, List.nodup_nil⟩
      · contradiction

/-- The module of a file that is to be preloaded, and what its binding is. -/
structure Bound (l : Letters) (d : Disk) (directory : Path) (base : String) (o : Options)
    (m : Module) (names : List String) : Prop where
  eq : m = moduleOf directory base o.extension names
  found : ∃ g, Glob.ofString o.pattern = .ok g ∧ Discoverable d directory g o.exclude names
  binding : m.binding.toList = (bindingParts o.extension names).flatMap String.toList
  isIdentifier : IsIdentifier l m.binding ↔ m.binding.toList.head?.any l.canBegin = true ∧
    (∀ part ∈ bindingParts o.extension names, part.toList.all l.canStand = true) ∧
    m.binding ∉ reservedWords

/-- What the block for `modules` declares in the place of `a`. -/
structure Declares (l : Letters) (d : Disk) (context : Path) (o : Options) (a : Placeholder)
    (modules : List Module) : Prop where
  /-- The names stand in the lines, where bindings are of one word. -/
  read : (∀ m ∈ modules, ' ' ∉ m.binding.toList) →
    (blockLines a.target modules).filterMap declaredName? = declaredNames a.target modules
  unqualified : '.' ∉ a.target.toList → a.target ∉ reservedWords → IsIdentifier l a.target
  bound : ∃ directory, annotatedDirectory d context a = .ok directory ∧
    ∀ m ∈ modules, ∃ names, Bound l d directory a.base o m names
  imports : (modules.map (·.binding)).Nodup
  distinct : (declaredNames a.target modules).Nodup ↔
    ('.' ∉ a.target.toList → a.target ∉ modules.map (·.binding))

theorem declares_of_modulesOf (ht : d.tree.WellFormed) (ha : IsTarget l a.target)
    (h : modulesOf d context o a = .ok modules) : Declares l d context o a modules := by
  obtain ⟨directory, files, hdirectory, rfl, hfiles, hbindings⟩ := exists_files_of_modulesOf ht h
  refine ⟨filterMap_declaredName?_blockLines ha,
    fun hdot hreserved => ⟨isWord_of_isTarget ha hdot, hreserved⟩,
    ⟨directory, hdirectory, fun m hm => ?_⟩, hbindings, nodup_declaredNames_iff hbindings⟩
  obtain ⟨names, hn, rfl⟩ := List.mem_map.mp hm
  obtain ⟨g, hg, hnames⟩ := hfiles names hn
  have hslash := hnames.slashFree ht
  exact ⟨names, rfl, ⟨g, hg, hnames⟩, toList_binding_eq_flatMap hslash,
    isIdentifier_binding_iff hslash rfl⟩

/-- Whatever the letters are: an expansion gives a block that declares its target and a binding for
each module, all of them apart but for a target to which a module is bound, and each of them an
identifier where its parts make one. -/
theorem names_declared (l : Letters) (ht : d.tree.WellFormed)
    (h : (expandWith d context options resource s).2 = .ok r)
    (hfind : find? s.toList = some (before, a, rest)) (ha : IsTarget l a.target) :
    ∃ o modules, Options.ofJson options = .ok o ∧ modulesOf d context o a = .ok modules ∧
      r.toList = before ++ (block a.target modules).toList ++ rest ∧
      Declares l d context o a modules := by
  cases ho : Options.ofJson options with
  | error e =>
    rw [expandWith, ho] at h
    contradiction
  | ok o =>
    rw [expand_of_expandWith ho] at h
    obtain ⟨modules, hmodules, hr⟩ := exists_modules_of_expand hfind h
    exact ⟨o, modules, rfl, hmodules, hr, declares_of_modulesOf ht ha hmodules⟩

/-- ASCII alone. -/
def asciiLetters : Letters := ⟨fun _ => false, fun _ => false⟩

theorem find?_text_alone {a : Placeholder} (h : a.IsWritten) : find? a.text = some ([], a, []) := by
  rw [← List.append_nil a.text]
  exact find?_text h []

/-- A placeholder alone gives way to the block for its modules. -/
theorem expandWith_text (ho : Options.ofJson options = .ok o) (ha : a.IsWritten)
    (h : modulesOf d context o a = .ok modules) :
    (expandWith d context options resource (String.ofList a.text)).2 =
      .ok (block a.target modules) := by
  have hfind : find? (String.ofList a.text).toList = some ([], a, []) := by
    rw [String.toList_ofList]
    exact find?_text_alone ha
  rw [expand_of_expandWith ho, expand_of_find?_some hfind, h]
  simp [Except.map]

theorem names_declared_page :
    pageDisk.tree.WellFormed ∧
      (∃ r, (expandWith pageDisk ⟨.root, []⟩ pageJson ""
          (String.ofList headerPlaceholder.text)).2 = .ok r) ∧
      find? (String.ofList headerPlaceholder.text).toList = some ([], headerPlaceholder, []) ∧
      IsTarget asciiLetters headerPlaceholder.target ∧
      Declares asciiLetters pageDisk ⟨.root, []⟩ pageOptions headerPlaceholder [headerModule] := by
  have hwellFormed : pageDisk.tree.WellFormed := by decide
  have ho : Options.ofJson pageJson = .ok pageOptions := rfl
  have hfind : find? (String.ofList headerPlaceholder.text).toList =
      some ([], headerPlaceholder, []) := by
    rw [String.toList_ofList]
    exact find?_text_alone isWritten_headerPlaceholder
  have hrun : (expandWith pageDisk ⟨.root, []⟩ pageJson ""
      (String.ofList headerPlaceholder.text)).2 =
        .ok (block headerPlaceholder.target [headerModule]) :=
    expandWith_text ho isWritten_headerPlaceholder modulesOf_headerPlaceholder
  have htarget : IsTarget asciiLetters headerPlaceholder.target := isTarget_of_isWord ⟨rfl, rfl⟩
  obtain ⟨o, modules, ho', hmodules, -, hdeclares⟩ :=
    names_declared asciiLetters hwellFormed hrun hfind htarget
  obtain rfl := Except.ok.inj (ho.symm.trans ho')
  obtain rfl := Except.ok.inj (modulesOf_headerPlaceholder.symm.trans hmodules)
  exact ⟨hwellFormed, ⟨_, hrun⟩, hfind, htarget, hdeclares⟩

/-- A directory with a component of a target's name, and one with a component whose name has a
hyphen. -/
def oddNamesDisk : Disk where
  tree := ⟨[(["c"], .directory), (["c", "Header.tsx"], .file .empty), (["k"], .directory),
    (["k", "a-b.tsx"], .file .empty)]⟩
  current := []
  faults := noFaults

def clashingPlaceholder : Placeholder := ⟨"c", "Header", ""⟩
def clashingModule : Module := ⟨⟨.root, ["c", "Header.tsx"]⟩, "Header", "", "Header", "Header"⟩

def hyphenPlaceholder : Placeholder := ⟨"k", "A", ""⟩
def hyphenModule : Module := ⟨⟨.root, ["k", "a-b.tsx"]⟩, "a-b", "", "a-b", "a-b"⟩

/-- One expansion declares a name twice, and another one a name that is no identifier. -/
theorem names_misdeclared :
    (∀ l, IsIdentifier l "Header" ∧ IsIdentifier l "A" ∧ ¬ IsIdentifier l "a-b") ∧
      (expandWith oddNamesDisk ⟨.root, []⟩ pageJson ""
        (String.ofList clashingPlaceholder.text)).2 = .ok (block "Header" [clashingModule]) ∧
      (blockLines "Header" [clashingModule]).filterMap declaredName? = ["Header", "Header"] ∧
      (expandWith oddNamesDisk ⟨.root, []⟩ pageJson ""
        (String.ofList hyphenPlaceholder.text)).2 = .ok (block "A" [hyphenModule]) ∧
      (blockLines "A" [hyphenModule]).filterMap declaredName? = ["A", "a-b"] := by
  have ho : Options.ofJson pageJson = .ok pageOptions := rfl
  have hclashing : modulesOf oddNamesDisk ⟨.root, []⟩ pageOptions clashingPlaceholder =
      .ok [clashingModule] :=
    Fallible.eq_ok_of_toOption (by decide +kernel)
  have hhyphen : modulesOf oddNamesDisk ⟨.root, []⟩ pageOptions hyphenPlaceholder =
      .ok [hyphenModule] :=
    Fallible.eq_ok_of_toOption (by decide +kernel)
  have hheader (l : Letters) : IsIdentifier l "Header" := ⟨⟨rfl, rfl⟩, by decide⟩
  have ha (l : Letters) : IsIdentifier l "A" := ⟨⟨rfl, rfl⟩, by decide⟩
  have htarget {target : String} (h : IsIdentifier asciiLetters target) :
      IsTarget asciiLetters target :=
    isTarget_of_isWord h.toIsWord
  refine ⟨fun l => ⟨hheader l, ha l, fun h => ?_⟩, ?_, ?_, ?_, ?_⟩
  · exact absurd h.stands (by simp [Letters.canStand])
  · exact expandWith_text ho ⟨by decide, by decide, by decide⟩ hclashing
  · rw [filterMap_declaredName?_blockLines (htarget (hheader _)) (by decide)]
    rfl
  · exact expandWith_text ho ⟨by decide, by decide, by decide⟩ hhyphen
  · rw [filterMap_declaredName?_blockLines (htarget (ha _)) (by decide)]
    rfl

end TypedContent.Preload
