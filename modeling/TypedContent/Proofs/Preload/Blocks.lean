import Mathlib.Data.List.Infix
import TypedContent.Preload.Block
import TypedContent.Proofs.Preload.Discovery
import TypedContent.Proofs.Preload.Placeholders

/-!
# Blocks hold no placeholders

A line of a block has two quotes at most, and a placeholder has six in one line.  The first line of
a block has no bracket that could close a placeholder begun before it, and a block ends with its
last line.  So a block is inert (`inert_block`), whatever the target and the names of the modules,
as long as these hold no quotes.
-/

namespace TypedContent.Preload

open Files Placeholder

/-! ## Quotes in lines -/

def quotes (s : String) : Nat := s.toList.count '"'

theorem quotes_append (s t : String) : quotes (s ++ t) = quotes s + quotes t := by
  rw [quotes, String.toList_append, List.count_append, quotes, quotes]

theorem quotes_eq_zero_iff {s : String} : quotes s = 0 ↔ '"' ∉ s.toList := List.count_eq_zero

/-- No line of the text has more than `n` quotes. -/
def QuotesInLines (n : Nat) (s : List Char) : Prop :=
  ∀ x, x <:+: s → '\n' ∉ x → x.count '"' ≤ n

theorem quotesInLines_of_count {n : Nat} {s : List Char} (h : s.count '"' ≤ n) :
    QuotesInLines n s :=
  fun _ hx _ => (hx.count_le _).trans h

theorem QuotesInLines.append_line {n : Nat} {s t : List Char} (hs : QuotesInLines n s)
    (ht : QuotesInLines n t) : QuotesInLines n (s ++ '\n' :: t) := by
  intro x hx hline
  rcases List.infix_append_iff.mp hx with hx | hx | ⟨y, z, rfl, hy, hz⟩
  · exact hs x hx hline
  · rcases List.infix_cons_iff.mp hx with hx | hx
    · rcases List.prefix_cons_iff.mp hx with rfl | ⟨x', rfl, -⟩
      · simp
      · exact absurd List.mem_cons_self hline
    · exact ht x hx hline
  · rcases List.prefix_cons_iff.mp hz with rfl | ⟨z', rfl, -⟩
    · rw [List.append_nil] at hline ⊢
      exact hs y hy.isInfix hline
    · exact absurd (List.mem_append_right y List.mem_cons_self) hline

theorem toList_joinLines_cons (l : String) {lines : List String} (h : lines ≠ []) :
    (Text.joinLines (l :: lines) ++ "\n").toList =
      l.toList ++ '\n' :: (Text.joinLines lines ++ "\n").toList := by
  have hnewline : "\n".toList = ['\n'] := rfl
  rw [Text.joinLines, String.intercalate_cons_of_ne_nil h]
  simp only [Text.joinLines, String.toList_append, hnewline, List.append_assoc, List.cons_append,
    List.nil_append]

theorem quotesInLines_joinLines {n : Nat} {lines : List String}
    (h : ∀ l ∈ lines, quotes l ≤ n) :
    QuotesInLines n (Text.joinLines lines ++ "\n").toList := by
  induction lines with
  | nil => exact quotesInLines_of_count (by simp [Text.joinLines])
  | cons l lines ih =>
    have hl := quotesInLines_of_count (h l List.mem_cons_self)
    have hlines := ih fun k hk => h k (List.mem_cons_of_mem l hk)
    cases lines with
    | nil =>
      have htext : (Text.joinLines [l] ++ "\n").toList = l.toList ++ '\n' :: [] := by
        simp [Text.joinLines]
      rw [htext]
      exact hl.append_line (quotesInLines_of_count (by simp))
    | cons k lines =>
      rw [toList_joinLines_cons l (by simp)]
      exact hl.append_line hlines

/-! ## Lines of a block -/

/-- Neither the specifier nor the binding holds a quote. -/
def QuoteFree (m : Module) : Prop := '"' ∉ m.specifier.toList ∧ '"' ∉ m.binding.toList

variable {target : String} {modules : List Module}

theorem quotes_importLine {m : Module} (h : QuoteFree m) : quotes (importLine m) = 0 := by
  have hstart : quotes "import " = 0 := by decide +kernel
  have hmiddle : quotes " from '" = 0 := by decide +kernel
  have hend : quotes "';" = 0 := by decide +kernel
  rw [importLine, quotes_append, quotes_append, quotes_append, quotes_append, hstart, hmiddle, hend,
    quotes_eq_zero_iff.mpr h.1, quotes_eq_zero_iff.mpr h.2]

theorem quotes_registrationLine {m : Module} (ht : '"' ∉ target.toList) (h : QuoteFree m) :
    quotes (registrationLine target m) = 2 := by
  have hopen : quotes "[\"" = 1 := by decide +kernel
  have hclose : quotes "\"] = " = 1 := by decide +kernel
  have hend : quotes ";" = 0 := by decide +kernel
  rw [registrationLine, quotes_append, quotes_append, quotes_append, quotes_append, quotes_append,
    hopen, hclose, hend, quotes_eq_zero_iff.mpr ht, quotes_eq_zero_iff.mpr h.1,
    quotes_eq_zero_iff.mpr h.2]

theorem quotes_declarationLines (ht : '"' ∉ target.toList) :
    ∀ l ∈ declarationLines target, quotes l = 0 := by
  have hstart : quotes "let " = 0 := by decide +kernel
  have hend : quotes ": \x7b [module: string]: any \x7d = \x7b\x7d;" = 0 := by decide +kernel
  intro l hl
  unfold declarationLines at hl
  split at hl
  · cases hl
  · obtain rfl := List.mem_singleton.mp hl
    rw [quotes_append, quotes_append, hstart, hend, quotes_eq_zero_iff.mpr ht]

theorem quotes_guardLines (ht : '"' ∉ target.toList) : ∀ l ∈ guardLines target, quotes l = 0 := by
  have htry : quotes "try \x7b " = 0 := by decide +kernel
  have hset : quotes " = " = 0 := by decide +kernel
  have hor : quotes " || \x7b\x7d; \x7d catch (e) \x7b " = 0 := by decide +kernel
  have hend : quotes " = \x7b\x7d; \x7d" = 0 := by decide +kernel
  intro l hl
  rcases List.mem_pair.mp hl with rfl | rfl
  · simp only [quotes_append, htry, hset, hor, hend, quotes_eq_zero_iff.mpr ht]
  · rfl

theorem quotes_blockLines (ht : '"' ∉ target.toList) (hm : ∀ m ∈ modules, QuoteFree m) :
    ∀ l ∈ blockLines target modules, quotes l ≤ 2 := by
  intro l hl
  simp only [blockLines, List.mem_append, List.mem_map, List.mem_singleton] at hl
  rcases hl with ((((rfl | hl) | hl) | ⟨m, hmem, rfl⟩) | ⟨m, hmem, rfl⟩) | rfl
  · decide +kernel
  · exact (quotes_declarationLines ht l hl).le.trans (Nat.zero_le 2)
  · exact (quotes_guardLines ht l hl).le.trans (Nat.zero_le 2)
  · exact (quotes_importLine (hm m hmem)).le.trans (Nat.zero_le 2)
  · exact (quotes_registrationLine ht (hm m hmem)).le
  · decide +kernel

/-! ## Inertness -/

/-- The first line of a block, in which no placeholder can end. -/
def startLine : String := "// Start: Injected PreLoad script"

theorem blockLines_eq (target : String) (modules : List Module) :
    ∃ more, more ≠ [] ∧ blockLines target modules = startLine :: more :=
  ⟨declarationLines target ++ (guardLines target ++ (modules.map importLine ++
    (modules.map (registrationLine target) ++ ["// End: Injected PreLoad script"]))),
    by simp, by simp [blockLines, startLine]⟩

theorem block_eq (target : String) (modules : List Module) :
    ∃ rest, (block target modules).toList = startLine.toList ++ '\n' :: rest := by
  obtain ⟨more, hmore, hlines⟩ := blockLines_eq target modules
  exact ⟨_, by rw [block, hlines, toList_joinLines_cons _ hmore]⟩

theorem getLast?_block (target : String) (modules : List Module) :
    (block target modules).toList.getLast? = some '\n' := by
  simp [block]

theorem prefix_of_prefix_line {x s t : List Char} (h : x <+: s ++ '\n' :: t) (hx : '\n' ∉ x) :
    x <+: s := by
  obtain ⟨rest, hrest⟩ := h
  rcases List.append_eq_append_iff.mp hrest with ⟨y, rfl, -⟩ | ⟨y, rfl, hy⟩
  · exact List.prefix_append x y
  · cases y with
    | nil => simp
    | cons c y =>
      obtain ⟨rfl, -⟩ := List.cons.inj hy
      exact absurd (List.mem_append_right s List.mem_cons_self) hx

theorem inert_block (ht : '"' ∉ target.toList) (hm : ∀ m ∈ modules, QuoteFree m) :
    Inert (block target modules).toList := by
  constructor
  case inside =>
    intro t w hne hw
    cases hp : parse? (w ++ t) with
    | none => rfl
    | some found =>
      obtain ⟨a, rest⟩ := found
      obtain ⟨heq, hwritten⟩ := eq_text_of_parse? hp
      rcases List.append_eq_append_iff.mp heq with ⟨y, hy, -⟩ | ⟨y, rfl, -⟩
      · -- The placeholder would reach beyond the end of the last line.
        have hlast : w.getLast? = some '\n' := by
          obtain ⟨v, hv⟩ := hw
          have hb := getLast?_block target modules
          rwa [← hv, List.getLast?_append_of_ne_nil _ hne] at hb
        have hmem : '\n' ∈ a.text := hy ▸ List.mem_append_left y (List.mem_of_getLast? hlast)
        exact absurd hmem hwritten.newline_not_mem
      · have hquotes := quotesInLines_joinLines (quotes_blockLines ht hm) a.text
          ((List.prefix_append a.text y).isInfix.trans hw.isInfix) hwritten.newline_not_mem
        rw [hwritten.count_quote] at hquotes
        omega
  case border =>
    intro w t rest a hp
    obtain ⟨heq, hwritten⟩ := eq_text_of_parse? hp
    rcases List.append_eq_append_iff.mp heq with ⟨y, hy, hrest⟩ | ⟨y, rfl, -⟩
    · -- What the placeholder has of the block is in its first line, and ends with a bracket.
      obtain ⟨more, hblock⟩ := block_eq target modules
      rw [hblock, List.append_assoc, List.cons_append] at hrest
      have hline : '\n' ∉ y := fun hmem =>
        hwritten.newline_not_mem (hy ▸ List.mem_append_right w hmem)
      have hstart := prefix_of_prefix_line ⟨rest, hrest.symm⟩ hline
      by_cases hnil : y = []
      · rw [hy, hnil, List.append_nil]
      · have hlast := getLast?_text a
        rw [hy, List.getLast?_append_of_ne_nil _ hnil] at hlast
        have hmem := hstart.subset (List.mem_of_getLast? hlast)
        exact absurd hmem (by decide)
    · exact List.prefix_append _ _

/-! ## Modules of a directory -/

variable {directory : Path} {base extension : String} {names : List String}

/-- The path of a module's file from the directory that was searched. -/
def Module.relativePath (m : Module) : String :=
  (if m.directory = "" then "" else m.directory ++ "/") ++ m.file.name

theorem relativeText_ne_empty (hne : names ≠ []) (h : ∀ n ∈ names, n ≠ "") :
    relativeText names ≠ "" := by
  obtain ⟨n, names, rfl⟩ := List.exists_cons_of_ne_nil hne
  have hn := h n List.mem_cons_self
  cases names with
  | nil => simpa [relativeText] using hn
  | cons n' names =>
    intro he
    have hlist := congrArg String.toList he
    rw [toList_relativeText_cons_cons] at hlist
    simp at hlist

/-- For a file that a search has led to, it is the path on which the search came there. -/
theorem relativePath_moduleOf (hne : names ≠ []) (h : ∀ n ∈ names, n ≠ "") :
    (moduleOf directory base extension names).relativePath = relativeText names := by
  obtain ⟨above, last, hnames⟩ := (List.eq_nil_or_concat names).resolve_left hne
  rw [List.concat_eq_append] at hnames
  subst hnames
  have hname : (Glob.below directory (above ++ [last])).name = last := by
    rw [Glob.below_concat, Path.name_child]
  have hpath : (moduleOf directory base extension (above ++ [last])).relativePath =
      (if relativeText above = "" then "" else relativeText above ++ "/") ++ last := by
    simp only [Module.relativePath, moduleOf, List.dropLast_concat, hname]
  rw [hpath]
  by_cases hnil : above = []
  · simp [hnil, relativeText]
  · rw [if_neg (relativeText_ne_empty hnil fun n hn => h n (List.mem_append_left _ hn)),
      relativeText, relativeText, String.intercalate_append_of_ne_nil hnil (by simp),
      String.intercalate_singleton]

/-- No quote gets into a module but from the base and the path of its file. -/
theorem quoteFree_moduleOf (hbase : '"' ∉ base.toList)
    (h : '"' ∉ (moduleOf directory base extension names).relativePath.toList) :
    QuoteFree (moduleOf directory base extension names) := by
  obtain ⟨habove, hfile⟩ : '"' ∉ (relativeText names.dropLast).toList ∧
      '"' ∉ (Glob.below directory names).name.toList := by
    by_cases hd : relativeText names.dropLast = ""
    · simpa [Module.relativePath, moduleOf, hd] using h
    · simpa [Module.relativePath, moduleOf, hd] using h
  have hname : '"' ∉ (moduleName extension (names.getLast?.getD "")).toList := by
    intro hq
    have hlast := (moduleName_begins _ _).subset hq
    cases hn : names.getLast? with
    | none => simp [hn] at hlast
    | some n => exact hfile (by simpa [hn, Path.name, Glob.below] using hlast)
  constructor
  · by_cases hd : relativeText names.dropLast = ""
    · simp [moduleOf, hd, hbase, hname]
    · simp [moduleOf, hd, hbase, hname, habove]
  · simp [moduleOf, hname, habove]

theorem exists_names_of_discoverModules {d : Disk} {o : Options} {m : Module}
    (h : (discoverModules d directory base o).2 = .ok modules) (hm : m ∈ modules) :
    ∃ names, m = moduleOf directory base o.extension names := by
  suffices hfiles : ∃ files : List (List String),
      modules = files.map (moduleOf directory base o.extension) by
    obtain ⟨files, rfl⟩ := hfiles
    obtain ⟨names, -, rfl⟩ := List.mem_map.mp hm
    exact ⟨names, rfl⟩
  cases hg : Glob.ofString o.pattern with
  | ok g =>
    rw [discoverModules_eq hg] at h
    split at h
    · contradiction
    · exact ⟨_, (checkBindings_eq_ok_iff.mp h).1⟩
  | error e =>
    -- Without a pattern there are modules only of a directory that is not there.
    unfold discoverModules at h
    rw [hg] at h
    split at h
    · contradiction
    · exact ⟨[], (Except.ok.inj h).symm⟩
    · contradiction

/-- The block for the modules of a directory is inert if there is no quote in their paths. -/
theorem inert_block_of_discoverModules {d : Disk} {o : Options} {a : Placeholder}
    (ha : a.IsWritten) (h : (discoverModules d directory a.base o).2 = .ok modules)
    (hpaths : ∀ m ∈ modules, '"' ∉ m.relativePath.toList) :
    Inert (block a.target modules).toList := by
  refine inert_block ha.target.quote_not_mem fun m hm => ?_
  obtain ⟨names, rfl⟩ := exists_names_of_discoverModules h hm
  exact quoteFree_moduleOf ha.base.quote_not_mem (hpaths _ hm)

end TypedContent.Preload
