import TypedContent.Preload.Expansion
import TypedContent.Proofs.Preload.Blocks

/-!
# Expanding again and again

One expansion takes away the first placeholder and puts its block there; no placeholder comes in
its place, neither in the block nor across its ends (`scan_expand`).  So in a run of expansions
(`scan_run`) the placeholders go one by one, each for the block of its own directory, target and
base, until none is left, and from then on nothing changes.
-/

namespace TypedContent.Preload

open Files Placeholder

variable {d : Disk} {context : Path} {o : Options} {options : Json} {resource s r : String}
  {a : Placeholder} {before rest : List Char}

/-! ## One expansion -/

/-- The modules of the directory that a placeholder speaks of. -/
def modulesOf (d : Disk) (context : Path) (o : Options) (a : Placeholder) :
    Except Failure (List Module) :=
  match annotatedDirectory d context a with
  | .error e => .error (.access e)
  | .ok directory => (discoverModules d directory a.base o).2

/-- The block that takes the place of a placeholder. -/
def blockOf (d : Disk) (context : Path) (o : Options) (a : Placeholder) : List Char :=
  (block a.target ((modulesOf d context o a).toOption.getD [])).toList

/-- No path of a module that a placeholder leads to holds a quote. -/
def QuoteFreePaths (d : Disk) (context : Path) (o : Options) (a : Placeholder) : Prop :=
  ∀ modules, modulesOf d context o a = .ok modules → ∀ m ∈ modules, '"' ∉ m.relativePath.toList

theorem blockOf_eq {modules : List Module} (h : modulesOf d context o a = .ok modules) :
    blockOf d context o a = (block a.target modules).toList := by
  rw [blockOf, h]
  rfl

theorem expand_of_find?_none (hfind : find? s.toList = none)
    (h : (expand d context o resource s).2 = .ok r) : r = s := by
  rw [expand, hfind] at h
  exact (Except.ok.inj h).symm

theorem expand_of_find?_some (hfind : find? s.toList = some (before, a, rest)) :
    (expand d context o resource s).2 = (modulesOf d context o a).map fun modules =>
      String.ofList (before ++ (block a.target modules).toList ++ rest) := by
  rw [expand, hfind]
  unfold modulesOf
  cases hdirectory : annotatedDirectory d context a with
  | error e => simp only [hdirectory, Except.map]
  | ok directory =>
    simp only [hdirectory]
    cases discoverModules d directory a.base o with
    | mk more found => cases found <;> rfl

theorem exists_modules_of_expand (hfind : find? s.toList = some (before, a, rest))
    (h : (expand d context o resource s).2 = .ok r) :
    ∃ modules, modulesOf d context o a = .ok modules ∧
      r.toList = before ++ (block a.target modules).toList ++ rest := by
  rw [expand_of_find?_some hfind] at h
  cases hmodules : modulesOf d context o a with
  | error e =>
    rw [hmodules] at h
    contradiction
  | ok modules =>
    rw [hmodules] at h
    obtain rfl := Except.ok.inj h
    exact ⟨modules, rfl, String.toList_ofList⟩

theorem inert_block_of_modulesOf {modules : List Module} (ha : a.IsWritten)
    (h : modulesOf d context o a = .ok modules) (hpaths : QuoteFreePaths d context o a) :
    Inert (block a.target modules).toList := by
  have hpaths := hpaths modules h
  unfold modulesOf at h
  split at h
  · contradiction
  · exact inert_block_of_discoverModules ha h hpaths

/-- Behind an expansion a scan comes upon all placeholders but the first, and upon no more. -/
theorem scan_expand {modules : List Module} (hfind : find? s.toList = some (before, a, rest))
    (hmodules : modulesOf d context o a = .ok modules)
    (hr : r.toList = before ++ (block a.target modules).toList ++ rest)
    (hpaths : QuoteFreePaths d context o a) :
    scan r.toList = behind (before ++ (block a.target modules).toList) (scan rest) := by
  have hinert := inert_block_of_modulesOf (find?_eq_some_iff.mp hfind).2.1 hmodules hpaths
  rw [hr, scan_replace hinert hfind]

/-! ## Runs of expansions -/

/-- Each text in front of a placeholder with the block that takes its place, one behind the other. -/
def expanded (d : Disk) (context : Path) (o : Options) (found : List (List Char × Placeholder)) :
    List Char :=
  found.flatMap fun x => x.1 ++ blockOf d context o x.2

theorem expand_of_expandWith (ho : Options.ofJson options = .ok o) :
    expandWith d context options resource s = expand d context o resource s := by
  rw [expandWith, ho]

section Run

variable {t : Nat → String} {calls : Nat}
  (ho : Options.ofJson options = .ok o)
  (ht : ∀ k < calls, (expandWith d context options resource (t k)).2 = .ok (t (k + 1)))
  (hpaths : ∀ k < calls, ∀ a, (all (t 0).toList)[k]? = some a → QuoteFreePaths d context o a)
include ho ht hpaths

/-- Where a run of expansions has got to: a scan comes upon the placeholders from `k` on, as in the
first text, behind blocks in the place of the others. -/
theorem scan_run {k : Nat} (hk : k ≤ calls) :
    scan (t k).toList = behind (expanded d context o ((scan (t 0).toList).1.take k))
      ((scan (t 0).toList).1.drop k, (scan (t 0).toList).2) := by
  induction k with
  | zero => rw [List.take_zero, List.drop_zero, expanded, List.flatMap_nil, behind_nil]
  | succ k ih =>
    have hscan := ih (by omega)
    have hstep := ht k (by omega)
    rw [expand_of_expandWith ho] at hstep
    by_cases hlength : k < (scan (t 0).toList).1.length
    · have hdrop := List.drop_eq_getElem_cons hlength
      have htake := List.take_append_getElem hlength
      have hk' : (all (t 0).toList)[k]? = some ((scan (t 0).toList).1[k]).2 := by
        rw [all, List.getElem?_map, List.getElem?_eq_getElem hlength, Option.map_some]
      generalize (scan (t 0).toList).1[k] = x at hdrop htake hk'
      obtain ⟨gap, a⟩ := x
      rw [hdrop] at hscan
      obtain ⟨rest, hfind, hrest⟩ := find?_of_scan_cons hscan
      obtain ⟨modules, hmodules, hr⟩ := exists_modules_of_expand hfind hstep
      have hp := hpaths k (by omega) a hk'
      rw [scan_expand hfind hmodules hr hp, hrest, ← htake, ← blockOf_eq hmodules]
      simp [expanded]
    · have hlength : (scan (t 0).toList).1.length ≤ k := by omega
      rw [List.drop_eq_nil_of_le hlength] at hscan
      rw [expand_of_find?_none (find?_of_scan_nil hscan).1 hstep, hscan,
        List.take_of_length_le hlength, List.take_of_length_le (by omega),
        List.drop_eq_nil_of_le (by omega)]

end Run

/-- A run of expansions takes away one placeholder after the other, each for the block of its own
modules, and once none is left changes nothing. -/
theorem expansions_consume {t : Nat → String} {calls : Nat} (ho : Options.ofJson options = .ok o)
    (ht : ∀ k < calls, (expandWith d context options resource (t k)).2 = .ok (t (k + 1)))
    (hpaths : ∀ k < calls, ∀ a, (all (t 0).toList)[k]? = some a → QuoteFreePaths d context o a) :
    (∀ k ≤ calls, all (t k).toList = (all (t 0).toList).drop k ∧
      (t k).toList = expanded d context o ((scan (t 0).toList).1.take k) ++
        unscan ((scan (t 0).toList).1.drop k) ++ (scan (t 0).toList).2) ∧
    ∀ k < calls, match (all (t 0).toList)[k]? with
      | none => t (k + 1) = t k
      | some a => ∃ before rest modules, find? (t k).toList = some (before, a, rest) ∧
          modulesOf d context o a = .ok modules ∧
          (t (k + 1)).toList = before ++ (block a.target modules).toList ++ rest ∧
          scan (t (k + 1)).toList =
            behind (before ++ (block a.target modules).toList) (scan rest) := by
  have hrun := fun k => scan_run (k := k) ho ht hpaths
  have hall : ∀ k ≤ calls, all (t k).toList = (all (t 0).toList).drop k := by
    intro k hk
    rw [all, hrun k hk, behind_map_snd, all, List.map_drop]
  refine ⟨fun k hk => ⟨hall k hk, ?_⟩, fun k hk => ?_⟩
  · rw [← unscan_behind, ← hrun k hk, unscan_scan]
  · have hstep := ht k hk
    rw [expand_of_expandWith ho] at hstep
    cases hfind : find? (t k).toList with
    | none =>
      have hnil := (hall k (by omega)).symm.trans (all_of_find?_none hfind)
      rw [List.getElem?_eq_none (List.drop_eq_nil_iff.mp hnil)]
      exact expand_of_find?_none hfind hstep
    | some x =>
      obtain ⟨before, a, rest⟩ := x
      have hcons := (hall k (by omega)).symm.trans (all_of_find?_some hfind)
      have hk' : (all (t 0).toList)[k]? = some a := by
        rw [← List.head?_drop, hcons, List.head?_cons]
      rw [hk']
      obtain ⟨modules, hmodules, hr⟩ := exists_modules_of_expand hfind hstep
      have hp := hpaths k hk a hk'
      exact ⟨before, rest, modules, rfl, hmodules, hr, scan_expand hfind hmodules hr hp⟩

/-! ## A page with two placeholders -/

deriving instance DecidableEq for Placeholder, Module

def pageDisk : Disk where
  tree := ⟨[(["c"], .directory), (["c", "Header.tsx"], .file .empty)]⟩
  current := []
  faults := noFaults

def pageJson : Json := .obj [("pattern", .str "*.tsx"), ("extension", .str ".tsx")]

def pageOptions : Options := ⟨"*.tsx", ".tsx", none⟩

/-- A placeholder for a directory with one module, and one for a directory that is not there. -/
def headerPlaceholder : Placeholder := ⟨"c", "A", "p/"⟩
def lostPlaceholder : Placeholder := ⟨"n", "B", ""⟩

def headerModule : Module := ⟨⟨.root, ["c", "Header.tsx"]⟩, "Header", "", "p/Header", "Header"⟩

def headerBlock : List Char := (block headerPlaceholder.target [headerModule]).toList
def lostBlock : List Char := (block lostPlaceholder.target []).toList

def pageTexts : Nat → String
  | 0 => String.ofList (headerPlaceholder.text ++ lostPlaceholder.text)
  | 1 => String.ofList ([] ++ headerBlock ++ lostPlaceholder.text)
  | _ => String.ofList (headerBlock ++ lostBlock ++ [])

theorem isWritten_headerPlaceholder : headerPlaceholder.IsWritten :=
  ⟨by decide, by decide, by decide⟩

theorem isWritten_lostPlaceholder : lostPlaceholder.IsWritten :=
  ⟨by decide, by decide, by decide⟩

theorem modulesOf_headerPlaceholder :
    modulesOf pageDisk ⟨.root, []⟩ pageOptions headerPlaceholder = .ok [headerModule] :=
  Fallible.eq_ok_of_toOption (by decide +kernel)

theorem modulesOf_lostPlaceholder :
    modulesOf pageDisk ⟨.root, []⟩ pageOptions lostPlaceholder = .ok [] :=
  Fallible.eq_ok_of_toOption (by decide +kernel)

theorem quoteFreePaths_page {a : Placeholder} (ha : a ∈ [headerPlaceholder, lostPlaceholder]) :
    QuoteFreePaths pageDisk ⟨.root, []⟩ pageOptions a := by
  intro modules hmodules m hm
  rcases List.mem_pair.mp ha with rfl | rfl
  · obtain rfl := Except.ok.inj (modulesOf_headerPlaceholder.symm.trans hmodules)
    obtain rfl := List.mem_singleton.mp hm
    decide +kernel
  · obtain rfl := Except.ok.inj (modulesOf_lostPlaceholder.symm.trans hmodules)
    cases hm

theorem expansions_consume_page :
    Options.ofJson pageJson = .ok pageOptions ∧
      (∀ k < 2, (expandWith pageDisk ⟨.root, []⟩ pageJson "" (pageTexts k)).2 =
        .ok (pageTexts (k + 1))) ∧
      all (pageTexts 0).toList = [headerPlaceholder, lostPlaceholder] ∧
      all (pageTexts 1).toList = [lostPlaceholder] ∧ all (pageTexts 2).toList = [] := by
  have ho : Options.ofJson pageJson = .ok pageOptions := rfl
  have htext : ∀ s : List Char, (String.ofList s).toList = s := fun s => String.toList_ofList
  have hlost : find? lostPlaceholder.text = some ([], lostPlaceholder, []) := by
    have := find?_text isWritten_lostPlaceholder []
    rwa [List.append_nil] at this
  have hfind₀ : find? (pageTexts 0).toList =
      some ([], headerPlaceholder, lostPlaceholder.text) := by
    rw [show (pageTexts 0).toList = _ from htext _]
    exact find?_text isWritten_headerPlaceholder _
  have hfind₁ : find? (pageTexts 1).toList = some (headerBlock, lostPlaceholder, []) := by
    have hinert : Inert headerBlock := inert_block_of_modulesOf isWritten_headerPlaceholder
      modulesOf_headerPlaceholder (quoteFreePaths_page List.mem_cons_self)
    have hfind := find?_append (hinert.inside lostPlaceholder.text)
    simp only [hlost, Option.map_some, List.append_nil] at hfind
    rwa [show (pageTexts 1).toList = _ from htext _, List.nil_append]
  have hall : all (pageTexts 0).toList = [headerPlaceholder, lostPlaceholder] := by
    rw [all_of_find?_some hfind₀, all_of_find?_some hlost, all_of_find?_none rfl]
  have ht : ∀ k < 2, (expandWith pageDisk ⟨.root, []⟩ pageJson "" (pageTexts k)).2 =
      .ok (pageTexts (k + 1)) := by
    intro k hk
    rw [expand_of_expandWith ho]
    obtain rfl | rfl : k = 0 ∨ k = 1 := by omega
    · rw [expand_of_find?_some hfind₀, modulesOf_headerPlaceholder]
      rfl
    · rw [expand_of_find?_some hfind₁, modulesOf_lostPlaceholder]
      rfl
  have hrun := (expansions_consume ho ht fun k _ a ha =>
    quoteFreePaths_page (hall ▸ List.mem_of_getElem? ha)).1
  refine ⟨ho, ht, hall, ?_, ?_⟩
  · rw [(hrun 1 (by decide)).1, hall]
    rfl
  · rw [(hrun 2 (by decide)).1, hall]
    rfl

end TypedContent.Preload
