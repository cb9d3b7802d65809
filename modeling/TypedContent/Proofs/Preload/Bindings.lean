import Mathlib.Data.List.Nodup
import TypedContent.Preload.Discovery
import TypedContent.Proofs.FileNames

/-!
# Names of modules

Proved here of the names that a module gets from the place of its file:

* `relativeText_inj`: files at different places have different texts;
* `nodup_specifiers`: where bindings differ, so do specifiers, which are not checked by themselves;
* `bindingCollision?_eq_none_iff`, `bindingCollision?_eq_some_iff`: the check finds the first binding
  that is shared, with all its modules.
-/

namespace TypedContent.Preload

open Files

/-! ## Texts of places -/

/-- No name holds the sign that stands between names. -/
def SlashFree (names : List String) : Prop := ∀ n ∈ names, '/' ∉ n.toList

theorem toList_relativeText_cons_cons (n n' : String) (names : List String) :
    (relativeText (n :: n' :: names)).toList =
      n.toList ++ '/' :: (relativeText (n' :: names)).toList := by
  simp [relativeText]

theorem splitSlash_append_slash {s : List Char} (h : '/' ∉ s) (t : List Char) :
    Path.splitSlash (s ++ '/' :: t) = s :: Path.splitSlash t := by
  induction s with
  | nil => rfl
  | cons c s ih =>
    obtain ⟨hc, hs⟩ := List.ne_and_not_mem_of_not_mem_cons h
    rw [List.cons_append, Path.splitSlash, ih hs]
    exact hc.symm

/-- The names can be read off the text. -/
theorem splitSlash_relativeText {names : List String} (hne : names ≠ []) (h : SlashFree names) :
    Path.splitSlash (relativeText names).toList = names.map String.toList := by
  induction names with
  | nil => exact absurd rfl hne
  | cons n names ih =>
    have hn := h n List.mem_cons_self
    cases names with
    | nil => simpa [relativeText] using Path.splitSlash_of_no_slash _ hn
    | cons n' names =>
      rw [toList_relativeText_cons_cons, splitSlash_append_slash hn, List.map_cons,
        ih (by simp) fun m hm => h m (List.mem_cons_of_mem n hm)]

theorem relativeText_inj {names names' : List String} (hne : names ≠ []) (hne' : names' ≠ [])
    (h : SlashFree names) (h' : SlashFree names') :
    relativeText names = relativeText names' ↔ names = names' := by
  refine ⟨fun he => ?_, congrArg relativeText⟩
  have hsplit := congrArg (fun s : String => Path.splitSlash s.toList) he
  simp only [splitSlash_relativeText hne h, splitSlash_relativeText hne' h'] at hsplit
  exact List.map_injective_iff.mpr (fun _ _ => String.toList_injective) hsplit

/-! ## Specifiers and bindings -/

variable {directory : Path} {base extension : String} {names names' : List String}

/-- A name without its extension begins the name with it. -/
theorem moduleName_begins (extension fileName : String) :
    (moduleName extension fileName).toList <+: fileName.toList := by
  unfold moduleName
  split
  · rw [String.toList_ofList]
    exact List.take_prefix _ _
  · exact List.prefix_rfl

theorem slash_not_mem_name (h : SlashFree names) :
    '/' ∉ (moduleOf directory base extension names).name.toList := by
  intro hm
  have hlast := (moduleName_begins _ _).subset hm
  cases hn : names.getLast? with
  | none => simp [hn] at hlast
  | some n => exact h n (List.mem_of_getLast? hn) (by simpa [hn] using hlast)

/-- What a specifier has behind its base. -/
def localSpecifier (m : Module) : List Char :=
  (if m.directory = "" then [] else m.directory.toList ++ ['/']) ++ m.name.toList

theorem toList_specifier (directory : Path) (base extension : String) (names : List String) :
    (moduleOf directory base extension names).specifier.toList =
      base.toList ++ localSpecifier (moduleOf directory base extension names) := by
  by_cases h : relativeText names.dropLast = "" <;> simp [moduleOf, localSpecifier, h]

/-- A binding is a specifier without its base and its slashes. -/
theorem toList_binding (h : SlashFree names) :
    (moduleOf directory base extension names).binding.toList =
      (localSpecifier (moduleOf directory base extension names)).filter (· ≠ '/') := by
  have hname : (moduleOf directory base extension names).name.toList.filter (· ≠ '/') =
      (moduleOf directory base extension names).name.toList := by
    refine List.filter_eq_self.mpr fun c hc => decide_eq_true ?_
    rintro rfl
    exact slash_not_mem_name h hc
  rw [localSpecifier, List.filter_append, hname]
  change (String.ofList _ ++ _ : String).toList = _
  rw [String.toList_append, String.toList_ofList]
  congr 1
  split
  · rename_i he
    have he : relativeText names.dropLast = "" := he
    simp [he]
  · rw [List.filter_append]
    simp [moduleOf]

theorem binding_eq_of_specifier_eq (h : SlashFree names) (h' : SlashFree names')
    (he : (moduleOf directory base extension names).specifier =
      (moduleOf directory base extension names').specifier) :
    (moduleOf directory base extension names).binding =
      (moduleOf directory base extension names').binding := by
  have hlocal := congrArg String.toList he
  rw [toList_specifier, toList_specifier, List.append_cancel_left_eq] at hlocal
  apply String.toList_injective
  rw [toList_binding h, toList_binding h', hlocal]

/-- No module is registered in the place of another, if no two have one binding. -/
theorem nodup_specifiers {files : List (List String)} (h : ∀ names ∈ files, SlashFree names)
    (hbindings : ((files.map (moduleOf directory base extension)).map (·.binding)).Nodup) :
    ((files.map (moduleOf directory base extension)).map (·.specifier)).Nodup := by
  rw [List.map_map] at hbindings ⊢
  refine List.pairwise_map.mpr ((List.pairwise_map.mp hbindings).imp_of_mem ?_)
  intro names names' hm hm' hne he
  exact hne (binding_eq_of_specifier_eq (h names hm) (h names' hm') he)

/-! ## Shared bindings -/

variable {modules : List Module} {c : Collision}

/-- The modules with a binding, in order. -/
def owners (modules : List Module) (binding : String) : List Module :=
  modules.filter fun m => m.binding = binding

/-- The collision names all modules with its binding, which is the first one that several of the
modules have. -/
def FirstShared (modules : List Module) (c : Collision) : Prop :=
  ∃ before m after, modules = before ++ m :: after ∧
    (∀ x ∈ before, (owners modules x.binding).length ≤ 1) ∧
    1 < (owners modules m.binding).length ∧
    c = ⟨"PreLoad binding", m.binding, (owners modules m.binding).map (·.specifier)⟩

/-- What `bindingCollision?` makes of the binding of one module. -/
def sharedBy? (modules : List Module) (m : Module) : Option Collision :=
  if 1 < (owners modules m.binding).length then
    some ⟨"PreLoad binding", m.binding, (owners modules m.binding).map (·.specifier)⟩
  else none

theorem bindingCollision?_eq (modules : List Module) :
    bindingCollision? modules = modules.findSome? (sharedBy? modules) := by
  unfold bindingCollision?
  congr 1
  funext m
  rw [sharedBy?, owners]
  cases modules.filter fun n => n.binding = m.binding with
  | nil => rfl
  | cons first rest => cases rest <;> simp

theorem sharedBy?_eq_none_iff {m : Module} :
    sharedBy? modules m = none ↔ (owners modules m.binding).length ≤ 1 := by
  simp [sharedBy?]

theorem length_owners (modules : List Module) (binding : String) :
    (owners modules binding).length = (modules.map (·.binding)).count binding := by
  rw [owners, ← List.countP_eq_length_filter, List.count, List.countP_map]
  rfl

theorem bindingCollision?_eq_none_iff :
    bindingCollision? modules = none ↔ (modules.map (·.binding)).Nodup := by
  rw [bindingCollision?_eq, List.findSome?_eq_none_iff, List.nodup_iff_count_le_one]
  simp only [sharedBy?_eq_none_iff, length_owners]
  constructor
  · intro h b
    by_cases hb : b ∈ modules.map (·.binding)
    · obtain ⟨m, hm, rfl⟩ := List.mem_map.mp hb
      exact h m hm
    · rw [List.count_eq_zero.mpr hb]
      omega
  · exact fun h m _ => h m.binding

theorem bindingCollision?_eq_some_iff :
    bindingCollision? modules = some c ↔ FirstShared modules c := by
  rw [bindingCollision?_eq, List.findSome?_eq_some_iff]
  simp only [sharedBy?_eq_none_iff]
  constructor
  · rintro ⟨before, m, after, hmodules, hm, hbefore⟩
    rw [sharedBy?, Option.ite_none_right_eq_some, Option.some.injEq] at hm
    exact ⟨before, m, after, hmodules, hbefore, hm.1, hm.2.symm⟩
  · rintro ⟨before, m, after, hmodules, hbefore, hm, rfl⟩
    exact ⟨before, m, after, hmodules, by rw [sharedBy?, if_pos hm], hbefore⟩

end TypedContent.Preload
