import TypedContent.Files.Path
import TypedContent.TypeScript.Model
import TypedContent.TypeScript.Registry

/-!
# Names of generated files

Proved here, for all names of content types:

* `join_ofString_of_isName`: what has the name of an entry lands directly in the directory where it
  is stored, and `isName_modelFileName`, `isName_registryFileName`: generated files have such names;
* `stemOf_modelFileName`: the stem of a model's file is the interface name;
* `modelFileName_inj`: two models share a file only if their names share a stem;
* `modelFileName_ne_registryFileName`: no model takes the place of the registry.
-/

namespace TypedContent

/-! ## Paths of one part -/

namespace Files.Path

/-- A name that an entry of a directory can have. -/
structure IsName (s : String) : Prop where
  ne_empty : s ≠ ""
  ne_dot : s ≠ "."
  ne_dots : s ≠ ".."
  no_slash : '/' ∉ s.toList
  no_nul : '\x00' ∉ s.toList

theorem splitSlash_of_no_slash (s : List Char) (h : '/' ∉ s) : splitSlash s = [s] := by
  induction s with
  | nil => rfl
  | cons c r ih =>
    have hc : c ≠ '/' := fun e => h (by simp [e])
    have hr : splitSlash r = [r] := ih fun e => h (by simp [e])
    unfold splitSlash
    split
    · contradiction
    · simp_all
    · simp_all

theorem anchorOf_of_no_slash (s : List Char) (h : '/' ∉ s) : anchorOf s = .here := by
  unfold anchorOf
  split <;> simp_all

/-- Nothing but the one part is read from a text without slashes. -/
theorem ofString_of_no_slash {s : String} (hempty : s ≠ "") (hdot : s ≠ ".")
    (hslash : '/' ∉ s.toList) : ofString s = ⟨.here, [s]⟩ := by
  have hne : s.toList ≠ [] := fun e => hempty (String.toList_injective e)
  have hdot : s.toList ≠ ['.'] := fun e => hdot (String.toList_injective e)
  rw [ofString, anchorOf_of_no_slash _ hslash, partsOf, splitSlash_of_no_slash _ hslash]
  simp [hne, hdot]

/-- Nothing but the name is read from a name. -/
theorem ofString_of_isName {s : String} (h : IsName s) : ofString s = ⟨.here, [s]⟩ :=
  ofString_of_no_slash h.ne_empty h.ne_dot h.no_slash

theorem join_ofString_of_isName (p : Path) {s : String} (h : IsName s) :
    p.join (ofString s) = p.child s := by
  rw [ofString_of_isName h]
  rfl

theorem toString_of_ne_nil (a : Anchor) {parts : List String} (h : parts ≠ []) :
    (⟨a, parts⟩ : Path).toString = a.text ++ "/".intercalate parts := by
  unfold toString
  split
  · exact absurd (by assumption) h
  · rfl

theorem toString_child_of_nil (a : Anchor) (name : String) :
    (child ⟨a, []⟩ name).toString = a.text ++ name := by
  rw [child, toString_of_ne_nil a (by simp)]
  simp

theorem toString_child_of_ne_nil (a : Anchor) {parts : List String} (h : parts ≠ [])
    (name : String) :
    (child ⟨a, parts⟩ name).toString = (⟨a, parts⟩ : Path).toString ++ "/" ++ name := by
  rw [child, toString_of_ne_nil a (by simp), toString_of_ne_nil a h,
    String.intercalate_append_of_ne_nil h (by simp), String.intercalate_singleton]
  simp only [String.append_assoc]

/-- In front of the name stands the same text for all names. -/
theorem exists_toString_child (p : Path) :
    ∃ front, ∀ name, (p.child name).toString = front ++ name := by
  obtain ⟨a, parts⟩ := p
  by_cases h : parts = []
  · subst h
    exact ⟨a.text, toString_child_of_nil a⟩
  · exact ⟨_, toString_child_of_ne_nil a h⟩

/-- A directory has no longer a path than what is in it, except for the dot. -/
theorem utf8ByteSize_toString_le (p : Path) (name : String) :
    p.toString.utf8ByteSize ≤ max 1 (p.child name).toString.utf8ByteSize := by
  obtain ⟨a, parts⟩ := p
  by_cases h : parts = []
  · subst h
    rw [toString_child_of_nil, String.utf8ByteSize_append]
    cases a with
    | here => exact Nat.le_max_left _ _
    | root | doubleRoot => exact Nat.le_trans (Nat.le_add_right _ _) (Nat.le_max_right _ _)
  · rw [toString_child_of_ne_nil a h, String.utf8ByteSize_append, String.utf8ByteSize_append]
    omega

theorem child_inj {p : Path} {m n : String} : p.child m = p.child n ↔ m = n := by
  simp [child]

theorem toString_child_inj {p : Path} {m n : String} :
    (p.child m).toString = (p.child n).toString ↔ m = n := by
  obtain ⟨front, h⟩ := exists_toString_child p
  rw [h, h, String.append_right_inj]

/-! ## Stems -/

theorem stemChars_append_ending (base ending : List Char) (hb : base ≠ []) (he : ending ≠ [])
    (hd : '.' ∉ ending) : stemChars (base ++ '.' :: ending) = base := by
  have htake : (base ++ '.' :: ending).reverse.takeWhile (· ≠ '.') = ending.reverse := by
    rw [List.reverse_append, List.reverse_cons, List.append_assoc, List.takeWhile_append_of_pos]
    · simp
    · intro c hc
      have : c ≠ '.' := fun e => hd (by simpa [e] using hc)
      simpa using this
  have hdrop : (base ++ '.' :: ending).reverse.drop (ending.reverse.length + 1) = base.reverse := by
    rw [List.reverse_append, List.reverse_cons]
    exact List.drop_left' (by simp)
  unfold stemChars
  simp only [htake, hdrop, List.reverse_reverse]
  simp [hb, he]

theorem stemOf_append_extension (base : String) (h : base ≠ "") :
    stemOf (base ++ TypeScript.extension) = base := by
  have hb : base.toList ≠ [] := fun e => h (String.toList_injective e)
  have ht : (base ++ TypeScript.extension).toList = base.toList ++ '.' :: ['t', 's'] := by
    rw [String.toList_append]
    rfl
  rw [stemOf, ht, stemChars_append_ending _ _ hb (by simp) (by simp), String.ofList_toList]

end Files.Path

/-! ## Stems of identifiers -/

namespace Identifier

theorem isWordChar_guardFirst (s : List Char) (h : ∀ c ∈ s, isWordChar c = true) :
    ∀ c ∈ guardFirst s, isWordChar c = true := by
  intro c hc
  unfold guardFirst at hc
  split at hc
  · obtain rfl := List.mem_singleton.mp hc
    decide
  · split at hc
    · rcases List.mem_cons.mp hc with rfl | hc
      · decide
      · exact h c hc
    · exact h c hc

theorem isWordChar_stem (name : String) : ∀ c ∈ (stem name).toList, isWordChar c = true := by
  rw [stem, String.toList_ofList]
  exact isWordChar_guardFirst _ (isWordChar_wordChars _)

/-- No identifier begins with a digit. -/
theorem exists_stem_eq_cons (name : String) :
    ∃ c r, (stem name).toList = c :: r ∧ c.isDigit = false := by
  rw [stem, String.toList_ofList]
  unfold guardFirst
  split
  · exact ⟨_, _, rfl, by decide⟩
  · split
    · exact ⟨_, _, rfl, by decide⟩
    · rename_i hdigit
      exact ⟨_, _, rfl, by simpa using hdigit⟩

theorem toList_dataName (name : String) :
    (dataName name).toList = (stem name).toList ++ ['D', 'a', 't', 'a'] := by
  rw [dataName, String.toList_append]
  rfl

theorem dataName_inj {m n : String} : dataName m = dataName n ↔ stem m = stem n :=
  String.append_left_inj _

theorem dataName_ne_empty (name : String) : dataName name ≠ "" := by
  intro h
  have hl := toList_dataName name
  rw [h] at hl
  simp at hl

end Identifier

/-! ## Generated files -/

namespace TypeScript

open Files Identifier

theorem toList_modelFileName (name : String) :
    (modelFileName name).toList = (stem name).toList ++ ['D', 'a', 't', 'a', '.', 't', 's'] := by
  rw [modelFileName, String.toList_append, toList_dataName, List.append_assoc]
  rfl

theorem isName_modelFileName (name : String) : Path.IsName (modelFileName name) := by
  have hl := toList_modelFileName name
  have hno : ∀ c, isWordChar c = false → c ∉ ['D', 'a', 't', 'a', '.', 't', 's'] →
      c ∉ (modelFileName name).toList := by
    intro c hw hc hm
    rw [hl, List.mem_append] at hm
    rcases hm with hm | hm
    · simp [isWordChar_stem name c hm] at hw
    · exact hc hm
  have hlen : ∀ s : String, s.toList.length < 7 → modelFileName name ≠ s := by
    intro s hs e
    have := congrArg (·.toList.length) e
    simp only [hl, List.length_append] at this
    simp at this
    omega
  exact ⟨hlen _ (by decide), hlen _ (by decide), hlen _ (by decide), hno _ (by decide) (by decide),
    hno _ (by decide) (by decide)⟩

theorem isName_registryFileName : Path.IsName registryFileName := by
  constructor <;> decide

theorem stemOf_modelFileName (name : String) :
    Path.stemOf (modelFileName name) = dataName name :=
  Path.stemOf_append_extension _ (dataName_ne_empty name)

/-- Two models share a file only if their names share a stem. -/
theorem modelFileName_inj {m n : String} : modelFileName m = modelFileName n ↔ stem m = stem n :=
  (String.append_left_inj _).trans dataName_inj

/-- An interface name ends in `Data`, which the registry's name does not. -/
theorem modelFileName_ne_registryFileName (name : String) :
    modelFileName name ≠ registryFileName := by
  intro h
  have hl := congrArg (fun s : String => s.toList.reverse.take 4) h
  simp only [toList_modelFileName, List.reverse_append] at hl
  have hr : registryFileName.toList.reverse.take 4 = ['s', 't', '.', 'r'] := by decide
  exact absurd hl (by simp [hr])

end TypeScript

end TypedContent
