import Mathlib.Data.List.Nodup
import TypedContent.Proofs.TypeScript.Members

/-!
# The outermost names of a model

The lines of a model that begin with `import` or `export` introduce names at the outermost level.
A line is what the sections hold as one, with all the text that the schema put into it.
`scope_closed`: among names without a collision, a model imports the interfaces that the types of
its fields name, its own apart, each once and in the order of their first use; and no name is
introduced twice.
-/

namespace TypedContent.TypeScript

open Identifier Schema

/-! ## Reading names -/

/-- Maximal runs of word characters. -/
def words (s : List Char) : List String :=
  ((s.splitOnP fun c => !isWordChar c).filter (· ≠ [])).map String.ofList

/-- What stands in front of a name at the outermost level. -/
def introducers : List String :=
  ["import ", "export default interface ", "export interface ", "export class "]

/-- What a line has behind its introducer. -/
def introduction? (line : String) : Option (List Char) :=
  introducers.findSome? fun start => line.toList.dropPrefix? start.toList

/-- The names that a line introduces at the outermost level: those in braces, or a single one. -/
def introduced (line : String) : List String :=
  match introduction? line with
  | none => []
  | some ('\x7b' :: clause) => words (clause.takeWhile (· ≠ '\x7d'))
  | some clause => [String.ofList (clause.takeWhile isWordChar)]

/-- The interface that a line imports from the model of the same name. -/
def readImport (line : String) : Option String := do
  let clause ← line.toList.dropPrefix? "import ".toList
  let name := String.ofList (clause.takeWhile isWordChar)
  if line = "import " ++ name ++ " from './" ++ name ++ "'" then some name else none

def coreImport : String :=
  "import \x7b ContentDelivery, Taxonomy, ComponentTypes \x7d from '@episerver/spa-core'"

/-- No introducer begins with another. -/
theorem introducers_apart : ∀ a ∈ introducers, ∀ b ∈ introducers,
    a.toList <+: b.toList ∨ b.toList <+: a.toList → a = b := by
  decide

theorem introduction?_append {start : String} (h : start ∈ introducers) (rest : String) :
    introduction? (start ++ rest) = some rest.toList := by
  have hstart : (start ++ rest).toList.dropPrefix? start.toList = some rest.toList := by
    rw [String.toList_append, dropPrefix?_append]
  cases hr : introduction? (start ++ rest) with
  | none =>
    rw [introduction?, List.findSome?_eq_none_iff] at hr
    exact absurd (hstart.symm.trans (hr start h)) (Option.some_ne_none _)
  | some r =>
    -- Whatever introducer was found first, it and `start` begin the same line.
    obtain ⟨other, hother, hdrop⟩ := List.exists_of_findSome?_eq_some hr
    have hprefix : other.toList <+: start.toList ++ rest.toList := by
      rw [← String.toList_append, eq_append_of_dropPrefix? hdrop, String.toList_append]
      exact List.prefix_append _ _
    obtain rfl := introducers_apart other hother start h
      (List.prefix_or_prefix_of_prefix hprefix (List.prefix_append _ _))
    exact hdrop.symm.trans hstart

/-- Nothing but a name is read where a blank stands behind it. -/
theorem takeWhile_isWordChar {name rest : String} (hname : ∀ c ∈ name.toList, isWordChar c = true)
    (hrest : rest.toList.head? = some ' ') :
    String.ofList ((name ++ rest).toList.takeWhile isWordChar) = name := by
  obtain ⟨tail, htail⟩ := List.head?_eq_some_iff.mp hrest
  have hspace : ¬ isWordChar ' ' = true := by decide
  rw [String.toList_append, htail, List.takeWhile_append_of_pos hname,
    List.takeWhile_cons_of_neg hspace, List.append_nil, String.ofList_toList]

/-- A declaration introduces its name. -/
theorem introduced_append {start name rest : String} (hstart : start ∈ introducers)
    (hname : ∀ c ∈ name.toList, isWordChar c = true) (hrest : rest.toList.head? = some ' ') :
    introduced (start ++ (name ++ rest)) = [name] := by
  unfold introduced
  rw [introduction?_append hstart]
  split
  · contradiction
  · rename_i clause hclause
    have hhead : (name ++ rest).toList.head? = some '\x7b' := by
      rw [Option.some.inj hclause]
      rfl
    rw [String.toList_append, List.head?_append] at hhead
    cases hn : name.toList.head? with
    | none =>
      rw [hn, hrest] at hhead
      exact absurd hhead (by decide)
    | some c =>
      rw [hn] at hhead
      obtain rfl : c = '\x7b' := Option.some.inj hhead
      exact absurd (hname _ (List.mem_of_mem_head? hn)) (by decide)
  · rename_i clause _ hclause
    obtain rfl := Option.some.inj hclause
    rw [takeWhile_isWordChar hname hrest]

/-! ## Lines of the outermost level -/

/-- Imports and exports. -/
def isOuter (line : String) : Bool :=
  line.toList.head? == some 'i' || line.toList.head? == some 'e'

theorem head?_toList_append (start : String) (h : start ≠ "") (rest : String) :
    (start ++ rest).toList.head? = start.toList.head? := by
  have hne : start.toList ≠ [] := fun he => h (String.toList_injective he)
  rw [String.toList_append, List.head?_append_of_ne_nil _ hne]

theorem isOuter_append (start : String) (h : start ≠ "") (rest : String) :
    isOuter (start ++ rest) = isOuter start := by
  rw [isOuter, head?_toList_append start h, isOuter]

theorem isOuter_of_mem_introducers : ∀ start ∈ introducers, start ≠ "" ∧ isOuter start = true := by
  decide

theorem introduction?_eq_none {line : String} (h : isOuter line = false) :
    introduction? line = none := by
  rw [introduction?, List.findSome?_eq_none_iff]
  intro start hstart
  refine Option.eq_none_iff_forall_ne_some.mpr fun rest hrest => ?_
  obtain ⟨hne, houter⟩ := isOuter_of_mem_introducers start hstart
  rw [eq_append_of_dropPrefix? hrest, isOuter_append start hne, houter] at h
  contradiction

theorem introduced_eq_nil {line : String} (h : isOuter line = false) : introduced line = [] := by
  rw [introduced, introduction?_eq_none h]

theorem readImport_eq_none {line : String} (h : line.toList.head? ≠ some 'i') :
    readImport line = none := by
  have hnone : line.toList.dropPrefix? "import ".toList = none := by
    refine Option.eq_none_iff_forall_ne_some.mpr fun rest hrest => h ?_
    rw [eq_append_of_dropPrefix? hrest, head?_toList_append _ (by decide)]
    decide
  unfold readImport
  rw [hnone]
  rfl

/-- Lines from which nothing is read may be left out. -/
theorem flatMap_introduced_filter (lines : List String) :
    (lines.filter isOuter).flatMap introduced = lines.flatMap introduced := by
  induction lines with
  | nil => rfl
  | cons line lines ih =>
    cases h : isOuter line with
    | true => rw [List.filter_cons_of_pos h, List.flatMap_cons, List.flatMap_cons, ih]
    | false =>
      rw [List.filter_cons_of_neg (by simp [h]), List.flatMap_cons, introduced_eq_nil h, ih,
        List.nil_append]

theorem filterMap_readImport_filter (lines : List String) :
    (lines.filter isOuter).filterMap readImport = lines.filterMap readImport := by
  rw [List.filterMap_filter]
  refine List.filterMap_congr fun line _ => ?_
  cases h : isOuter line with
  | true => rfl
  | false =>
    refine (readImport_eq_none fun hi => ?_).symm
    rw [isOuter, hi] at h
    contradiction

theorem isOuter_commentLine {indent : String} (h : indent = "" ∨ indent = "    ") (line : String) :
    isOuter (commentLine indent line) = false := by
  have hstar : indent ++ " * " ≠ "" ∧ isOuter (indent ++ " * ") = false := by
    rcases h with rfl | rfl <;> decide
  unfold commentLine
  split
  · rcases h with rfl | rfl <;> decide
  · rw [isOuter_append _ hstar.1, hstar.2]

theorem filter_isOuter_commentBlock {indent : String} (h : indent = "" ∨ indent = "    ")
    (title description : String) (tags : List String) :
    (commentBlock indent title description tags).filter isOuter = [] := by
  have hopening : isOuter (indent ++ "/**") = false := by rcases h with rfl | rfl <;> decide
  have hclosing : isOuter (indent ++ " */") = false := by rcases h with rfl | rfl <;> decide
  refine List.filter_eq_nil_iff.mpr fun line hline => ?_
  simp only [commentBlock, List.mem_append, List.mem_singleton, List.mem_map] at hline
  rcases hline with (rfl | ⟨text, -, rfl⟩) | rfl
  · simp [hopening]
  · simp [isOuter_commentLine h text]
  · simp [hclosing]

/-- No line of a member is of the outermost level. -/
theorem filter_isOuter_flatMap {line : PropertyDefinition → String}
    (h : ∀ p, isOuter (line p) = false) (ps : List PropertyDefinition) :
    (ps.flatMap fun p => propertyComment p ++ [line p, ""]).filter isOuter = [] := by
  have hempty : isOuter "" = false := by decide
  rw [List.filter_flatMap, List.flatMap_eq_nil_iff]
  intro p _
  rw [List.filter_append, propertyComment, filter_isOuter_commentBlock (.inr rfl)]
  simp [h p, hempty]

/-! ## The outermost lines of a model -/

def propsHeader (d : TypeDefinition) : String :=
  "export interface " ++ propsName d.name ++ " extends ComponentTypes.AbstractComponentProps<" ++
    dataName d.name ++ "> \x7b\x7d"

theorem isOuter_header (d : TypeDefinition) : isOuter (interfaceHeader d) = true ∧
    isOuter (propsHeader d) = true ∧ isOuter (classHeader d) = true := by
  unfold interfaceHeader propsHeader classHeader
  simp only [String.append_assoc]
  refine ⟨?_, ?_, ?_⟩
  · exact isOuter_append _ (by decide) _
  · exact isOuter_append _ (by decide) _
  · exact isOuter_append _ (by decide) _

theorem filter_isOuter_importLines (d : TypeDefinition) (known : List String) :
    (importLines d known).filter isOuter = importLines d known := by
  refine List.filter_eq_self.mpr fun line hline => ?_
  rcases List.mem_cons.mp hline with rfl | hline
  · decide
  · obtain ⟨name, -, rfl⟩ := List.mem_map.mp hline
    unfold importLine
    simp only [String.append_assoc]
    exact isOuter_append _ (by decide) _

theorem filter_isOuter_interfaceLines (d : TypeDefinition) (known : List String) :
    (interfaceLines d known).filter isOuter = [interfaceHeader d] := by
  have hfield : ∀ p : PropertyDefinition,
      isOuter (fieldLine (fieldName p.name) (TagMeaning.of known p.tag).expression) = false := by
    intro p
    unfold fieldLine
    simp only [String.append_assoc]
    exact isOuter_append _ (by decide) _
  have hend : (["\x7d", ""] : List String).filter isOuter = [] := by decide
  rw [interfaceLines_eq, List.filter_cons_of_pos (isOuter_header d).1, List.filter_append,
    filter_isOuter_flatMap hfield, hend]
  rfl

theorem filter_isOuter_propsLines (d : TypeDefinition) :
    (propsLines d).filter isOuter = [propsHeader d] := by
  have hcomment : (["/**",
      " * Convenience interface for componentDidUpdate & componentDidMount methods.",
      " */"] : List String).filter isOuter = [] := by decide
  have hempty : isOuter "" = false := by decide
  change (["/**", " * Convenience interface for componentDidUpdate & componentDidMount methods.",
    " */"] ++ [propsHeader d, ""]).filter isOuter = _
  rw [List.filter_append, hcomment, List.filter_cons_of_pos (isOuter_header d).2.1]
  simp [hempty]

theorem filter_isOuter_instanceLines (d : TypeDefinition) :
    (instanceLines d).filter isOuter = [classHeader d] := by
  have hname : isOuter ("    protected _typeName : string = \"" ++
      (escapeLiteral '"' d.name ++ "\";")) = false := isOuter_append _ (by decide) _
  have hopening : (classOpening d).filter isOuter = [classHeader d] := by
    have hcomment : (["    /**", "     * Map of all property types within this content type."] :
      List String).filter isOuter = [] := by decide
    rw [classOpening, List.filter_cons_of_pos (isOuter_header d).2.2,
      List.filter_cons_of_neg (by simp [hname]), hcomment]
  have hmap : (d.properties.map propertyMapLine).filter isOuter = [] := by
    refine List.filter_eq_nil_iff.mpr fun line hline => ?_
    obtain ⟨p, -, rfl⟩ := List.mem_map.mp hline
    unfold propertyMapLine
    simp only [String.append_assoc]
    rw [isOuter_append _ (by decide)]
    decide
  have hgetter : ∀ p, isOuter (getterOf d p).line = false := by
    intro p
    unfold Getter.line
    simp only [String.append_assoc]
    exact isOuter_append _ (by decide) _
  have hmapOpening : ¬ isOuter "     */" = true ∧ ¬ isOuter propertyMapOpening = true := by decide
  have hmapEnd : (["    \x7d", ""] : List String).filter isOuter = [] := by decide
  have hend : (["\x7d"] : List String).filter isOuter = [] := by decide
  rw [instanceLines_eq, List.filter_append, hopening, List.filter_append,
    List.filter_cons_of_neg hmapOpening.1, List.filter_append,
    List.filter_cons_of_neg hmapOpening.2, hmap, hmapEnd, List.filter_append,
    filter_isOuter_flatMap hgetter, hend]
  rfl

theorem filter_isOuter_lines (d : TypeDefinition) (known : List String) :
    (modelSections d known).lines.filter isOuter =
      importLines d known ++ [interfaceHeader d, propsHeader d, classHeader d] := by
  change (importLines d known ++ (headerLines d ++ (interfaceLines d known ++
    (propsLines d ++ (instanceLines d ++ []))))).filter isOuter = _
  rw [headerLines]
  simp only [List.filter_append, filter_isOuter_importLines, filter_isOuter_interfaceLines,
    filter_isOuter_propsLines, filter_isOuter_instanceLines,
    filter_isOuter_commentBlock (.inl rfl)]
  rfl

/-! ## Names of declarations -/

theorem isWordChar_stem_append (name : String) {ending : String}
    (h : ending.toList.all isWordChar = true) :
    ∀ c ∈ (stem name ++ ending).toList, isWordChar c = true := by
  intro c hc
  rw [String.toList_append, List.mem_append] at hc
  exact hc.elim (isWordChar_stem name c) (List.all_eq_true.mp h c)

theorem isWordChar_dataName (name : String) : ∀ c ∈ (dataName name).toList, isWordChar c = true :=
  isWordChar_stem_append name (by decide)

theorem isWordChar_typeName (name : String) : ∀ c ∈ (typeName name).toList, isWordChar c = true :=
  isWordChar_stem_append name (by decide)

theorem introduced_importLine (name : String) : introduced (importLine name) = [dataName name] := by
  unfold importLine
  simp only [String.append_assoc]
  refine introduced_append (by decide) (isWordChar_dataName name) ?_
  rw [head?_toList_append _ (by decide)]
  decide

theorem introduced_interfaceHeader (d : TypeDefinition) :
    introduced (interfaceHeader d) = [dataName d.name] := by
  unfold interfaceHeader
  simp only [String.append_assoc]
  exact introduced_append (by decide) (isWordChar_dataName d.name) (by decide)

theorem introduced_propsHeader (d : TypeDefinition) :
    introduced (propsHeader d) = [propsName d.name] := by
  unfold propsHeader
  simp only [String.append_assoc]
  refine introduced_append (by decide) (isWordChar_stem_append d.name (by decide)) ?_
  rw [head?_toList_append _ (by decide)]
  decide

theorem introduced_classHeader (d : TypeDefinition) :
    introduced (classHeader d) = [typeName d.name] := by
  refine introduced_append (by decide) (isWordChar_stem_append d.name (by decide)) ?_
  rw [head?_toList_append _ (by decide)]
  decide

theorem readImport_importLine (name : String) :
    readImport (importLine name) = some (dataName name) := by
  have hline : importLine name =
      "import " ++ (dataName name ++ (" from './" ++ (dataName name ++ "'"))) := by
    unfold importLine
    simp only [String.append_assoc]
  have hclause : (importLine name).toList.dropPrefix? "import ".toList =
      some (dataName name ++ (" from './" ++ (dataName name ++ "'"))).toList := by
    rw [hline, String.toList_append, dropPrefix?_append]
  have hname : String.ofList
      ((dataName name ++ (" from './" ++ (dataName name ++ "'"))).toList.takeWhile isWordChar) =
        dataName name := by
    refine takeWhile_isWordChar (isWordChar_dataName name) ?_
    rw [head?_toList_append _ (by decide)]
    decide
  unfold readImport
  rw [hclause, Option.bind_eq_bind, Option.bind_some]
  simp only [hname]
  exact if_pos rfl

theorem readImport_header (d : TypeDefinition) : readImport (interfaceHeader d) = none ∧
    readImport (propsHeader d) = none ∧ readImport (classHeader d) = none := by
  have hexport : ∀ start : String, start ≠ "" → start.toList.head? = some 'e' →
      ∀ rest, readImport (start ++ rest) = none := by
    intro start hne hhead rest
    refine readImport_eq_none ?_
    rw [head?_toList_append start hne, hhead]
    decide
  unfold interfaceHeader propsHeader classHeader
  simp only [String.append_assoc]
  exact ⟨hexport _ (by decide) (by decide) _, hexport _ (by decide) (by decide) _,
    hexport _ (by decide) (by decide) _⟩

def coreNames : List String := ["ContentDelivery", "Taxonomy", "ComponentTypes"]

def ownNames (name : String) : List String := [dataName name, propsName name, typeName name]

theorem flatMap_introduced_lines (d : TypeDefinition) (known : List String) :
    (modelSections d known).lines.flatMap introduced =
      coreNames ++ (references d known).map dataName ++ ownNames d.name := by
  have hcore : introduced coreImport = coreNames := by decide
  have himports : ((references d known).map importLine).flatMap introduced =
      (references d known).map dataName := by
    rw [List.flatMap_map, List.flatMap_congr fun name _ => introduced_importLine name]
    exact List.flatMap_pure_eq_map _ _
  rw [← flatMap_introduced_filter, filter_isOuter_lines, List.flatMap_append]
  change (coreImport :: (references d known).map importLine).flatMap introduced ++ _ = _
  rw [List.flatMap_cons, hcore, himports]
  simp [introduced_interfaceHeader, introduced_propsHeader, introduced_classHeader, ownNames]

theorem filterMap_readImport_lines (d : TypeDefinition) (known : List String) :
    (modelSections d known).lines.filterMap readImport = (references d known).map dataName := by
  have hcore : readImport coreImport = none := by decide
  have himports : ((references d known).map importLine).filterMap readImport =
      (references d known).map dataName := by
    rw [List.filterMap_map, ← List.filterMap_eq_map]
    exact List.filterMap_congr fun name _ => readImport_importLine name
  obtain ⟨hinterface, hprops, hclass⟩ := readImport_header d
  rw [← filterMap_readImport_filter, filter_isOuter_lines, List.filterMap_append]
  change (coreImport :: (references d known).map importLine).filterMap readImport ++ _ = _
  rw [List.filterMap_cons_none hcore, himports]
  simp [hinterface, hprops, hclass]

/-! ## Names of types -/

/-- No expression for a type of the library is an interface name: there is a dot in it. -/
theorem expression_ne_dataName (start rest name : String) (h : '.' ∈ start.toList) :
    start ++ rest ≠ dataName name := by
  intro he
  have hdot : '.' ∈ (dataName name).toList := by
    rw [← he, String.toList_append]
    exact List.mem_append_left _ h
  exact absurd (isWordChar_dataName name '.' hdot) (by decide)

/-- The types that name an interface are those of references. -/
theorem expression_mem_iff (known : List String) (tag : String) :
    (TagMeaning.of known tag).expression ∈ known.map dataName ↔ isReference known tag = true := by
  have hno : ∀ start rest : String, '.' ∈ start.toList → start ++ rest ∉ known.map dataName := by
    intro start rest h hmem
    obtain ⟨name, -, he⟩ := List.mem_map.mp hmem
    exact expression_ne_dataName start rest name h he.symm
  unfold isReference TagMeaning.of
  cases propertyTags.lookup tag with
  | some type =>
    exact iff_of_false (hno "ContentDelivery." type.name (by decide)) (by simp [TagMeaning.isModel])
  | none =>
    by_cases hk : tag ∈ known
    · simp only [hk, if_true]
      exact iff_of_true (List.mem_map_of_mem hk) rfl
    · simp only [hk, if_false]
      exact iff_of_false (hno _ tag (by simp)) (by simp [TagMeaning.isModel])

theorem expression_of_isReference {known : List String} {tag : String}
    (h : isReference known tag = true) : (TagMeaning.of known tag).expression = dataName tag := by
  obtain ⟨hlookup, hk⟩ := (isReference_iff known tag).mp h
  have hmodel : TagMeaning.of known tag = .model tag := by
    unfold TagMeaning.of
    simp only [hlookup, hk, if_true]
  rw [hmodel]
  rfl

theorem dataName_injOn {names : List String}
    (h : Collision.find? "model name" stem true names = none) {m n : String} (hm : m ∈ names)
    (hn : n ∈ names) (he : dataName m = dataName n) : m = n :=
  Collision.stem_injOn h hm hn (dataName_inj.mp he)

/-- What is imported, told by the types of the fields. -/
theorem map_dataName_references {d : TypeDefinition} {names : List String}
    (h : Collision.find? "model name" stem true names = none) (hd : d.name ∈ names) :
    (references d names).map dataName =
      distinct (((membersOf d names).fields.map (·.2)).filter fun t =>
        t ∈ names.map dataName ∧ t ≠ dataName d.name) := by
  have hrefers : ∀ {tag}, isReference names tag = true → tag ∈ names := fun h =>
    ((isReference_iff names _).mp h).2
  have hkept : ∀ tag, ((fun t => decide (t ∈ names.map dataName ∧ t ≠ dataName d.name)) ∘
      fun tag => (TagMeaning.of names tag).expression) tag =
        (isReference names tag && tag != d.name) := by
    intro tag
    rw [Function.comp, Bool.eq_iff_iff, decide_eq_true_iff, expression_mem_iff, Bool.and_eq_true, bne_iff_ne]
    refine and_congr_right fun href => not_congr ?_
    rw [expression_of_isReference href]
    exact ⟨dataName_injOn h (hrefers href) hd, congrArg dataName⟩
  have htypes : ((membersOf d names).fields.map (·.2)).filter (fun t =>
      t ∈ names.map dataName ∧ t ≠ dataName d.name) =
        (((visibleProperties d).map (·.tag)).filter fun tag =>
          isReference names tag && tag != d.name).map dataName := by
    have hfields : (membersOf d names).fields.map (·.2) =
        ((visibleProperties d).map (·.tag)).map fun tag => (TagMeaning.of names tag).expression := by
      simp [membersOf, Function.comp_def]
    rw [hfields, List.filter_map, List.filter_congr fun tag _ => hkept tag]
    refine List.map_congr_left fun tag htag => expression_of_isReference ?_
    exact (Bool.and_eq_true _ _ ▸ (List.mem_filter.mp htag).2).1
  -- Repeats are dropped by tag here and by interface there, which is the same among `names`.
  rw [htypes, references, ← map_distinctBy, distinctBy_eq_distinct]
  intro m hm n hn
  exact dataName_injOn h (mem_known_of_mem_references (mem_distinct.mpr hm))
    (mem_known_of_mem_references (mem_distinct.mpr hn))

/-! ## The scope of a model -/

/-- The last characters, backwards. -/
def ending (s : String) : List Char := s.toList.reverse.take 4

theorem ending_append (base : String) {suffix : String} (h : 4 ≤ suffix.toList.length) :
    ending (base ++ suffix) = ending suffix := by
  rw [ending, String.toList_append, List.reverse_append,
    List.take_append_of_le_length (by rwa [List.length_reverse]), ending]

def ownEndings : List (List Char) := [ending "Data", ending "Props", ending "Type"]

theorem map_ending_ownNames (name : String) : (ownNames name).map ending = ownEndings := by
  simp only [ownNames, List.map_cons, List.map_nil, dataName, propsName, typeName]
  rw [ending_append _ (by decide), ending_append _ (by decide), ending_append _ (by decide)]
  rfl

theorem ending_not_mem_ownEndings : ∀ x ∈ coreNames, ending x ∉ ownEndings := by
  decide

/-- Names of the library, of interfaces and of one type are apart by their endings. -/
theorem nodup_names {imports : List String} {name : String} (hnodup : imports.Nodup)
    (hdata : ∀ x ∈ imports, ending x = ending "Data") (hname : dataName name ∉ imports) :
    (coreNames ++ imports ++ ownNames name).Nodup := by
  have hown : ∀ y ∈ ownNames name, ending y ∈ ownEndings := by
    intro y hy
    rw [← map_ending_ownNames name]
    exact List.mem_map_of_mem hy
  have hcore : ∀ x ∈ coreNames, ∀ y, ending y ∈ ownEndings → x ≠ y := by
    rintro x hx y hy rfl
    exact ending_not_mem_ownEndings x hx hy
  have himports : ∀ x ∈ imports, ∀ y ∈ ownNames name, x ≠ y := by
    rintro x hx y hy rfl
    have hprops : ending (propsName name) = ending "Props" := ending_append _ (by decide)
    have htype : ending (typeName name) = ending "Type" := ending_append _ (by decide)
    simp only [ownNames, List.mem_cons, List.not_mem_nil, or_false] at hy
    rcases hy with rfl | rfl | rfl
    · exact hname hx
    · exact absurd (hprops.symm.trans (hdata _ hx)) (by decide)
    · exact absurd (htype.symm.trans (hdata _ hx)) (by decide)
  have hapart : (ownNames name).Nodup := by
    refine List.Nodup.of_map ending ?_
    rw [map_ending_ownNames]
    decide
  refine List.nodup_append.mpr ⟨List.nodup_append.mpr ⟨by decide, hnodup, fun x hx y hy => ?_⟩,
    hapart, fun x hx y hy => ?_⟩
  · refine hcore x hx y ?_
    rw [hdata y hy]
    decide
  · rcases List.mem_append.mp hx with hx | hx
    · exact hcore x hx y (hown y hy)
    · exact himports x hx y hy

/-- The outermost names in the model of `d` among the content types `names`, and its imports. -/
structure Scoped (d : TypeDefinition) (names : List String) (s : Sections) (m : Members) :
    Prop where
  standIn : m.StandIn s
  fields : m.fields.map (·.1) = (visibleProperties d).map fun p => fieldName p.name
  /-- Each interface that a field has for its type is imported once, except the model's own. -/
  imports : s.lines.filterMap readImport = distinct ((m.fields.map (·.2)).filter fun t =>
    t ∈ names.map dataName ∧ t ≠ dataName d.name)
  introduced : s.lines.flatMap introduced = ["ContentDelivery", "Taxonomy", "ComponentTypes"] ++
    s.lines.filterMap readImport ++ [stem d.name ++ "Data", stem d.name ++ "Props",
      stem d.name ++ "Type"]
  nodup : (s.lines.flatMap TypeScript.introduced).Nodup

theorem scope_closed {d : TypeDefinition} {names : List String} {f : SourceFile}
    (hnames : Collision.find? "model name" stem true names = none) (hd : d.name ∈ names)
    (h : modelFile d names = .ok f) :
    ∃ s m, buildModel d names = .ok s ∧ f.content = s.text ∧ Scoped d names s m := by
  obtain ⟨-, hbuilt, hcontent⟩ := built_of_modelFile h
  have hknown : ∀ m ∈ references d names, m ∈ names := fun _ => mem_known_of_mem_references
  have hnodup : (coreNames ++ (references d names).map dataName ++ ownNames d.name).Nodup := by
    refine nodup_names ((nodup_distinct _).map_on fun m hm n hn => ?_) ?_ ?_
    · exact dataName_injOn hnames (hknown m hm) (hknown n hn)
    · intro x hx
      obtain ⟨m, -, rfl⟩ := List.mem_map.mp hx
      exact ending_append _ (by decide)
    · intro hmem
      obtain ⟨m, hm, he⟩ := List.mem_map.mp hmem
      exact (mem_references_iff.mp hm).2.2 (dataName_injOn hnames (hknown m hm) hd he)
  refine ⟨_, _, hbuilt, hcontent, membersOf_standIn d names, ?_, ?_, ?_, ?_⟩
  · simp [membersOf, Function.comp_def]
  · rw [filterMap_readImport_lines, map_dataName_references hnames hd]
  · rw [flatMap_introduced_lines, filterMap_readImport_lines]
    rfl
  · rw [flatMap_introduced_lines]
    exact hnodup

/-- Types that refer to each other, to the same one twice, and by names that tell a type. -/
def shopTypes : List String := ["Start Page", "Product", "String", "2nd 'block'"]

def shopPage : TypeDefinition where
  name := "Product"
  displayName := "export class Start_PageData"
  description := "import Taxonomy from './x'"
  guid := ""
  properties := [⟨"Block", "", "", "2nd 'block'"⟩, ⟨"Related", "", "", "Product"⟩,
    ⟨"Home", "", "", "Start Page"⟩, ⟨"Label", "", "", "String"⟩, ⟨"Other", "", "", "2nd 'block'"⟩,
    ⟨"ContentLink", "", "", "Start Page"⟩, ⟨"Odd", "", "", "Start_PageData"⟩]

theorem scope_closed_shop :
    Collision.find? "model name" stem true shopTypes = none ∧ shopPage.name ∈ shopTypes ∧
      ∃ f, modelFile shopPage shopTypes = .ok f ∧
        ∃ s m, buildModel shopPage shopTypes = .ok s ∧ f.content = s.text ∧
          Scoped shopPage shopTypes s m := by
  have hnames : Collision.find? "model name" stem true shopTypes = none := by decide +kernel
  have hd : shopPage.name ∈ shopTypes := by decide
  obtain ⟨f, h⟩ : ∃ f, modelFile shopPage shopTypes = .ok f :=
    ⟨_, modelFile_eq_ok_iff.mpr ⟨by decide +kernel, rfl⟩⟩
  exact ⟨hnames, hd, f, h, scope_closed hnames hd h⟩

end TypedContent.TypeScript
