import Mathlib.Data.List.Nodup
import TypedContent.Proofs.Collisions
import TypedContent.Proofs.Declarations
import TypedContent.Proofs.TypeScript.Literals

/-!
# The members that a model declares

A model tells of its properties three times: as fields of its interface, as entries of its property
map, and as getters of its class.  `Members` holds what it tells, and `Members.StandIn` reads it off
the sections of the model: a member stands right behind its comment, and a line of the property map
is read as two literals.  Proved here of every model:

* `members_aligned`: fields and getters are the entries of the property map in the same order, but
  for the reserved ones;
* `members_counted`: a member is declared as often as the name of its property is listed.
-/

namespace TypedContent.TypeScript

open Identifier Schema

/-! ## Reading members -/

/-- The lines that stand right behind a comment on a member. -/
def memberLines : List String → List String
  | [] => []
  | line :: rest =>
    if line = "     */" then rest.take 1 ++ memberLines rest else memberLines rest

/-- The declaration of a field. -/
def fieldLine (name type : String) : String := "    " ++ name ++ ": " ++ type

/-- The type of a getter is that of a field of an interface. -/
structure Getter where
  name : String
  interface : String
  field : String
  /-- The property that is read. -/
  property : String

def Getter.line (g : Getter) : String :=
  "    public get " ++ g.name ++ "() : " ++ g.interface ++ "[\"" ++ g.field ++
    "\"] \x7b return this.getProperty(\"" ++ g.property ++ "\"); \x7d"

def propertyMapOpening : String :=
  "    protected _propertyMap : \x7b [propName: string]: string \x7d = \x7b"

/-- The key and the tag in a line of the property map. -/
def readEntry (line : String) : Option (String × String) := do
  let (key, rest) ← readLiteral '\'' (← line.toList.dropPrefix? "        '".toList)
  let (tag, rest) ← readLiteral '\'' (← rest.dropPrefix? ": '".toList)
  if rest = [','] then some (String.ofList key, String.ofList tag) else none

/-- What a model tells of its properties. -/
structure Members where
  /-- Names and types. -/
  fields : List (String × String)
  /-- Keys and tags. -/
  entries : List (String × String)
  getters : List Getter

/-- The sections of a model tell this of its properties. -/
structure Members.StandIn (m : Members) (s : Sections) : Prop where
  ofInterface : ∃ lines, s.get "interface" = .ok lines ∧
    memberLines lines = m.fields.map fun f => fieldLine f.1 f.2
  ofClass : ∃ lines, s.get "instance" = .ok lines ∧
    memberLines lines = propertyMapOpening :: m.getters.map Getter.line ∧
    lines.filterMap readEntry = m.entries

/-- A line with another beginning does not end a comment. -/
theorem append_ne (start : String) (h : ¬ start.toList <+: "     */".toList) (rest : String) :
    start ++ rest ≠ "     */" := by
  intro he
  rw [← he, String.toList_append] at h
  exact h (List.prefix_append _ _)

theorem fieldLine_ne (name type : String) : fieldLine name type ≠ "     */" := by
  intro h
  have hcolon : ':' ∈ (fieldLine name type).toList := by simp [fieldLine]
  rw [h] at hcolon
  exact absurd hcolon (by decide)

theorem memberLines_cons_of_ne {line : String} (h : line ≠ "     */") (rest : List String) :
    memberLines (line :: rest) = memberLines rest := by
  rw [memberLines, if_neg h]

theorem memberLines_append {lines : List String} (h : ∀ line ∈ lines, line ≠ "     */")
    (rest : List String) : memberLines (lines ++ rest) = memberLines rest := by
  induction lines with
  | nil => rfl
  | cons line lines ih =>
    rw [List.cons_append, memberLines_cons_of_ne (h line List.mem_cons_self),
      ih fun l hl => h l (List.mem_cons_of_mem _ hl)]

/-- A line inside a comment does not end it. -/
theorem commentLine_ne (line : String) : commentLine "    " line ≠ "     */" := by
  unfold commentLine
  split
  · decide
  · intro h
    have hl := congrArg String.toList h
    simp [String.toList_append] at hl

theorem memberLines_propertyComment (p : PropertyDefinition) (line : String)
    (rest : List String) :
    memberLines (propertyComment p ++ line :: rest) = line :: memberLines (line :: rest) := by
  unfold propertyComment commentBlock
  rw [List.append_assoc, memberLines_append]
  · rfl
  · intro l hl
    rcases List.mem_append.mp hl with hl | hl
    · obtain rfl := List.mem_singleton.mp hl
      decide
    · obtain ⟨text, -, rfl⟩ := List.mem_map.mp hl
      exact commentLine_ne text

/-- Each member that has a comment is found. -/
theorem memberLines_flatMap {line : PropertyDefinition → String} (h : ∀ p, line p ≠ "     */")
    (ps : List PropertyDefinition) (rest : List String) :
    memberLines (ps.flatMap (fun p => propertyComment p ++ [line p, ""]) ++ rest) =
      ps.map line ++ memberLines rest := by
  induction ps with
  | nil => rfl
  | cons p ps ih =>
    rw [List.flatMap_cons, List.append_assoc, List.append_assoc, List.cons_append,
      memberLines_propertyComment, memberLines_cons_of_ne (h p), List.cons_append,
      memberLines_cons_of_ne (by decide), List.nil_append, ih]
    rfl

/-! ## Reading entries -/

theorem dropPrefix?_append (opening rest : List Char) :
    (opening ++ rest).dropPrefix? opening = some rest :=
  List.dropPrefix?_eq_some_iff.mpr ⟨opening, rfl, beq_self_eq_true opening⟩

theorem eq_append_of_dropPrefix? {line start : String} {rest : List Char}
    (h : line.toList.dropPrefix? start.toList = some rest) : line = start ++ String.ofList rest := by
  obtain ⟨opening, he, ho⟩ := List.dropPrefix?_eq_some_iff.mp h
  apply String.toList_injective
  rw [he, eq_of_beq ho, String.toList_append, String.toList_ofList]

theorem readEntry_propertyMapLine (p : PropertyDefinition) :
    readEntry (propertyMapLine p) = some (fieldName p.name, p.tag) := by
  have hquote : '\'' ≠ '\\' := by decide
  have hline : (propertyMapLine p).toList = "        '".toList ++
      ((escapeLiteral '\'' (fieldName p.name)).toList ++ '\'' ::
        (": '".toList ++ ((escapeLiteral '\'' p.tag).toList ++ '\'' :: [',']))) := by
    simp [propertyMapLine, String.toList_append]
  unfold readEntry
  simp only [hline, dropPrefix?_append, readLiteral_escapeLiteral hquote, Option.bind_eq_bind,
    Option.bind_some, if_true, String.ofList_toList]

/-- A line with another beginning is no entry. -/
theorem readEntry_eq_none (start : String) (h : ¬ start.toList <+: "        '".toList)
    (h' : ¬ "        '".toList <+: start.toList) (rest : String) :
    readEntry (start ++ rest) = none := by
  have hnone : (start ++ rest).toList.dropPrefix? "        '".toList = none := by
    refine Option.eq_none_iff_forall_ne_some.mpr fun r hr => ?_
    have hopening : "        '".toList <+: start.toList ++ rest.toList := by
      rw [← String.toList_append, eq_append_of_dropPrefix? hr, String.toList_append]
      exact List.prefix_append _ _
    exact (List.prefix_or_prefix_of_prefix (List.prefix_append _ _) hopening).elim h h'
  unfold readEntry
  rw [hnone]
  rfl

theorem readEntry_commentLine (line : String) : readEntry (commentLine "    " line) = none := by
  unfold commentLine
  split
  · rfl
  · exact readEntry_eq_none "     * " (by decide) (by decide) _

theorem filterMap_readEntry_propertyComment (p : PropertyDefinition) :
    (propertyComment p).filterMap readEntry = [] := by
  refine List.filterMap_eq_nil_iff.mpr fun line hline => ?_
  simp only [propertyComment, commentBlock, List.mem_append, List.mem_singleton, List.mem_map]
    at hline
  rcases hline with (rfl | ⟨text, -, rfl⟩) | rfl
  · rfl
  · exact readEntry_commentLine text
  · rfl

/-! ## What the sections of a model tell -/

/-- The getter of a property in the class for `d`. -/
def getterOf (d : TypeDefinition) (p : PropertyDefinition) : Getter :=
  ⟨fieldName p.name, dataName d.name, fieldName p.name, fieldName p.name⟩

def membersOf (d : TypeDefinition) (known : List String) : Members where
  fields := (visibleProperties d).map fun p =>
    (fieldName p.name, (TagMeaning.of known p.tag).expression)
  entries := d.properties.map fun p => (fieldName p.name, p.tag)
  getters := (visibleProperties d).map (getterOf d)

def interfaceHeader (d : TypeDefinition) : String :=
  "export default interface " ++ dataName d.name ++ " extends Taxonomy.IContent \x7b"

theorem interfaceLines_eq (d : TypeDefinition) (known : List String) :
    interfaceLines d known =
      interfaceHeader d ::
        ((visibleProperties d).flatMap (fun p => propertyComment p ++
          [fieldLine (fieldName p.name) (TagMeaning.of known p.tag).expression, ""]) ++
        ["\x7d", ""]) :=
  rfl

theorem memberLines_interfaceLines (d : TypeDefinition) (known : List String) :
    memberLines (interfaceLines d known) =
      (membersOf d known).fields.map fun f => fieldLine f.1 f.2 := by
  have hopening : interfaceHeader d ≠ "     */" := by
    unfold interfaceHeader
    simp only [String.append_assoc]
    exact append_ne _ (by decide) _
  rw [interfaceLines_eq, memberLines_cons_of_ne hopening,
    memberLines_flatMap fun p => fieldLine_ne _ _]
  simp [memberLines, membersOf]

def classHeader (d : TypeDefinition) : String :=
  "export class " ++ (typeName d.name ++ (" extends Taxonomy.AbstractIContent<" ++
    (dataName d.name ++ ("> implements " ++ (dataName d.name ++ " \x7b")))))

/-- What stands in a class before its property map, without the end of the comment on that. -/
def classOpening (d : TypeDefinition) : List String :=
  [classHeader d,
    "    protected _typeName : string = \"" ++ (escapeLiteral '"' d.name ++ "\";"),
    "    /**",
    "     * Map of all property types within this content type."]

theorem instanceLines_eq (d : TypeDefinition) :
    instanceLines d = classOpening d ++
      ("     */" :: (propertyMapOpening :: d.properties.map propertyMapLine ++ ["    \x7d", ""]) ++
        ((visibleProperties d).flatMap (fun p => propertyComment p ++ [(getterOf d p).line, ""]) ++
          ["\x7d"])) := by
  have hgetters : (visibleProperties d).flatMap (getterLines d) =
      (visibleProperties d).flatMap fun p => propertyComment p ++ [(getterOf d p).line, ""] := rfl
  rw [instanceLines, hgetters, classOpening, classHeader]
  simp only [List.append_assoc, List.cons_append, List.nil_append, String.append_assoc]
  rfl

theorem Getter.line_ne (g : Getter) : g.line ≠ "     */" := by
  unfold Getter.line
  simp only [String.append_assoc]
  exact append_ne "    public get " (by decide) _

theorem propertyMapLine_ne (p : PropertyDefinition) : propertyMapLine p ≠ "     */" := by
  simp only [propertyMapLine, String.append_assoc]
  exact append_ne "        '" (by decide) _

theorem memberLines_instanceLines (d : TypeDefinition) (known : List String) :
    memberLines (instanceLines d) =
      propertyMapOpening :: (membersOf d known).getters.map Getter.line := by
  have hopening : ∀ line ∈ classOpening d, line ≠ "     */" := by
    simp only [classOpening, List.mem_cons, List.not_mem_nil, or_false]
    rintro line (rfl | rfl | rfl | rfl)
    · exact append_ne "export class " (by decide) _
    · exact append_ne "    protected _typeName : string = \"" (by decide) _
    · decide
    · decide
  have hmap : ∀ line ∈ propertyMapOpening :: d.properties.map propertyMapLine ++ ["    \x7d", ""],
      line ≠ "     */" := by
    simp only [List.mem_append, List.mem_cons, List.mem_map, List.not_mem_nil, or_false]
    rintro line ((rfl | ⟨p, -, rfl⟩) | rfl | rfl)
    · decide
    · exact propertyMapLine_ne p
    · decide
    · decide
  rw [instanceLines_eq, memberLines_append hopening, List.cons_append, memberLines, if_pos rfl,
    memberLines_append hmap, memberLines_flatMap fun p => (getterOf d p).line_ne]
  simp [memberLines, membersOf]

theorem filterMap_readEntry_instanceLines (d : TypeDefinition) (known : List String) :
    (instanceLines d).filterMap readEntry = (membersOf d known).entries := by
  have hopening : (classOpening d).filterMap readEntry = [] := by
    refine List.filterMap_eq_nil_iff.mpr ?_
    simp only [classOpening, List.mem_cons, List.not_mem_nil, or_false]
    rintro line (rfl | rfl | rfl | rfl)
    · exact readEntry_eq_none "export class " (by decide) (by decide) _
    · exact readEntry_eq_none "    protected _typeName : string = \"" (by decide) (by decide) _
    · rfl
    · rfl
  have hmap : (d.properties.map propertyMapLine).filterMap readEntry =
      d.properties.map fun p => (fieldName p.name, p.tag) := by
    rw [List.filterMap_map, ← List.filterMap_eq_map]
    exact List.filterMap_congr fun p _ => readEntry_propertyMapLine p
  have hgetter : ∀ g : Getter, readEntry g.line = none := by
    intro g
    unfold Getter.line
    simp only [String.append_assoc]
    exact readEntry_eq_none "    public get " (by decide) (by decide) _
  have hgetters : ((visibleProperties d).flatMap fun p =>
      propertyComment p ++ [(getterOf d p).line, ""]).filterMap readEntry = [] := by
    rw [List.filterMap_flatMap, List.flatMap_eq_nil_iff]
    intro p _
    rw [List.filterMap_append, filterMap_readEntry_propertyComment, List.nil_append,
      List.filterMap_cons_none (hgetter _)]
    rfl
  have hclose : readEntry "     */" = none := rfl
  have hmapOpening : readEntry propertyMapOpening = none := rfl
  have hmapEnd : (["    \x7d", ""] : List String).filterMap readEntry = [] := rfl
  have hend : (["\x7d"] : List String).filterMap readEntry = [] := rfl
  rw [instanceLines_eq, List.filterMap_append, hopening, List.cons_append,
    List.filterMap_cons_none hclose, List.cons_append, List.cons_append,
    List.filterMap_cons_none hmapOpening]
  simp only [List.filterMap_append, hmap, hmapEnd, hgetters, hend, List.append_nil, List.nil_append]
  rfl

theorem membersOf_standIn (d : TypeDefinition) (known : List String) :
    (membersOf d known).StandIn (modelSections d known) where
  ofInterface := ⟨_, rfl, memberLines_interfaceLines d known⟩
  ofClass := ⟨_, rfl, memberLines_instanceLines d known, filterMap_readEntry_instanceLines d known⟩

/-! ### Names of members -/

theorem map_fst_entries (d : TypeDefinition) (known : List String) :
    (membersOf d known).entries.map (·.1) = (d.properties.map (·.name)).map fieldName := by
  simp [membersOf, Function.comp_def]

theorem map_fst_fields (d : TypeDefinition) (known : List String) :
    (membersOf d known).fields.map (·.1) =
      ((visibleProperties d).map (·.name)).map fieldName := by
  simp [membersOf, Function.comp_def]

theorem map_name_getters (d : TypeDefinition) (known : List String) :
    (membersOf d known).getters.map (·.name) =
      ((visibleProperties d).map (·.name)).map fieldName := by
  simp [membersOf, getterOf, Function.comp_def]

/-- The names of the properties that have fields. -/
theorem map_name_visibleProperties (d : TypeDefinition) :
    (visibleProperties d).map (·.name) =
      (d.properties.map (·.name)).filter fun n => fieldName n ∉ reservedFields := by
  rw [List.filter_map]
  rfl

/-- A file that is made is the text of the sections of its model. -/
theorem built_of_modelFile {d : TypeDefinition} {known : List String} {f : SourceFile}
    (h : modelFile d known = .ok f) :
    fieldCollision? d = none ∧ buildModel d known = .ok (modelSections d known) ∧
      f.content = (modelSections d known).text := by
  obtain ⟨hapart, rfl⟩ := modelFile_eq_ok_iff.mp h
  refine ⟨hapart, ?_, rfl⟩
  rw [buildModel, hapart]

/-! ## Alignment -/

/-- Interface, property map and class of a model of `d` are about the same properties. -/
structure Aligned (d : TypeDefinition) (s : Sections) (m : Members) : Prop where
  declares : Declares s (stem d.name)
  standIn : m.StandIn s
  /-- Each property has its entry, in the order of the schema. -/
  entries : m.entries = d.properties.map fun p => (fieldName p.name, p.tag)
  fields : m.fields.map (·.1) = (m.entries.map (·.1)).filter (· ≠ "contentLink")
  getters : m.getters.map (·.name) = m.fields.map (·.1)
  /-- A getter has the type of the field of its name, and reads the property of its name. -/
  types : ∀ g ∈ m.getters, g.interface = stem d.name ++ "Data" ∧ g.field = g.name ∧
    g.property = g.name

theorem members_aligned {d : TypeDefinition} {known : List String} {f : SourceFile}
    (h : modelFile d known = .ok f) :
    ∃ s m, buildModel d known = .ok s ∧ f.content = s.text ∧ Aligned d s m := by
  obtain ⟨-, hbuilt, hcontent⟩ := built_of_modelFile h
  refine ⟨_, _, hbuilt, hcontent, declares_modelSections d known, membersOf_standIn d known, rfl,
    ?_, ?_, ?_⟩
  · rw [map_fst_fields, map_fst_entries, List.filter_map, map_name_visibleProperties]
    simp only [reservedFields, List.mem_singleton, Function.comp_def]
  · rw [map_name_getters, map_fst_fields]
  · intro g hg
    obtain ⟨p, -, rfl⟩ := List.mem_map.mp hg
    exact ⟨rfl, rfl, rfl⟩

/-- A reserved property, names that are no identifiers, and one that grows in lower case. -/
def galleryPage : TypeDefinition where
  name := "2nd Gallery"
  displayName := ""
  description := "Ends */ here"
  guid := "7"
  properties := [⟨"Title", "", "", "String"⟩, ⟨"ContentLink", "", "", "ContentReference"⟩,
    ⟨"It's a 'b\\", "", "", "o'clock"⟩, ⟨"İd", "", "", "2nd Gallery"⟩]

theorem exists_modelFile_galleryPage : ∃ f, modelFile galleryPage ["2nd Gallery"] = .ok f :=
  ⟨_, modelFile_eq_ok_iff.mpr ⟨by decide +kernel, rfl⟩⟩

theorem members_aligned_gallery :
    ∃ f, modelFile galleryPage ["2nd Gallery"] = .ok f ∧
      ∃ s m, buildModel galleryPage ["2nd Gallery"] = .ok s ∧ f.content = s.text ∧
        Aligned galleryPage s m := by
  obtain ⟨f, h⟩ := exists_modelFile_galleryPage
  exact ⟨f, h, members_aligned h⟩

/-! ## Repetitions -/

section Repetitions

variable {d : TypeDefinition}

theorem fieldName_injOn (h : fieldCollision? d = none) {m n : String}
    (hm : m ∈ d.properties.map (·.name)) (hn : n ∈ d.properties.map (·.name))
    (he : fieldName m = fieldName n) : m = n :=
  (Collision.find?_eq_none_iff _ _ _ _).mp h m hm n hn he

theorem count_map_fieldName (h : fieldCollision? d = none) {n : String}
    (hn : n ∈ d.properties.map (·.name)) {names : List String}
    (hnames : ∀ m ∈ names, m ∈ d.properties.map (·.name)) :
    (names.map fieldName).count (fieldName n) = names.count n := by
  rw [List.count, List.countP_map, List.count]
  refine List.countP_congr fun m hm => ?_
  simp only [Function.comp, beq_iff_eq]
  exact ⟨fieldName_injOn h (hnames m hm) hn, congrArg fieldName⟩

theorem nodup_map_fieldName (h : fieldCollision? d = none) {names : List String}
    (hnames : ∀ m ∈ names, m ∈ d.properties.map (·.name)) (hd : names.Nodup) :
    (names.map fieldName).Nodup :=
  hd.map_on fun m hm n hn => fieldName_injOn h (hnames m hm) (hnames n hn)

/-- The members of a model of `d` are declared as often as the names of their properties are
listed. -/
structure Counted (d : TypeDefinition) (s : Sections) (m : Members) : Prop where
  standIn : m.StandIn s
  entries : ∀ p ∈ d.properties, (m.entries.map (·.1)).count (fieldName p.name) =
    (d.properties.map (·.name)).count p.name
  fields : ∀ p ∈ visibleProperties d, (m.fields.map (·.1)).count (fieldName p.name) =
    (d.properties.map (·.name)).count p.name
  getters : ∀ p ∈ visibleProperties d, (m.getters.map (·.name)).count (fieldName p.name) =
    (d.properties.map (·.name)).count p.name
  /-- So no member is declared twice where no name is repeated. -/
  nodup : (d.properties.map (·.name)).Nodup → (m.fields.map (·.1)).Nodup ∧
    (m.getters.map (·.name)).Nodup ∧ (m.entries.map (·.1)).Nodup

theorem members_counted {known : List String} {f : SourceFile} (h : modelFile d known = .ok f) :
    ∃ s m, buildModel d known = .ok s ∧ f.content = s.text ∧ Counted d s m := by
  obtain ⟨hapart, hbuilt, hcontent⟩ := built_of_modelFile h
  have hvisible : ∀ n ∈ (visibleProperties d).map (·.name), n ∈ d.properties.map (·.name) := by
    rw [map_name_visibleProperties]
    exact fun n hn => (List.mem_filter.mp hn).1
  have hshown : ∀ p ∈ visibleProperties d,
      (((visibleProperties d).map (·.name)).map fieldName).count (fieldName p.name) =
        (d.properties.map (·.name)).count p.name := by
    intro p hp
    have hkept : (fun n => decide (fieldName n ∉ reservedFields)) p.name = true :=
      (List.mem_filter.mp hp).2
    rw [count_map_fieldName hapart (hvisible _ (List.mem_map_of_mem hp)) hvisible,
      map_name_visibleProperties]
    exact List.count_filter hkept
  refine ⟨_, _, hbuilt, hcontent, membersOf_standIn d known, fun p hp => ?_, ?_, ?_, fun hd => ?_⟩
  · rw [map_fst_entries]
    exact count_map_fieldName hapart (List.mem_map_of_mem hp) fun _ hm => hm
  · rwa [map_fst_fields]
  · rwa [map_name_getters]
  · have hdistinct := nodup_map_fieldName hapart hvisible <| by
      rw [map_name_visibleProperties]
      exact hd.filter _
    rw [map_fst_entries, map_fst_fields, map_name_getters]
    exact ⟨hdistinct, hdistinct, nodup_map_fieldName hapart (fun _ hm => hm) hd⟩

theorem members_counted_gallery :
    ∃ f, modelFile galleryPage ["2nd Gallery"] = .ok f ∧
      ∃ s m, buildModel galleryPage ["2nd Gallery"] = .ok s ∧ f.content = s.text ∧
        Counted galleryPage s m := by
  obtain ⟨f, h⟩ := exists_modelFile_galleryPage
  exact ⟨f, h, members_counted h⟩

/-- The server lists one property twice. -/
def repeatingPage : TypeDefinition where
  name := "Page"
  displayName := ""
  description := ""
  guid := ""
  properties := [⟨"Title", "", "", "String"⟩, ⟨"Title", "", "", "String"⟩]

/-- A repeated name is no collision, but its members are repeated. -/
theorem members_repeated :
    ∃ f s, modelFile repeatingPage [] = .ok f ∧ buildModel repeatingPage [] = .ok s ∧
      f.content = s.text ∧ ∀ m : Members, m.StandIn s →
        ¬ ((m.fields.map (·.1)).Nodup ∧ (m.getters.map (·.name)).Nodup ∧
          (m.entries.map (·.1)).Nodup) := by
  obtain ⟨f, hfile⟩ : ∃ f, modelFile repeatingPage [] = .ok f :=
    ⟨_, modelFile_eq_ok_iff.mpr ⟨by decide +kernel, rfl⟩⟩
  obtain ⟨-, hbuilt, hcontent⟩ := built_of_modelFile hfile
  refine ⟨f, _, hfile, hbuilt, hcontent, fun m hm hd => ?_⟩
  obtain ⟨lines, hlines, -, hread⟩ := hm.ofClass
  obtain rfl : instanceLines repeatingPage = lines := Except.ok.inj hlines
  have hkeys : ¬ (((instanceLines repeatingPage).filterMap readEntry).map (·.1)).Nodup := by
    decide +kernel
  rw [hread] at hkeys
  exact hkeys hd.2.2

end Repetitions

end TypedContent.TypeScript
