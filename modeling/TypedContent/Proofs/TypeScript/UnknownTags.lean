import Mathlib.Data.List.TakeWhile
import TypedContent.Proofs.TypeScript.Comments
import TypedContent.Proofs.TypeScript.Members

/-!
# Fields of unknown type

A tag that is unknown stands as it is in a line comment behind the type of its field, and such a
comment goes up to the next line terminator.  `unknown_tags_commented`: the field takes one line of
the model exactly where neither its name nor the tag has a terminator, and the comment holds all of
the tag exactly where the tag has none.  What the tag has from its first terminator on is outside.
-/

namespace TypedContent.TypeScript

open Identifier Schema

/-! ## Line terminators -/

/-- What ends a line of the language, and a line comment with it. -/
def isTerminator (c : Char) : Bool :=
  c == '\n' || c == '\r' || c == '\u2028' || c == '\u2029'

/-- There is no line terminator in the text. -/
def OneLine (s : List Char) : Prop := ∀ c ∈ s, isTerminator c = false

instance (s : List Char) : Decidable (OneLine s) := List.decidableBAll (isTerminator · = false) s

/-- The lines of a text, as the language counts them. -/
def sourceLines (s : List Char) : List (List Char) := s.splitOnP isTerminator

/-- Reads a line comment from behind its opening: what it holds, and what is left. -/
def readLineComment (s : List Char) : List Char × List Char :=
  (s.takeWhile (!isTerminator ·), s.dropWhile (!isTerminator ·))

theorem oneLine_append {s t : List Char} : OneLine (s ++ t) ↔ OneLine s ∧ OneLine t :=
  List.forall_mem_append

theorem sourceLines_append (s : List Char) {c : Char} (hc : isTerminator c = true)
    (t : List Char) : sourceLines (s ++ c :: t) = sourceLines s ++ sourceLines t :=
  List.splitOnP_append_cons s t hc

theorem sourceLines_eq_singleton_iff {s : List Char} : sourceLines s = [s] ↔ OneLine s := by
  refine ⟨fun h c hc => ?_, List.splitOnP_eq_singleton⟩
  by_contra hne
  have hterminator : isTerminator c = true := by simpa using hne
  obtain ⟨a, b, rfl⟩ := List.append_of_mem hc
  rw [sourceLines_append a hterminator] at h
  have hlength := congrArg List.length h
  have ha := List.length_pos_of_ne_nil (List.splitOnP_ne_nil isTerminator a)
  have hb := List.length_pos_of_ne_nil (List.splitOnP_ne_nil isTerminator b)
  simp only [sourceLines, List.length_append, List.length_singleton] at hlength
  omega

/-- Where a line ends behind a text, a comment holds the text up to its first terminator. -/
theorem readLineComment_append (s t : List Char) :
    readLineComment (s ++ '\n' :: t) =
      (s.takeWhile (!isTerminator ·), s.dropWhile (!isTerminator ·) ++ '\n' :: t) := by
  have hend : (!isTerminator '\n') = false := by decide
  induction s with
  | nil => simp [readLineComment, hend]
  | cons c s ih =>
    unfold readLineComment at ih ⊢
    obtain ⟨hheld, hleft⟩ := Prod.mk.inj ih
    cases hc : isTerminator c with
    | true => simp [hc]
    | false => simp [hc, hheld, hleft]

theorem takeWhile_eq_self_iff_oneLine {s : List Char} :
    s.takeWhile (!isTerminator ·) = s ↔ OneLine s := by
  rw [List.takeWhile_eq_self_iff]
  simp [OneLine]

/-! ## Fields in a model -/

/-- The field of a property of unknown type, up to the tag in its comment. -/
def unknownOpening (p : PropertyDefinition) : String :=
  fieldLine (fieldName p.name) "ContentDelivery.Property<any> // Original type: "

def unknownLine (p : PropertyDefinition) : String := unknownOpening p ++ p.tag

theorem toList_unknownLine (p : PropertyDefinition) :
    (unknownLine p).toList = (unknownOpening p).toList ++ p.tag.toList := String.toList_append

theorem oneLine_unknownLine_iff (p : PropertyDefinition) :
    OneLine (unknownLine p).toList ↔ OneLine (fieldName p.name).toList ∧ OneLine p.tag.toList := by
  have hindent : OneLine "    ".toList := by decide
  have hcolon : OneLine ": ".toList := by decide
  have htype : OneLine "ContentDelivery.Property<any> // Original type: ".toList := by decide
  simp only [toList_unknownLine, unknownOpening, fieldLine, String.toList_append, oneLine_append,
    hindent, hcolon, htype, true_and, and_true]

theorem of_eq_unknown {known : List String} {tag : String}
    (htag : propertyTags.lookup tag = none) (hknown : tag ∉ known) :
    TagMeaning.of known tag = .unknown tag := by
  unfold TagMeaning.of
  rw [htag]
  exact if_neg hknown

theorem fieldLine_of_unknown {known : List String} {p : PropertyDefinition}
    (htag : propertyTags.lookup p.tag = none) (hknown : p.tag ∉ known) :
    fieldLine (fieldName p.name) (TagMeaning.of known p.tag).expression = unknownLine p := by
  have hexpression : (TagMeaning.unknown p.tag).expression =
      "ContentDelivery.Property<any> // Original type: " ++ p.tag := rfl
  rw [of_eq_unknown htag hknown, hexpression]
  exact String.append_assoc.symm

/-- The lines of an interface around the field of a property. -/
theorem exists_interfaceLines_eq {d : TypeDefinition} {p : PropertyDefinition}
    (hp : p ∈ visibleProperties d) (known : List String) :
    ∃ above below, interfaceLines d known = above ++ (propertyComment p ++
      fieldLine (fieldName p.name) (TagMeaning.of known p.tag).expression :: "" :: below) := by
  obtain ⟨ps, qs, hsplit⟩ := List.append_of_mem hp
  refine ⟨interfaceHeader d :: ps.flatMap fun p => propertyComment p ++
      [fieldLine (fieldName p.name) (TagMeaning.of known p.tag).expression, ""],
    (qs.flatMap fun p => propertyComment p ++
      [fieldLine (fieldName p.name) (TagMeaning.of known p.tag).expression, ""]) ++ ["\x7d", ""], ?_⟩
  rw [interfaceLines_eq, hsplit, List.flatMap_append, List.flatMap_cons]
  simp only [List.append_assoc, List.cons_append, List.nil_append]

/-- The text of a model around lines of its interface. -/
theorem exists_text_eq {d : TypeDefinition} {known above lines below : List String}
    (h : interfaceLines d known = above ++ (lines ++ "" :: below)) :
    ∃ before after, (modelSections d known).text.toList =
      before ++ (behindLine lines ++ '\n' :: after) := by
  obtain ⟨first, imports, himports⟩ : ∃ l ls, importLines d known = l :: ls := ⟨_, _, rfl⟩
  have hlines : (modelSections d known).lines =
      first :: ((imports ++ (headerLines d ++ above)) ++ (lines ++ "" :: (below ++
        (propsLines d ++ instanceLines d)))) := by
    have hall : (modelSections d known).lines = importLines d known ++ (headerLines d ++
        (interfaceLines d known ++ (propsLines d ++ instanceLines d))) := by
      simp [modelSections, Sections.lines]
    rw [hall, himports, h]
    simp only [List.append_assoc, List.cons_append]
  refine ⟨first.toList ++ behindLine (imports ++ (headerLines d ++ above)),
    behindLine (below ++ (propsLines d ++ instanceLines d)) ++ ['\n'], ?_⟩
  rw [Sections.text, hlines, String.toList_append, toList_joinLines, behindLine_append,
    behindLine_append lines, behindLine_cons]
  simp only [String.toList_empty, List.append_assoc, List.cons_append, List.nil_append]
  rfl

/-- How the field of a property of unknown type stands in the text of a model, between what is in
front of the property's comment and what comes after the field. -/
structure UnknownField (content : List Char) (p : PropertyDefinition)
    (before after : List Char) : Prop where
  place : content = before ++ (behindLine (propertyComment p) ++
    '\n' :: ((unknownLine p).toList ++ '\n' :: after))
  /-- No line is shared with other text. -/
  lines : sourceLines content = sourceLines (before ++ behindLine (propertyComment p)) ++
    (sourceLines (unknownLine p).toList ++ sourceLines after)
  single : sourceLines (unknownLine p).toList = [(unknownLine p).toList] ↔
    OneLine (fieldName p.name).toList ∧ OneLine p.tag.toList
  /-- The comment holds the tag up to its first terminator, and the rest is outside of it. -/
  comment : readLineComment (p.tag.toList ++ '\n' :: after) =
    (p.tag.toList.takeWhile (!isTerminator ·),
      p.tag.toList.dropWhile (!isTerminator ·) ++ '\n' :: after)
  whole : readLineComment (p.tag.toList ++ '\n' :: after) = (p.tag.toList, '\n' :: after) ↔
    OneLine p.tag.toList

theorem unknownField_of_eq {content before after : List Char} {p : PropertyDefinition}
    (h : content = before ++ (behindLine (propertyComment p) ++
      '\n' :: ((unknownLine p).toList ++ '\n' :: after))) :
    UnknownField content p before after where
  place := h
  lines := by
    rw [h, ← List.append_assoc, sourceLines_append _ (by decide),
      sourceLines_append _ (by decide)]
  single := sourceLines_eq_singleton_iff.trans (oneLine_unknownLine_iff p)
  comment := readLineComment_append _ _
  whole := by
    rw [readLineComment_append, Prod.mk.injEq, takeWhile_eq_self_iff_oneLine]
    refine ⟨And.left, fun htag => ⟨htag, ?_⟩⟩
    have hnothing : p.tag.toList.dropWhile (!isTerminator ·) = [] := by
      rw [List.dropWhile_eq_nil_iff]
      exact fun c hc => by simp [htag c hc]
    rw [hnothing, List.nil_append]

theorem exists_unknownField {d : TypeDefinition} {known : List String} {p : PropertyDefinition}
    (hp : p ∈ visibleProperties d) (htag : propertyTags.lookup p.tag = none)
    (hknown : p.tag ∉ known) :
    ∃ above below before after, interfaceLines d known =
        above ++ (propertyComment p ++ unknownLine p :: "" :: below) ∧
      UnknownField (modelSections d known).text.toList p before after := by
  obtain ⟨above, below, hlines⟩ := exists_interfaceLines_eq hp known
  rw [fieldLine_of_unknown htag hknown] at hlines
  have hfield : interfaceLines d known =
      above ++ ((propertyComment p ++ [unknownLine p]) ++ "" :: below) := by
    rw [hlines, List.append_assoc]
    rfl
  obtain ⟨before, after, htext⟩ := exists_text_eq hfield
  refine ⟨above, below, before, after, hlines, unknownField_of_eq ?_⟩
  rw [htext, behindLine_append, List.append_assoc]
  simp [behindLine]

/-- A tag that is unknown stays in the comment of its field exactly where it has no line
terminator. -/
theorem unknown_tags_commented {d : TypeDefinition} {known : List String} {f : SourceFile}
    (h : modelFile d known = .ok f) {p : PropertyDefinition} (hp : p ∈ visibleProperties d)
    (htag : propertyTags.lookup p.tag = none) (hknown : p.tag ∉ known) :
    ∃ s above below before after, buildModel d known = .ok s ∧ f.content = s.text ∧
      s.get "interface" = .ok (above ++ (propertyComment p ++ unknownLine p :: "" :: below)) ∧
      UnknownField f.content.toList p before after := by
  obtain ⟨-, hbuilt, hcontent⟩ := built_of_modelFile h
  obtain ⟨above, below, before, after, hlines, hfield⟩ := exists_unknownField hp htag hknown
  exact ⟨_, above, below, before, after, hbuilt, hcontent, congrArg Except.ok hlines,
    hcontent ▸ hfield⟩

/-- A property whose tag tries what ends other comments, and one whose tag has a terminator. -/
def placePage : TypeDefinition where
  name := "Place"
  displayName := ""
  description := ""
  guid := ""
  properties := [⟨"Location", "", "", "Geo */ 'x' // y"⟩,
    ⟨"Address", "", "", "Street\nexport const street = 1"⟩]

theorem exists_modelFile_placePage : ∃ f, modelFile placePage ["Street"] = .ok f :=
  ⟨_, modelFile_eq_ok_iff.mpr ⟨by decide +kernel, rfl⟩⟩

theorem unknown_tags_commented_place :
    ∃ f p, modelFile placePage ["Street"] = .ok f ∧ p ∈ visibleProperties placePage ∧
      propertyTags.lookup p.tag = none ∧ p.tag ∉ ["Street"] ∧
      ∃ before after, UnknownField f.content.toList p before after ∧
        readLineComment (p.tag.toList ++ '\n' :: after) =
          ("Geo */ 'x' // y".toList, '\n' :: after) := by
  obtain ⟨f, h⟩ := exists_modelFile_placePage
  have hp : (⟨"Location", "", "", "Geo */ 'x' // y"⟩ : PropertyDefinition) ∈
      visibleProperties placePage :=
    List.mem_filter.mpr ⟨List.mem_cons_self, by decide +kernel⟩
  have htag : propertyTags.lookup "Geo */ 'x' // y" = none := by decide
  have hknown : "Geo */ 'x' // y" ∉ ["Street"] := by decide
  obtain ⟨-, -, -, before, after, -, -, -, hfield⟩ := unknown_tags_commented h hp htag hknown
  exact ⟨f, _, h, hp, htag, hknown, before, after, hfield, hfield.whole.mpr (by decide)⟩

/-- A terminator in a tag ends the comment, and what follows it in the tag is a line of the
model. -/
theorem unknown_tag_escapes :
    ∃ f p, modelFile placePage ["Street"] = .ok f ∧ p ∈ visibleProperties placePage ∧
      propertyTags.lookup p.tag = none ∧ p.tag ∉ ["Street"] ∧
      sourceLines (unknownLine p).toList =
        ["    address: ContentDelivery.Property<any> // Original type: Street".toList,
          "export const street = 1".toList] ∧
      "export const street = 1".toList ∈ sourceLines f.content.toList := by
  obtain ⟨f, h⟩ := exists_modelFile_placePage
  have hp : (⟨"Address", "", "", "Street\nexport const street = 1"⟩ : PropertyDefinition) ∈
      visibleProperties placePage :=
    List.mem_filter.mpr ⟨by simp [placePage], by decide +kernel⟩
  have htag : propertyTags.lookup "Street\nexport const street = 1" = none := by decide
  have hknown : "Street\nexport const street = 1" ∉ ["Street"] := by decide
  have hline : sourceLines (unknownLine
      ⟨"Address", "", "", "Street\nexport const street = 1"⟩).toList =
        ["    address: ContentDelivery.Property<any> // Original type: Street".toList,
          "export const street = 1".toList] := by
    decide +kernel
  obtain ⟨-, -, hcontent⟩ := built_of_modelFile h
  obtain ⟨-, -, before, after, -, hfield⟩ := exists_unknownField hp htag hknown
  refine ⟨f, _, h, hp, htag, hknown, hline, ?_⟩
  rw [hcontent, hfield.lines, hline]
  simp

end TypedContent.TypeScript
