import TypedContent.Proofs.TypeScript.Lookup

/-!
# What a model needs to know

A model is made with the names of all known content types at hand, but only the names that it refers
to matter (`RefersTo`), and of these only whether they are known.  If two collections agree on them,
every tag has one meaning (`agree_iff`), so that every section is the same.  If they do not, the
texts part at the field of the first property whose tag they disagree on (`meanings_of_fields`).
`modelFile_eq_iff` says both.
-/

namespace TypedContent.TypeScript

open Identifier Schema

variable {d : TypeDefinition} {known others : List String} {tag name : String} {r s : List Char}

/-! ## Names that a content type refers to -/

/-- The name is the tag of a property with a field, and the table of tags leaves it open. -/
def RefersTo (d : TypeDefinition) (name : String) : Prop :=
  propertyTags.lookup name = none ∧ ∃ p ∈ visibleProperties d, p.tag = name

instance (d : TypeDefinition) (name : String) : Decidable (RefersTo d name) :=
  inferInstanceAs (Decidable (_ ∧ _))

/-- Each name that the content type refers to is in both collections or in neither. -/
def Agree (d : TypeDefinition) (known others : List String) : Prop :=
  ∀ p ∈ visibleProperties d, propertyTags.lookup p.tag = none → (p.tag ∈ known ↔ p.tag ∈ others)

instance (d : TypeDefinition) (known others : List String) : Decidable (Agree d known others) :=
  List.decidableBAll (fun p : PropertyDefinition => propertyTags.lookup p.tag = none →
    (p.tag ∈ known ↔ p.tag ∈ others)) (visibleProperties d)

theorem of_eq_of_iff : TagMeaning.of known tag = TagMeaning.of others tag ↔
    (propertyTags.lookup tag = none → (tag ∈ known ↔ tag ∈ others)) := by
  unfold TagMeaning.of
  cases propertyTags.lookup tag with
  | some type => simp
  | none => by_cases hk : tag ∈ known <;> by_cases ho : tag ∈ others <;> simp [hk, ho]

theorem agree_iff : Agree d known others ↔
    ∀ p ∈ visibleProperties d, TagMeaning.of known p.tag = TagMeaning.of others p.tag := by
  simp only [of_eq_of_iff, Agree]

theorem Agree.of_refersTo
    (h : ∀ name, RefersTo d name → (name ∈ known ↔ name ∈ others)) : Agree d known others :=
  fun p hp hopen => h p.tag ⟨hopen, p, hp, rfl⟩

/-! ## Collections that agree -/

theorem references_congr (h : Agree d known others) : references d known = references d others := by
  refine congrArg distinct (List.filter_congr fun tag htag => ?_)
  obtain ⟨p, hp, rfl⟩ := List.mem_map.mp htag
  rw [isReference, isReference, agree_iff.mp h p hp]

theorem interfaceLines_congr (h : Agree d known others) :
    interfaceLines d known = interfaceLines d others := by
  rw [interfaceLines_eq, interfaceLines_eq]
  refine congrArg (fun fields => interfaceHeader d :: (fields ++ ["\x7d", ""])) ?_
  exact List.flatMap_congr fun p hp => by rw [agree_iff.mp h p hp]

theorem modelSections_congr (h : Agree d known others) :
    modelSections d known = modelSections d others := by
  rw [modelSections, modelSections, importLines, importLines, references_congr h,
    interfaceLines_congr h]

/-! ## Texts that are the same -/

theorem endedLines_cons (l : String) (ls : List String) :
    endedLines (l :: ls) = l.toList ++ '\n' :: endedLines ls := by
  rw [endedLines, List.flatMap_cons, List.append_assoc]
  rfl

/-- The text of a model: imports, what leads to the fields, the fields, and the rest. -/
theorem toList_text (d : TypeDefinition) (known : List String) :
    (modelSections d known).text.toList =
      endedLines (coreImport :: (references d known).map importLine) ++
        (endedLines (headerLines d ++ [interfaceHeader d]) ++
          (endedLines ((visibleProperties d).flatMap (fieldLines known)) ++
            endedLines ("\x7d" :: "" :: (propsLines d ++ instanceLines d)))) := by
  have hlines : (modelSections d known).lines =
      coreImport :: (references d known).map importLine ++ (headerLines d ++ [interfaceHeader d] ++
        ((visibleProperties d).flatMap (fieldLines known) ++
          "\x7d" :: "" :: (propsLines d ++ instanceLines d))) := by
    have himports : importLines d known = coreImport :: (references d known).map importLine := rfl
    have hinterface : interfaceLines d known =
        interfaceHeader d :: (visibleProperties d).flatMap (fieldLines known) ++ ["\x7d", ""] := rfl
    simp only [modelSections, Sections.lines, List.flatMap_cons, List.flatMap_nil, himports,
      hinterface, List.append_assoc, List.cons_append, List.nil_append, List.append_nil]
  rw [Sections.text, hlines, ← endedLines_append, ← endedLines_append, ← endedLines_append]
  exact toList_joinLines_append_newline _ _

theorem exists_importLine_eq (name : String) :
    ∃ t, (importLine name).toList = 'i' :: t ∧ ∀ c ∈ 'i' :: t, c ≠ '\n' := by
  have hname : ∀ c ∈ (dataName name).toList, c ≠ '\n' :=
    fun c hc => ne_of_isWordChar (isWordChar_dataName name c hc) (by decide)
  refine ⟨"mport ".toList ++ (dataName name).toList ++ " from './".toList ++
    (dataName name).toList ++ ['\''], by simp [importLine], ?_⟩
  simp only [List.forall_mem_cons, List.forall_mem_append]
  exact ⟨by simp, ⟨⟨⟨by simp, hname⟩, by simp⟩, hname⟩, by simp⟩

/-- What stands behind the first end of a line is the same if all is. -/
theorem eq_of_append_newline {l m : List Char} (hl : ∀ c ∈ l, c ≠ '\n') (hm : ∀ c ∈ m, c ≠ '\n')
    (h : l ++ '\n' :: r = m ++ '\n' :: s) : r = s := by
  have hdrop := congrArg (List.dropWhile (· ≠ '\n')) h
  rw [List.dropWhile_append_of_pos (by simpa using hl),
    List.dropWhile_append_of_pos (by simpa using hm)] at hdrop
  simpa using hdrop

/-- Behind imports, what begins as a comment does is the same if the whole is. -/
theorem eq_of_imports (xs ys : List String)
    (h : endedLines (xs.map importLine) ++ '/' :: r = endedLines (ys.map importLine) ++ '/' :: s) :
    r = s := by
  induction xs generalizing ys with
  | nil =>
    cases ys with
    | nil => exact (List.cons.inj h).2
    | cons y ys =>
      obtain ⟨t, ht, -⟩ := exists_importLine_eq y
      simp [ht, endedLines] at h
  | cons x xs ih =>
    obtain ⟨t, ht, hline⟩ := exists_importLine_eq x
    cases ys with
    | nil => simp [ht, endedLines] at h
    | cons y ys =>
      obtain ⟨u, hu, hline'⟩ := exists_importLine_eq y
      rw [List.map_cons, List.map_cons, endedLines_cons, endedLines_cons, ht, hu,
        List.append_assoc, List.append_assoc] at h
      exact ih ys (eq_of_append_newline hline hline' h)

/-- A name ends where its line does, but the type of an untyped property goes on with a dot. -/
theorem dataName_append_ne (name : String) (r s : List Char) :
    (dataName name).toList ++ '\n' :: r ≠
      ("ContentDelivery.Property<any> // Original type: " ++ tag).toList ++ s := by
  intro h
  have hnewline : ¬ isWordChar '\n' = true := by decide
  have hword : "ContentDelivery.Property<any> // Original type: ".toList.dropWhile isWordChar =
      ".Property<any> // Original type: ".toList := by decide
  have hdrop := congrArg (List.dropWhile isWordChar) h
  rw [List.dropWhile_append_of_pos (isWordChar_dataName name), List.dropWhile_cons_of_neg hnewline,
    String.toList_append, List.append_assoc, List.dropWhile_append, hword] at hdrop
  simp at hdrop

theorem meaning_of_expression
    (h : (TagMeaning.of known tag).expression.toList ++ '\n' :: r =
      (TagMeaning.of others tag).expression.toList ++ '\n' :: s) :
    TagMeaning.of known tag = TagMeaning.of others tag ∧ r = s := by
  have hsame : TagMeaning.of known tag = TagMeaning.of others tag := by
    rw [of_eq_of_iff]
    intro hopen
    unfold TagMeaning.of at h
    rw [hopen] at h
    by_cases hk : tag ∈ known <;> by_cases ho : tag ∈ others
    · simp [hk, ho]
    · rw [if_pos hk, if_neg ho] at h
      exact absurd h (dataName_append_ne tag _ _)
    · rw [if_neg hk, if_pos ho] at h
      exact absurd h.symm (dataName_append_ne tag _ _)
    · simp [hk, ho]
  rw [hsame] at h
  exact ⟨hsame, (List.cons.inj (List.append_cancel_left h)).2⟩

/-- Fields of the same properties with the same text have the same meanings, one by one. -/
theorem meanings_of_fields (ps : List PropertyDefinition)
    (h : endedLines (ps.flatMap (fieldLines known)) ++ r =
      endedLines (ps.flatMap (fieldLines others)) ++ s) :
    ∀ p ∈ ps, TagMeaning.of known p.tag = TagMeaning.of others p.tag := by
  induction ps with
  | nil => simp
  | cons p ps ih =>
    have hfield : ∀ (ks : List String) (t : List Char),
        endedLines ((p :: ps).flatMap (fieldLines ks)) ++ t =
          endedLines (propertyComment p) ++ (("    " ++ fieldName p.name ++ ": ").toList ++
            ((TagMeaning.of ks p.tag).expression.toList ++
              '\n' :: '\n' :: (endedLines (ps.flatMap (fieldLines ks)) ++ t))) := by
      intro ks t
      simp [fieldLines, endedLines]
    rw [hfield, hfield] at h
    obtain ⟨hmeaning, hrest⟩ :=
      meaning_of_expression (List.append_cancel_left (List.append_cancel_left h))
    exact List.forall_mem_cons.mpr ⟨hmeaning, ih (List.cons.inj hrest).2⟩

theorem agree_of_text (h : (modelSections d known).text = (modelSections d others).text) :
    Agree d known others := by
  obtain ⟨t, ht⟩ : ∃ t, endedLines (headerLines d ++ [interfaceHeader d]) = '/' :: t := ⟨_, rfl⟩
  have htext := congrArg String.toList h
  -- The imports need not be of one length; what is behind them begins with a comment in both texts.
  rw [toList_text, toList_text, ht, endedLines_cons coreImport, endedLines_cons coreImport,
    List.append_assoc, List.append_assoc] at htext
  have himports := (List.cons.inj (List.append_cancel_left htext)).2
  have hfields := List.append_cancel_left (eq_of_imports _ _ himports)
  exact agree_iff.mpr (meanings_of_fields _ hfields)

/-! ## Models -/

theorem modelFile_congr (h : Agree d known others) : modelFile d known = modelFile d others := by
  rw [modelFile, modelFile, buildModel, buildModel, modelSections_congr h]

/-- Models of one content type for two collections of known types are the same, or refused for the
same collision, exactly if the collections agree.  So neither order nor repetitions among the known
types matter, nor are types needed that the content type does not refer to. -/
theorem modelFile_eq_iff (d : TypeDefinition) (known : List String) :
    (∀ others, modelFile d known = modelFile d others ↔
      fieldCollision? d ≠ none ∨ Agree d known others) ∧
    (∀ others, (∀ name, name ∈ known ↔ name ∈ others) →
      modelFile d known = modelFile d others) ∧
    (∀ others, (∀ name ∈ others, ¬ RefersTo d name) →
      modelFile d known = modelFile d (known ++ others)) ∧
    ∀ keep : String → Bool, (∀ name, RefersTo d name → keep name = true) →
      modelFile d known = modelFile d (known.filter keep) := by
  refine ⟨fun others => ⟨fun h => ?_, ?_⟩, fun others h => ?_, fun others h => ?_, fun keep h => ?_⟩
  · cases hcollision : fieldCollision? d with
    | some c => simp
    | none =>
      obtain ⟨f, hf⟩ : ∃ f, modelFile d known = .ok f :=
        ⟨_, modelFile_eq_ok_iff.mpr ⟨hcollision, rfl⟩⟩
      have hknown := (modelFile_eq_ok_iff.mp hf).2
      have hothers := (modelFile_eq_ok_iff.mp (h ▸ hf)).2
      exact .inr (agree_of_text (congrArg SourceFile.content (hknown.symm.trans hothers)))
  · rintro (h | h)
    · obtain ⟨c, hcollision⟩ := Option.ne_none_iff_exists'.mp h
      simp only [modelFile, buildModel, hcollision]
    · exact modelFile_congr h
  · exact modelFile_congr (.of_refersTo fun name _ => h name)
  · refine modelFile_congr (.of_refersTo fun name hname => ?_)
    rw [List.mem_append, or_iff_left fun hmem => h name hmem hname]
  · refine modelFile_congr (.of_refersTo fun name hname => ?_)
    rw [List.mem_filter, and_iff_left (h name hname)]

/-- Another order, a type more, a type less whose name the table has, and a type less that the page
refers to. -/
theorem modelFile_eq_iff_shop :
    modelFile shopPage shopTypes = modelFile shopPage shopTypes.reverse ∧
      modelFile shopPage shopTypes = modelFile shopPage (shopTypes ++ ["Start"]) ∧
      modelFile shopPage shopTypes = modelFile shopPage (shopTypes.filter (· ≠ "String")) ∧
      modelFile shopPage shopTypes ≠ modelFile shopPage (shopTypes.filter (· ≠ "Start Page")) := by
  obtain ⟨hiff, hsame, hmore, hless⟩ := modelFile_eq_iff shopPage shopTypes
  refine ⟨hsame _ (by simp), hmore _ (by decide +kernel), hless _ ?_, fun h => ?_⟩
  · rintro name ⟨hopen, -⟩
    rw [decide_eq_true_iff]
    rintro rfl
    exact absurd hopen (by decide)
  · exact absurd ((hiff _).mp h) (by decide +kernel)

end TypedContent.TypeScript
