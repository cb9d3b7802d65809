import TypedContent.Proofs.Schema.Checks

/-!
# Content types from data

`Accepted` is the data of a content type, and `definitionOf` is the content type that it is the data
of; `Offence` has what is wrong with all other data, and where.  Every part of the check decides its
part of this (`decides_checkTexts`, `decides_checkProperty`, `decides_propertiesOfFields`), and so
the whole check does (`decides_checkDefinition`): it accepts what it should, it lists each offence
once and in order, and it reads back what is written of a content type (`ofJson_exact`).
-/

namespace TypedContent.Schema

variable {α : Type} {fields : List (String × Json)} {last : String} {v : Json} {x : Violation}

/-! ## What data has to be -/

/-- Absent, null or a text. -/
def IsOptionalText : Option Json → Prop
  | none | some .null | some (.str _) => True
  | _ => False

/-- Absent and null texts are empty. -/
def textOf : Option Json → String
  | some (.str s) => s
  | _ => ""

/-- The name for display under the server's name for it, and else under the program's own. -/
def displayField (v : Json) : Option Json :=
  (v.field? "displayName").or (v.field? "display_name")

/-- The texts of a shape, of which only the last is not the same field in all shapes. -/
structure HasTexts (last : String) (v : Json) : Prop where
  object : ∃ fields, v = .obj fields
  name : ∃ s, v.field? "name" = some (.str s)
  display : IsOptionalText (displayField v)
  description : IsOptionalText (v.field? "description")
  last : IsOptionalText (v.field? last)

def HasProperties (v : Json) : Prop :=
  v.field? "properties" = none ∨ v.field? "properties" = some .null ∨
    ∃ vs, v.field? "properties" = some (.arr vs) ∧ ∀ w ∈ vs, HasTexts "type" w

def Accepted (v : Json) : Prop := HasTexts "guid" v ∧ HasProperties v

def propertyOf (v : Json) : PropertyDefinition where
  name := textOf (v.field? "name")
  displayName := textOf (displayField v)
  description := textOf (v.field? "description")
  tag := textOf (v.field? "type")

/-- The items of a list; an absent or null one has none. -/
def itemsOf : Option Json → List Json
  | some (.arr vs) => vs
  | _ => []

def definitionOf (v : Json) : TypeDefinition where
  name := textOf (v.field? "name")
  displayName := textOf (displayField v)
  description := textOf (v.field? "description")
  guid := textOf (v.field? "guid")
  properties := (itemsOf (v.field? "properties")).map propertyOf

/-! ## What may be wrong with it -/

inductive TextOffence (last : String) (v : Json) : Violation → Prop where
  | noObject : (∀ fields, v ≠ .obj fields) → TextOffence last v ⟨[], .object⟩
  | noName {fields : List (String × Json)} : v = .obj fields → fields.lookup "name" = none →
      TextOffence last v ⟨[.field "name"], .missing⟩
  | name {w : Json} : v.field? "name" = some w → (∀ s, w ≠ .str s) →
      TextOffence last v ⟨[.field "name"], .text⟩
  | wireDisplay : ¬ IsOptionalText (v.field? "displayName") →
      TextOffence last v ⟨[.field "displayName"], .text⟩
  | plainDisplay : v.field? "displayName" = none → ¬ IsOptionalText (v.field? "display_name") →
      TextOffence last v ⟨[.field "display_name"], .text⟩
  | description : ¬ IsOptionalText (v.field? "description") →
      TextOffence last v ⟨[.field "description"], .text⟩
  | last : ¬ IsOptionalText (v.field? last) → TextOffence last v ⟨[.field last], .text⟩

inductive ListOffence (v : Json) : Violation → Prop where
  | noList {w : Json} : v.field? "properties" = some w → w ≠ .null → (∀ vs, w ≠ .arr vs) →
      ListOffence v ⟨[.field "properties"], .list⟩
  | item {vs : List Json} {i : Nat} {w : Json} {x : Violation} :
      v.field? "properties" = some (.arr vs) → vs[i]? = some w → TextOffence "type" w x →
      ListOffence v ⟨.field "properties" :: .item i :: x.place, x.lack⟩

def Offence (v : Json) (x : Violation) : Prop := TextOffence "guid" v x ∨ ListOffence v x

/-! ## Texts -/

theorem decides_requiredText (name : String) (fields : List (String × Json)) :
    Decides (requiredText name fields) (fun s => fields.lookup name = some (.str s)) fun x =>
      (fields.lookup name = none ∧ x = ⟨[.field name], .missing⟩) ∨
        ∃ w, fields.lookup name = some w ∧ (∀ s, w ≠ .str s) ∧ x = ⟨[.field name], .text⟩ := by
  unfold requiredText
  cases fields.lookup name with
  | none => exact .error (by simp) (by simp)
  | some w =>
    cases w with
    | str s => exact .ok (by simp) (by simp)
    | _ => exact .error (by simp) (by simp)

theorem decides_looseText (names : List String) (fields : List (String × Json)) :
    Decides (looseText names fields)
      (fun s => IsOptionalText ((firstOf names fields).map (·.2)) ∧
        textOf ((firstOf names fields).map (·.2)) = s)
      fun x => ∃ n w, firstOf names fields = some (n, w) ∧ ¬ IsOptionalText (some w) ∧
        x = ⟨[.field n], .text⟩ := by
  unfold looseText
  cases firstOf names fields with
  | none => exact .ok (by simp [IsOptionalText, textOf]) (by simp)
  | some f =>
    obtain ⟨n, w⟩ := f
    cases w with
    | null => exact .ok (by simp [IsOptionalText, textOf]) (by simp [IsOptionalText])
    | str s => exact .ok (by simp [IsOptionalText, textOf]) (by simp [IsOptionalText])
    | _ => exact .error (by simp [IsOptionalText]) (by simp [IsOptionalText])

theorem decides_optionalText (name : String) (fields : List (String × Json)) :
    Decides (looseText [name] fields)
      (fun s => IsOptionalText (fields.lookup name) ∧ textOf (fields.lookup name) = s)
      fun x => ¬ IsOptionalText (fields.lookup name) ∧ x = ⟨[.field name], .text⟩ := by
  have hfirst : firstOf [name] fields = (fields.lookup name).map fun w => (name, w) := by
    cases h : fields.lookup name <;> simp [firstOf, h]
  refine (decides_looseText _ _).congr (fun s => ?_) fun x => ?_
  · cases h : fields.lookup name <;> simp [hfirst, h]
  · cases h : fields.lookup name <;> simp [hfirst, h, IsOptionalText]

theorem decides_displayText (fields : List (String × Json)) :
    Decides (looseText displayNames fields)
      (fun s => IsOptionalText (displayField (.obj fields)) ∧
        textOf (displayField (.obj fields)) = s)
      fun x => (¬ IsOptionalText (fields.lookup "displayName") ∧
          x = ⟨[.field "displayName"], .text⟩) ∨
        fields.lookup "displayName" = none ∧ ¬ IsOptionalText (fields.lookup "display_name") ∧
          x = ⟨[.field "display_name"], .text⟩ := by
  have hfirst : firstOf displayNames fields =
      ((fields.lookup "displayName").map fun w => ("displayName", w)).or
        ((fields.lookup "display_name").map fun w => ("display_name", w)) := by
    cases h : fields.lookup "displayName" <;> cases h' : fields.lookup "display_name" <;>
      simp [firstOf, displayNames, h, h']
  refine (decides_looseText _ _).congr (fun s => ?_) fun x => ?_ <;>
    cases h : fields.lookup "displayName" <;> cases h' : fields.lookup "display_name" <;>
    simp [hfirst, h, h', displayField, Json.field?, IsOptionalText]

/-- What is wrong with the texts of an object, field by field. -/
theorem textOffence_obj_iff : TextOffence last (.obj fields) x ↔
    ((fields.lookup "name" = none ∧ x = ⟨[.field "name"], .missing⟩) ∨
      ∃ w, fields.lookup "name" = some w ∧ (∀ s, w ≠ .str s) ∧ x = ⟨[.field "name"], .text⟩) ∨
    ((¬ IsOptionalText (fields.lookup "displayName") ∧ x = ⟨[.field "displayName"], .text⟩) ∨
      fields.lookup "displayName" = none ∧ ¬ IsOptionalText (fields.lookup "display_name") ∧
        x = ⟨[.field "display_name"], .text⟩) ∨
    (¬ IsOptionalText (fields.lookup "description") ∧ x = ⟨[.field "description"], .text⟩) ∨
    ¬ IsOptionalText (fields.lookup last) ∧ x = ⟨[.field last], .text⟩ := by
  constructor
  · intro h
    cases h with
    | noObject h => exact absurd rfl (h fields)
    | noName h hn => exact .inl (.inl ⟨Json.obj.inj h ▸ hn, rfl⟩)
    | name hw hs => exact .inl (.inr ⟨_, hw, hs, rfl⟩)
    | wireDisplay hd => exact .inr (.inl (.inl ⟨hd, rfl⟩))
    | plainDisplay hd hd' => exact .inr (.inl (.inr ⟨hd, hd', rfl⟩))
    | description he => exact .inr (.inr (.inl ⟨he, rfl⟩))
    | last hl => exact .inr (.inr (.inr ⟨hl, rfl⟩))
  · rintro ((⟨hn, rfl⟩ | ⟨w, hw, hs, rfl⟩) | (⟨hd, rfl⟩ | ⟨hd, hd', rfl⟩) | ⟨he, rfl⟩ | ⟨hl, rfl⟩)
    · exact .noName rfl hn
    · exact .name hw hs
    · exact .wireDisplay hd
    · exact .plainDisplay hd hd'
    · exact .description he
    · exact .last hl

/-- The check of the texts that all shapes have. -/
def checkTexts (last : String) (fields : List (String × Json)) :
    Checked (String × String × String × String) :=
  both (requiredText "name" fields) (both (looseText displayNames fields)
    (both (looseText ["description"] fields) (looseText [last] fields)))

theorem decides_checkTexts (hlast : last ∈ ["guid", "type"]) (fields : List (String × Json)) :
    Decides (checkTexts last fields)
      (fun a => HasTexts last (.obj fields) ∧
        (textOf (fields.lookup "name"), textOf (displayField (.obj fields)),
          textOf (fields.lookup "description"), textOf (fields.lookup last)) = a)
      (TextOffence last (.obj fields)) := by
  -- The three joins follow the declared order, whichever field is the last.
  have hrank : Earlier [.field "description"] [.field last] ∧
      Earlier [.field "displayName"] [.field last] ∧
      Earlier [.field "display_name"] [.field last] ∧ Earlier [.field "name"] [.field last] := by
    simp only [List.mem_cons, List.not_mem_nil, or_false] at hlast
    obtain rfl | rfl := hlast <;> decide
  refine ((decides_requiredText _ _).both ((decides_displayText _).both
    ((decides_optionalText _ _).both (decides_optionalText _ _) ?_) ?_) ?_).congr
      (fun a => ?_) fun x => ?_
  · rintro _ _ ⟨-, rfl⟩ ⟨-, rfl⟩
    exact hrank.1
  · rintro _ _ (⟨-, rfl⟩ | ⟨-, -, rfl⟩) (⟨-, rfl⟩ | ⟨-, rfl⟩)
    · decide
    · exact hrank.2.1
    · decide
    · exact hrank.2.2.1
  · rintro _ _ (⟨-, rfl⟩ | ⟨-, -, -, rfl⟩)
      ((⟨-, rfl⟩ | ⟨-, -, rfl⟩) | ⟨-, rfl⟩ | ⟨-, rfl⟩) <;>
      first | decide | exact hrank.2.2.2
  · constructor
    · rintro ⟨hname, ⟨hd, hd'⟩, ⟨he, he'⟩, hl, hl'⟩
      exact ⟨⟨⟨fields, rfl⟩, ⟨_, hname⟩, hd, he, hl⟩, by rw [hname, hd', he', hl']; rfl⟩
    · rintro ⟨⟨-, ⟨s, hs⟩, hd, he, hl⟩, rfl⟩
      have hname : fields.lookup "name" = some (.str s) := hs
      exact ⟨by rw [hname]; rfl, ⟨hd, rfl⟩, ⟨he, rfl⟩, hl, rfl⟩
  · exact textOffence_obj_iff.symm

/-! ## Objects -/

/-- Whatever is asked of an object, data of another kind is no object. -/
theorem decides_object {check : List (String × Json) → Checked α} (good : Json → α → Prop)
    {bad : Json → Violation → Prop}
    (h : ∀ fields, Decides (check fields) (good (.obj fields)) (bad (.obj fields)))
    (hother : ∀ v, (∀ fields, v ≠ .obj fields) →
      (∀ a, ¬ good v a) ∧ ∀ x, bad v x ↔ x = ⟨[], .object⟩) (v : Json) :
    Decides (object v >>= check) (good v) (bad v) := by
  cases v with
  | obj fields => exact h fields
  | _ => exact .error (hother _ (by simp)).1 (hother _ (by simp)).2

theorem field?_of_forall_ne (hv : ∀ fields, v ≠ .obj fields) (name : String) :
    v.field? name = none := by
  cases v with
  | obj fields => exact absurd rfl (hv fields)
  | _ => rfl

theorem textOffence_of_forall_ne (hv : ∀ fields, v ≠ .obj fields) :
    TextOffence last v x ↔ x = ⟨[], .object⟩ := by
  have hnone := field?_of_forall_ne hv
  constructor
  · intro h
    cases h with
    | noObject => rfl
    | noName h => exact absurd h (hv _)
    | name hw => simp [hnone] at hw
    | wireDisplay h | description h | last h => simp [hnone, IsOptionalText] at h
    | plainDisplay _ h => simp [hnone, IsOptionalText] at h
  · rintro rfl
    exact .noObject hv

theorem decides_checkProperty (v : Json) :
    Decides (checkProperty v) (fun p => HasTexts "type" v ∧ propertyOf v = p)
      (TextOffence "type" v) := by
  refine decides_object (fun v p => HasTexts "type" v ∧ propertyOf v = p)
    (fun fields => ?_) (fun v hv => ⟨?_, fun x => textOffence_of_forall_ne hv⟩) v
  · have hcheck : propertyOfFields fields =
        (checkTexts "type" fields).map fun a => ⟨a.1, a.2.1, a.2.2.1, a.2.2.2⟩ := by
      rw [propertyOfFields, ← checkTexts]
      cases checkTexts "type" fields <;> rfl
    rw [hcheck]
    refine ((decides_checkTexts (by simp) fields).map _).congr (fun p => ?_) fun x => Iff.rfl
    simp [propertyOf, Json.field?]
  · rintro p ⟨⟨⟨fields, rfl⟩, -⟩, -⟩
    exact hv fields rfl

/-! ## Properties -/

theorem forall₂_propertyOf_iff {vs : List Json} {ps : List PropertyDefinition} :
    List.Forall₂ (fun v p => HasTexts "type" v ∧ propertyOf v = p) vs ps ↔
      (∀ v ∈ vs, HasTexts "type" v) ∧ vs.map propertyOf = ps := by
  rw [List.forall₂_and_left, ← List.forall₂_map_left_iff (R := (· = ·)), List.forall₂_eq_eq_eq]

theorem decides_propertiesOfFields (fields : List (String × Json)) :
    Decides (propertiesOfFields fields)
      (fun ps => HasProperties (.obj fields) ∧
        (itemsOf (fields.lookup "properties")).map propertyOf = ps)
      (ListOffence (.obj fields)) := by
  have hfield : (Json.obj fields).field? "properties" = fields.lookup "properties" := rfl
  unfold propertiesOfFields
  cases hw : fields.lookup "properties" with
  | none =>
    refine .ok (fun ps => ?_) ?_
    · simp [HasProperties, hfield, hw, itemsOf]
    · rintro _ (⟨h, -, -⟩ | ⟨h, -, -⟩) <;> simp [hfield, hw] at h
  | some w =>
    cases w with
    | null =>
      refine .ok (fun ps => ?_) ?_
      · simp [HasProperties, hfield, hw, itemsOf]
      · rintro _ (⟨h, hnull, -⟩ | ⟨h, -, -⟩)
        · exact hnull (by simpa [hfield, hw] using h.symm)
        · simp [hfield, hw] at h
    | arr vs =>
      refine ((Decides.items decides_checkProperty 0 vs).below (.field "properties")).congr
        (fun ps => ?_) fun x => ?_
      · rw [forall₂_propertyOf_iff]
        simp [HasProperties, hfield, hw, itemsOf]
      · constructor
        · rintro ⟨_, ⟨i, w, y, hi, hy, rfl⟩, rfl⟩
          rw [Nat.zero_add]
          exact .item hw hi hy
        · rintro (⟨h, -, harr⟩ | ⟨h, hi, hy⟩)
          · exact absurd (by simpa [hfield, hw] using h.symm) (harr vs)
          · obtain rfl : vs = _ := by simpa [hfield, hw] using h
            exact ⟨_, ⟨_, _, _, hi, hy, rfl⟩, by rw [Nat.zero_add]; rfl⟩
    | _ =>
      refine .error (fun ps => ?_) fun x => ?_
      · simp [HasProperties, hfield, hw]
      · constructor
        · rintro (⟨-, -, -⟩ | ⟨h, -, -⟩)
          · rfl
          · simp [hfield, hw] at h
        · rintro rfl
          exact .noList hw (by simp) (by simp)

/-! ## Content types -/

theorem checkDefinition_eq (v : Json) :
    checkDefinition v = object v >>= fun fields =>
      (both (checkTexts "guid" fields) (propertiesOfFields fields)).map
        fun p => ⟨⟨p.1.1, p.1.2.1, p.1.2.2.1, p.1.2.2.2⟩, p.2⟩ := by
  refine congrArg (object v >>= ·) (funext fun fields => ?_)
  rw [summaryOfFields, ← checkTexts]
  cases checkTexts "guid" fields <;> cases propertiesOfFields fields <;> rfl

/-- What is wrong with the texts is at a field of their own, before the properties. -/
theorem earlier_properties (h : TextOffence "guid" (.obj fields) x) (p : List Step) :
    Earlier x.place (.field "properties" :: p) := by
  cases h with
  | noObject h => exact absurd rfl (h fields)
  | _ => exact earlier_cons_iff.mpr (.inl (by decide))

theorem decides_checkDefinition (v : Json) :
    Decides (checkDefinition v) (fun t => Accepted v ∧ definitionOf v = t) (Offence v) := by
  rw [checkDefinition_eq]
  refine decides_object (fun v t => Accepted v ∧ definitionOf v = t) (fun fields => ?_)
    (fun v hv => ⟨?_, fun x => ?_⟩) v
  · refine (((decides_checkTexts (by simp) fields).both (decides_propertiesOfFields fields)
      ?_).map _).congr (fun t => ?_) fun x => Iff.rfl
    · rintro x _ hx (_ | _) <;> exact earlier_properties hx _
    · constructor
      · rintro ⟨⟨a, ps⟩, ⟨⟨htexts, rfl⟩, hps, rfl⟩, rfl⟩
        exact ⟨⟨htexts, hps⟩, rfl⟩
      · rintro ⟨⟨htexts, hps⟩, rfl⟩
        exact ⟨((_, _, _, _), _), ⟨⟨htexts, rfl⟩, hps, rfl⟩, rfl⟩
  · rintro t ⟨⟨⟨⟨fields, rfl⟩, -, -, -, -⟩, -⟩, -⟩
    exact hv fields rfl
  · have hlist : ¬ ListOffence v x := by
      rintro (⟨h, -, -⟩ | ⟨h, -, -⟩) <;> simp [field?_of_forall_ne hv] at h
    rw [Offence, or_iff_left hlist, textOffence_of_forall_ne hv]

/-! ## Written and read again -/

/-- Names by which a value is written: those of the server, or the program's own. -/
inductive Naming where
  | wire
  | plain

def Naming.display : Naming → String
  | .wire => "displayName"
  | .plain => "display_name"

/-- The fields for the texts that all shapes have. -/
def dumpTexts (n : Naming) (last name display description text : String) : List (String × Json) :=
  [("name", .str name), (n.display, .str display), ("description", .str description),
    (last, .str text)]

def PropertyDefinition.dump (n : Naming) (p : PropertyDefinition) : Json :=
  .obj (dumpTexts n "type" p.name p.displayName p.description p.tag)

def TypeDefinition.dump (n : Naming) (t : TypeDefinition) : Json :=
  .obj (dumpTexts n "guid" t.name t.displayName t.description t.guid ++
    [("properties", .arr (t.properties.map (·.dump n)))])

theorem hasTexts_dump (n : Naming) (p : PropertyDefinition) : HasTexts "type" (p.dump n) := by
  refine ⟨⟨_, rfl⟩, ⟨_, rfl⟩, ?_, ?_, ?_⟩ <;> cases n <;> exact trivial

theorem propertyOf_dump (n : Naming) (p : PropertyDefinition) : propertyOf (p.dump n) = p := by
  cases n <;> rfl

theorem accepted_dump (n : Naming) (t : TypeDefinition) : Accepted (t.dump n) := by
  constructor
  · refine ⟨⟨_, rfl⟩, ⟨_, rfl⟩, ?_, ?_, ?_⟩ <;> cases n <;> exact trivial
  · refine .inr (.inr ⟨t.properties.map (·.dump n), by cases n <;> rfl, ?_⟩)
    simp only [List.mem_map]
    rintro _ ⟨p, -, rfl⟩
    exact hasTexts_dump n p

theorem definitionOf_dump (n : Naming) (t : TypeDefinition) : definitionOf (t.dump n) = t := by
  have hitems : itemsOf ((t.dump n).field? "properties") = t.properties.map (·.dump n) := by
    cases n <;> rfl
  rw [definitionOf, hitems, List.map_map]
  simp only [Function.comp_def, propertyOf_dump, List.map_id']
  cases n <;> rfl

/-! ## What reading comes to -/

theorem named_eq_ok_iff {shape : String} {c : Checked α} {a : α} :
    named shape c = .ok a ↔ c = .ok a := by
  cases c <;> simp [named]

theorem named_eq_error_iff {shape : String} {c : Checked α} {e : Invalid} :
    named shape c = .error e ↔ c = .error e.violations ∧ e.shape = shape := by
  obtain ⟨s, vs⟩ := e
  cases c <;> simp [named, and_comm, eq_comm]

/-- Exactly the data of a content type is read, as the content type that it is the data of.  Of
other data all offences are listed, each with a place of its own, in the order of the fields and of
the items.  What is written of a content type is read as that content type. -/
theorem ofJson_exact :
    (∀ v, (∃ t, TypeDefinition.ofJson v = .ok t) ↔ Accepted v) ∧
    (∀ v t, TypeDefinition.ofJson v = .ok t → t = definitionOf v) ∧
    (∀ v e, TypeDefinition.ofJson v = .error e →
      e.shape = "TypeDefinitionData" ∧ e.violations ≠ [] ∧
      (∀ x, x ∈ e.violations ↔ Offence v x) ∧
      (e.violations.map (·.place)).Pairwise Earlier ∧ (e.violations.map (·.place)).Nodup) ∧
    ∀ n t, TypeDefinition.ofJson (t.dump n) = .ok t := by
  have hiff : ∀ v t, TypeDefinition.ofJson v = .ok t ↔ Accepted v ∧ definitionOf v = t :=
    fun v t => named_eq_ok_iff.trans ((decides_checkDefinition v).ok_iff t)
  refine ⟨fun v => ?_, fun v t h => ((hiff v t).mp h).2.symm, fun v e h => ?_, fun n t => ?_⟩
  · simp only [hiff, exists_and_left, exists_eq', and_true]
  · obtain ⟨hcheck, hshape⟩ := named_eq_error_iff.mp h
    have hd := decides_checkDefinition v
    have hfaults : faults (checkDefinition v) = e.violations := by rw [hcheck, faults]
    have hmem := hd.mem_iff
    have hordered := hd.ordered
    have hnodup := hd.nodup
    rw [hfaults] at hmem hordered hnodup
    exact ⟨hshape, fun hnil => hd.ne_nil (by rw [hcheck, hnil]), hmem, hordered, hnodup⟩
  · rw [hiff]
    exact ⟨accepted_dump n t, definitionOf_dump n t⟩

/-- A payload without a name, in which two of three properties are at fault as well. -/
def draft : Json :=
  .obj [("displayName", .int 5), ("description", .null), ("properties",
    .arr [.obj [("name", .str "Heading"), ("type", .null)], .obj [("type", .bool true)], .int 7])]

def draftViolations : List Violation :=
  [⟨[.field "name"], .missing⟩, ⟨[.field "displayName"], .text⟩,
    ⟨[.field "properties", .item 1, .field "name"], .missing⟩,
    ⟨[.field "properties", .item 1, .field "type"], .text⟩,
    ⟨[.field "properties", .item 2], .object⟩]

/-- The same with what was missing or wrong put right. -/
def revision : Json :=
  .obj [("name", .str "Article"), ("displayName", .null), ("properties",
    .arr [.obj [("name", .str "Heading"), ("type", .null)], .obj [("name", .str "Body")]])]

theorem ofJson_exact_draft :
    TypeDefinition.ofJson draft = .error ⟨"TypeDefinitionData", draftViolations⟩ ∧
      (∀ x, x ∈ draftViolations ↔ Offence draft x) ∧ ¬ Accepted draft ∧
      TypeDefinition.ofJson revision = .ok ⟨⟨"Article", "", "", ""⟩,
        [⟨"Heading", "", "", ""⟩, ⟨"Body", "", "", ""⟩]⟩ ∧
      Accepted revision ∧ definitionOf revision =
        ⟨⟨"Article", "", "", ""⟩, [⟨"Heading", "", "", ""⟩, ⟨"Body", "", "", ""⟩]⟩ := by
  have hdraft : TypeDefinition.ofJson draft =
      .error ⟨"TypeDefinitionData", draftViolations⟩ := rfl
  have hrevision : TypeDefinition.ofJson revision = .ok ⟨⟨"Article", "", "", ""⟩,
      [⟨"Heading", "", "", ""⟩, ⟨"Body", "", "", ""⟩]⟩ := rfl
  obtain ⟨haccepted, hvalue, herror, -⟩ := ofJson_exact
  refine ⟨hdraft, (herror _ _ hdraft).2.2.1, fun h => ?_, hrevision,
    (haccepted _).mp ⟨_, hrevision⟩, (hvalue _ _ hrevision).symm⟩
  obtain ⟨t, ht⟩ := (haccepted _).mpr h
  rw [hdraft] at ht
  cases ht

end TypedContent.Schema
