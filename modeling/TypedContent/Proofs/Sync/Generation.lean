import TypedContent.Proofs.Collisions
import TypedContent.Proofs.Declarations
import TypedContent.Proofs.Files.Children
import TypedContent.Sync.Generation

/-!
# Fetching, generating and storing one file

* `request_payload`: what of a reply is used, as a function of its outcome alone, and
  `usable_eq_none_iff`: the replies that are no answer;
* `modelOf_eq_ok_iff`: a model comes of a valid definition of the type itself, and
  `exists_modelOf_eq_error_iff` lists what `Fails` to lead to one;
* `storeFile_eq`, `find?_storeFile`: a file lands in the directory under its name, or nothing
  changes;
* `storeModel_outcome`, `storeRegistry_outcome`: the same for models and for the registry.
-/

namespace TypedContent.Sync

open Files Schema TypeScript

/-! ## Replies -/

/-- What can be used of the outcome of a question. -/
def usable : Except String Json → Option Json
  | .error _ => none
  | .ok .null => none
  | .ok payload => if isNetworkError payload then none else some payload

/-- The outcomes that give nothing to work with. -/
inductive NoAnswer : Except String Json → Prop where
  | raised (reason : String) : NoAnswer (.error reason)
  | null : NoAnswer (.ok .null)
  | envelope (payload : Json) (h : isNetworkError payload = true) : NoAnswer (.ok payload)

theorem usable_eq_none_iff (o : Except String Json) : usable o = none ↔ NoAnswer o := by
  constructor
  · intro h
    unfold usable at h
    split at h
    · exact .raised _
    · exact .null
    · split at h
      · exact .envelope _ (by assumption)
      · contradiction
  · intro h
    cases h with
    | raised reason => rfl
    | null => rfl
    | envelope payload h => cases payload <;> simp_all [usable]

theorem eq_ok_of_usable_eq_some {o : Except String Json} {payload : Json}
    (h : usable o = some payload) : o = .ok payload := by
  unfold usable at h
  split at h
  · contradiction
  · contradiction
  · split at h
    · contradiction
    · rw [Option.some.inj h]

/-- What is used of a reply depends on its outcome alone. -/
theorem request_payload (c : Client) (d : Disk) (q : Question) (what : String) :
    (c.request d q what).payload = usable (c.answer d q).outcome := by
  unfold Client.request usable
  simp only
  split
  · simp_all
  · simp_all
  · split <;> simp_all

/-- An exchange is the question with the request of its reply. -/
theorem request_exchange (c : Client) (d : Disk) (q : Question) (what : String) :
    (c.request d q what).exchange = ⟨q, (c.answer d q).request⟩ := by
  unfold Client.request
  simp only
  split
  · rfl
  · rfl
  · split <;> rfl

/-! ## Models -/

theorem generateModel_outcome (c : Client) (d : Disk) (t : TypeSummary) (names : List String) :
    (generateModel c d t names).outcome =
      modelOf t names (usable (c.answer d (.type t.guid)).outcome) := by
  rw [generateModel, request_payload]

theorem modelOf_eq_ok_iff {t : TypeSummary} {names : List String} {answer : Option Json}
    {f : SourceFile} :
    modelOf t names answer = .ok f ↔
      ∃ payload definition, answer = some payload ∧
        TypeDefinition.ofJson payload = .ok definition ∧ definition.name = t.name ∧
        modelFile definition names = .ok f := by
  cases answer with
  | none => simp [modelOf]
  | some payload =>
    cases hd : TypeDefinition.ofJson payload with
    | error e => simp [modelOf, hd]
    | ok d =>
      by_cases hn : d.name = t.name
      · cases hm : modelFile d names with
        | error c => simp [modelOf, hd, hn, hm]
        | ok g => simp [modelOf, hd, hn, hm]
      · simp [modelOf, hd, hn]

/-- The outcomes of a question about a type that lead to no model, before anything is stored. -/
inductive Fails (t : TypeSummary) : Except String Json → Prop where
  | noAnswer {o : Except String Json} (h : NoAnswer o) : Fails t o
  | invalid (payload : Json) (e : Invalid) (h : TypeDefinition.ofJson payload = .error e) :
      Fails t (.ok payload)
  | otherName (payload : Json) (definition : TypeDefinition)
      (h : TypeDefinition.ofJson payload = .ok definition) (hn : definition.name ≠ t.name) :
      Fails t (.ok payload)
  | sharedField (payload : Json) (definition : TypeDefinition)
      (h : TypeDefinition.ofJson payload = .ok definition) (p q : PropertyDefinition)
      (hp : p ∈ definition.properties) (hq : q ∈ definition.properties) (hne : p.name ≠ q.name)
      (he : Identifier.fieldName p.name = Identifier.fieldName q.name) : Fails t (.ok payload)

/-- The model of a definition is missing exactly if two of its properties would share a field. -/
theorem exists_modelFile_eq_error_iff (definition : TypeDefinition) (names : List String) :
    (∃ c, modelFile definition names = .error c) ↔
      ∃ p ∈ definition.properties, ∃ q ∈ definition.properties,
        p.name ≠ q.name ∧ Identifier.fieldName p.name = Identifier.fieldName q.name := by
  have hcollision : (∃ c, modelFile definition names = .error c) ↔
      ∃ c, fieldCollision? definition = some c := by
    unfold modelFile buildModel
    cases fieldCollision? definition <;> simp
  rw [hcollision, fieldCollision?, Collision.exists_find?_eq_some_iff_of_mem fun _ => Iff.rfl]
  rfl

/-- There are no other ways to fail. -/
theorem exists_modelOf_eq_error_iff (t : TypeSummary) (names : List String)
    (o : Except String Json) :
    (∃ e, modelOf t names (usable o) = .error e) ↔ Fails t o := by
  cases hu : usable o with
  | none => exact ⟨fun _ => .noAnswer ((usable_eq_none_iff o).mp hu), fun _ => ⟨_, rfl⟩⟩
  | some payload =>
    obtain rfl := eq_ok_of_usable_eq_some hu
    have hanswer : ¬ NoAnswer (.ok payload) := by simp [← usable_eq_none_iff, hu]
    cases hd : TypeDefinition.ofJson payload with
    | error e =>
      refine ⟨fun _ => .invalid payload e hd, fun _ => ⟨.invalid e, ?_⟩⟩
      simp only [modelOf, hd]
    | ok definition =>
      by_cases hn : definition.name = t.name
      · have hmodel : (∃ e, modelOf t names (some payload) = .error e) ↔
            ∃ c, modelFile definition names = .error c := by
          simp only [modelOf, hd, hn, if_true]
          cases modelFile definition names <;> simp
        rw [hmodel, exists_modelFile_eq_error_iff]
        constructor
        · rintro ⟨p, hp, q, hq, hne, he⟩
          exact .sharedField payload definition hd p q hp hq hne he
        · intro h
          cases h with
          | noAnswer h => exact absurd h hanswer
          | invalid _ e h => simp [hd] at h
          | otherName _ other h hother =>
            obtain rfl := Except.ok.inj (hd.symm.trans h)
            exact absurd hn hother
          | sharedField _ other h p q hp hq hne he =>
            obtain rfl := Except.ok.inj (hd.symm.trans h)
            exact ⟨p, hp, q, hq, hne, he⟩
      · refine ⟨fun _ => .otherName payload definition hd hn,
          fun _ => ⟨.otherName t.guid definition.name t.name, ?_⟩⟩
        simp only [modelOf, hd, hn, if_false]

theorem modelFile_path {definition : TypeDefinition} {names : List String} {f : SourceFile}
    (h : modelFile definition names = .ok f) : f.path = modelFileName definition.name := by
  rw [(modelFile_eq_ok_iff.mp h).2]

/-- The text of a model is that of its sections. -/
theorem modelFile_content {definition : TypeDefinition} {names : List String} {f : SourceFile}
    (h : modelFile definition names = .ok f) :
    f.content = (modelSections definition names).text := by
  rw [(modelFile_eq_ok_iff.mp h).2]

theorem modelOf_path {t : TypeSummary} {names : List String} {answer : Option Json} {f : SourceFile}
    (h : modelOf t names answer = .ok f) : f.path = modelFileName t.name := by
  obtain ⟨payload, definition, -, -, hn, hm⟩ := modelOf_eq_ok_iff.mp h
  rw [modelFile_path hm, hn]

/-! ## Storing -/

section Storing

variable {d : Disk} {p : Path} {l : Location} {f : SourceFile}

/-- A file is stored as an entry of the directory. -/
theorem storeFile_eq (hp : d.entry p = .ok (l, .directory)) (hf : Path.IsName f.path) :
    (storeFile d p f).outcome = (d.writeAccess p l f.path).map (fun _ => p.child f.path) ∧
      (storeFile d p f).disk = match d.writeAccess p l f.path with
        | .ok () => d.put (l ++ [f.path]) f.content
        | .error _ => d := by
  have hjoin := Path.join_ofString_of_isName p hf
  have hwrite := Disk.writeText_child hp hf.ne_dots f.content
  unfold storeFile
  simp only [hjoin, hwrite]
  cases hw : d.writeAccess p l f.path with
  | error e => exact ⟨rfl, rfl⟩
  | ok u => exact ⟨rfl, rfl⟩

theorem sameDirectories_storeFile (hp : d.entry p = .ok (l, .directory)) (hf : Path.IsName f.path) :
    SameDirectories d (storeFile d p f).disk := by
  rw [(storeFile_eq hp hf).2]
  cases hw : d.writeAccess p l f.path with
  | error e => exact .refl d
  | ok u => exact Disk.sameDirectories_put hw _

/-- What is at the place of a file after it was stored, with `old` there before. -/
def stored (access : Except AccessError Unit) (old : Option Entry) (content : String) :
    Option Entry :=
  match access with
  | .ok () => some (.file content.toUTF8)
  | .error _ => old

theorem find?_storeFile (hp : d.entry p = .ok (l, .directory)) (hf : Path.IsName f.path)
    (m : Location) :
    (storeFile d p f).disk.tree.find? m =
      if m = l ++ [f.path] then stored (d.writeAccess p l f.path) (d.tree.find? m) f.content
      else d.tree.find? m := by
  rw [(storeFile_eq hp hf).2]
  cases hw : d.writeAccess p l f.path with
  | error e => simp [stored]
  | ok u => rw [Disk.find?_put]; rfl

theorem storeModel_disk (d : Disk) (p : Path) (name : String) (f : SourceFile) :
    (storeModel d p name f).1 = (storeFile d p f).disk := by
  unfold storeModel
  simp only
  split <;> rfl

theorem storeModel_outcome (hp : d.entry p = .ok (l, .directory)) (hf : Path.IsName f.path)
    (name : String) :
    (storeModel d p name f).2.2 =
      ((d.writeAccess p l f.path).mapError ModelError.storing).map fun _ => p.child f.path := by
  have ho := (storeFile_eq hp hf).1
  unfold storeModel
  simp only [ho]
  cases hw : d.writeAccess p l f.path with
  | error e => rfl
  | ok u => rfl

theorem storeRegistry_disk (d : Disk) (p : Path) (names : List String) :
    (storeRegistry d p names).disk = (storeFile d p (registryFile names)).disk := by
  unfold storeRegistry
  simp only
  split <;> rfl

theorem storeRegistry_outcome (hp : d.entry p = .ok (l, .directory)) (names : List String) :
    (storeRegistry d p names).outcome =
      (d.writeAccess p l registryFileName).map fun _ => p.child registryFileName := by
  have ho := (storeFile_eq (f := registryFile names) hp isName_registryFileName).1
  unfold storeRegistry
  simp only [ho]
  change _ = (d.writeAccess p l (registryFile names).path).map fun _ => p.child _
  cases hw : d.writeAccess p l (registryFile names).path with
  | error e => rfl
  | ok u => rfl

end Storing

end TypedContent.Sync
