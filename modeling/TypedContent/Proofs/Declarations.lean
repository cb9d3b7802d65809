import TypedContent.Proofs.FileNames

/-!
# What generated files declare and refer to

All that one generated file says of another is made from a stem: `importOf` is the line that imports
its interface, `factoryOf` the one that imports its class when it is needed.  Proved here:

* `declares_modelSections`: a model declares what both of them ask for;
* `importLines_eq`, `get_factories`: which stems a model and the registry refer to;
* `factoryOf_inj`: factories of different stems are different.
-/

namespace TypedContent.TypeScript

open Identifier Schema

def importOf (stem : String) : String := "import " ++ stem ++ "Data from './" ++ stem ++ "Data'"

def factoryOf (stem : String) : String :=
  "    '" ++ stem ++ "Data': () => import(/* webpackChunkName: \"types\" */ './" ++ stem ++
    "Data').then(m => m." ++ stem ++ "Type),"

/-- The sections of a model file declare the interface and the class of a stem. -/
structure Declares (s : Sections) (stem : String) : Prop where
  data : ∃ body, s.get "interface" =
    .ok (("export default interface " ++ stem ++ "Data extends Taxonomy.IContent \x7b") :: body)
  type : ∃ body, s.get "instance" =
    .ok (("export class " ++ stem ++ "Type extends Taxonomy.AbstractIContent<" ++ stem ++
      "Data> implements " ++ stem ++ "Data \x7b") :: body)

theorem modelFileName_eq (name : String) : modelFileName name = stem name ++ "Data.ts" := by
  rw [modelFileName, dataName, String.append_assoc]
  rfl

theorem declares_modelSections (d : TypeDefinition) (known : List String) :
    Declares (modelSections d known) (stem d.name) where
  data := by
    refine ⟨(visibleProperties d).flatMap (fieldLines known) ++ ["\x7d", ""], ?_⟩
    change Except.ok (interfaceLines d known) = _
    simp only [interfaceLines, dataName, String.append_assoc, List.cons_append, List.nil_append]
    rfl
  type := by
    refine ⟨(instanceLines d).tail, ?_⟩
    change Except.ok (instanceLines d) = _
    simp only [instanceLines, dataName, typeName, String.append_assoc, List.cons_append,
      List.nil_append, List.tail_cons]
    rfl

/-- A model is made exactly if no two properties would share a field. -/
theorem modelFile_eq_ok_iff {d : TypeDefinition} {known : List String} {f : SourceFile} :
    modelFile d known = .ok f ↔
      fieldCollision? d = none ∧ f = ⟨modelFileName d.name, (modelSections d known).text,
        "Model for content type " ++ d.name ++ " (" ++ d.guid ++ ")"⟩ := by
  unfold modelFile buildModel
  cases fieldCollision? d with
  | none => simp [eq_comm]
  | some c => simp

theorem mem_references_iff {d : TypeDefinition} {known : List String} {tag : String} :
    tag ∈ references d known ↔
      tag ∈ (visibleProperties d).map (·.tag) ∧ isReference known tag = true ∧ tag ≠ d.name := by
  rw [references, mem_distinct, List.mem_filter, Bool.and_eq_true, bne_iff_ne]

theorem mem_known_of_mem_references {d : TypeDefinition} {known : List String} {tag : String}
    (h : tag ∈ references d known) : tag ∈ known :=
  ((isReference_iff known tag).mp (mem_references_iff.mp h).2.1).2

theorem importLine_eq (name : String) : importLine name = importOf (stem name) := by
  simp only [importLine, importOf, dataName, String.append_assoc]
  rfl

theorem factoryLine_eq (name : String) : factoryLine name = factoryOf (stem name) := by
  simp only [factoryLine, factoryOf, dataName, typeName, String.append_assoc]
  rfl

theorem importLines_eq (d : TypeDefinition) (known : List String) :
    importLines d known =
      "import \x7b ContentDelivery, Taxonomy, ComponentTypes \x7d from '@episerver/spa-core'" ::
        ((references d known).map stem).map importOf := by
  rw [importLines, List.map_congr_left fun name _ => importLine_eq name, List.map_map]
  rfl

theorem get_factories {names : List String} (h : names.Nodup) :
    (registrySections names).get "factories" =
      .ok (("  protected factories : \x7b [dataModel: string]: " ++
        "() => Promise<Taxonomy.IContentType> \x7d = \x7b") ::
        (names.map stem).map factoryOf ++ ["  \x7d"]) := by
  change Except.ok (factoryLines names) = _
  rw [factoryLines, distinct_of_nodup h, List.map_map,
    List.map_congr_left fun name _ => factoryLine_eq name]
  rfl

/-- A factory is as long as its stem allows, so the first stem in it ends where it must. -/
theorem factoryOf_inj {x y : String} : factoryOf x = factoryOf y ↔ x = y := by
  refine ⟨fun h => ?_, congrArg factoryOf⟩
  have hl := congrArg String.toList h
  simp only [factoryOf, String.toList_append, List.append_assoc] at hl
  have hlen := congrArg List.length hl
  simp only [List.length_append] at hlen
  have htail := List.append_cancel_left hl
  exact String.toList_injective (List.append_inj htail (by omega)).1

end TypedContent.TypeScript
