import TypedContent.Proofs.TypeScript.Comments
import TypedContent.Proofs.TypeScript.Scope

/-!
# Looking up models in the registry

`readRegistry` takes the text of a registry apart again: into the entries of its map and into its
factories, with the escapes of all literals resolved and with nothing left but what every registry
has.  `factoryFor?` looks a type up in what was read, first in the map and then among the factories.
`lookups_lead`: for names without a collision there is one entry and one factory for each distinct
name, in order of first occurrence, and every name leads to the factory of its own model.

A line end in a name is not escaped, and here it is read as any other character of a key.
-/

namespace TypedContent.TypeScript

open Identifier

/-! ## Reading a registry -/

/-- What the map holds for a type. -/
structure MapEntry where
  name : String
  dataModel : String
  instanceModel : String

structure Factory where
  dataModel : String
  /-- The module that it imports. -/
  path : String
  /-- What it selects of that module. -/
  selected : String

structure Registry where
  entries : List MapEntry
  factories : List Factory

namespace Registry

/-- The factory that is run to load a type. -/
def factoryFor? (r : Registry) (name : String) : Option Factory :=
  (r.entries.find? (·.name = name)).bind fun e =>
    r.factories.find? (·.dataModel = e.dataModel)

end Registry

/-- Reads one value after the other, as long as there is one and something is left. -/
def readAll {α : Type} (read : List Char → Option (α × List Char)) (s : List Char) :
    List α × List Char :=
  match read s with
  | none => ([], s)
  | some (x, rest) =>
    if rest.length < s.length then (x :: (readAll read rest).1, (readAll read rest).2)
    else ([], s)
termination_by s.length

/-- An entry of the map, up to the end of its line. -/
def readMapEntry (s : List Char) : Option (MapEntry × List Char) := do
  let (name, rest) ← readLiteral '\'' (← s.dropPrefix? "    '".toList)
  let (dataModel, rest) ← readLiteral '\'' (← rest.dropPrefix? ": \x7bdataModel: '".toList)
  let (instanceModel, rest) ← readLiteral '\'' (← rest.dropPrefix? ",instanceModel: '".toList)
  let rest ← rest.dropPrefix? "\x7d,\n".toList
  pure (⟨String.ofList name, String.ofList dataModel, String.ofList instanceModel⟩, rest)

/-- A factory, up to the end of its line. -/
def readFactory (s : List Char) : Option (Factory × List Char) := do
  let (dataModel, rest) ← readLiteral '\'' (← s.dropPrefix? "    '".toList)
  let (path, rest) ← readLiteral '\''
    (← rest.dropPrefix? ": () => import(/* webpackChunkName: \"types\" */ '".toList)
  let rest ← rest.dropPrefix? ").then(m => m.".toList
  let selected := rest.takeWhile isWordChar
  let rest ← (rest.dropWhile isWordChar).dropPrefix? "),\n".toList
  pure (⟨String.ofList dataModel, String.ofList path, String.ofList selected⟩, rest)

/-- Lines with their ends. -/
def endedLines (lines : List String) : List Char := lines.flatMap fun l => l.toList ++ ['\n']

def beforeEntries : List String :=
  ["import \x7b Taxonomy, Core, Loaders \x7d from '@episerver/spa-core';", "",
   "export default class TypeMapper extends Loaders.BaseTypeMapper \x7b",
   "  protected map : \x7b [type: string]: Loaders.TypeInfo \x7d = \x7b"]

def beforeFactories : List String :=
  ["  \x7d",
   "  protected factories : \x7b [dataModel: string]: () => Promise<Taxonomy.IContentType> \x7d = \x7b"]

def behindFactories : List String := "  \x7d" :: (loaderLines ++ ["\x7d"])

/-- The registry in a text that has nothing else. -/
def readRegistry (s : List Char) : Option Registry := do
  let (entries, rest) := readAll readMapEntry (← s.dropPrefix? (endedLines beforeEntries))
  let (factories, rest) := readAll readFactory (← rest.dropPrefix? (endedLines beforeFactories))
  if rest = endedLines behindFactories then some ⟨entries, factories⟩ else none

/-! ### What is read -/

theorem readAll_of_none {α : Type} {read : List Char → Option (α × List Char)} {s : List Char}
    (h : read s = none) : readAll read s = ([], s) := by
  rw [readAll, h]

theorem readAll_cons {α : Type} {read : List Char → Option (α × List Char)} {s rest : List Char}
    {x : α} (h : read s = some (x, rest)) (hlength : rest.length < s.length) :
    readAll read s = (x :: (readAll read rest).1, (readAll read rest).2) := by
  rw [readAll, h]
  exact if_pos hlength

/-- All values that were written one behind the other are read. -/
theorem readAll_flatMap {α β : Type} {read : List Char → Option (β × List Char)}
    {write : α → List Char} {value : α → β}
    (hread : ∀ x rest, read (write x ++ rest) = some (value x, rest))
    (hwrite : ∀ x, write x ≠ []) (xs : List α) {rest : List Char} (hrest : read rest = none) :
    readAll read (xs.flatMap write ++ rest) = (xs.map value, rest) := by
  induction xs with
  | nil => exact readAll_of_none hrest
  | cons x xs ih =>
    -- Something was written for `x`, so that less is left behind it and reading goes on.
    have hlength := List.length_pos_of_ne_nil (hwrite x)
    rw [List.flatMap_cons, List.append_assoc, readAll_cons (hread x _) ?_, ih]
    · rfl
    · simp only [List.length_append]
      omega

/-- Nothing is done to the escapes of a text that has none. -/
theorem readLiteral_plain {s : String} (hs : ∀ c ∈ s.toList, c ≠ '\\' ∧ c ≠ '\'')
    (rest : List Char) : readLiteral '\'' (s.toList ++ '\'' :: rest) = some (s.toList, rest) := by
  have hself : escapeLiteral '\'' s = s := escapeLiteral_eq_self hs
  have hquote : '\'' ≠ '\\' := by decide
  have hread := readLiteral_escapeLiteral hquote s rest
  rwa [hself] at hread

theorem ne_of_isWordChar {c d : Char} (hc : isWordChar c = true) (hd : isWordChar d = false) :
    c ≠ d := by
  rintro rfl
  exact absurd hc (by simp [hd])

theorem plain_of_isWordChar {c : Char} (hc : isWordChar c = true) : c ≠ '\\' ∧ c ≠ '\'' :=
  ⟨ne_of_isWordChar hc (by decide), ne_of_isWordChar hc (by decide)⟩

/-- The path of a model from the registry next to it. -/
def modelPath (name : String) : String := "./" ++ dataName name

theorem plain_modelPath (name : String) : ∀ c ∈ (modelPath name).toList, c ≠ '\\' ∧ c ≠ '\'' := by
  intro c hc
  have hopening : ∀ c ∈ "./".toList, c ≠ '\\' ∧ c ≠ '\'' := by simp
  rw [modelPath, String.toList_append, List.mem_append] at hc
  exact hc.elim (hopening c) fun h => plain_of_isWordChar (isWordChar_dataName name c h)

def modelEntry (name : String) : MapEntry := ⟨name, dataName name, typeName name⟩

def modelFactory (name : String) : Factory := ⟨dataName name, modelPath name, typeName name⟩

/-- What is written for the content types `names`. -/
def modelRegistry (names : List String) : Registry :=
  ⟨(distinct names).map modelEntry, (distinct names).map modelFactory⟩

theorem readMapEntry_mapLine (name : String) (rest : List Char) :
    readMapEntry ((mapLine name).toList ++ ['\n'] ++ rest) = some (modelEntry name, rest) := by
  have hquote : '\'' ≠ '\\' := by decide
  have hline : (mapLine name).toList ++ ['\n'] ++ rest = "    '".toList ++
      ((escapeLiteral '\'' name).toList ++ '\'' :: (": \x7bdataModel: '".toList ++
        ((dataName name).toList ++ '\'' :: (",instanceModel: '".toList ++
          ((typeName name).toList ++ '\'' :: ("\x7d,\n".toList ++ rest)))))) := by
    simp [mapLine, String.toList_append]
  have hdata := readLiteral_plain fun c hc => plain_of_isWordChar (isWordChar_dataName name c hc)
  have htype := readLiteral_plain fun c hc => plain_of_isWordChar (isWordChar_typeName name c hc)
  unfold readMapEntry
  rw [hline, dropPrefix?_append]
  simp only [Option.bind_eq_bind, Option.bind_some]
  rw [readLiteral_escapeLiteral hquote, Option.bind_some, dropPrefix?_append, Option.bind_some,
    hdata, Option.bind_some, dropPrefix?_append, Option.bind_some, htype, Option.bind_some,
    dropPrefix?_append, Option.bind_some]
  simp [modelEntry]

theorem readFactory_factoryLine (name : String) (rest : List Char) :
    readFactory ((factoryLine name).toList ++ ['\n'] ++ rest) = some (modelFactory name, rest) := by
  have hline : (factoryLine name).toList ++ ['\n'] ++ rest = "    '".toList ++
      ((dataName name).toList ++ '\'' ::
        (": () => import(/* webpackChunkName: \"types\" */ '".toList ++
          ((modelPath name).toList ++ '\'' :: (").then(m => m.".toList ++
            ((typeName name).toList ++ ("),\n".toList ++ rest)))))) := by
    simp [factoryLine, modelPath, String.toList_append]
  have hdata := readLiteral_plain fun c hc => plain_of_isWordChar (isWordChar_dataName name c hc)
  have hpath := readLiteral_plain (plain_modelPath name)
  have hselected : ∀ c ∈ (typeName name).toList, isWordChar c = true := isWordChar_typeName name
  have hparenthesis : ¬ isWordChar ')' = true := by decide
  have hbehind : "),\n".toList ++ rest = ')' :: (",\n".toList ++ rest) := rfl
  unfold readFactory
  rw [hline, dropPrefix?_append]
  simp only [Option.bind_eq_bind, Option.bind_some]
  rw [hdata, Option.bind_some, dropPrefix?_append, Option.bind_some, hpath, Option.bind_some,
    dropPrefix?_append, Option.bind_some, List.takeWhile_append_of_pos hselected,
    List.dropWhile_append_of_pos hselected, hbehind, List.takeWhile_cons_of_neg hparenthesis,
    List.dropWhile_cons_of_neg hparenthesis, ← hbehind, dropPrefix?_append, Option.bind_some]
  simp [modelFactory]

/-! ## The registry of some names -/

theorem endedLines_append (ls ms : List String) :
    endedLines (ls ++ ms) = endedLines ls ++ endedLines ms := List.flatMap_append

theorem endedLines_map {α : Type} (line : α → String) (xs : List α) :
    endedLines (xs.map line) = xs.flatMap fun x => (line x).toList ++ ['\n'] :=
  List.flatMap_map ..

theorem toList_joinLines_append_newline (l : String) (ls : List String) :
    (Text.joinLines (l :: ls) ++ "\n").toList = endedLines (l :: ls) := by
  rw [String.toList_append, toList_joinLines]
  induction ls generalizing l with
  | nil => simp [behindLine, endedLines]
  | cons m ls ih =>
    rw [endedLines, List.flatMap_cons, ← endedLines, ← ih m, behindLine_cons]
    simp

theorem toList_registryFile (names : List String) :
    (registryFile names).content.toList =
      endedLines beforeEntries ++
        ((distinct names).flatMap (fun n => (mapLine n).toList ++ ['\n']) ++
          (endedLines beforeFactories ++
            ((distinct names).flatMap (fun n => (factoryLine n).toList ++ ['\n']) ++
              endedLines behindFactories))) := by
  have hlines : (registrySections names).lines =
      beforeEntries ++ ((distinct names).map mapLine ++
        (beforeFactories ++ ((distinct names).map factoryLine ++ behindFactories))) := by
    simp [registrySections, Sections.lines, mapLines, factoryLines, beforeEntries, beforeFactories,
      behindFactories, registryName]
  rw [← endedLines_map, ← endedLines_map, ← endedLines_append, ← endedLines_append,
    ← endedLines_append, ← endedLines_append, ← hlines]
  exact toList_joinLines_append_newline _ _

/-- The line that closes an object is no value in it. -/
theorem read_closing (s : List Char) : readMapEntry (' ' :: ' ' :: '\x7d' :: s) = none ∧
    readFactory (' ' :: ' ' :: '\x7d' :: s) = none := ⟨rfl, rfl⟩

theorem readRegistry_registryFile (names : List String) :
    readRegistry (registryFile names).content.toList = some (modelRegistry names) := by
  have hentries (rest : List Char) :=
    readAll_flatMap readMapEntry_mapLine (by simp) (distinct names)
      (show readMapEntry (endedLines beforeFactories ++ rest) = none from (read_closing _).1)
  have hfactories := readAll_flatMap readFactory_factoryLine (by simp) (distinct names)
    (show readFactory (endedLines behindFactories) = none from (read_closing _).2)
  unfold readRegistry
  rw [toList_registryFile, dropPrefix?_append]
  simp only [Option.bind_eq_bind, Option.bind_some]
  rw [hentries, dropPrefix?_append, Option.bind_some, hfactories, if_pos rfl, modelRegistry]

/-! ## Lookups -/

/-- With distinct keys, an element is the only one under its key. -/
theorem filter_eq_singleton {α : Type} {key : α → String} {xs : List α} (h : (xs.map key).Nodup)
    {x : α} (hx : x ∈ xs) : xs.filter (fun y => key y = key x) = [x] := by
  induction xs with
  | nil => cases hx
  | cons y ys ih =>
    rw [List.map_cons, List.nodup_cons] at h
    rcases List.mem_cons.mp hx with rfl | hx
    · have hrest : ys.filter (fun y => key y = key x) = [] := by
        refine List.filter_eq_nil_iff.mpr fun z hz hk => h.1 ?_
        exact of_decide_eq_true hk ▸ List.mem_map_of_mem hz
      rw [List.filter_cons_of_pos (by simp), hrest]
    · have hy : ¬ key y = key x := fun he => h.1 (he ▸ List.mem_map_of_mem hx)
      rw [List.filter_cons_of_neg (by simpa using hy), ih h.2 hx]

/-- What the registry `r` of the content types `names` holds, and where their names lead. -/
structure Registry.Leads (r : Registry) (names : List String) : Prop where
  keys : r.entries.map (·.name) = distinct names
  dataModels : r.factories.map (·.dataModel) = (distinct names).map dataName
  nodup_keys : (r.entries.map (·.name)).Nodup
  nodup_dataModels : (r.factories.map (·.dataModel)).Nodup
  /-- Under a name there is one entry, and under the interface in it one factory, that of the
  model of that name. -/
  found : ∀ n ∈ names, ∃ e f, r.entries.filter (·.name = n) = [e] ∧
    r.factories.filter (·.dataModel = e.dataModel) = [f] ∧ r.factoryFor? n = some f ∧
    f.path = "./" ++ dataName n ∧ f.selected = typeName n ∧ e.instanceModel = f.selected
  apart : ∀ m ∈ names, ∀ n ∈ names, r.factoryFor? m = r.factoryFor? n → m = n

theorem nodup_dataNames {names : List String}
    (h : Collision.find? "model name" stem true names = none) :
    ((distinct names).map dataName).Nodup :=
  (nodup_distinct names).map_on fun _ hm _ hn =>
    dataName_injOn h (mem_distinct.mp hm) (mem_distinct.mp hn)

variable {names : List String} {n : String}

theorem map_name_entries (names : List String) :
    (modelRegistry names).entries.map (·.name) = distinct names := by
  rw [modelRegistry, List.map_map]
  exact List.map_id _

theorem map_dataModel_factories (names : List String) :
    (modelRegistry names).factories.map (·.dataModel) = (distinct names).map dataName :=
  List.map_map ..

theorem nodup_map_name_entries (names : List String) :
    ((modelRegistry names).entries.map (·.name)).Nodup := by
  rw [map_name_entries]
  exact nodup_distinct names

theorem nodup_map_dataModel_factories (h : Collision.find? "model name" stem true names = none) :
    ((modelRegistry names).factories.map (·.dataModel)).Nodup := by
  rw [map_dataModel_factories]
  exact nodup_dataNames h

theorem entry_of_mem (hn : n ∈ names) :
    (modelRegistry names).entries.filter (·.name = n) = [modelEntry n] :=
  filter_eq_singleton (nodup_map_name_entries names) (List.mem_map_of_mem (mem_distinct.mpr hn))

theorem factory_of_mem (h : Collision.find? "model name" stem true names = none)
    (hn : n ∈ names) :
    (modelRegistry names).factories.filter (·.dataModel = dataName n) = [modelFactory n] :=
  filter_eq_singleton (nodup_map_dataModel_factories h)
    (List.mem_map_of_mem (mem_distinct.mpr hn))

/-- A lookup goes from the entry to the factory that the entry names. -/
theorem factoryFor?_of_mem (h : Collision.find? "model name" stem true names = none)
    (hn : n ∈ names) : (modelRegistry names).factoryFor? n = some (modelFactory n) := by
  rw [Registry.factoryFor?, ← List.head?_filter, entry_of_mem hn, List.head?_cons,
    Option.bind_some, ← List.head?_filter]
  exact congrArg List.head? (factory_of_mem h hn)

/-- The text of a registry holds one entry and one factory for each type, and a lookup ends at the
factory of the type itself. -/
theorem lookups_lead {names : List String}
    (h : Collision.find? "model name" stem true names = none) :
    ∃ r, readRegistry (registryFile names).content.toList = some r ∧ r.Leads names := by
  refine ⟨modelRegistry names, readRegistry_registryFile names, ?_⟩
  constructor
  case keys => exact map_name_entries names
  case dataModels => exact map_dataModel_factories names
  case nodup_keys => exact nodup_map_name_entries names
  case nodup_dataModels => exact nodup_map_dataModel_factories h
  case found =>
    intro n hn
    exact ⟨modelEntry n, modelFactory n, entry_of_mem hn, factory_of_mem h hn,
      factoryFor?_of_mem h hn, rfl, rfl, rfl⟩
  case apart =>
    intro m hm n hn he
    rw [factoryFor?_of_mem h hm, factoryFor?_of_mem h hn] at he
    exact dataName_injOn h hm hn (congrArg Factory.dataModel (Option.some.inj he))

/-- Names with quotes, a backslash, a digit in front and other characters, and one twice. -/
def quotedTypes : List String := ["It's \"new\"", "back\\slash", "2nd page", "It's \"new\"", ""]

theorem lookups_lead_quoted :
    Collision.find? "model name" stem true quotedTypes = none ∧
      ∃ r, readRegistry (registryFile quotedTypes).content.toList = some r ∧
        r.Leads quotedTypes := by
  have hnames : Collision.find? "model name" stem true quotedTypes = none := by decide +kernel
  exact ⟨hnames, lookups_lead hnames⟩

end TypedContent.TypeScript
