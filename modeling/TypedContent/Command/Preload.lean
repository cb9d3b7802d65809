import TypedContent.Command.Models

/-!
# The command for placeholders

`preload apply` expands the placeholder of a source file, or prints what the file would become.
-/

namespace TypedContent.Command

open Files

def applySpec : Spec where
  path := "episync preload apply"
  arguments := " SOURCE"
  options := [⟨["--pattern"], true⟩, ⟨["--extension"], true⟩, ⟨["--exclude"], true⟩,
    ⟨["--in-place"], false⟩, jsonOption]
  isGroup := false

def checkApply (d : Disk) (w : Words) : Except Refusal Unit := do
  match w.arguments with
  | [] => throw (.misuse (.missingArgument "SOURCE"))
  | source :: _ => checkFile d "SOURCE" source
  checkRequired ["--pattern", "--extension"] w
  checkCount 1 w

/-- The options of the expansion; an empty excluding pattern is as good as none. -/
def preloadOptions (w : Words) : List (String × Json) :=
  let given (key : String) : Json := .str ((w.value? key).getD "")
  let exclude := (w.value? "--exclude").getD ""
  [("pattern", given "--pattern"), ("extension", given "--extension")] ++
    (if exclude = "" then [] else [("exclude", .str exclude)])

/-- Whether a failure of the expansion is explained to the user. -/
def isExplained : Preload.Failure → Bool
  | .options _ => true
  | .pattern _ e => e.message?.isSome
  | .collision _ => true
  | .access _ => false

/-- What is printed about a source and what became of it. -/
def applyText (w : Words) (source : Path) (changed : Bool) (result : String) : String :=
  let inPlace := w.isGiven "--in-place"
  if w.isGiven jsonOption.key then
    (Json.obj [("source", .str source.toString), ("changed", .bool changed),
      ("written", .bool (inPlace && changed)),
      ("content", if inPlace then .null else .str result)]).indented 0 ++ "\n"
  else if inPlace then
    (if changed then "✅ Rewrote " ++ source.toString
      else "No @PreLoad annotation in " ++ source.toString) ++ "\n"
  else result

/-- The disk after a source was expanded in its place, and what is noted about that. -/
def storeResult (d : Disk) (w : Words) (source : Path) (changed : Bool) (result : String) :
    Except AccessError (Disk × List Log.Event) :=
  if w.isGiven "--in-place" && changed then
    (d.writeText source result).map fun d => (d, [.overwritten source])
  else .ok (d, [])

def apply (world : World) (w : Words) : Outcome :=
  let d := world.disk
  let source := Path.ofString (w.arguments.headD "")
  match d.readText source with
  | .error e => .crashed d [] (.reading e)
  | .ok text =>
    match Preload.LoaderContext.ofFile d source (preloadOptions w) with
    | .error e => .crashed d [] (.access e)
    | .ok context =>
      match context.expand d text with
      | (log, .error f) =>
        if isExplained f then .failed d log f.message else .crashed d log (.preload f)
      | (log, .ok result) =>
        let changed := result != text
        match storeResult d w source changed result with
        | .error e => .crashed d log (.access e)
        | .ok (d, more) => ⟨0, applyText w source changed result, "", log ++ more, [], d, none⟩

end TypedContent.Command
