import TypedContent.Preload.Placeholder
import TypedContent.Preload.Block

/-!
# Expanding a source

The first placeholder of a source gives way to the block for the modules of its directory.  A source
without a placeholder stays as it is.
-/

namespace TypedContent.Preload

open Files

/-- The directory that a placeholder speaks of, in a source that lies in `context`. -/
def annotatedDirectory (d : Disk) (context : Path) (a : Placeholder) : Except AccessError Path :=
  let p := context.join (Path.ofString a.path)
  if p.hasNul then .error .nulInPath else .ok (p.resolve d.current)

/-- Expands a source.  `resource` names it in the log. -/
def expand (d : Disk) (context : Path) (o : Options) (resource source : String) :
    List Log.Event × Except Failure String :=
  match Placeholder.find? source.toList with
  | none => ([], .ok source)
  | some (before, a, rest) =>
    let found := Log.Event.main logger Log.Level.info
      ("Found @PreLoad annotation in: " ++ if resource.isEmpty then "<source>" else resource)
    match annotatedDirectory d context a with
    | .error e => ([found], .error (.access e))
    | .ok directory =>
      let detail := fun message => Log.Event.main logger Log.Level.debug message
      let log := [found,
        detail ("  - Search pattern: " ++ directory.toString ++ "/" ++ o.pattern),
        detail ("  - Variable: " ++ a.target),
        detail ("  - Component prefix: " ++ a.base)]
      match discoverModules d directory a.base o with
      | (more, .error e) => (log ++ more, .error e)
      | (more, .ok modules) =>
        let injected := Log.Event.main logger Log.Level.info
          ("  - Injected " ++ toString modules.length ++ " modules into " ++ a.target)
        (log ++ more ++ [injected],
          .ok (String.ofList (before ++ (block a.target modules).toList ++ rest)))

/-- Expands a source under options that are checked first. -/
def expandWith (d : Disk) (context : Path) (options : Json) (resource source : String) :
    List Log.Event × Except Failure String :=
  match Options.ofJson options with
  | .error e => ([], .error (.options e))
  | .ok o => expand d context o resource source

end TypedContent.Preload
