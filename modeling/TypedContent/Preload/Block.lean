import TypedContent.Preload.Discovery

/-!
# The injected block

The block declares the target (a qualified one is there already), makes sure that it has a value,
imports the modules and registers each under its specifier.
-/

namespace TypedContent.Preload

def declarationLines (target : String) : List String :=
  if target.toList.contains '.' then []
  else ["let " ++ target ++ ": \x7b [module: string]: any \x7d = \x7b\x7d;"]

def guardLines (target : String) : List String :=
  ["try \x7b " ++ target ++ " = " ++ target ++ " || \x7b\x7d; \x7d catch (e) \x7b " ++ target ++
     " = \x7b\x7d; \x7d", ""]

def importLine (m : Module) : String := "import " ++ m.binding ++ " from '" ++ m.specifier ++ "';"

def registrationLine (target : String) (m : Module) : String :=
  target ++ "[\"" ++ m.specifier ++ "\"] = " ++ m.binding ++ ";"

def blockLines (target : String) (modules : List Module) : List String :=
  ["// Start: Injected PreLoad script"] ++ declarationLines target ++ guardLines target ++
    modules.map importLine ++ modules.map (registrationLine target) ++
    ["// End: Injected PreLoad script"]

/-- The text that takes the place of a placeholder. -/
def block (target : String) (modules : List Module) : String :=
  Text.joinLines (blockLines target modules) ++ "\n"

end TypedContent.Preload
