import TypedContent.Distinct
import TypedContent.Identifier
import TypedContent.TypeScript.Literal
import TypedContent.TypeScript.Sections
import TypedContent.TypeScript.SourceFile

/-!
# The registry of all models

One file maps every content type to its interface and its class, and holds for each interface a
factory that imports the model when it is first needed.
-/

namespace TypedContent.TypeScript

open Identifier

def registryName : String := "TypeMapper"

def registryFileName : String := registryName ++ extension

def mapLine (name : String) : String :=
  "    '" ++ escapeLiteral '\'' name ++ "': \x7bdataModel: '" ++ dataName name ++
    "',instanceModel: '" ++ typeName name ++ "'\x7d,"

def mapLines (names : List String) : List String :=
  ["  protected map : \x7b [type: string]: Loaders.TypeInfo \x7d = \x7b"] ++
    (distinct names).map mapLine ++ ["  \x7d"]

def factoryLine (name : String) : String :=
  "    '" ++ dataName name ++ "': () => import(/* webpackChunkName: \"types\" */ './" ++
    dataName name ++ "').then(m => m." ++ typeName name ++ "),"

def factoryLines (names : List String) : List String :=
  ["  protected factories : \x7b [dataModel: string]: () => Promise<Taxonomy.IContentType> \x7d = \x7b"]
    ++ (distinct names).map factoryLine ++ ["  \x7d"]

def loaderLines : List String :=
  ["  protected async doLoadType(typeInfo: Loaders.TypeInfo) : Promise<Taxonomy.IContentType> \x7b",
   "    const factory = this.factories[typeInfo.dataModel];",
   "    if (!factory) \x7b",
   "      if (Core.DefaultContext.isDebugActive()) \x7b",
   "        console.error(`No model registered for $\x7btypeInfo.dataModel\x7d`);",
   "      \x7d",
   "      return null;",
   "    \x7d",
   "    return factory().catch(reason => \x7b",
   "      if (Core.DefaultContext.isDebugActive()) \x7b",
   "        console.error(`Error while importing $\x7btypeInfo.instanceModel\x7d from $\x7btypeInfo.dataModel\x7d due to:`, reason);",
   "      \x7d",
   "      return null;",
   "    \x7d);",
   "  \x7d"]

def registrySections (names : List String) : Sections :=
  ⟨[("imports", ["import \x7b Taxonomy, Core, Loaders \x7d from '@episerver/spa-core';", ""]),
    ("open", ["export default class " ++ registryName ++ " extends Loaders.BaseTypeMapper \x7b"]),
    ("map", mapLines names),
    ("factories", factoryLines names),
    ("loader", loaderLines),
    ("close", ["\x7d"])]⟩

/-- The registry of the content types in the order of their names' first occurrence. -/
def registryFile (names : List String) : SourceFile :=
  ⟨registryFileName, (registrySections names).text,
   "Type registry for " ++ toString (distinct names).length ++ " content types"⟩

end TypedContent.TypeScript
