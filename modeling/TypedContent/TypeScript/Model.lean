import TypedContent.Collision
import TypedContent.Schema.Definition
import TypedContent.TypeScript.Comment
import TypedContent.TypeScript.Literal
import TypedContent.TypeScript.PropertyType
import TypedContent.TypeScript.Sections
import TypedContent.TypeScript.SourceFile

/-!
# Model files

The model of a content type is one file: imports, a comment on the type, the interface of its data,
the interface of a component's properties, and the class of its instances.  Properties that the
base contract declares itself have no field and no getter, but stay in the property map.
-/

namespace TypedContent.TypeScript

open Schema Identifier

/-- Fields that the base contract of all content declares. -/
def reservedFields : List String := ["contentLink"]

/-- The properties that have a field and a getter. -/
def visibleProperties (d : TypeDefinition) : List PropertyDefinition :=
  d.properties.filter fun p => fieldName p.name ∉ reservedFields

def orElse (s default : String) : String := if s.isEmpty then default else s

def propertyComment (p : PropertyDefinition) : List String :=
  commentBlock "    " (orElse p.displayName p.name)
    (orElse p.description "No description available") []

/-- The other content types that visible properties refer to, each once. -/
def references (d : TypeDefinition) (known : List String) : List String :=
  distinct (((visibleProperties d).map (·.tag)).filter fun tag =>
    isReference known tag && tag != d.name)

def importLine (name : String) : String :=
  "import " ++ dataName name ++ " from './" ++ dataName name ++ "'"

def importLines (d : TypeDefinition) (known : List String) : List String :=
  "import \x7b ContentDelivery, Taxonomy, ComponentTypes \x7d from '@episerver/spa-core'" ::
    (references d known).map importLine

def headerLines (d : TypeDefinition) : List String :=
  commentBlock "" (orElse d.displayName d.name) (orElse d.description "No Description available.")
    ["@GUID " ++ d.guid]

def fieldLines (known : List String) (p : PropertyDefinition) : List String :=
  propertyComment p ++
    ["    " ++ fieldName p.name ++ ": " ++ (TagMeaning.of known p.tag).expression, ""]

def interfaceLines (d : TypeDefinition) (known : List String) : List String :=
  ["export default interface " ++ dataName d.name ++ " extends Taxonomy.IContent \x7b"] ++
    (visibleProperties d).flatMap (fieldLines known) ++ ["\x7d", ""]

def propsLines (d : TypeDefinition) : List String :=
  ["/**",
   " * Convenience interface for componentDidUpdate & componentDidMount methods.",
   " */",
   "export interface " ++ propsName d.name ++ " extends ComponentTypes.AbstractComponentProps<" ++
     dataName d.name ++ "> \x7b\x7d",
   ""]

def propertyMapLine (p : PropertyDefinition) : String :=
  "        '" ++ escapeLiteral '\'' (fieldName p.name) ++ "': '" ++ escapeLiteral '\'' p.tag ++ "',"

def getterLines (d : TypeDefinition) (p : PropertyDefinition) : List String :=
  let field := fieldName p.name
  propertyComment p ++
    ["    public get " ++ field ++ "() : " ++ dataName d.name ++ "[\"" ++ field ++
       "\"] \x7b return this.getProperty(\"" ++ field ++ "\"); \x7d", ""]

def instanceLines (d : TypeDefinition) : List String :=
  ["export class " ++ typeName d.name ++ " extends Taxonomy.AbstractIContent<" ++ dataName d.name ++
     "> implements " ++ dataName d.name ++ " \x7b",
   "    protected _typeName : string = \"" ++ escapeLiteral '"' d.name ++ "\";",
   "    /**",
   "     * Map of all property types within this content type.",
   "     */",
   "    protected _propertyMap : \x7b [propName: string]: string \x7d = \x7b"] ++
    d.properties.map propertyMapLine ++ ["    \x7d", ""] ++
    (visibleProperties d).flatMap (getterLines d) ++ ["\x7d"]

/-- Two properties of one content type whose names differ lead to one field. -/
def fieldCollision? (d : TypeDefinition) : Option Collision :=
  Collision.find? (d.name ++ " field name") fieldName false (d.properties.map (·.name))

def modelSections (d : TypeDefinition) (known : List String) : Sections :=
  ⟨[("imports", importLines d known),
    ("header", headerLines d),
    ("interface", interfaceLines d known),
    ("props", propsLines d),
    ("instance", instanceLines d)]⟩

/-- The sections of the model, unless two properties would share a field. -/
def buildModel (d : TypeDefinition) (known : List String) : Except Collision Sections :=
  match fieldCollision? d with
  | some c => .error c
  | none => .ok (modelSections d known)

/-- The name of the file that holds a content type's model. -/
def modelFileName (name : String) : String := dataName name ++ extension

def modelFile (d : TypeDefinition) (known : List String) : Except Collision SourceFile :=
  match buildModel d known with
  | .error c => .error c
  | .ok s => .ok ⟨modelFileName d.name, s.text,
      "Model for content type " ++ d.name ++ " (" ++ d.guid ++ ")"⟩

end TypedContent.TypeScript
