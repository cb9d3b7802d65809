import TypedContent.Files.Disk
import TypedContent.Net.Url
import TypedContent.Schema.Validation
import TypedContent.Yaml.Value

/-!
# Settings

The settings of a run: where the content server is, where models go, and which sources said so.
Before they are checked, settings are values of any kind.
-/

namespace TypedContent.Settings

open Files

inductive Environment where
  | development
  | integration
  | preproduction
  | production
  deriving DecidableEq

namespace Environment

def all : List Environment := [development, integration, preproduction, production]

def name : Environment → String
  | development => "development"
  | integration => "integration"
  | preproduction => "preproduction"
  | production => "production"

def ofName? (s : String) : Option Environment := all.find? fun e => e.name == s

theorem ofName?_name (e : Environment) : ofName? e.name = some e := by
  cases e <;> rfl

end Environment

/-- The environment files for an environment, the strongest last. -/
def envFileNames (environment : String) : List String :=
  [".env", ".env.local", ".env." ++ environment, ".env." ++ environment ++ ".local"]

/-- A setting as a source gives it. -/
inductive Given where
  | text (s : String)
  | flag (b : Bool)
  | number (n : Int)
  | bytes (content : List UInt8)
  /-- A value of another kind, of which only counts whether it is empty. -/
  | other (isPresent : Bool)
  /-- A collection that holds an integer which is too long to be written. -/
  | overlong

namespace Given

def ofYaml : Yaml.Value → Given
  | .text s => text s
  | .bool b => flag b
  | .int n => number n
  | .bytes content => bytes content
  | .overlong _ => overlong
  | v => other v.isPresent

def ofJson : Json → Given
  | .str s => text s
  | .bool b => flag b
  | .int n => number n
  | v => if v.isOverlong then overlong else other v.isPresent

def isPresent : Given → Bool
  | text s => s != ""
  | flag b => b
  | number n => n != 0
  | bytes content => !content.isEmpty
  | other b => b
  | overlong => true

def trueWords : List String := ["1", "true", "yes", "on"]

def isTrueWord (s : String) : Bool :=
  trueWords.contains (String.ofList (Text.Casing.lower (Text.trim s.toList)))

/-- The truth of a value: its own, or that of the word that it is.  What cannot be written, for the
length of an integer, has none. -/
def asFlag? : Given → Option Bool
  | text s => some (isTrueWord s)
  | flag b => some b
  | number n => (Text.decimal? n).map isTrueWord
  | bytes _ => some false
  | other _ => some false
  | overlong => none

/-- A text, or bytes that encode one. -/
def asText : Given → Except Schema.Lack String
  | text s => .ok s
  | bytes content =>
    match Text.decodeUtf8 ⟨content.toArray⟩ with
    | .ok s => .ok s
    | .error _ => .error .encodedText
  | _ => .error .text

end Given

/-- What can be set. -/
inductive Field where
  | serverUrl
  | modelDir
  | insecure
  deriving DecidableEq

namespace Field

/-- The fields with the variables that set them. -/
def variableNames : List (String × Field) :=
  [("EPI_URL", serverUrl), ("EPI_MODEL_PATH", modelDir), ("EPI_INSECURE", insecure)]

/-- The fields with the keys of the settings file that set them. -/
def keys : List (String × Field) :=
  [("url", serverUrl), ("episerver_url", serverUrl), ("model_dir", modelDir), ("insecure", insecure)]

/-- The fields with the names under which they are overridden. -/
def names : List (String × Field) :=
  [("episerver_url", serverUrl), ("model_dir", modelDir), ("insecure", insecure)]

/-- The fields that are no settings. -/
def fixedNames : List String := ["root_dir", "environment", "sources"]

end Field

structure Configuration where
  rootDir : Path
  environment : Environment
  serverUrl : String
  modelDir : String
  insecure : Bool
  sources : List Path

/-- The directory that models are written to. -/
def Configuration.modelPath (s : Configuration) : Path := s.rootDir.join (Path.ofString s.modelDir)

/-- What is wrong with the settings. -/
inductive ConfigError where
  | unknownEnvironment (name : String)
  | unreadable (path : Path) (e : DiskError)
  | notYaml (path : Path)
  | notMapping (path : Path) (kind : String)
  | noServer
  | invalid (e : Schema.Invalid)

def ConfigError.message : ConfigError → String
  | .unknownEnvironment name => "Unknown environment '" ++ name ++ "', expected one of: " ++
      ", ".intercalate (Environment.all.map (·.name))
  | .unreadable path e => "Cannot read " ++ path.toString ++ ": " ++ e.message
  | .notYaml path => "Invalid YAML in " ++ path.toString
  | .notMapping path kind => "Expected a YAML mapping in " ++ path.toString ++ ", got " ++ kind
  | .noServer => "No Episerver URL configured. Set EPI_URL in .env or pass --domain."
  | .invalid e => "Invalid sync configuration: " ++ e.message

/-- Why settings could not be determined. -/
inductive Failure where
  | config (e : ConfigError)
  /-- A file is not accessible, or holds no text. -/
  | reading (e : ReadError)
  /-- A value in the settings file is none of its kind. -/
  | value (f : Yaml.Fault)
  /-- What stands in the place of a flag is or holds an integer that is too long to be written. -/
  | longInteger
  /-- A field is overridden that follows from where settings are looked for. -/
  | repeated (name : String)

/-- The message for a field that is given twice. -/
def repeatedMessage (name : String) : String :=
  "episync.core.config.loader.SyncConfig() got multiple values for keyword argument " ++
    Text.quoted name

/-! ## Checks -/

/-- The address of the server ends in a slash. -/
def checkServerUrl (given : Given) : Schema.Checked String :=
  let fault (lack : Schema.Lack) : Schema.Checked String :=
    .error [⟨[.field "episerver_url"], lack⟩]
  match given.asText with
  | .error lack => fault lack
  | .ok s =>
    match Net.Url.ofString s with
    | .error e => fault (.rule e.message)
    | .ok u =>
      let scheme := String.ofList u.scheme
      if (scheme = "http" ∨ scheme = "https") ∧ u.netloc ≠ [] then
        .ok (if s.toList.getLast? = some '/' then s else s ++ "/")
      else fault (.rule ("not an http(s) URL: " ++ Text.quoted s))

def defaultModelDir : String := "src/Models/Episerver"

def checkModelDir : Option Given → Schema.Checked String
  | none => .ok defaultModelDir
  | some given =>
    let fault (lack : Schema.Lack) : Schema.Checked String :=
      .error [⟨[.field "model_dir"], lack⟩]
    match given.asText with
    | .error lack => fault lack
    | .ok s =>
      if Text.trim s.toList = [] then fault (.rule "Episerver models directory not set") else .ok s

end TypedContent.Settings
