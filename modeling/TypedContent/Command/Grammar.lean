import TypedContent.Text.Quoted
import TypedContent.Text.Similar

/-!
# Command lines

The words of a command line are options, with or without a value, and arguments.  Options have long
names, of which a value may be cut off by an equals sign, and short ones, which can stand together
in one word.  What is wrong with a command line is told with the usage of the command.
-/

namespace TypedContent.Command

structure OptionSpec where
  names : List String
  takesValue : Bool

/-- The name under which an option is asked for. -/
def OptionSpec.key (o : OptionSpec) : String := o.names.headD ""

/-- A command: its full name, how its arguments are shown, and its options.  Options of a group of
commands stand before the name of the command in the group. -/
structure Spec where
  path : String
  arguments : String
  options : List OptionSpec
  isGroup : Bool

inductive Misuse where
  | noSuchOption (name : String) (similar : List String)
  | noSuchCommand (name : String) (similar : List String)
  | missingCommand
  | missingArgument (name : String)
  | missingOption (name : String)
  | extraArguments (words : List String)
  | invalidValue (names : List String) (problem : String)
  | needsValue (name : String)
  | takesNoValue (name : String)

/-- Names that may have been meant. -/
def suggestion : List String → String
  | [] => ""
  | [name] => " Did you mean " ++ Text.quoted name ++ "?"
  | names => " (Did you mean one of: " ++ ", ".intercalate (names.map Text.quoted) ++ "?)"

def Misuse.message : Misuse → String
  | .noSuchOption name similar => "No such option " ++ Text.quoted name ++ "." ++ suggestion similar
  | .noSuchCommand name similar => "No such command " ++ Text.quoted name ++ "." ++ suggestion similar
  | .missingCommand => "Missing command."
  | .missingArgument name => "Missing argument " ++ Text.quoted name ++ "."
  | .missingOption name => "Missing option " ++ Text.quoted name ++ "."
  | .extraArguments [word] => "Got unexpected extra argument (" ++ word ++ ")"
  | .extraArguments words => "Got unexpected extra arguments (" ++ " ".intercalate words ++ ")"
  | .invalidValue names problem =>
    "Invalid value for " ++ " / ".intercalate (names.map Text.quoted) ++ ": " ++ problem
  | .needsValue name => "Option " ++ Text.quoted name ++ " requires an argument."
  | .takesNoValue name => "Option " ++ Text.quoted name ++ " does not take a value."

/-- Whether the usage of the command is told as well. -/
def Misuse.showsUsage : Misuse → Bool
  | .needsValue _ => false
  | .takesNoValue _ => false
  | _ => true

def Spec.usage (s : Spec) : String := "Usage: " ++ s.path ++ " [OPTIONS]" ++ s.arguments

/-- What is printed for a misuse. -/
def Misuse.report (s : Spec) (m : Misuse) : String :=
  (if m.showsUsage then
    s.usage ++ "\nTry '" ++ s.path ++ " --help' for help.\n\n" else "") ++
    "Error: " ++ m.message ++ "\n"

/-! ## Reading words -/

/-- An option that was given, with its value. -/
structure GivenOption where
  option : OptionSpec
  value : String

/-- The words of a command line, read: options in their order, then arguments. -/
structure Words where
  options : List GivenOption
  arguments : List String

namespace Spec

def help : OptionSpec := ⟨["--help"], false⟩

def allOptions (s : Spec) : List OptionSpec := s.options ++ [help]

def isShort (name : String) : Bool :=
  match name.toList with
  | ['-', c] => c != '-'
  | _ => false

def longNames (s : Spec) : List String := (s.allOptions.flatMap (·.names)).filter fun n => !isShort n

def find? (s : Spec) (short : Bool) (name : String) : Option OptionSpec :=
  s.allOptions.find? fun o => o.names.any fun n => isShort n == short && n == name

/-- The value of an option, which is the next word unless it stands in the same word. -/
def takeValue (name : String) (attached : Option String) (rest : List String) :
    Except Misuse (String × List String) :=
  match attached, rest with
  | some v, rest => .ok (v, rest)
  | none, v :: rest => .ok (v, rest)
  | none, [] => .error (.needsValue name)

/-- Reads the characters of short options that stand together. -/
def shortOptions (s : Spec) : List Char → List String → Except Misuse (List GivenOption × List String)
  | [], rest => .ok ([], rest)
  | c :: cs, rest =>
    let name := String.ofList ['-', c]
    match s.find? true name with
    | none => .error (.noSuchOption name [])
    | some o =>
      if o.takesValue then do
        let attached := if cs.isEmpty then none else some (String.ofList cs)
        let (v, rest) ← takeValue name attached rest
        pure ([⟨o, v⟩], rest)
      else do
        let (more, rest) ← s.shortOptions cs rest
        pure (⟨o, ""⟩ :: more, rest)

/-- Cuts a word at its first equals sign. -/
def cutValue (word : List Char) : String × Option String :=
  let name := String.ofList (word.takeWhile (· != '='))
  match word.dropWhile (· != '=') with
  | [] => (name, none)
  | _ :: v => (name, some (String.ofList v))

/-- Reads a word that begins with a hyphen. -/
def optionWord (s : Spec) (word : List Char) (rest : List String) :
    Except Misuse (List GivenOption × List String) :=
  let (name, attached) := cutValue word
  match s.find? false name with
  | some o =>
    if o.takesValue then do
      let (v, rest) ← takeValue name attached rest
      pure ([⟨o, v⟩], rest)
    else if attached.isSome then .error (.takesNoValue name)
    else .ok ([⟨o, ""⟩], rest)
  | none =>
    if ['-', '-'].isPrefixOf word then
      .error (.noSuchOption name (Text.Similar.closest s.longNames name))
    else s.shortOptions (word.drop 1) rest

/-- Whether a word is an option; a single hyphen is not. -/
def isOptionWord : List Char → Bool
  | '-' :: _ :: _ => true
  | _ => false

/-- Reads words up to two hyphens; each round takes a word.  In a group the first argument ends the
options. -/
def readWords (s : Spec) : Nat → List String → Except Misuse Words
  | 0, ws => .ok ⟨[], ws⟩
  | _, [] => .ok ⟨[], []⟩
  | fuel + 1, w :: ws =>
    if w = "--" then .ok ⟨[], ws⟩
    else if isOptionWord w.toList then do
      let (given, rest) ← s.optionWord w.toList ws
      let words ← s.readWords fuel rest
      pure { words with options := given ++ words.options }
    else if s.isGroup then .ok ⟨[], w :: ws⟩
    else do
      let words ← s.readWords fuel ws
      pure { words with arguments := w :: words.arguments }

def read (s : Spec) (ws : List String) : Except Misuse Words := s.readWords ws.length ws

end Spec

namespace Words

/-- The value that an option was given last. -/
def value? (w : Words) (key : String) : Option String :=
  (w.options.reverse.find? fun g => g.option.key == key).map (·.value)

def isGiven (w : Words) (key : String) : Bool := (w.value? key).isSome

/-- The keys of the given options, in the order in which they first stand. -/
def keys (w : Words) : List String := (w.options.map (·.option.key)).eraseDups

end Words

/-! ## Checking values -/

/-- One of a few words. -/
def checkChoice (o : OptionSpec) (choices : List String) (v : String) : Except Misuse Unit :=
  if choices.contains v then .ok ()
  else .error (.invalidValue o.names (Text.quoted v ++ " is not one of " ++
    ", ".intercalate (choices.map Text.quoted) ++ "."))

end TypedContent.Command
