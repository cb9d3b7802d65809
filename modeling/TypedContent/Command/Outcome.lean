import TypedContent.Command.Grammar
import TypedContent.Preload.Loader
import TypedContent.Settings.Load
import TypedContent.Sync.Client
import TypedContent.Text.Digits
import TypedContent.Text.Styling

/-!
# Outcomes of commands

A command works on a disk, with the variables of its environment and a network.  It prints, ends
with a code, and leaves a disk behind.
-/

namespace TypedContent.Command

open Files

/-- What surrounds a command. -/
structure World where
  disk : Disk
  environ : List (String × String)
  network : Net.Network

/-- A failure that a command does not explain. -/
inductive Crash where
  | settings (f : Settings.Failure)
  | preload (f : Preload.Failure)
  | access (e : AccessError)
  | reading (e : ReadError)

structure Outcome where
  code : Nat
  out : String
  err : String
  log : List Log.Event
  exchanges : List Sync.Exchange
  disk : Disk
  crash : Option Crash

namespace Outcome

/-- The outcome of a command that prints a text and has no other effect. -/
def printed (d : Disk) (out : String) : Outcome := ⟨0, out, "", [], [], d, none⟩

/-- The outcome of a command that fails with a message. -/
def failed (d : Disk) (log : List Log.Event) (message : String) : Outcome :=
  ⟨1, "", "❌ " ++ message ++ "\n", log, [], d, none⟩

def crashed (d : Disk) (log : List Log.Event) (c : Crash) : Outcome := ⟨1, "", "", log, [], d, some c⟩

def misused (d : Disk) (s : Spec) (m : Misuse) : Outcome := ⟨2, "", m.report s, [], [], d, none⟩

/-- The outcome with plain output. -/
def unstyled (o : Outcome) : Outcome :=
  { o with out := Text.unstyled o.out, err := Text.unstyled o.err }

end Outcome

/-! ## Checking words -/

/-- Why the words of a command line are not taken. -/
inductive Refusal where
  | misuse (m : Misuse)
  | crash (c : Crash)

/-- What a path given as a word leads to.  A slash at the end asks for a directory. -/
def lookUp (d : Disk) (word : String) : Except Refusal (Option Entry) :=
  let p := Path.ofString word
  if p.hasNul then .error (.crash (.access .nulInPath))
  else if word = "" then .ok none
  else
    let asksDirectory := ['/'].isSuffixOf word.toList || ['/', '.'].isSuffixOf word.toList
    match d.entry p with
    | .ok (_, .directory) => .ok (some .directory)
    | .ok (_, .file bytes) => .ok (if asksDirectory then none else some (.file bytes))
    | .error _ => .ok none

/-- A word for a directory must not name a file. -/
def checkDirectory (d : Disk) (o : OptionSpec) (v : String) : Except Refusal Unit := do
  match ← lookUp d v with
  | some (.file _) =>
    throw (.misuse (.invalidValue o.names ("Directory " ++ Text.quoted v ++ " is a file.")))
  | _ => pure ()

/-- An argument for a file must name one. -/
def checkFile (d : Disk) (name v : String) : Except Refusal Unit := do
  match ← lookUp d v with
  | some (.file _) => pure ()
  | some .directory =>
    throw (.misuse (.invalidValue [name] ("File " ++ Text.quoted v ++ " is a directory.")))
  | none => throw (.misuse (.invalidValue [name] ("File " ++ Text.quoted v ++ " does not exist.")))

/-- An integer between two bounds. -/
def checkRange (o : OptionSpec) (low high : Int) (v : String) : Except Refusal Unit :=
  match Text.integer? 10 v.toList with
  | none => .error (.misuse (.invalidValue o.names (Text.quoted v ++ " is not a valid integer range.")))
  | some n =>
    if low ≤ n ∧ n ≤ high then .ok ()
    else .error (.misuse (.invalidValue o.names (toString n ++ " is not in the range " ++
      toString low ++ "<=x<=" ++ toString high ++ ".")))

/-- Checks each value with the option's own check, in order. -/
def checkGiven (check : OptionSpec → String → Except Refusal Unit) (w : Words) : Except Refusal Unit :=
  w.keys.forM fun key =>
    match w.options.reverse.find? fun g => g.option.key == key with
    | some g => check g.option g.value
    | none => .ok ()

/-- Options that have to be given. -/
def checkRequired (names : List String) (w : Words) : Except Refusal Unit :=
  names.forM fun n => if w.isGiven n then .ok () else .error (.misuse (.missingOption n))

/-- At most `n` arguments. -/
def checkCount (n : Nat) (w : Words) : Except Refusal Unit :=
  match w.arguments.drop n with
  | [] => .ok ()
  | more => .error (.misuse (.extraArguments more))

/-- The outcome for words that are not taken. -/
def Refusal.outcome (d : Disk) (s : Spec) : Refusal → Outcome
  | .misuse m => .misused d s m
  | .crash c => .crashed d [] c

/-- Reads the words of a command, and carries it out if they are as they should be. -/
def Spec.perform (s : Spec) (d : Disk) (words : List String) (check : Words → Except Refusal Unit)
    (command : Words → Outcome) : Outcome :=
  match s.read words with
  | .error m => .misused d s m
  | .ok w =>
    if w.isGiven "--help" then .printed d (s.usage ++ "\n")
    else match check w with
      | .error r => r.outcome d s
      | .ok () => command w

end TypedContent.Command
