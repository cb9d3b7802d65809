import TypedContent.Distinct
import TypedContent.Files.Disk
import TypedContent.Preload.Wildcard

/-!
# Glob patterns

A glob pattern selects what lies below a directory, one part of the pattern for each level.  The
part `**` stands for any number of directories, none included.
-/

namespace TypedContent.Preload

open Files

inductive GlobPart where
  | named (name : String)
  | wildcard (pieces : List Piece)
  | anyDepth

/-- `onlyDirectories` is set by a slash at the end. -/
structure Glob where
  parts : List GlobPart
  onlyDirectories : Bool

inductive GlobError where
  | empty
  | absolute
  | misplacedDepth
  /-- The pattern names the directory itself. -/
  | noParts
  /-- The pattern names the directory itself, with a slash behind it. -/
  | onlySlash

/-- The refusals that are explained in words. -/
def GlobError.message? : GlobError → Option String
  | .empty => some "Unacceptable pattern: ''"
  | .absolute => some "Non-relative patterns are unsupported"
  | .misplacedDepth => some "Invalid pattern: '**' can only be an entire path component"
  | .noParts => none
  | .onlySlash => none

namespace Glob

/-- Whether two stars stand side by side. -/
def hasDoubleStar : List Char → Bool
  | '*' :: '*' :: _ => true
  | _ :: s => hasDoubleStar s
  | [] => false

def isWildcard (s : List Char) : Bool := s.any fun c => c == '*' || c == '?' || c == '['

def readPart (s : String) : Except GlobError GlobPart :=
  if s = "**" then .ok .anyDepth
  else if hasDoubleStar s.toList then .error .misplacedDepth
  else if isWildcard s.toList then .ok (.wildcard (Wildcard.pieces s.toList))
  else .ok (.named s)

def readParts : List String → Except GlobError (List GlobPart)
  | [] => .ok []
  | s :: ss => do
    let p ← readPart s
    let ps ← readParts ss
    pure (p :: ps)

def ofString (pattern : String) : Except GlobError Glob :=
  if pattern = "" then .error .empty
  else
    let path := Path.ofString pattern
    let slash := pattern.toList.getLast? == some '/'
    if path.anchor ≠ .here then .error .absolute
    else if path.parts = [] then .error (if slash then .onlySlash else .noParts)
    else (readParts path.parts).map fun ps => ⟨ps, slash⟩

/-- The path of something below a directory. -/
def below (base : Path) (names : List String) : Path := ⟨base.anchor, base.parts ++ names⟩

/-- The entries of a directory below `base`; what is no directory has none. -/
def childrenOf (d : Disk) (base : Path) (names : List String) :
    Except DiskError (List (String × Entry)) :=
  match d.entry (below base names) with
  | .ok (l, .directory) => .ok (d.tree.children l)
  | .error .nameTooLong => .error (.system .nameTooLong (below base names))
  | _ => .ok []

/-- The directories below a directory, at any depth, itself first. -/
def startingPoints (d : Disk) (base : Path) (names : List String) : List (List String) :=
  names :: match d.entry (below base names) with
    | .ok (l, .directory) => (d.tree.directoriesBelow l).map (names ++ ·)
    | _ => []

/-- What the parts select below `base`, beginning at the directory `names`. -/
def selectFrom (d : Disk) (base : Path) (onlyDirectories : Bool) :
    List GlobPart → List String → Except DiskError (List (List String))
  | [], names => .ok [names]
  | .named n :: rest, names => do
    let target := names ++ [n]
    let found ← d.probe (below base target)
    let fits := match found with
      | some .directory => true
      | some (.file _) => rest.isEmpty && !onlyDirectories
      | none => false
    if fits then selectFrom d base onlyDirectories rest target else pure []
  | .wildcard pieces :: rest, names => do
    let children ← childrenOf d base names
    let fitting := children.filter fun (n, e) =>
      (decide (e = .directory) || (rest.isEmpty && !onlyDirectories)) &&
        Piece.matchAll pieces n.toList
    let selected ← fitting.mapM fun (n, _) => selectFrom d base onlyDirectories rest (names ++ [n])
    pure selected.flatten
  | .anyDepth :: rest, names => do
    let selected ← (startingPoints d base names).mapM fun start => do
      let found ← selectFrom d base onlyDirectories rest start
      -- A directory is listed before those below it are found.
      let _ ← childrenOf d base start
      pure found
    pure (distinct selected.flatten)

/-- What the pattern selects below the directory `base`, as lists of names from there. -/
def select (g : Glob) (d : Disk) (base : Path) : Except DiskError (List (List String)) :=
  selectFrom d base g.onlyDirectories g.parts []

end Glob

end TypedContent.Preload
