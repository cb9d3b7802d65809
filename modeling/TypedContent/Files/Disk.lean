import TypedContent.Files.Path
import TypedContent.Files.Tree
import TypedContent.Text.Encoding
import TypedContent.Text.Lines

/-!
# Disks

A disk is a tree, a current directory, and the faults of the device: operations that fail whatever
the tree holds.  A path is followed part by part, and each part but the last must be a directory.
-/

namespace TypedContent.Files

/-! ## What can go wrong -/

inductive Cause where
  | notFound
  | occupied
  | notDirectory
  | isDirectory
  | nameTooLong
  deriving DecidableEq

def Cause.number : Cause → Nat
  | .notFound => 2
  | .occupied => 17
  | .notDirectory => 20
  | .isDirectory => 21
  | .nameTooLong => 36

def Cause.text : Cause → String
  | .notFound => "No such file or directory"
  | .occupied => "File exists"
  | .notDirectory => "Not a directory"
  | .isDirectory => "Is a directory"
  | .nameTooLong => "File name too long"

/-- The system refuses an operation on a path, or the device fails. -/
inductive DiskError where
  | system (cause : Cause) (path : Path)
  | device (message : String)

def DiskError.message : DiskError → String
  | .system cause path => "[Errno " ++ toString cause.number ++ "] " ++ cause.text ++ ": " ++
      Text.quoted path.toString
  | .device message => message

/-- A path with a NUL character names nothing that could be asked for. -/
inductive AccessError where
  | disk (e : DiskError)
  | nulInPath

def AccessError.message : AccessError → String
  | .disk e => e.message
  | .nulInPath => "embedded null byte"

/-- A file is not accessible, or holds no text. -/
inductive ReadError where
  | access (e : AccessError)
  | undecodable (e : Text.DecodeError)

def ReadError.message : ReadError → String
  | .access e => e.message
  | .undecodable e => e.message

/-! ## The disk -/

inductive Operation where
  | list
  | remove
  | write
  | read
  | makeDirectory
  deriving DecidableEq

/-- The message with which the device answers an operation on a file of this name. -/
abbrev Faults := Operation → String → Option String

def noFaults : Faults := fun _ _ => none

structure Disk where
  tree : Tree
  current : Location
  faults : Faults

namespace Disk

/-- The longest name and the longest path that the system takes, in bytes. -/
def maxName : Nat := 255
def maxPath : Nat := 4095

/-- Follows the parts from a location.  Nothing need be at the end. -/
def follow (t : Tree) (l : Location) : List String → Except Cause Location
  | [] => .ok l
  | part :: rest =>
    match t.find? l with
    | none => .error .notFound
    | some (.file _) => .error .notDirectory
    | some .directory =>
      if part = ".." then follow t l.dropLast rest
      else if maxName < part.utf8ByteSize then .error .nameTooLong
      else follow t (l ++ [part]) rest

/-- The directory that a path starts from. -/
def start (d : Disk) (p : Path) : Location := if p.anchor = .here then d.current else []

def locate (d : Disk) (p : Path) : Except Cause Location :=
  if maxPath < p.toString.utf8ByteSize then .error .nameTooLong
  else follow d.tree (d.start p) p.parts

/-- What a path leads to. -/
def entry (d : Disk) (p : Path) : Except Cause (Location × Entry) := do
  let l ← d.locate p
  match d.tree.find? l with
  | some e => .ok (l, e)
  | none => .error .notFound

/-- Asks what a path leads to; a path that leads nowhere is an answer, not an error. -/
def probe (d : Disk) (p : Path) : Except DiskError (Option Entry) :=
  if p.hasNul then .ok none
  else match d.entry p with
    | .ok (_, e) => .ok (some e)
    | .error .nameTooLong => .error (.system .nameTooLong p)
    | .error _ => .ok none

def isFile (d : Disk) (p : Path) : Except DiskError Bool :=
  (d.probe p).map fun | some (.file _) => true | _ => false

def isDirectory (d : Disk) (p : Path) : Except DiskError Bool :=
  (d.probe p).map fun | some .directory => true | _ => false

/-- What holds before any operation on a path: no fault of the device, no NUL character. -/
def allow (d : Disk) (op : Operation) (p : Path) : Except AccessError Unit :=
  match d.faults op p.name with
  | some message => .error (.disk (.device message))
  | none => if p.hasNul then .error .nulInPath else .ok ()

def systemError {α : Type} (p : Path) (c : Cause) : Except AccessError α :=
  .error (.disk (.system c p))

/-- The names and entries of a directory. -/
def list (d : Disk) (p : Path) : Except AccessError (List (String × Entry)) := do
  d.allow .list p
  match d.entry p with
  | .error c => systemError p c
  | .ok (_, .file _) => systemError p .notDirectory
  | .ok (l, .directory) => .ok (d.tree.children l)

def readBytes (d : Disk) (p : Path) : Except AccessError ByteArray := do
  d.allow .read p
  match d.entry p with
  | .error c => systemError p c
  | .ok (_, .directory) => systemError p .isDirectory
  | .ok (_, .file bytes) => .ok bytes

/-- The text of a file, with uniform line ends. -/
def readText (d : Disk) (p : Path) : Except ReadError String :=
  match d.readBytes p with
  | .error e => .error (.access e)
  | .ok bytes =>
    match Text.decodeUtf8 bytes with
    | .error e => .error (.undecodable e)
    | .ok s => .ok (String.ofList (Text.uniformLines s.toList))

def setTree (d : Disk) (t : Tree) : Disk := { d with tree := t }

def writeBytes (d : Disk) (p : Path) (bytes : ByteArray) : Except AccessError Disk := do
  d.allow .write p
  match d.locate p with
  | .error c => systemError p c
  | .ok l =>
    match d.tree.find? l with
    | some .directory => systemError p .isDirectory
    | _ => .ok (d.setTree (d.tree.insert l (.file bytes)))

def writeText (d : Disk) (p : Path) (s : String) : Except AccessError Disk :=
  d.writeBytes p s.toUTF8

def remove (d : Disk) (p : Path) : Except AccessError Disk := do
  d.allow .remove p
  match d.entry p with
  | .error c => systemError p c
  | .ok (_, .directory) => systemError p .isDirectory
  | .ok (l, .file _) => .ok (d.setTree (d.tree.erase l))

/-! ## Making directories -/

/-- Makes one directory, inside a directory that is there.  A path that ends in double dots names
no new directory. -/
def makeOne (d : Disk) (p : Path) : Except Cause Disk := do
  let l ← d.locate p
  match d.tree.find? l with
  | some _ => .error .occupied
  | none => .ok (d.setTree (d.tree.insert l .directory))

/-- Makes the directory whose parts are given last first, and those above it.  A directory that is
there already will do.  What was made before a failure stays. -/
def makeUpwards (d : Disk) (anchor : Anchor) : List String → Disk × Option AccessError
  | [] =>
    let p : Path := ⟨anchor, []⟩
    match d.allow .makeDirectory p with
    | .error e => (d, some e)
    | .ok () => (d, none)
  | part :: above =>
    let p : Path := ⟨anchor, (part :: above).reverse⟩
    match d.allow .makeDirectory p with
    | .error e => (d, some e)
    | .ok () =>
      match d.makeOne p with
      | .ok d => (d, none)
      | .error .notFound =>
        match makeUpwards d anchor above with
        | (d, some e) => (d, some e)
        | (d, none) => settle d p
      | .error c => keep d p c
where
  /-- A refusal is no failure where a directory is. -/
  keep (d : Disk) (p : Path) (c : Cause) : Disk × Option AccessError :=
    match d.isDirectory p with
    | .ok true => (d, none)
    | _ => (d, some (.disk (.system c p)))
  /-- The second attempt, once the directory above is there. -/
  settle (d : Disk) (p : Path) : Disk × Option AccessError :=
    match d.makeOne p with
    | .ok d => (d, none)
    | .error .notFound => (d, some (.disk (.system .notFound p)))
    | .error c => keep d p c

section

variable {d e : Disk} {a : Anchor} {part : String} {above parts : List String} {x : AccessError}

theorem makeUpwards_of_refused (ha : d.allow .makeDirectory ⟨a, parts.reverse⟩ = .error x) :
    d.makeUpwards a parts = (d, some x) := by
  cases parts with
  | nil =>
    rw [List.reverse_nil] at ha
    simp only [makeUpwards, ha]
  | cons part above => simp only [makeUpwards, ha]

theorem makeUpwards_of_above (ha : d.allow .makeDirectory ⟨a, (part :: above).reverse⟩ = .ok ())
    (hone : d.makeOne ⟨a, (part :: above).reverse⟩ = .error .notFound)
    (hup : d.makeUpwards a above = (e, none)) :
    d.makeUpwards a (part :: above) = makeUpwards.settle e ⟨a, (part :: above).reverse⟩ := by
  rw [makeUpwards]
  simp only [ha, hone, hup]

theorem makeUpwards_of_above_failed
    (ha : d.allow .makeDirectory ⟨a, (part :: above).reverse⟩ = .ok ())
    (hone : d.makeOne ⟨a, (part :: above).reverse⟩ = .error .notFound)
    (hup : d.makeUpwards a above = (e, some x)) :
    d.makeUpwards a (part :: above) = (e, some x) := by
  rw [makeUpwards]
  simp only [ha, hone, hup]

theorem makeUpwards_of_error {c : Cause}
    (ha : d.allow .makeDirectory ⟨a, (part :: above).reverse⟩ = .ok ())
    (hone : d.makeOne ⟨a, (part :: above).reverse⟩ = .error c) (hc : c ≠ .notFound) :
    d.makeUpwards a (part :: above) = makeUpwards.keep d ⟨a, (part :: above).reverse⟩ c := by
  rw [makeUpwards]
  simp only [ha, hone]

end

/-- Makes a directory with all directories on the way to it. -/
def makeDirectory (d : Disk) (p : Path) : Disk × Option AccessError :=
  d.makeUpwards p.anchor p.parts.reverse

end Disk

end TypedContent.Files
