/-!
# File trees

A tree maps locations to files and directories.  A location is the list of names on the way from
the root, which is always a directory.
-/

namespace TypedContent.Files

abbrev Location := List String

inductive Entry where
  | file (bytes : ByteArray)
  | directory

/-- Files are equal if their bytes are. -/
instance : DecidableEq Entry
  | .file a, .file b =>
    if h : a.data.toList = b.data.toList then
      isTrue (congrArg Entry.file (ByteArray.ext (Array.toList_inj.mp h)))
    else isFalse fun e => h (by rw [Entry.file.inj e])
  | .directory, .directory => isTrue rfl
  | .file _, .directory => isFalse nofun
  | .directory, .file _ => isFalse nofun

structure Tree where
  entries : List (Location × Entry)

namespace Tree

def empty : Tree := ⟨[]⟩

/-- What is at a location. -/
def find? (t : Tree) (l : Location) : Option Entry :=
  if l = [] then some .directory else t.entries.lookup l

def erase (t : Tree) (l : Location) : Tree := ⟨t.entries.filter fun e => e.1 ≠ l⟩

/-- Puts an entry at a location, in place of what was there. -/
def insert (t : Tree) (l : Location) (e : Entry) : Tree := ⟨(l, e) :: (t.erase l).entries⟩

/-- Takes away a location and everything below it. -/
def prune (t : Tree) (l : Location) : Tree := ⟨t.entries.filter fun e => !l.isPrefixOf e.1⟩

/-- The entries directly in a directory, with their names. -/
def children (t : Tree) (l : Location) : List (String × Entry) :=
  t.entries.filterMap fun (m, e) =>
    match m.getLast? with
    | some name => if m.dropLast = l then some (name, e) else none
    | none => none

/-- The directories below a location, as lists of names from there. -/
def directoriesBelow (t : Tree) (l : Location) : List (List String) :=
  t.entries.filterMap fun (m, e) =>
    if e = .directory ∧ l.isPrefixOf m ∧ m ≠ l then some (m.drop l.length) else none

/-- Puts directories on the whole way to a location where nothing is yet. -/
def withParents (t : Tree) (l : Location) : Tree :=
  (List.range l.length).foldl (fun t i =>
    match t.find? (l.take i) with
    | some _ => t
    | none => t.insert (l.take i) .directory) t

theorem find?_erase (t : Tree) (l m : Location) (hm : m ≠ []) :
    (t.erase l).find? m = if m = l then none else t.find? m := by
  simp only [find?, hm, if_false, erase]
  obtain ⟨es⟩ := t
  simp only
  induction es with
  | nil => simp
  | cons e es ih =>
    obtain ⟨k, v⟩ := e
    by_cases he : k = l
    · by_cases hl : m = l
      · simpa [he, hl] using ih
      · have : (m == l) = false := by simpa using hl
        simpa [he, hl, List.lookup_cons, this] using ih
    · by_cases hl : m = k
      · simp [he, hl]
      · have h : (m == k) = false := by simpa using hl
        simpa [he, List.lookup_cons, h] using ih

theorem find?_insert (t : Tree) (l m : Location) (e : Entry) (hm : m ≠ []) :
    (t.insert l e).find? m = if m = l then some e else t.find? m := by
  by_cases h : m = l
  · simp [insert, find?, h, h ▸ hm]
  · have hb : (m == l) = false := by simpa using h
    have := find?_erase t l m hm
    simp only [find?, hm, if_false, h] at this ⊢
    simpa [insert, List.lookup_cons, hb] using this

end Tree

end TypedContent.Files
