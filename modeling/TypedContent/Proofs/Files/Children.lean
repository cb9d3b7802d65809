import TypedContent.Proofs.Files.Directories

/-!
# Entries of a directory

What operations on an entry of a directory do, once the path of the directory leads to it:

* `writeText_child`: writing puts a file there, unless `writeAccess` refuses it; the refusal is the
  same on all disks with the same directories (`writeAccess_congr`);
* `list_eq_ok`, `isFile_child`: a directory is listed only if it is there, and looking an entry up
  tells whether there is a file; `isFile_eq_error_iff`: only a path that is too long is not;
* `readText_eq_ok`, `isFile_of_readBytes`: what is read is what the bytes of a file hold;
* `remove_eq_ok`, `entry_child_of_remove`, `entry_child_of_writeBytes`: removing takes a file away
  and nothing else, unless `removeAccess` refuses it, and writing changes no other entry.
-/

namespace TypedContent.Files.Disk

variable {d e : Disk} {p : Path} {l : Location} {name : String}

/-! ## Writing -/

/-- Whether the system lets a file `name` be written into the directory `p`, which is at `l`. -/
def writeAccess (d : Disk) (p : Path) (l : Location) (name : String) : Except AccessError Unit :=
  match d.allow .write (p.child name) with
  | .error e => .error e
  | .ok () =>
    if Fits p name then
      if d.tree.find? (l ++ [name]) = some .directory then systemError (p.child name) .isDirectory
      else .ok ()
    else systemError (p.child name) .nameTooLong

/-- The disk with a text in a file at `l`. -/
def put (d : Disk) (l : Location) (s : String) : Disk :=
  d.setTree (d.tree.insert l (.file s.toUTF8))

theorem find?_put (d : Disk) (l : Location) (name s : String) (m : Location) :
    (d.put (l ++ [name]) s).tree.find? m =
      if m = l ++ [name] then some (.file s.toUTF8) else d.tree.find? m :=
  Tree.find?_insert_of_ne_nil _ _ (by simp) m

theorem writeText_child (h : d.entry p = .ok (l, .directory)) (hn : name ≠ "..") (s : String) :
    d.writeText (p.child name) s =
      (d.writeAccess p l name).map fun _ => d.put (l ++ [name]) s := by
  unfold writeText writeBytes writeAccess
  cases ha : d.allow .write (p.child name) with
  | error a => rfl
  | ok u =>
    simp only [bind, Except.bind, locate_child h hn]
    by_cases hf : Fits p name
    · simp only [hf, if_true]
      cases hd : d.tree.find? (l ++ [name]) with
      | none => rfl
      | some x => cases x <;> rfl
    · simp only [hf, if_false]
      rfl

theorem writeBytes_eq_ok {q : Path} {bytes : ByteArray} (h : d.writeBytes q bytes = .ok e) :
    ∃ m, d.locate q = .ok m ∧ d.tree.find? m ≠ some .directory ∧
      e = d.setTree (d.tree.insert m (.file bytes)) := by
  unfold writeBytes at h
  cases ha : d.allow .write q with
  | error a => simp [ha, bind, Except.bind] at h
  | ok u =>
    simp only [ha, bind, Except.bind] at h
    split at h
    · contradiction
    · next m hm =>
      split at h
      · contradiction
      · next hfile => exact ⟨m, hm, hfile, (Except.ok.inj h).symm⟩

theorem fits_of_writeAccess (h : d.writeAccess p l name = .ok ()) : Fits p name := by
  unfold writeAccess at h
  split at h
  · contradiction
  · split at h
    · assumption
    · contradiction

/-- A write is not refused where a directory is. -/
theorem find?_ne_directory_of_writeAccess (h : d.writeAccess p l name = .ok ()) :
    d.tree.find? (l ++ [name]) ≠ some .directory := by
  intro hd
  unfold writeAccess at h
  split at h
  · contradiction
  · rw [if_pos hd] at h
    split at h <;> simp [systemError] at h

theorem sameDirectories_put (h : d.writeAccess p l name = .ok ()) (s : String) :
    SameDirectories d (d.put (l ++ [name]) s) :=
  .insert (find?_ne_directory_of_writeAccess h) _

/-- Files that come and go do not change which writes are refused, nor why. -/
theorem writeAccess_congr (h : SameDirectories d e) (p : Path) (l : Location) (name : String) :
    e.writeAccess p l name = d.writeAccess p l name := by
  unfold writeAccess
  rw [allow_congr h.faults]
  simp only [h.directory]

/-! ## Listing and looking up -/

theorem hasNul_child (p : Path) (name : String) :
    (p.child name).hasNul = (p.hasNul || name.toList.contains '\x00') := by
  simp [Path.hasNul, Path.child]

/-- A directory that is listed is there, and its path is free of NUL characters. -/
theorem list_eq_ok {entries : List (String × Entry)} (h : d.list p = .ok entries) :
    p.hasNul = false ∧ ∃ l, d.entry p = .ok (l, .directory) ∧ entries = d.tree.children l := by
  unfold list at h
  cases ha : d.allow .list p with
  | error a => simp [ha, bind, Except.bind] at h
  | ok u =>
    have hnul : p.hasNul = false := hasNul_of_allow ha
    simp only [ha, bind, Except.bind] at h
    cases he : d.entry p with
    | error c => simp [he, systemError] at h
    | ok x =>
      obtain ⟨m, y⟩ := x
      cases y with
      | file b => simp [he, systemError] at h
      | directory =>
        simp only [he, Except.ok.injEq] at h
        exact ⟨hnul, m, rfl, h.symm⟩

/-- A directory that is listed is listed as long as it stays. -/
theorem list_congr (h : SameDirectories d e) (hp : d.entry p = .ok (l, .directory))
    {entries : List (String × Entry)} (hl : d.list p = .ok entries) :
    e.list p = .ok (e.tree.children l) := by
  unfold list at hl ⊢
  rw [allow_congr h.faults, h.entry hp]
  cases ha : d.allow .list p with
  | error a => simp [ha, bind, Except.bind] at hl
  | ok u => rfl

theorem entry_congr {q : Path} (hl : e.locate q = d.locate q)
    (hm : ∀ m, d.locate q = .ok m → e.tree.find? m = d.tree.find? m) : e.entry q = d.entry q := by
  unfold entry
  rw [hl]
  cases hq : d.locate q with
  | error c => rfl
  | ok m => simp only [bind, Except.bind, hm m hq]

/-- Writing one entry leaves all others. -/
theorem entry_child_of_writeBytes {bytes : ByteArray} (hp : d.entry p = .ok (l, .directory))
    (h : d.writeBytes (p.child name) bytes = .ok e) {other : String} (hne : other ≠ name) :
    e.entry (p.child other) = d.entry (p.child other) := by
  obtain ⟨k, hk, hfile, rfl⟩ := writeBytes_eq_ok h
  have hplace := (SameDirectories.insert hfile bytes).entry hp
  refine entry_congr (locate_child_congr hp hplace other) fun m hm => ?_
  have hroot : k ≠ [] := Tree.ne_nil_of_find?_ne hfile
  rw [setTree, Tree.find?_insert_of_ne_nil _ _ hroot, if_neg]
  rintro rfl
  exact hne (locate_child_inj hp hm hk)

theorem isFile_congr {q : Path} (h : e.entry q = d.entry q) : e.isFile q = d.isFile q := by
  unfold isFile probe
  rw [h]

theorem isFile_eq_ok_true_iff {q : Path} :
    d.isFile q = .ok true ↔ q.hasNul = false ∧ ∃ m b, d.entry q = .ok (m, .file b) := by
  unfold isFile probe
  cases q.hasNul with
  | true => simp [Except.map]
  | false =>
    cases he : d.entry q with
    | error c => cases c <;> simp [Except.map]
    | ok x =>
      obtain ⟨m, y⟩ := x
      cases y <;> simp [Except.map]

/-- A path is not looked up exactly if it is too long. -/
theorem probe_eq_error_iff {q : Path} {x : DiskError} :
    d.probe q = .error x ↔
      q.hasNul = false ∧ d.locate q = .error .nameTooLong ∧ x = .system .nameTooLong q := by
  unfold probe entry
  cases q.hasNul with
  | true => simp
  | false =>
    cases hl : d.locate q with
    | error c => cases c <;> simp [bind, Except.bind, eq_comm]
    | ok m =>
      simp only [bind, Except.bind]
      cases d.tree.find? m <;> simp

theorem isFile_eq_error_iff {q : Path} {x : DiskError} :
    d.isFile q = .error x ↔
      q.hasNul = false ∧ d.locate q = .error .nameTooLong ∧ x = .system .nameTooLong q := by
  rw [← probe_eq_error_iff, isFile]
  cases d.probe q <;> simp [Except.map]

theorem isDirectory_eq_error_iff {q : Path} {x : DiskError} :
    d.isDirectory q = .error x ↔
      q.hasNul = false ∧ d.locate q = .error .nameTooLong ∧ x = .system .nameTooLong q := by
  rw [← probe_eq_error_iff, isDirectory]
  cases d.probe q <;> simp [Except.map]

/-- Whether a path is looked up depends on where it leads, not on what is there. -/
theorem isFile_eq_error_congr {q : Path} (hl : e.locate q = d.locate q) (x : DiskError) :
    e.isFile q = .error x ↔ d.isFile q = .error x := by
  rw [isFile_eq_error_iff, isFile_eq_error_iff, hl]

/-- The answer for an entry whose path the system takes. -/
theorem isFile_child (h : d.entry p = .ok (l, .directory)) (hn : name ≠ "..")
    (hnul : (p.child name).hasNul = false) (hf : Fits p name) :
    d.isFile (p.child name) = .ok (d.tree.file? (l ++ [name])).isSome := by
  unfold isFile probe entry
  simp only [hnul, locate_child h hn, hf, Bool.false_eq_true, if_true, if_false, bind, Except.bind]
  cases hd : d.tree.find? (l ++ [name]) with
  | none => simp [Tree.file?, hd, Except.map]
  | some x => cases x <;> simp [Tree.file?, hd, Except.map]

/-- An entry whose path is too long is not looked up at all. -/
theorem isFile_child_of_not_fits (h : d.entry p = .ok (l, .directory)) (hn : name ≠ "..")
    (hnul : (p.child name).hasNul = false) (hf : ¬ Fits p name) :
    d.isFile (p.child name) = .error (.system .nameTooLong (p.child name)) := by
  unfold isFile probe entry
  simp [hnul, locate_child h hn, hf, bind, Except.bind, Except.map]

/-! ## Reading -/

theorem readBytes_eq_ok {q : Path} {bytes : ByteArray} (h : d.readBytes q = .ok bytes) :
    q.hasNul = false ∧ ∃ m, d.entry q = .ok (m, .file bytes) := by
  unfold readBytes at h
  cases ha : d.allow .read q with
  | error a => simp [ha, bind, Except.bind] at h
  | ok u =>
    simp only [ha, bind, Except.bind] at h
    split at h
    · contradiction
    · contradiction
    · next m b he =>
      obtain rfl := Except.ok.inj h
      exact ⟨hasNul_of_allow ha, m, he⟩

theorem isFile_of_readBytes {q : Path} {bytes : ByteArray} (h : d.readBytes q = .ok bytes) :
    d.isFile q = .ok true := by
  obtain ⟨hnul, m, he⟩ := readBytes_eq_ok h
  exact isFile_eq_ok_true_iff.mpr ⟨hnul, m, bytes, he⟩

theorem readText_eq_ok {q : Path} {text : String} (h : d.readText q = .ok text) :
    ∃ bytes s, d.readBytes q = .ok bytes ∧ Text.decodeUtf8 bytes = .ok s ∧
      text = String.ofList (Text.uniformLines s.toList) := by
  unfold readText at h
  split at h
  · contradiction
  · next bytes hbytes =>
    split at h
    · contradiction
    · next s hs => exact ⟨bytes, s, hbytes, hs, (Except.ok.inj h).symm⟩

theorem readBytes_of_readText {q : Path} {x : AccessError} (h : d.readText q = .error (.access x)) :
    d.readBytes q = .error x := by
  unfold readText at h
  split at h
  · next y hbytes => rw [hbytes, ReadError.access.inj (Except.error.inj h)]
  · next bytes hbytes => cases hs : Text.decodeUtf8 bytes <;> simp [hs] at h

theorem readText_congr {q : Path} (hf : e.faults = d.faults) (he : e.entry q = d.entry q) :
    e.readText q = d.readText q := by
  unfold readText readBytes
  rw [he, allow_congr hf]

/-! ## Removing -/

theorem remove_eq_ok {p : Path} (h : d.remove p = .ok e) :
    ∃ l b, d.entry p = .ok (l, .file b) ∧ e = d.setTree (d.tree.erase l) := by
  unfold remove at h
  cases ha : d.allow .remove p with
  | error a => simp [ha, bind, Except.bind] at h
  | ok u =>
    simp only [ha, bind, Except.bind] at h
    cases he : d.entry p with
    | error c => simp [he, systemError] at h
    | ok x =>
      obtain ⟨m, y⟩ := x
      cases y with
      | file b =>
        simp only [he, Except.ok.injEq] at h
        exact ⟨m, b, rfl, h.symm⟩
      | directory => simp [he, systemError] at h

/-- Whether the system lets a file be removed, and where the file is. -/
def removeAccess (d : Disk) (q : Path) : Except AccessError Location :=
  match d.allow .remove q with
  | .error a => .error a
  | .ok () =>
    match d.entry q with
    | .error c => systemError q c
    | .ok (_, .directory) => systemError q .isDirectory
    | .ok (m, .file _) => .ok m

theorem remove_eq (d : Disk) (q : Path) :
    d.remove q = (d.removeAccess q).map fun m => d.setTree (d.tree.erase m) := by
  unfold remove removeAccess
  cases d.allow .remove q with
  | error a => rfl
  | ok u =>
    simp only [bind, Except.bind]
    cases d.entry q with
    | error c => rfl
    | ok x =>
      obtain ⟨m, y⟩ := x
      cases y <;> rfl

theorem removeAccess_congr {q : Path} (hf : e.faults = d.faults) (he : e.entry q = d.entry q) :
    e.removeAccess q = d.removeAccess q := by
  rw [removeAccess, removeAccess, he, allow_congr hf]

/-- A disk without a file is the same everywhere else. -/
theorem find?_erase_file {b : ByteArray} (hb : d.tree.find? l = some (.file b)) (m : Location) :
    (d.setTree (d.tree.erase l)).tree.find? m = if m = l then none else d.tree.find? m :=
  Tree.find?_erase_of_ne_nil _ (Tree.ne_nil_of_find?_ne (t := d.tree) (by simp [hb])) m

theorem sameDirectories_remove {p : Path} (h : d.remove p = .ok e) : SameDirectories d e := by
  obtain ⟨m, b, he, rfl⟩ := remove_eq_ok h
  have hb := (entry_eq_ok_iff.mp he).2
  exact .erase (by simp [hb])

/-- Removing one entry leaves all others. -/
theorem entry_child_of_remove (hp : d.entry p = .ok (l, .directory))
    (h : d.remove (p.child name) = .ok e) {other : String} (hne : other ≠ name) :
    e.entry (p.child other) = d.entry (p.child other) := by
  have hplace := (sameDirectories_remove h).entry hp
  obtain ⟨k, b, hk, rfl⟩ := remove_eq_ok h
  obtain ⟨hloc, hb⟩ := entry_eq_ok_iff.mp hk
  refine entry_congr (locate_child_congr hp hplace other) fun m hm => ?_
  rw [find?_erase_file hb, if_neg]
  rintro rfl
  exact hne (locate_child_inj hp hm hloc)

/-- What was removed is no file. -/
theorem isFile_child_of_remove (hp : d.entry p = .ok (l, .directory))
    (h : d.remove (p.child name) = .ok e) : e.isFile (p.child name) = .ok false := by
  have hplace := (sameDirectories_remove h).entry hp
  obtain ⟨k, b, hk, rfl⟩ := remove_eq_ok h
  obtain ⟨hloc, hb⟩ := entry_eq_ok_iff.mp hk
  have hloc' := (locate_child_congr hp hplace name).trans hloc
  cases ha : (d.setTree (d.tree.erase k)).isFile (p.child name) with
  | error x =>
    have hx := (isFile_eq_error_iff.mp ha).2.1
    rw [hloc'] at hx
    contradiction
  | ok a =>
    cases a with
    | false => rfl
    | true =>
      obtain ⟨-, m, c, hm⟩ := isFile_eq_ok_true_iff.mp ha
      obtain ⟨hm, hc⟩ := entry_eq_ok_iff.mp hm
      obtain rfl := Except.ok.inj (hloc'.symm.trans hm)
      rw [find?_erase_file hb, if_pos rfl] at hc
      contradiction

end TypedContent.Files.Disk
