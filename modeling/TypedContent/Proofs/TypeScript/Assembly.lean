import Mathlib.Data.List.Nodup
import TypedContent.Proofs.Collisions
import TypedContent.TypeScript.Model
import TypedContent.TypeScript.Registry

/-!
# Assembling a text

`Steps` says what one operation does to sections, by their names and by what is got of them, and
which operations are refused.  `History` keeps of a run what was not refused, as it came: the
sections that were opened, and the lines that were written, each with its section.

* `steps_perform`: an operation does what `Steps` says, and a refused one does nothing;
* `Keeps.step`: sections that hold a history hold it after the next operation, too;
* `faithful_log`: after every run the sections hold the lines of its history, each section its own
  in the order in which they were written, and all answers are those that the history gives.

The sections of generated files are what opening them one after the other leads to
(`performed_modelSections`, `performed_registrySections`).
-/

namespace TypedContent.TypeScript.Sections

variable {s : Sections} {name : String}

/-! ## One operation -/

/-- What an operation on `s` leads to, and what it answers. -/
inductive Steps (s : Sections) : Operation → Sections → Answer → Prop
  /-- A new section comes last. -/
  | opened (name : String) (lines : List String) (t : Sections) (fresh : name ∉ s.names)
      (names_eq : t.names = s.names ++ [name]) (own : t.get name = .ok lines)
      (others : ∀ other, other ≠ name → t.get other = s.get other) :
      Steps s (.addSection name lines) t (.lines lines)
  | duplicate (name : String) (lines : List String) (known : name ∈ s.names) :
      Steps s (.addSection name lines) s (.refused (.duplicate name))
  /-- A line comes last in its section. -/
  | appended (name line : String) (lines : List String) (t : Sections)
      (found : s.get name = .ok lines) (names_eq : t.names = s.names)
      (own : t.get name = .ok (lines ++ [line]))
      (others : ∀ other, other ≠ name → t.get other = s.get other) :
      Steps s (.append name line) t (.lines (lines ++ [line]))
  | lost (name line : String) (unknown : name ∉ s.names) :
      Steps s (.append name line) s (.refused (.unknown name))
  | got (name : String) (lines : List String) (found : s.get name = .ok lines) :
      Steps s (.get name) s (.lines lines)
  | missing (name : String) (unknown : name ∉ s.names) :
      Steps s (.get name) s (.refused (.unknown name))
  | names : Steps s .names s (.lines s.names)
  | lines : Steps s .lines s (.lines s.lines)
  | built : Steps s .build s (.text s.text)

theorem get_eq_ok_iff {lines : List String} :
    s.get name = .ok lines ↔ s.entries.lookup name = some lines := by
  unfold get
  cases s.entries.lookup name <;> simp

theorem lookup_of_not_mem (h : name ∉ s.names) : s.entries.lookup name = none := by
  refine List.lookup_eq_none_iff.mpr fun e he => bne_iff_ne.mpr fun heq => h ?_
  exact heq ▸ List.mem_map_of_mem he

theorem get_of_not_mem (h : name ∉ s.names) : s.get name = .error (.unknown name) := by
  rw [get, lookup_of_not_mem h]

theorem exists_get_of_mem (h : name ∈ s.names) : ∃ lines, s.get name = .ok lines := by
  obtain ⟨e, he, rfl⟩ := List.mem_map.mp h
  have hsome : (s.entries.lookup e.1).isSome := List.lookup_isSome_iff.mpr ⟨e, he, by simp⟩
  obtain ⟨lines, hlines⟩ := Option.isSome_iff_exists.mp hsome
  exact ⟨lines, get_eq_ok_iff.mpr hlines⟩

theorem mem_of_get {lines : List String} (h : s.get name = .ok lines) : name ∈ s.names := by
  by_contra hnot
  rw [get_of_not_mem hnot] at h
  cases h

theorem get_cons (e : String × List String) (es : List (String × List String)) (name : String) :
    get ⟨e :: es⟩ name = if name = e.1 then .ok e.2 else get ⟨es⟩ name := by
  obtain ⟨n, lines⟩ := e
  unfold get
  rw [List.lookup_cons]
  by_cases h : name = n
  · rw [beq_iff_eq.mpr h, if_pos h]
  · rw [beq_eq_false_iff_ne.mpr h, if_neg h]

theorem get_append_of_mem (h : name ∈ s.names) (es : List (String × List String)) :
    get ⟨s.entries ++ es⟩ name = s.get name := by
  obtain ⟨lines, hlines⟩ := exists_get_of_mem h
  rw [hlines]
  rw [get_eq_ok_iff] at hlines ⊢
  rw [List.lookup_append, hlines, Option.some_or]

theorem get_append_of_not_mem (h : name ∉ s.names) (es : List (String × List String)) :
    get ⟨s.entries ++ es⟩ name = get ⟨es⟩ name := by
  rw [get, List.lookup_append, lookup_of_not_mem h, Option.none_or]
  rfl

theorem get_appendTo (name line : String) (es : List (String × List String)) (other : String) :
    get ⟨appendTo name line es⟩ other =
      if other = name then (get ⟨es⟩ name).map (· ++ [line]) else get ⟨es⟩ other := by
  induction es with
  | nil =>
    by_cases h : other = name
    · rw [if_pos h, h]
      rfl
    · rw [if_neg h]
      rfl
  | cons e es ih =>
    unfold appendTo
    split
    · next he =>
      rw [get_cons, get_cons, get_cons, if_pos he.symm, he]
      by_cases h : other = name
      · rw [if_pos h, if_pos h]
        rfl
      · rw [if_neg h, if_neg h, if_neg h]
    · next he =>
      rw [get_cons, get_cons, get_cons, ih, if_neg (Ne.symm he)]
      by_cases h : other = name
      · rw [h, if_neg (Ne.symm he)]
        simp
      · simp [h]

theorem perform_addSection_of_mem (h : name ∈ s.names) (lines : List String) :
    s.perform (.addSection name lines) = (s, .refused (.duplicate name)) := by
  rw [perform, addSection, if_pos h]

theorem perform_addSection (h : name ∉ s.names) (lines : List String) :
    s.perform (.addSection name lines) = (⟨s.entries ++ [(name, lines)]⟩, .lines lines) := by
  rw [perform, addSection, if_neg h]

theorem perform_append_of_not_mem (h : name ∉ s.names) (line : String) :
    s.perform (.append name line) = (s, .refused (.unknown name)) := by
  rw [perform, append, if_neg h]

theorem perform_append {lines : List String} (h : s.get name = .ok lines) (line : String) :
    s.perform (.append name line) =
      (⟨appendTo name line s.entries⟩, .lines (lines ++ [line])) := by
  have hown : get ⟨appendTo name line s.entries⟩ name = .ok (lines ++ [line]) := by
    rw [get_appendTo, if_pos rfl]
    exact congrArg _ h
  simp only [perform, append, if_pos (mem_of_get h), hown, answerOf]

theorem steps_perform (s : Sections) (op : Operation) :
    Steps s op (s.perform op).1 (s.perform op).2 := by
  cases op with
  | addSection name lines =>
    by_cases h : name ∈ s.names
    · rw [perform_addSection_of_mem h]
      exact .duplicate name lines h
    · rw [perform_addSection h]
      refine .opened name lines _ h (by simp [names]) ?_ fun other hne => ?_
      · rw [get_append_of_not_mem h, get_cons, if_pos rfl]
      · by_cases hother : other ∈ s.names
        · rw [get_append_of_mem hother]
        · rw [get_append_of_not_mem hother, get_cons, if_neg hne, get_of_not_mem hother]
          rfl
  | append name line =>
    by_cases h : name ∈ s.names
    · obtain ⟨lines, hlines⟩ := exists_get_of_mem h
      rw [perform_append hlines]
      refine .appended name line lines _ hlines (map_fst_appendTo ..) ?_ fun other hne => ?_
      · rw [get_appendTo, if_pos rfl]
        exact congrArg _ hlines
      · rw [get_appendTo, if_neg hne]
    · rw [perform_append_of_not_mem h]
      exact .lost name line h
  | get name =>
    by_cases h : name ∈ s.names
    · obtain ⟨lines, hlines⟩ := exists_get_of_mem h
      rw [perform, hlines]
      exact .got name lines hlines
    · rw [perform, get_of_not_mem h]
      exact .missing name h
  | names => exact .names
  | lines => exact .lines
  | build => exact .built

/-! ## The history of a run -/

/-- What was accepted of some operations. -/
structure History where
  /-- The sections, in the order in which they were opened. -/
  opened : List String
  /-- All lines in the order in which they were written, each with its section. -/
  written : List (String × String)

namespace History

def empty : History := ⟨[], []⟩

def openSection (h : History) (name : String) : History := { h with opened := h.opened ++ [name] }

def write (h : History) (name : String) (lines : List String) : History :=
  { h with written := h.written ++ lines.map fun line => (name, line) }

/-- The history with one more operation. -/
def after (h : History) : Operation → History
  | .addSection name lines =>
    if name ∈ h.opened then h else (h.openSection name).write name lines
  | .append name line => if name ∈ h.opened then h.write name [line] else h
  | _ => h

/-- The lines of one section. -/
def linesOf (h : History) (name : String) : List String :=
  (h.written.filter (·.1 = name)).map (·.2)

/-- The lines of all sections, one section after the other. -/
def lines (h : History) : List String := h.opened.flatMap h.linesOf

def text (h : History) : String := Text.joinLines h.lines ++ "\n"

/-- The answer to the next operation. -/
def answer (h : History) : Operation → Answer
  | .addSection name lines => if name ∈ h.opened then .refused (.duplicate name) else .lines lines
  | .append name line =>
    if name ∈ h.opened then .lines (h.linesOf name ++ [line]) else .refused (.unknown name)
  | .get name => if name ∈ h.opened then .lines (h.linesOf name) else .refused (.unknown name)
  | .names => .lines h.opened
  | .lines => .lines h.lines
  | .build => .text h.text

def answers (h : History) : List Operation → List Answer
  | [] => []
  | op :: ops => h.answer op :: (h.after op).answers ops

def of (ops : List Operation) : History := ops.foldl after empty

theorem linesOf_write (h : History) (name : String) (lines : List String) (other : String) :
    (h.write name lines).linesOf other =
      if other = name then h.linesOf name ++ lines else h.linesOf other := by
  unfold linesOf write
  rw [List.filter_append, List.map_append, List.filter_map]
  by_cases hother : other = name
  · subst hother
    simp [Function.comp_def]
  · simp [Function.comp_def, hother, Ne.symm hother]

theorem mem_opened_write {h : History} (hmem : ∀ w ∈ h.written, w.1 ∈ h.opened) {name : String}
    (hname : name ∈ h.opened) (lines : List String) :
    ∀ w ∈ (h.write name lines).written, w.1 ∈ (h.write name lines).opened := by
  intro w hw
  rcases List.mem_append.mp hw with hw | hw
  · exact hmem w hw
  · obtain ⟨line, -, rfl⟩ := List.mem_map.mp hw
    exact hname

theorem linesOf_of_not_mem {h : History} (hmem : ∀ w ∈ h.written, w.1 ∈ h.opened) {name : String}
    (hname : name ∉ h.opened) : h.linesOf name = [] := by
  refine List.map_eq_nil_iff.mpr (List.filter_eq_nil_iff.mpr fun w hw he => hname ?_)
  exact of_decide_eq_true he ▸ hmem w hw

/-- What was written to one section is nothing to another. -/
theorem linesOf_others (written : List (String × String)) (opened opened' : List String)
    {name other : String} (h : other ≠ name) :
    linesOf ⟨opened', written.filter fun w => ! decide (w.1 = name)⟩ other =
      linesOf ⟨opened, written⟩ other := by
  unfold linesOf
  rw [List.filter_filter]
  refine congrArg _ (List.filter_congr fun w _ => ?_)
  by_cases hw : w.1 = other <;> simp [hw, h]

/-- Grouping by sections loses no line and repeats none. -/
theorem lines_perm {h : History} (hnodup : h.opened.Nodup)
    (hmem : ∀ w ∈ h.written, w.1 ∈ h.opened) : h.lines.Perm (h.written.map (·.2)) := by
  obtain ⟨opened, written⟩ := h
  induction opened generalizing written with
  | nil =>
    have hnone : written = [] := List.eq_nil_iff_forall_not_mem.mpr fun w hw => by
      simpa using hmem w hw
    rw [hnone]
    rfl
  | cons name opened ih =>
    obtain ⟨hname, hopened⟩ := List.nodup_cons.mp hnodup
    -- The other sections hold what is left when the lines of this one are taken out.
    set others := written.filter fun w => ! decide (w.1 = name) with hothers
    have hrest : opened.flatMap (linesOf ⟨name :: opened, written⟩) = lines ⟨opened, others⟩ := by
      refine List.flatMap_congr fun other hother => (linesOf_others written _ opened ?_).symm
      exact fun he => hname (he ▸ hother)
    have hperm : (lines ⟨opened, others⟩).Perm (others.map (·.2)) := by
      refine ih others hopened fun w hw => ?_
      obtain ⟨hw, hne⟩ := List.mem_filter.mp hw
      exact (List.mem_cons.mp (hmem w hw)).resolve_left (by simpa using hne)
    rw [lines, List.flatMap_cons, hrest]
    refine (hperm.append_left _).trans ?_
    rw [linesOf, ← List.map_append]
    exact (List.filter_append_perm _ _).map _

end History

/-- The sections after some operations. -/
def performed (s : Sections) (ops : List Operation) : Sections :=
  ops.foldl (fun s op => (s.perform op).1) s

/-- The sections `s` hold what was accepted in `h`. -/
structure Keeps (s : Sections) (h : History) : Prop where
  names_eq : s.names = h.opened
  nodup : h.opened.Nodup
  get_eq : ∀ name ∈ h.opened, s.get name = .ok (h.linesOf name)
  /-- All lines were written to sections that had been opened. -/
  mem_opened : ∀ w ∈ h.written, w.1 ∈ h.opened

theorem lines_eq_flatMap {f : String → List String} (hnodup : s.names.Nodup)
    (hget : ∀ name ∈ s.names, s.get name = .ok (f name)) : s.lines = s.names.flatMap f := by
  obtain ⟨es⟩ := s
  induction es with
  | nil => rfl
  | cons e es ih =>
    obtain ⟨he, hes⟩ := List.nodup_cons.mp hnodup
    have hfirst : e.2 = f e.1 := by
      have h := hget e.1 List.mem_cons_self
      rw [get_cons, if_pos rfl] at h
      exact Except.ok.inj h
    have hrest : lines ⟨es⟩ = (names ⟨es⟩).flatMap f := by
      refine ih hes fun name hname => ?_
      have h := hget name (List.mem_cons_of_mem e.1 hname)
      have hne : name ≠ e.1 := by
        rintro rfl
        exact he hname
      rwa [get_cons, if_neg hne] at h
    calc lines ⟨e :: es⟩ = e.2 ++ lines ⟨es⟩ := rfl
      _ = f e.1 ++ (names ⟨es⟩).flatMap f := by rw [hfirst, hrest]
      _ = (names ⟨e :: es⟩).flatMap f := rfl

theorem Keeps.lines_eq {h : History} (hs : Keeps s h) : s.lines = h.lines := by
  rw [lines_eq_flatMap (hs.names_eq ▸ hs.nodup) fun name hn => hs.get_eq name (hs.names_eq ▸ hn),
    hs.names_eq, History.lines]

theorem Keeps.of_get {h : History} (hs : Keeps s h) {lines : List String}
    (found : s.get name = .ok lines) : name ∈ h.opened ∧ lines = h.linesOf name := by
  have known : name ∈ h.opened := hs.names_eq ▸ mem_of_get found
  exact ⟨known, Except.ok.inj (found.symm.trans (hs.get_eq name known))⟩

theorem Keeps.text_eq {h : History} (hs : Keeps s h) : s.text = h.text := by
  rw [text, hs.lines_eq, History.text]

/-- Sections that hold a history hold it after the next operation, too, and answer by it. -/
theorem Keeps.step {h : History} {t : Sections} {op : Operation} {answer : Answer}
    (hs : Keeps s h) (hstep : Steps s op t answer) :
    Keeps t (h.after op) ∧ answer = h.answer op := by
  cases hstep with
  | opened name lines t fresh names_eq own others =>
    rw [hs.names_eq] at fresh
    rw [History.after, History.answer, if_neg fresh, if_neg fresh]
    refine ⟨⟨?_, ?_, fun other hother => ?_, ?_⟩, rfl⟩
    · rw [names_eq, hs.names_eq]
      rfl
    · have hnodup := hs.nodup.concat fresh
      rwa [List.concat_eq_append] at hnodup
    · rw [History.linesOf_write]
      split
      · next heq =>
        have hnone : (h.openSection name).linesOf name = [] :=
          History.linesOf_of_not_mem hs.mem_opened fresh
        rw [heq, own, hnone, List.nil_append]
      · next hne =>
        have hold : other ∈ h.opened :=
          (List.mem_append.mp hother).resolve_right fun he => hne (List.mem_singleton.mp he)
        exact (others other hne).trans (hs.get_eq other hold)
    · have hmem : ∀ w ∈ (h.openSection name).written, w.1 ∈ (h.openSection name).opened :=
        fun w hw => List.mem_append_left [name] (hs.mem_opened w hw)
      exact History.mem_opened_write hmem (List.mem_append_right _ List.mem_cons_self) lines
  | duplicate name lines known =>
    rw [hs.names_eq] at known
    rw [History.after, History.answer, if_pos known, if_pos known]
    exact ⟨hs, rfl⟩
  | appended name line lines t found names_eq own others =>
    obtain ⟨known, rfl⟩ := hs.of_get found
    rw [History.after, History.answer, if_pos known, if_pos known]
    refine ⟨⟨?_, hs.nodup, fun other hother => ?_, ?_⟩, rfl⟩
    · rw [names_eq, hs.names_eq]
      rfl
    · rw [History.linesOf_write]
      split
      · next heq => rw [heq, own]
      · next hne => exact (others other hne).trans (hs.get_eq other hother)
    · exact History.mem_opened_write hs.mem_opened known [line]
  | lost name line unknown =>
    rw [hs.names_eq] at unknown
    rw [History.after, History.answer, if_neg unknown, if_neg unknown]
    exact ⟨hs, rfl⟩
  | got name lines found =>
    obtain ⟨known, rfl⟩ := hs.of_get found
    rw [History.answer, if_pos known]
    exact ⟨hs, rfl⟩
  | missing name unknown =>
    rw [hs.names_eq] at unknown
    rw [History.answer, if_neg unknown]
    exact ⟨hs, rfl⟩
  | names => exact ⟨hs, congrArg _ hs.names_eq⟩
  | lines => exact ⟨hs, congrArg _ hs.lines_eq⟩
  | built => exact ⟨hs, congrArg _ hs.text_eq⟩

theorem Keeps.run {h : History} (hs : Keeps s h) (ops : List Operation) :
    Keeps (s.performed ops) (ops.foldl History.after h) ∧ s.performAll ops = h.answers ops := by
  induction ops generalizing s h with
  | nil => exact ⟨hs, rfl⟩
  | cons op ops ih =>
    obtain ⟨hnext, hanswer⟩ := hs.step (steps_perform s op)
    obtain ⟨hlast, hanswers⟩ := ih hnext
    exact ⟨hlast, by rw [performAll, hanswer, hanswers, History.answers]⟩

theorem keeps_empty : Keeps empty History.empty where
  names_eq := rfl
  nodup := .nil
  get_eq := by simp [History.empty]
  mem_opened := by simp [History.empty]

/-! ## Every run -/

/-- The section that an operation is to open. -/
def Operation.opens? : Operation → Option String
  | .addSection name _ => some name
  | _ => none

/-- A section is opened where it is first asked for, and comes behind those before it. -/
theorem opened_of (ops : List Operation) :
    (History.of ops).opened = distinct (ops.filterMap Operation.opens?) := by
  induction ops using List.reverseRecOn with
  | nil => rfl
  | append_singleton ops op ih =>
    have hlast : History.of (ops ++ [op]) = (History.of ops).after op := List.foldl_concat ..
    rw [hlast, List.filterMap_append]
    cases op with
    | addSection name lines =>
      have hname : name ∈ (History.of ops).opened ↔ name ∈ ops.filterMap Operation.opens? := by
        rw [ih, mem_distinct]
      have hopens : [Operation.addSection name lines].filterMap Operation.opens? = [name] := rfl
      rw [hopens, Collision.distinct_concat, History.after, ← ih]
      by_cases h : name ∈ (History.of ops).opened
      · rw [if_pos h, if_pos (hname.mp h)]
      · rw [if_neg h, if_neg fun hn => h (hname.mpr hn)]
        rfl
    | append name line =>
      have hsame : ((History.of ops).after (.append name line)).opened =
          (History.of ops).opened := by
        rw [History.after]
        split <;> rfl
      rw [hsame, ih]
      exact congrArg _ (List.append_nil _).symm
    | _ => exact ih.trans (congrArg _ (List.append_nil _).symm)

/-- What sections hold behind the operations `ops`. -/
structure Faithful (ops : List Operation) (s : Sections) : Prop where
  nodup_names : s.names.Nodup
  names_eq : s.names = distinct (ops.filterMap Operation.opens?)
  /-- In a section there is what was written to it, in that order. -/
  get_eq (name : String) : s.get name =
    if name ∈ s.names then .ok ((History.of ops).linesOf name) else .error (.unknown name)
  text_eq : s.text =
    Text.joinLines (s.names.flatMap fun name => (History.of ops).linesOf name) ++ "\n"
  /-- No line is lost, and none is there twice. -/
  lines_perm : s.lines.Perm ((History.of ops).written.map (·.2))

/-- After every run, refused operations included, the text is that of its history, the next
operation does what it is to do, and all answers are those that the history gives. -/
theorem faithful_log (ops : List Operation) :
    Faithful ops (empty.performed ops) ∧
      (∀ op, Steps (empty.performed ops) op ((empty.performed ops).perform op).1
        ((empty.performed ops).perform op).2) ∧
      empty.performAll ops = History.empty.answers ops := by
  obtain ⟨hkeeps, hanswers⟩ := keeps_empty.run ops
  change Keeps _ (History.of ops) at hkeeps
  refine ⟨?_, steps_perform _, hanswers⟩
  constructor
  case nodup_names => exact hkeeps.names_eq ▸ hkeeps.nodup
  case names_eq => rw [hkeeps.names_eq, opened_of]
  case get_eq =>
    intro name
    split
    · next h => exact hkeeps.get_eq name (hkeeps.names_eq ▸ h)
    · next h => exact get_of_not_mem h
  case text_eq =>
    rw [hkeeps.text_eq, hkeeps.names_eq]
    rfl
  case lines_perm =>
    rw [hkeeps.lines_eq]
    exact History.lines_perm hkeeps.nodup hkeeps.mem_opened

/-- A section asked for twice, and lines for one that is not there yet and for one that is. -/
example : empty.performAll [.append "body" "early", .addSection "head" ["a", "b"],
      .addSection "body" [], .addSection "head" ["again"], .append "head" "c", .append "body" "d",
      .build] =
    [.refused (.unknown "body"), .lines ["a", "b"], .lines [], .refused (.duplicate "head"),
      .lines ["a", "b", "c"], .lines ["d"], .text "a\nb\nc\nd\n"] := by
  rfl

/-! ## Sections of generated files -/

theorem performed_addSections {es : List (String × List String)}
    (h : ((s.entries ++ es).map (·.1)).Nodup) :
    s.performed (es.map fun e => .addSection e.1 e.2) = ⟨s.entries ++ es⟩ := by
  induction es generalizing s with
  | nil =>
    rw [List.append_nil]
    rfl
  | cons e es ih =>
    have hnew : e.1 ∉ s.names := by
      rw [List.map_append] at h
      exact fun hold => List.disjoint_of_nodup_append h hold List.mem_cons_self
    have hopened : (s.perform (.addSection e.1 e.2)).1 = ⟨s.entries ++ [e]⟩ := by
      rw [perform_addSection hnew]
    change performed (s.perform (.addSection e.1 e.2)).1 _ = _
    rw [hopened, ih (by simpa using h), List.append_assoc]
    rfl

theorem performed_modelSections (d : Schema.TypeDefinition) (known : List String) :
    empty.performed ((modelSections d known).entries.map fun e => .addSection e.1 e.2) =
      modelSections d known := by
  have hnames : (modelSections d known).entries.map (·.1) =
    ["imports", "header", "interface", "props", "instance"] := rfl
  exact performed_addSections (s := empty) (hnames ▸ by decide)

theorem performed_registrySections (names : List String) :
    empty.performed ((registrySections names).entries.map fun e => .addSection e.1 e.2) =
      registrySections names := by
  have hnames : (registrySections names).entries.map (·.1) =
    ["imports", "open", "map", "factories", "loader", "close"] := rfl
  exact performed_addSections (s := empty) (hnames ▸ by decide)

end TypedContent.TypeScript.Sections
