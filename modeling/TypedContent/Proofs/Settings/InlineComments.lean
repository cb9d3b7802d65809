import TypedContent.Proofs.Settings.EnvFiles

/-!
# Comments behind values

Behind a value that stands without quotes and is not empty, ` #` and a comment change nothing: not
what the line assigns, and not what is read from the file (`comments_inert`).  Behind an empty value
they do: the blank in front of the sign is taken as one behind the equals sign, and the comment is
the value (`comment_read_as_value`).
-/

namespace TypedContent.Settings.EnvFile

open Files Text

variable {line comment s t u b rest : List Char} {k v : String}

/-- There are neither quotes nor line ends in the text. -/
def Plain (s : List Char) : Prop := ∀ c ∈ s, c ≠ '"' ∧ c ≠ '\'' ∧ isLineEnd c = false

instance (s : List Char) : Decidable (Plain s) :=
  List.decidableBAll (fun c => c ≠ '"' ∧ c ≠ '\'' ∧ isLineEnd c = false) s

/-- A line with a comment behind it. -/
def commented (line comment : List Char) : List Char := line ++ ' ' :: '#' :: ' ' :: comment

theorem plain_append : Plain (s ++ t) ↔ Plain s ∧ Plain t := List.forall_mem_append

theorem plain_cons {c : Char} :
    Plain (c :: s) ↔ (c ≠ '"' ∧ c ≠ '\'' ∧ isLineEnd c = false) ∧ Plain s := List.forall_mem_cons

theorem Plain.inline (h : Plain s) : Inline s := fun c hc => (h c hc).2.2

theorem plain_trim (h : Plain s) : Plain (trim s) := by
  obtain ⟨a, b, -, -, hs⟩ := exists_trim_eq s
  rw [hs] at h
  exact (plain_append.mp (plain_append.mp h).2).1

theorem plain_commented (hline : Plain line) (hcomment : Plain comment) :
    Plain (commented line comment) := by
  simp only [commented, plain_append, plain_cons]
  exact ⟨hline, by decide, by decide, by decide, hcomment⟩

/-! ## Values without quotes -/

theorem value_of_plain (h : Plain s) : value s = bareValue s := by
  unfold value
  split
  · exact absurd rfl (h _ List.mem_cons_self).1
  · exact absurd rfl (h _ List.mem_cons_self).2.1
  · rfl

/-- Text behind another that does not begin with the sign of a comment is cut where it is cut
alone, unless the cut is in front of it. -/
theorem withoutComment_append (s : List Char) (hu : u.head? ≠ some '#') :
    withoutComment (s ++ u) = withoutComment s ∨
      withoutComment (s ++ u) = withoutComment s ++ withoutComment u := by
  fun_induction withoutComment s with
  | case1 r => exact .inl rfl
  | case2 c s hc ih =>
    have hstep : withoutComment (c :: (s ++ u)) = c :: withoutComment (s ++ u) := by
      rw [withoutComment]
      intro r hblank hr
      cases s with
      | nil => exact hu (by rw [show u = '#' :: r from hr, List.head?_cons])
      | cons d s => exact hc s hblank (by rw [(List.cons.inj hr).1])
    rw [List.cons_append, hstep]
    exact ih.imp (congrArg (c :: ·)) (congrArg (c :: ·))
  | case3 => exact .inr rfl

theorem blanks_withoutComment (hb : Blanks b) : Blanks (withoutComment b) := by
  obtain ⟨r, hr⟩ := eq_withoutComment_append b
  rw [hr] at hb
  exact (blanks_append.mp hb).1

theorem bareValue_append (s : List Char) (hu : u.head? ≠ some '#')
    (hblanks : Blanks (withoutComment u)) : bareValue (s ++ u) = bareValue s := by
  unfold bareValue
  rcases withoutComment_append s hu with h | h
  · rw [h]
  · rw [h, trim_append_blanks _ hblanks]

theorem head?_ne_sign (hb : Blanks b) (hs : s.head? ≠ some '#') : (b ++ s).head? ≠ some '#' := by
  cases b with
  | nil => exact hs
  | cons c b =>
    intro h
    have hblank := hb c List.mem_cons_self
    rw [Option.some.inj h] at hblank
    exact absurd hblank (by decide)

theorem bareValue_append_blanks (s : List Char) (hb : Blanks b) :
    bareValue (s ++ b) = bareValue s := by
  have hhead := head?_ne_sign hb (s := []) (by simp)
  rw [List.append_nil] at hhead
  exact bareValue_append s hhead (blanks_withoutComment hb)

/-- Blanks in front of a comment belong to it. -/
theorem bareValue_append_comment (s : List Char) (hb : Blanks b) (t : List Char) :
    bareValue (s ++ (b ++ ' ' :: '#' :: t)) = bareValue s := by
  have hsign : (' ' :: '#' :: t).head? ≠ some '#' := by simp
  refine bareValue_append s (head?_ne_sign hb hsign) ?_
  have hcut : withoutComment (' ' :: '#' :: t) = [] := by rw [withoutComment]
  rcases withoutComment_append b hsign with h | h
  · exact h ▸ blanks_withoutComment hb
  · rw [h, hcut, List.append_nil]
    exact blanks_withoutComment hb

theorem bareValue_trimRight (s : List Char) : bareValue (trimRight s) = bareValue s := by
  obtain ⟨b, hb, hs⟩ := exists_trimRight_eq s
  calc bareValue (trimRight s) = bareValue (trimRight s ++ b) :=
        (bareValue_append_blanks _ hb).symm
    _ = bareValue s := by rw [← hs]

/-- A value that is there begins with what the text begins with. -/
theorem exists_bareValue_cons {c : Char} (hc : isBlank c = false) (s : List Char) :
    ∃ r, bareValue (c :: s) = c :: r := by
  have hstep : withoutComment (c :: s) = c :: withoutComment s := by
    rw [withoutComment]
    rintro r rfl
    contradiction
  exact ⟨_, by rw [bareValue, hstep, trim_cons hc]⟩

theorem value_trim_eq_nil_iff (h : Plain rest) : value (trim rest) = [] ↔ trim rest = [] := by
  constructor
  · intro hvalue
    cases hrest : trim rest with
    | nil => rfl
    | cons c s =>
      obtain ⟨r, hr⟩ := exists_bareValue_cons (isBlank_of_trim_eq_cons hrest) s
      rw [value_of_plain (plain_trim h), hrest, hr] at hvalue
      contradiction
  · intro hrest
    rw [hrest]
    rfl

/-- What a comment does to the value in front of it. -/
theorem value_commented (hrest : Plain rest) (hcomment : Plain comment) :
    value (trim (commented rest comment)) =
      if value (trim rest) = [] then bareValue ('#' :: ' ' :: comment) else value (trim rest) := by
  obtain ⟨a, b, ha, hb, hsplit⟩ := exists_trim_eq rest
  have hplain : Plain (trim (commented rest comment)) :=
    plain_trim (plain_commented hrest hcomment)
  rw [value_of_plain hplain]
  cases hcore : trim rest with
  | nil =>
    have hgap : Blanks (rest ++ [' ']) := by
      have hall := trim_eq_nil_iff.mp hcore
      exact blanks_append.mpr ⟨hall, by decide⟩
    have hbehind : commented rest comment = (rest ++ [' ']) ++ '#' :: ' ' :: comment := by
      simp [commented]
    have htrim : trim (commented rest comment) = trimRight ('#' :: ' ' :: comment) := by
      rw [hbehind, trim_blanks_append hgap, trim_cons (by decide)]
      exact (trimRight_append [] _ (by decide)).symm
    rw [htrim, bareValue_trimRight, if_pos (show value [] = [] from rfl)]
  | cons c r =>
    have hc := isBlank_of_trim_eq_cons hcore
    have htrim : trim (commented rest comment) =
        (c :: r) ++ (b ++ ' ' :: '#' :: trimRight (' ' :: comment)) := by
      have hright := trimRight_append (r ++ (b ++ [' '])) (' ' :: comment)
        (show isBlank '#' = false by decide)
      simp only [List.append_assoc, List.cons_append, List.nil_append] at hright
      rw [commented, hsplit, hcore]
      simp only [List.append_assoc, List.cons_append]
      rw [trim_blanks_append ha, trim_cons hc, hright]
    have hne : value (c :: r) ≠ [] := by
      rw [← hcore]
      exact fun h => absurd ((value_trim_eq_nil_iff hrest).mp h) (by simp [hcore])
    have hvalue : value (c :: r) = bareValue (c :: r) :=
      value_of_plain (hcore ▸ plain_trim hrest)
    rw [htrim, bareValue_append_comment _ hb, if_neg hne, hvalue]

/-! ## Lines and files -/

theorem Assigns.append {key : List Char} (h : Assigns line key rest) (t : List Char) :
    Assigns (line ++ t) key (rest ++ t) := by
  obtain ⟨hkey, a, lead, gap, ha, hlead, hgap, rfl⟩ := h
  refine ⟨hkey, a, lead, gap, ha, hlead, hgap, ?_⟩
  simp only [List.append_assoc, List.cons_append]

theorem Assigns.plain_rest {key : List Char} (h : Assigns line key rest) (hline : Plain line) :
    Plain rest := by
  obtain ⟨-, a, lead, gap, -, -, -, rfl⟩ := h
  simp only [plain_append, plain_cons] at hline
  exact hline.2.2.2.2.2

theorem assignment?_commented (hline : Plain line) (hcomment : Plain comment)
    (h : assignment? line = some (k, v)) :
    assignment? (commented line comment) =
      some (k, if v = "" then String.ofList (bareValue ('#' :: ' ' :: comment)) else v) := by
  obtain ⟨rest, hassigns, rfl⟩ := assignment?_eq_some_iff.mp h
  refine assignment?_eq_some_iff.mpr ⟨_, hassigns.append _, ?_⟩
  have hempty : String.ofList (value (trim rest)) = "" ↔ value (trim rest) = [] := by
    rw [← String.ofList_nil, String.ofList_inj]
  rw [← commented, value_commented (hassigns.plain_rest hline) hcomment]
  by_cases hvalue : value (trim rest) = []
  · rw [if_pos hvalue, if_pos (hempty.mpr hvalue)]
  · rw [if_neg hvalue, if_neg (mt hempty.mp hvalue)]

/-- A file in which one line is replaced by one that assigns the same is read as the same. -/
theorem parse_around {l m : List Char} (hs : Before s) (ht : Behind t) (hl : Inline l)
    (hm : Inline m) (hlne : l ≠ []) (hmne : m ≠ []) (h : assignment? l = assignment? m) :
    parse (String.ofList (uniformLines (s ++ (l ++ t)))) =
      parse (String.ofList (uniformLines (s ++ (m ++ t)))) := by
  have hbefore := before_uniformLines hs
  have hbehind := behind_uniformLines ht
  simp only [parse, String.toList_ofList]
  rw [uniformLines_around hl hlne, uniformLines_around hm hmne,
    splitLines_around hbefore hbehind hl hlne, splitLines_around hbefore hbehind hm hmne,
    List.filterMap_append, List.filterMap_append, List.filterMap_cons, List.filterMap_cons, h]

/-- A comment behind a value without quotes changes nothing, neither in its line nor in its file,
unless the value is empty; the comment is the value then. -/
theorem comments_inert (hline : Plain line) (hcomment : Plain comment)
    (h : assignment? line = some (k, v)) :
    (assignment? (commented line comment) = assignment? line ↔ v ≠ "") ∧
    (v = "" → assignment? (commented line comment) =
      some (k, String.ofList (bareValue ('#' :: ' ' :: comment)))) ∧
    (v ≠ "" → ∀ s t d e p q, Before s → Behind t →
      d.readBytes p = .ok (String.ofList (s ++ (line ++ t))).toUTF8 →
      e.readBytes q = .ok (String.ofList (s ++ (commented line comment ++ t))).toUTF8 →
      ∃ pairs, read d p = ([], .ok pairs) ∧ read e q = ([], .ok pairs)) := by
  have hread := assignment?_commented hline hcomment h
  refine ⟨⟨?_, fun hv => ?_⟩, fun hv => ?_, fun hv s t d e p q hs ht hd he => ?_⟩
  · rintro hsame rfl
    obtain ⟨r, hr⟩ := exists_bareValue_cons (show isBlank '#' = false by decide) (' ' :: comment)
    rw [hread, h, if_pos rfl, hr] at hsame
    have hvalue := congrArg String.toList (Prod.mk.inj (Option.some.inj hsame)).2
    rw [String.toList_ofList] at hvalue
    contradiction
  · rw [hread, if_neg hv, h]
  · rw [hread, if_pos hv]
  · have hne : line ≠ [] := by
      rintro rfl
      contradiction
    have hsame : assignment? line = assignment? (commented line comment) := by
      rw [hread, if_neg hv, h]
    rw [read_of_readBytes hd, read_of_readBytes he, String.toList_ofList, String.toList_ofList]
    refine ⟨_, rfl, ?_⟩
    rw [parse_around hs ht hline.inline (plain_commented hline hcomment).inline hne
      (by simp [commented]) hsame]

theorem comments_inert_address :
    ∃ line comment v, Plain line ∧ Plain comment ∧ v ≠ "" ∧
      assignment? line = some ("EPI_URL", v) ∧
      commented line comment = "  EPI_URL = http://a/#b c  # staging box".toList ∧
      assignment? (commented line comment) = assignment? line := by
  have hline : Plain "  EPI_URL = http://a/#b c ".toList := by decide
  have hcomment : Plain "staging box".toList := by decide
  have hread : assignment? "  EPI_URL = http://a/#b c ".toList =
      some ("EPI_URL", "http://a/#b c") := by decide +kernel
  have hvalue : "http://a/#b c" ≠ "" := by decide
  exact ⟨_, _, _, hline, hcomment, hvalue, hread, rfl,
    (comments_inert hline hcomment hread).1.mpr hvalue⟩

/-- Behind an empty value a comment is read as the value, and so is it in a file. -/
theorem comment_read_as_value :
    Plain "EPI_URL=".toList ∧ Plain "none yet".toList ∧
      assignment? "EPI_URL=".toList = some ("EPI_URL", "") ∧
      assignment? (commented "EPI_URL=".toList "none yet".toList) =
        some ("EPI_URL", "# none yet") ∧
      read (diskWith "EPI_URL=\n") ⟨.root, [".env"]⟩ = ([], .ok [("EPI_URL", "")]) ∧
      read (diskWith "EPI_URL= # none yet\n") ⟨.root, [".env"]⟩ =
        ([], .ok [("EPI_URL", "# none yet")]) := by
  have hempty : parse (String.ofList (uniformLines "EPI_URL=\n".toList)) = [("EPI_URL", "")] := by
    decide +kernel
  have hvalue : parse (String.ofList (uniformLines "EPI_URL= # none yet\n".toList)) =
      [("EPI_URL", "# none yet")] := by
    decide +kernel
  refine ⟨by decide, by decide, by decide +kernel, by decide +kernel, ?_, ?_⟩
  · rw [read_of_readBytes (show (diskWith "EPI_URL=\n").readBytes ⟨.root, [".env"]⟩ = _ from rfl),
      hempty]
  · rw [read_of_readBytes (show (diskWith "EPI_URL= # none yet\n").readBytes
      ⟨.root, [".env"]⟩ = _ from rfl), hvalue]

end TypedContent.Settings.EnvFile
