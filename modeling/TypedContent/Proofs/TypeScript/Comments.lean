import Mathlib.Data.List.Forall2
import Mathlib.Data.List.Infix
import TypedContent.Proofs.Declarations
import TypedContent.Proofs.Text.Trimming

/-!
# Descriptions stay in comments

A comment block begins with its opening mark and is closed by its last two characters only
(`isComment_comment`), whatever its title, its description and its tags are.  `SameBetween` relates
texts that differ in what their comments say, and `withoutComments_congr` is that such texts are the
same without comments.  So what a server tells of a type only to describe it does not get into the
code of its model (`descriptions_commented`).
-/

namespace TypedContent.TypeScript

open Schema

/-! ## The closing mark -/

/-- There is no closing mark in the text. -/
def Unclosed (s : List Char) : Prop := ¬ ['*', '/'] <:+: s

/-- A comment: it begins with the opening mark, and is closed at its end and not before. -/
structure IsComment (a : List Char) : Prop where
  marks : ∃ inside, a = ['/', '*', '*'] ++ inside ++ ['*', '/']
  once : ∀ u v, a = u ++ ['*', '/'] ++ v → v = []

instance (s : List Char) : Decidable (Unclosed s) :=
  inferInstanceAs (Decidable (¬ ['*', '/'] <:+: s))

theorem unclosed_cons {c : Char} {s : List Char} :
    Unclosed (c :: s) ↔ (c = '*' → s.head? ≠ some '/') ∧ Unclosed s := by
  unfold Unclosed
  rw [List.infix_cons_iff, not_or]
  refine and_congr_left fun _ => ?_
  cases s with
  | nil => simp
  | cons d s => simp [List.cons_prefix_cons, eq_comm]

theorem Unclosed.of_part {s t : List Char} (h : Unclosed t) (hs : s <:+: t) : Unclosed s :=
  fun hm => h (hm.trans hs)

/-- A mark does not reach over a character that is in none. -/
theorem unclosed_append_cons {s t : List Char} {c : Char} (hs : Unclosed s) (ht : Unclosed t)
    (hstar : c ≠ '*') (hslash : c ≠ '/') : Unclosed (s ++ c :: t) := by
  induction s with
  | nil => exact unclosed_cons.mpr ⟨fun h => absurd h hstar, ht⟩
  | cons d s ih =>
    obtain ⟨hd, hs⟩ := unclosed_cons.mp hs
    refine unclosed_cons.mpr ⟨fun h => ?_, ih hs⟩
    cases s with
    | nil => simpa using hslash
    | cons e s => exact hd h

theorem unclosed_guardClosing (s : List Char) : Unclosed (guardClosing s) := by
  fun_induction guardClosing s with
  | case1 => decide
  | case2 r ih =>
    refine unclosed_cons.mpr ⟨fun _ => by simp, ?_⟩
    refine unclosed_cons.mpr ⟨fun h => absurd h (by decide), ?_⟩
    exact unclosed_cons.mpr ⟨fun h => absurd h (by decide), ih⟩
  | case3 c r hc ih =>
    refine unclosed_cons.mpr ⟨?_, ih⟩
    rintro rfl hhead
    -- The text goes on as its guarded form does.
    unfold guardClosing at hhead
    split at hhead
    · contradiction
    · exact absurd hhead (by simp)
    · rename_i d r' _
      obtain rfl : d = '/' := Option.some.inj hhead
      exact hc r' rfl rfl

/-! ## Lines of a comment block -/

/-- An indentation. -/
def spaces (n : Nat) : String := String.ofList (List.replicate n ' ')

theorem toList_spaces (n : Nat) : (spaces n).toList = List.replicate n ' ' := String.toList_ofList

theorem unclosed_spaces_append (n : Nat) {s : List Char} (h : Unclosed s) :
    Unclosed (List.replicate n ' ' ++ s) := by
  induction n with
  | zero => exact h
  | succ n ih => exact unclosed_cons.mpr ⟨fun he => absurd he (by decide), ih⟩

theorem unclosed_commentLine (n : Nat) (line : String) :
    Unclosed (commentLine (spaces n) line).toList := by
  have htext : Unclosed (Text.trimRight (guardClosing line.toList)) :=
    (unclosed_guardClosing _).of_part (Text.trimRight_begins _).isInfix
  unfold commentLine
  split
  · rw [String.toList_append, toList_spaces]
    exact unclosed_spaces_append n (by decide)
  · have hstar : Unclosed [' ', '*'] := by decide
    simp only [String.toList_append, toList_spaces, String.toList_ofList, List.append_assoc]
    exact unclosed_spaces_append n (unclosed_append_cons hstar htext (by decide) (by decide))

/-- What stands in a comment block between its first and its last line. -/
def commentBody (title description : String) (tags : List String) : List String :=
  [title, ""] ++ (Text.splitLines description.toList).map String.ofList ++
    tags.flatMap fun tag => ["", tag]

/-- Lines, each behind the end of another line. -/
def behindLine (lines : List String) : List Char := lines.flatMap fun l => '\n' :: l.toList

theorem behindLine_append (ls ms : List String) :
    behindLine (ls ++ ms) = behindLine ls ++ behindLine ms := List.flatMap_append

theorem behindLine_cons (l : String) (ls : List String) :
    behindLine (l :: ls) = '\n' :: l.toList ++ behindLine ls := List.flatMap_cons

theorem toList_joinLines (l : String) (ls : List String) :
    (Text.joinLines (l :: ls)).toList = l.toList ++ behindLine ls := by
  induction ls generalizing l with
  | nil => simp [Text.joinLines, behindLine]
  | cons m ls ih =>
    rw [behindLine_cons, List.cons_append, ← ih m]
    simp [Text.joinLines]

theorem unclosed_append_behindLine {s : List Char} (hs : Unclosed s) {lines : List String}
    (h : ∀ l ∈ lines, Unclosed l.toList) : Unclosed (s ++ behindLine lines) := by
  induction lines generalizing s with
  | nil => rwa [behindLine, List.flatMap_nil, List.append_nil]
  | cons l lines ih =>
    have hl := unclosed_append_cons hs (h l List.mem_cons_self) (c := '\n') (by decide) (by decide)
    have hlines := ih hl fun m hm => h m (List.mem_cons_of_mem l hm)
    rwa [List.append_assoc] at hlines

/-- What stands in a comment block between its marks. -/
def commentInside (n : Nat) (title description : String) (tags : List String) : List Char :=
  behindLine ((commentBody title description tags).map (commentLine (spaces n))) ++
    '\n' :: List.replicate n ' ' ++ [' ']

def comment (n : Nat) (title description : String) (tags : List String) : List Char :=
  ['/', '*', '*'] ++ commentInside n title description tags ++ ['*', '/']

theorem toList_commentBlock (n : Nat) (title description : String) (tags : List String) :
    (Text.joinLines (commentBlock (spaces n) title description tags)).toList =
      List.replicate n ' ' ++ comment n title description tags := by
  have hblock : commentBlock (spaces n) title description tags =
      (spaces n ++ "/**") ::
        ((commentBody title description tags).map (commentLine (spaces n)) ++
          [spaces n ++ " */"]) := rfl
  rw [hblock, toList_joinLines, behindLine_append]
  simp [behindLine, comment, commentInside, toList_spaces]

theorem unclosed_commentInside (n : Nat) (title description : String) (tags : List String) :
    Unclosed (['/', '*', '*'] ++ commentInside n title description tags) := by
  have hopening : Unclosed ['/', '*', '*'] := by decide
  have hlast : Unclosed (List.replicate n ' ' ++ [' ']) := unclosed_spaces_append n (by decide)
  rw [commentInside, List.append_assoc, ← List.append_assoc]
  refine unclosed_append_cons (unclosed_append_behindLine hopening fun l hl => ?_) hlast
    (by decide) (by decide)
  obtain ⟨text, -, rfl⟩ := List.mem_map.mp hl
  exact unclosed_commentLine n text

/-- A mark at the end of a text without marks is the only one. -/
theorem eq_nil_of_closing {s u v : List Char} (hs : Unclosed s)
    (h : s ++ ['*', '/'] = u ++ ['*', '/'] ++ v) : v = [] := by
  rcases List.append_eq_append_iff.mp h with ⟨w, hw, hmark⟩ | ⟨w, rfl, -⟩
  · match w, hmark with
    | [], _ =>
      rw [List.append_nil] at hw
      exact absurd (hw ▸ List.infix_append' u ['*', '/'] []) hs
    | [_], hmark =>
      -- The mark cannot end with a star.
      obtain rfl : _ = '*' := (List.cons.inj hmark).1.symm
      have hlast := congrArg List.getLast? hw
      simp at hlast
    | [_, _], hmark => exact (List.cons.inj (List.cons.inj hmark).2).2.symm
    | _ :: _ :: _ :: _, hmark => simp at hmark
  · exact absurd (List.infix_append u ['*', '/'] w) hs

theorem isComment_comment (n : Nat) (title description : String) (tags : List String) :
    IsComment (comment n title description tags) where
  marks := ⟨_, rfl⟩
  once _ _ := eq_nil_of_closing (unclosed_commentInside n title description tags)

/-! ## Texts without comments -/

/-- What is left behind the first closing mark. -/
def behindClosing : List Char → Option (List Char)
  | [] => none
  | '*' :: '/' :: s => some s
  | _ :: s => behindClosing s

theorem length_behindClosing {s t : List Char} (h : behindClosing s = some t) :
    t.length < s.length := by
  fun_induction behindClosing s with
  | case1 => contradiction
  | case2 s =>
    obtain rfl := Option.some.inj h
    simp only [List.length_cons]
    omega
  | case3 c s _ ih => exact Nat.lt_succ_of_lt (ih h)

/-- Deletes every comment block, which goes up to the first closing mark behind its opening.  What
is never closed stays. -/
def withoutComments : List Char → List Char
  | [] => []
  | '/' :: '*' :: '*' :: s =>
    match _h : behindClosing s with
    | some t => withoutComments t
    | none => '/' :: withoutComments ('*' :: '*' :: s)
  | c :: s => c :: withoutComments s
termination_by s => s.length
decreasing_by
  · have := length_behindClosing _h
    simp only [List.length_cons]
    omega
  · simp
  · simp

/-- Texts that differ in what their comments say.  A comment has a character in front of it that
can be part of no mark. -/
inductive SameBetween : List Char → List Char → Prop
  | nil : SameBetween [] []
  | char (c : Char) {s t : List Char} : SameBetween s t → SameBetween (c :: s) (c :: t)
  | comment (c : Char) (hstar : c ≠ '*') (hslash : c ≠ '/') {a b s t : List Char}
      (ha : IsComment a) (hb : IsComment b) :
      SameBetween s t → SameBetween (c :: (a ++ s)) (c :: (b ++ t))

namespace SameBetween

theorem refl (s : List Char) : SameBetween s s := by
  induction s with
  | nil => exact nil
  | cons c s ih => exact ih.char c

theorem append {s t s' t' : List Char} (h : SameBetween s t) (h' : SameBetween s' t') :
    SameBetween (s ++ s') (t ++ t') := by
  induction h with
  | nil => exact h'
  | char c _ ih => exact ih.char c
  | comment c hstar hslash ha hb _ ih =>
    rw [List.cons_append, List.cons_append, List.append_assoc, List.append_assoc]
    exact ih.comment c hstar hslash ha hb

theorem symm {s t : List Char} (h : SameBetween s t) : SameBetween t s := by
  induction h with
  | nil => exact nil
  | char c _ ih => exact ih.char c
  | comment c hstar hslash ha hb _ ih => exact ih.comment c hstar hslash hb ha

theorem head?_eq {s t : List Char} (h : SameBetween s t) : s.head? = t.head? := by
  cases h <;> rfl

/-- A part of a mark is in both texts. -/
theorem exists_of_mark {c : Char} {s u : List Char} (h : SameBetween (c :: s) u)
    (hc : c = '*' ∨ c = '/') : ∃ t, u = c :: t ∧ SameBetween s t := by
  cases h with
  | char _ h => exact ⟨_, rfl, h⟩
  | comment _ hstar hslash _ _ _ => exact (hc.elim hstar hslash).elim

/-- The opening mark is in both texts. -/
theorem exists_of_opening {s u : List Char} (h : SameBetween ('/' :: '*' :: '*' :: s) u) :
    ∃ t, u = '/' :: '*' :: '*' :: t ∧ SameBetween s t := by
  obtain ⟨_, rfl, hslash⟩ := h.exists_of_mark (.inr rfl)
  obtain ⟨_, rfl, hstar⟩ := hslash.exists_of_mark (.inl rfl)
  obtain ⟨t, rfl, ht⟩ := hstar.exists_of_mark (.inl rfl)
  exact ⟨t, rfl, ht⟩

end SameBetween

theorem behindClosing_cons {c : Char} {s : List Char} (h : c = '*' → s.head? ≠ some '/') :
    behindClosing (c :: s) = behindClosing s := by
  rw [behindClosing]
  rintro s' rfl rfl
  exact h rfl rfl

/-- The end of a comment is found. -/
theorem behindClosing_append {a : List Char}
    (h : ∀ u v, a ++ ['*', '/'] = u ++ ['*', '/'] ++ v → v = []) (s : List Char) :
    behindClosing (a ++ '*' :: '/' :: s) = some s := by
  induction a with
  | nil => rfl
  | cons c a ih =>
    rw [List.cons_append, behindClosing_cons, ih fun u v he => h (c :: u) v (by simp [he])]
    rintro rfl hhead
    cases a with
    | nil => simp at hhead
    | cons d a =>
      obtain rfl : d = '/' := Option.some.inj hhead
      exact absurd (h [] (a ++ ['*', '/']) rfl) (by simp)

theorem withoutComments_of_closed {s t : List Char} (h : behindClosing s = some t) :
    withoutComments ('/' :: '*' :: '*' :: s) = withoutComments t := by
  rw [withoutComments]
  split
  · rename_i t' h'
    rw [Option.some.inj (h.symm.trans h')]
  · rename_i h'
    rw [h'] at h
    contradiction

theorem withoutComments_of_open {s : List Char} (h : behindClosing s = none) :
    withoutComments ('/' :: '*' :: '*' :: s) = '/' :: withoutComments ('*' :: '*' :: s) := by
  rw [withoutComments]
  split
  · rename_i t h'
    rw [h'] at h
    contradiction
  · rfl

theorem withoutComments_cons {c : Char} {s : List Char} (h : ∀ t, c :: s ≠ '/' :: '*' :: '*' :: t) :
    withoutComments (c :: s) = c :: withoutComments s := by
  rw [withoutComments]
  rintro t rfl rfl
  exact h t rfl

/-- A comment is found to be closed at its end. -/
theorem behindClosing_comment {a : List Char} (ha : IsComment a) (s : List Char) :
    behindClosing (a ++ s) = some s := by
  obtain ⟨inside, rfl⟩ := ha.marks
  simpa using behindClosing_append ha.once s

theorem withoutComments_comment {a : List Char} (ha : IsComment a) (s : List Char) :
    withoutComments (a ++ s) = withoutComments s := by
  obtain ⟨inside, rfl⟩ := ha.marks
  have hclosed : behindClosing (inside ++ '*' :: '/' :: s) = some s :=
    behindClosing_append (fun u v he => ha.once (['/', '*', '*'] ++ u) v (by simp [he])) s
  simpa using withoutComments_of_closed hclosed

/-- Both texts go on alike behind their first closing mark, or have none. -/
theorem SameBetween.behindClosing {s t : List Char} (h : SameBetween s t) :
    behindClosing s = none ∧ behindClosing t = none ∨
      ∃ s' t', behindClosing s = some s' ∧ behindClosing t = some t' ∧ SameBetween s' t' := by
  induction h with
  | nil => exact .inl ⟨rfl, rfl⟩
  | @char c s t h ih =>
    by_cases hmark : c = '*' ∧ s.head? = some '/'
    · obtain ⟨rfl, hhead⟩ := hmark
      obtain ⟨s', rfl⟩ := List.head?_eq_some_iff.mp hhead
      obtain ⟨t', rfl, h'⟩ := h.exists_of_mark (.inr rfl)
      exact .inr ⟨s', t', rfl, rfl, h'⟩
    · have hs : c = '*' → s.head? ≠ some '/' := fun hc hhead => hmark ⟨hc, hhead⟩
      rwa [behindClosing_cons hs, behindClosing_cons (h.head?_eq ▸ hs)]
  | @comment c hstar hslash a b s t ha hb h _ =>
    refine .inr ⟨s, t, ?_, ?_, h⟩
    · rw [behindClosing_cons fun hc => absurd hc hstar, behindClosing_comment ha]
    · rw [behindClosing_cons fun hc => absurd hc hstar, behindClosing_comment hb]

/-- Texts that are the same between comments are the same without them. -/
theorem withoutComments_congr {s t : List Char} (h : SameBetween s t) :
    withoutComments s = withoutComments t := by
  induction hn : s.length using Nat.strong_induction_on generalizing s t with
  | _ n ih =>
    cases h with
    | nil => rfl
    | @comment c hstar hslash a b s t ha hb h =>
      have hc : ∀ r u, c :: r ≠ '/' :: u := fun _ _ he => hslash (List.cons.inj he).1
      rw [withoutComments_cons fun _ => hc _ _, withoutComments_cons fun _ => hc _ _,
        withoutComments_comment ha, withoutComments_comment hb]
      congr 1
      refine ih s.length ?_ h rfl
      simp only [← hn, List.length_cons, List.length_append]
      omega
    | @char c s t h =>
      by_cases hopen : ∃ u, c :: s = '/' :: '*' :: '*' :: u
      · obtain ⟨u, hu⟩ := hopen
        obtain ⟨rfl, rfl⟩ := List.cons.inj hu
        obtain ⟨v, hv, huv⟩ := (h.char '/').exists_of_opening
        obtain rfl := (List.cons.inj hv).2
        simp only [List.length_cons] at hn
        rcases huv.behindClosing with ⟨hs, ht⟩ | ⟨s', t', hs, ht, h'⟩
        · rw [withoutComments_of_open hs, withoutComments_of_open ht]
          congr 1
          exact ih _ (by simp only [List.length_cons]; omega) h rfl
        · rw [withoutComments_of_closed hs, withoutComments_of_closed ht]
          have hlength := length_behindClosing hs
          exact ih s'.length (by omega) h' rfl
      · have hs : ∀ u, c :: s ≠ '/' :: '*' :: '*' :: u := fun u hu => hopen ⟨u, hu⟩
        have ht : ∀ u, c :: t ≠ '/' :: '*' :: '*' :: u := by
          intro u hu
          have hsymm := (h.char c).symm
          rw [hu] at hsymm
          obtain ⟨v, hv, -⟩ := hsymm.exists_of_opening
          exact hs v hv
        rw [withoutComments_cons hs, withoutComments_cons ht]
        congr 1
        exact ih s.length (by simp only [← hn, List.length_cons]; omega) h rfl

/-! ## Two descriptions of a type -/

/-- The definitions differ in names for display, in descriptions and in the identifier only. -/
structure SameButTexts (d e : TypeDefinition) : Prop where
  name : d.name = e.name
  properties : List.Forall₂ (fun p q => p.name = q.name ∧ p.tag = q.tag) d.properties e.properties

/-- Lines that differ in what their comments say. -/
def SameLines (ls ms : List String) : Prop := SameBetween (behindLine ls) (behindLine ms)

namespace SameLines

theorem refl (ls : List String) : SameLines ls ls := SameBetween.refl _

theorem append {ls ms ls' ms' : List String} (h : SameLines ls ms) (h' : SameLines ls' ms') :
    SameLines (ls ++ ls') (ms ++ ms') := by
  unfold SameLines
  rw [behindLine_append, behindLine_append]
  exact SameBetween.append h h'

theorem flatMap {α β : Type} {R : α → β → Prop} {f : α → List String} {g : β → List String}
    {xs : List α} {ys : List β} (h : List.Forall₂ R xs ys)
    (hfg : ∀ x y, R x y → SameLines (f x) (g y)) : SameLines (xs.flatMap f) (ys.flatMap g) := by
  induction h with
  | nil => exact refl []
  | cons hxy _ ih =>
    rw [List.flatMap_cons, List.flatMap_cons]
    exact (hfg _ _ hxy).append ih

end SameLines

theorem behindLine_commentBlock (n : Nat) (title description : String) (tags : List String) :
    behindLine (commentBlock (spaces n) title description tags) =
      '\n' :: (List.replicate n ' ' ++ comment n title description tags) := by
  have hblock : ∃ l ls, commentBlock (spaces n) title description tags = l :: ls := ⟨_, _, rfl⟩
  rw [← toList_commentBlock]
  obtain ⟨l, ls, hblock⟩ := hblock
  rw [hblock, toList_joinLines, behindLine_cons, List.cons_append]

theorem sameLines_commentBlock (n : Nat) (title title' description description' : String)
    (tags tags' : List String) :
    SameLines (commentBlock (spaces n) title description tags)
      (commentBlock (spaces n) title' description' tags') := by
  have hc := isComment_comment n title description tags
  have hc' := isComment_comment n title' description' tags'
  unfold SameLines
  rw [behindLine_commentBlock, behindLine_commentBlock]
  cases n with
  | zero =>
    have h := (SameBetween.nil).comment '\n' (by decide) (by decide) hc hc'
    simpa using h
  | succ n =>
    -- The blank before the comment is the last one of the indentation.
    have h := (SameBetween.nil).comment ' ' (by decide) (by decide) hc hc'
    have hindent := (SameBetween.refl ('\n' :: List.replicate n ' ')).append h
    simpa [List.replicate_succ'] using hindent

theorem sameLines_propertyComment (p q : PropertyDefinition) :
    SameLines (propertyComment p) (propertyComment q) :=
  sameLines_commentBlock 4 _ _ _ _ _ _

theorem sameLines_headerLines (d e : TypeDefinition) :
    SameLines (headerLines d) (headerLines e) :=
  sameLines_commentBlock 0 _ _ _ _ _ _

namespace SameButTexts

variable {d e : TypeDefinition} {known : List String}

theorem visibleProperties (h : SameButTexts d e) :
    List.Forall₂ (fun p q => p.name = q.name ∧ p.tag = q.tag)
      (TypeScript.visibleProperties d) (TypeScript.visibleProperties e) := by
  refine List.rel_filter ?_ h.properties
  rintro p q ⟨hname, -⟩
  simp only [hname]

theorem map_eq {α : Type} {f : PropertyDefinition → α} {ps qs : List PropertyDefinition}
    (h : List.Forall₂ (fun p q => p.name = q.name ∧ p.tag = q.tag) ps qs)
    (hf : ∀ p q : PropertyDefinition, p.name = q.name → p.tag = q.tag → f p = f q) :
    ps.map f = qs.map f := by
  induction h with
  | nil => rfl
  | cons hpq _ ih => rw [List.map_cons, List.map_cons, ih, hf _ _ hpq.1 hpq.2]

theorem fieldCollision? (h : SameButTexts d e) :
    TypeScript.fieldCollision? d = TypeScript.fieldCollision? e := by
  rw [TypeScript.fieldCollision?, TypeScript.fieldCollision?, h.name,
    map_eq h.properties fun _ _ hname _ => hname]

theorem references (h : SameButTexts d e) :
    TypeScript.references d known = TypeScript.references e known := by
  rw [TypeScript.references, TypeScript.references, h.name,
    map_eq h.visibleProperties fun _ _ _ htag => htag]

theorem interfaceLines (h : SameButTexts d e) :
    SameLines (TypeScript.interfaceLines d known) (TypeScript.interfaceLines e known) := by
  unfold TypeScript.interfaceLines
  rw [h.name]
  refine ((SameLines.refl _).append (.flatMap h.visibleProperties fun p q hpq => ?_)).append
    (.refl _)
  rw [fieldLines, fieldLines, hpq.1, hpq.2]
  exact (sameLines_propertyComment p q).append (.refl _)

theorem instanceLines (h : SameButTexts d e) :
    SameLines (TypeScript.instanceLines d) (TypeScript.instanceLines e) := by
  have hmap : d.properties.map propertyMapLine = e.properties.map propertyMapLine :=
    map_eq h.properties fun p q hname htag => by rw [propertyMapLine, propertyMapLine, hname, htag]
  unfold TypeScript.instanceLines
  rw [h.name, hmap]
  refine ((SameLines.refl _).append (.flatMap h.visibleProperties fun p q hpq => ?_)).append
    (.refl _)
  simp only [getterLines, h.name, hpq.1]
  exact (sameLines_propertyComment p q).append (.refl _)

/-- The models are the same between comments. -/
theorem text (h : SameButTexts d e) :
    SameBetween (modelSections d known).text.toList (modelSections e known).text.toList := by
  have hlines : ∀ x : TypeDefinition, (modelSections x known).lines =
      importLines x known ++ (headerLines x ++ (TypeScript.interfaceLines x known ++
        (propsLines x ++ TypeScript.instanceLines x))) := by
    intro x
    simp [modelSections, Sections.lines]
  have himports : importLines d known = importLines e known := by
    rw [importLines, importLines, h.references]
  have hprops : propsLines d = propsLines e := by
    rw [propsLines, propsLines, h.name]
  obtain ⟨l, ls, hfirst⟩ : ∃ l ls, importLines e known = l :: ls := ⟨_, _, rfl⟩
  have hinterface : SameLines (TypeScript.interfaceLines d known)
      (TypeScript.interfaceLines e known) := h.interfaceLines
  have hrest := (SameLines.refl ls).append ((sameLines_headerLines d e).append
    (hinterface.append ((SameLines.refl (propsLines e)).append h.instanceLines)))
  simp only [Sections.text, hlines, himports, hprops, hfirst, List.cons_append,
    String.toList_append, toList_joinLines]
  exact ((SameBetween.refl _).append hrest).append (.refl _)

end SameButTexts

/-- What only describes a type stays in comments.  A comment block is closed at its end and not
before.  Of two definitions that differ in nothing else, neither has a model, for the same reason,
or both have one, and these are the same without comments. -/
theorem descriptions_commented :
    (∀ (n : Nat) (title description : String) (tags : List String), ∃ a,
      (Text.joinLines (commentBlock (spaces n) title description tags)).toList =
        List.replicate n ' ' ++ a ∧ IsComment a ∧
      ∀ u v, List.replicate n ' ' ++ a = u ++ ['*', '/'] ++ v → v = []) ∧
    ∀ (d e : TypeDefinition) (known : List String), SameButTexts d e →
      (∃ c, modelFile d known = .error c ∧ modelFile e known = .error c) ∨
      ∃ f g, modelFile d known = .ok f ∧ modelFile e known = .ok g ∧ f.path = g.path ∧
        withoutComments f.content.toList = withoutComments g.content.toList := by
  refine ⟨fun n title description tags => ?_, fun d e known h => ?_⟩
  · have hunclosed := unclosed_spaces_append n (unclosed_commentInside n title description tags)
    refine ⟨_, toList_commentBlock n title description tags, isComment_comment n _ _ _,
      fun u v he => eq_nil_of_closing hunclosed (u := u) ?_⟩
    rwa [List.append_assoc]
  · cases hd : fieldCollision? d with
    | some c =>
      have he := h.fieldCollision?.symm.trans hd
      exact .inl ⟨c, by simp [modelFile, buildModel, hd], by simp [modelFile, buildModel, he]⟩
    | none =>
      have he := h.fieldCollision?.symm.trans hd
      refine .inr ⟨_, _, modelFile_eq_ok_iff.mpr ⟨hd, rfl⟩, modelFile_eq_ok_iff.mpr ⟨he, rfl⟩,
        ?_, withoutComments_congr h.text⟩
      rw [h.name]

/-- A page whose texts are full of marks, and one without texts. -/
def boastfulPage : TypeDefinition where
  name := "Page"
  displayName := "**//"
  description := "/** Ends */ here\n*/"
  guid := "*/ export class X"
  properties := [⟨"Title", "*/*/", "a *\u2028/ b */", "String"⟩, ⟨"/**", "", "*/", "Page"⟩]

def tersePage : TypeDefinition where
  name := "Page"
  displayName := ""
  description := ""
  guid := ""
  properties := [⟨"Title", "", "", "String"⟩, ⟨"/**", "", "", "Page"⟩]

theorem descriptions_commented_page :
    SameButTexts boastfulPage tersePage ∧
      ∃ f g, modelFile boastfulPage ["Page"] = .ok f ∧ modelFile tersePage ["Page"] = .ok g ∧
        withoutComments f.content.toList = withoutComments g.content.toList := by
  have h : SameButTexts boastfulPage tersePage :=
    ⟨rfl, .cons ⟨rfl, rfl⟩ (.cons ⟨rfl, rfl⟩ .nil)⟩
  refine ⟨h, ?_⟩
  rcases descriptions_commented.2 _ _ ["Page"] h with ⟨c, hc, -⟩ | ⟨f, g, hf, hg, -, he⟩
  · have hnone : fieldCollision? boastfulPage = none := by decide +kernel
    rw [modelFile_eq_ok_iff.mpr ⟨hnone, rfl⟩] at hc
    contradiction
  · exact ⟨f, g, hf, hg, he⟩

end TypedContent.TypeScript
