import Mathlib.Data.List.DropRight
import TypedContent.Proofs.Text.Trimming
import TypedContent.Settings.EnvFile

/-!
# Lines of an environment file

`Assigns` says how a line is spelled that assigns something to a key: blanks, perhaps `export` with
blanks behind it, the key, blanks, an equals sign, and any rest.  A line is read as an assignment
exactly if it is spelled so (`assignment?_eq_some_iff`), and the value comes from the rest alone.
No line is spelled so in two ways that differ in the key, although `export` may be a key as well.
-/

namespace TypedContent.Settings.EnvFile

open Text

/-- A key begins with a letter or an underscore, and has letters, digits, underscores and points. -/
structure IsKey (s : List Char) : Prop where
  start : s.head?.any isKeyStart = true
  chars : ∀ c ∈ s, isKeyChar c = true

instance (s : List Char) : Decidable (IsKey s) :=
  decidable_of_iff (s.head?.any isKeyStart = true ∧ s.all isKeyChar = true)
    ⟨fun h => ⟨h.1, List.all_eq_true.mp h.2⟩, fun h => ⟨h.start, List.all_eq_true.mpr h.chars⟩⟩

/-- What may stand in front of a key: nothing, or `export` and at least one blank. -/
inductive IsLead : List Char → Prop
  | nothing : IsLead []
  | exported {b : List Char} (hb : Blanks b) (hne : b ≠ []) : IsLead ("export".toList ++ b)

/-- The line assigns to the key what is made of the rest. -/
structure Assigns (line key rest : List Char) : Prop where
  isKey : IsKey key
  spelled : ∃ a lead gap, Blanks a ∧ IsLead lead ∧ Blanks gap ∧
    line = a ++ (lead ++ (key ++ (gap ++ '=' :: rest)))

variable {line key gap rest s t : List Char} {c : Char} {k v : String}

/-! ## Characters -/

theorem isBlank_of_isKeyChar (h : isKeyChar c = true) : isBlank c = false := by
  -- All characters of keys are between the point and the letter z, where no blank is.
  have hrange : 46 ≤ c.toNat ∧ c.toNat ≤ 122 := by
    simp only [isKeyChar, isKeyStart, Bool.or_eq_true, Bool.and_eq_true, decide_eq_true_eq,
      beq_iff_eq, Char.le_def, UInt32.le_iff_toNat_le] at h
    rcases h with ((((h | h) | rfl) | h) | rfl)
    · exact ⟨Nat.le_trans (by decide) h.1, Nat.le_trans h.2 (by decide)⟩
    · exact ⟨Nat.le_trans (by decide) h.1, Nat.le_trans h.2 (by decide)⟩
    · decide
    · exact ⟨Nat.le_trans (by decide) h.1, Nat.le_trans h.2 (by decide)⟩
    · decide
  rw [Bool.eq_false_iff]
  intro hblank
  simp only [isBlank, Ranges.holds, blankRanges, List.any_cons, List.any_nil, Bool.or_eq_true,
    Bool.and_eq_true, decide_eq_true_eq, Bool.or_false] at hblank
  omega

theorem isKeyChar_of_isKeyStart (h : isKeyStart c = true) : isKeyChar c = true := by
  simp [isKeyChar, h]

theorem IsKey.exists_cons (h : IsKey key) : ∃ c t, key = c :: t ∧ isKeyStart c = true := by
  obtain ⟨start, -⟩ := h
  cases key with
  | nil => contradiction
  | cons c t => exact ⟨c, t, rfl, start⟩

/-- Neither a blank nor the equals sign stands in a key. -/
theorem exists_behind_key (hgap : Blanks gap) (rest : List Char) :
    ∃ c t, gap ++ '=' :: rest = c :: t ∧ isKeyChar c = false := by
  cases gap with
  | nil => exact ⟨'=', rest, rfl, by decide⟩
  | cons c gap =>
    refine ⟨c, _, rfl, Bool.eq_false_iff.mpr fun h => ?_⟩
    have hblank := hgap c List.mem_cons_self
    rw [isBlank_of_isKeyChar h] at hblank
    contradiction

theorem takeWhile_key (hkey : ∀ c ∈ key, isKeyChar c = true) (hgap : Blanks gap)
    (rest : List Char) : (key ++ (gap ++ '=' :: rest)).takeWhile isKeyChar = key := by
  obtain ⟨c, t, he, hc⟩ := exists_behind_key hgap rest
  rw [List.takeWhile_append_of_pos hkey, he, List.takeWhile_cons_of_neg (by simp [hc]),
    List.append_nil]

theorem dropWhile_key (hkey : ∀ c ∈ key, isKeyChar c = true) (hgap : Blanks gap)
    (rest : List Char) :
    (key ++ (gap ++ '=' :: rest)).dropWhile isKeyChar = gap ++ '=' :: rest := by
  obtain ⟨c, t, he, hc⟩ := exists_behind_key hgap rest
  rw [List.dropWhile_append_of_pos hkey, he, List.dropWhile_cons_of_neg (by simp [hc])]

theorem dropWhile_gap (hgap : Blanks gap) (rest : List Char) :
    (gap ++ '=' :: rest).dropWhile isBlank = '=' :: rest := by
  rw [List.dropWhile_append_of_pos hgap, List.dropWhile_cons_of_neg (by decide)]

/-! ## Keys with values -/

theorem pair?_eq_some_iff : pair? s = some (k, v) ↔
    IsKey k.toList ∧ ∃ gap rest, Blanks gap ∧ s = k.toList ++ (gap ++ '=' :: rest) ∧
      v = String.ofList (value (trim rest)) := by
  constructor
  · intro h
    unfold pair? at h
    split at h
    · next hstart =>
      split at h
      · next rest hrest =>
        obtain ⟨rfl, rfl⟩ := Prod.mk.inj (Option.some.inj h)
        rw [String.toList_ofList]
        refine ⟨⟨?_, fun c hc => List.mem_takeWhile_imp hc⟩,
          (s.dropWhile isKeyChar).takeWhile isBlank, rest, fun c hc => List.mem_takeWhile_imp hc,
          ?_, rfl⟩
        · cases s with
          | nil => contradiction
          | cons c s =>
            rw [List.takeWhile_cons_of_pos (isKeyChar_of_isKeyStart hstart)]
            exact hstart
        · rw [← hrest, List.takeWhile_append_dropWhile, List.takeWhile_append_dropWhile]
      · contradiction
    · contradiction
  · rintro ⟨hkey, gap, rest, hgap, rfl, rfl⟩
    have hstart : (k.toList ++ (gap ++ '=' :: rest)).head?.any isKeyStart = true := by
      obtain ⟨c, t, he, hc⟩ := hkey.exists_cons
      rw [he]
      exact hc
    rw [pair?, if_pos hstart, dropWhile_key hkey.chars hgap, dropWhile_gap hgap,
      takeWhile_key hkey.chars hgap, String.ofList_toList]
    rfl

theorem pair?_eq_none_of_head (h : s.head?.any isKeyStart = false) : pair? s = none := by
  unfold pair?
  rw [if_neg (by simp [h])]

/-! ## The word in front of a key -/

theorem behindExport?_eq_some (h : behindExport? s = some t) :
    ∃ b, Blanks b ∧ b ≠ [] ∧ s = "export".toList ++ (b ++ t) ∧ t.dropWhile isBlank = t := by
  unfold behindExport? at h
  simp only at h
  split at h
  · next hword =>
    obtain ⟨r, rfl⟩ := List.isPrefixOf_iff_prefix.mp hword
    rw [List.drop_left] at h
    split at h
    · next hblank =>
      obtain rfl := Option.some.inj h
      refine ⟨r.takeWhile isBlank, fun c hc => List.mem_takeWhile_imp hc, ?_,
        by rw [List.takeWhile_append_dropWhile], List.dropWhile_idempotent isBlank r⟩
      cases r with
      | nil => contradiction
      | cons c r => simp [List.takeWhile_cons_of_pos (show isBlank c = true from hblank)]
    · contradiction
  · contradiction

theorem behindExport?_export {b : List Char} (hb : Blanks b) (hne : b ≠ [])
    (ht : t.dropWhile isBlank = t) : behindExport? ("export".toList ++ (b ++ t)) = some t := by
  have hword : "export".toList.isPrefixOf ("export".toList ++ (b ++ t)) = true :=
    List.isPrefixOf_iff_prefix.mpr (List.prefix_append _ _)
  have hblank : (b ++ t).head?.any isBlank = true := by
    cases b with
    | nil => contradiction
    | cons c b => exact hb c List.mem_cons_self
  unfold behindExport?
  simp only [hword, if_true, List.drop_left, hblank, List.dropWhile_append_of_pos hb, ht]

/-- Behind `export` as a key there is no other key. -/
theorem bind_behindExport?_of_key (hkey : IsKey key) (hgap : Blanks gap) (rest : List Char) :
    (behindExport? (key ++ (gap ++ '=' :: rest))).bind pair? = none := by
  cases h : behindExport? (key ++ (gap ++ '=' :: rest)) with
  | none => rfl
  | some t =>
    obtain ⟨b, hb, hne, hs, ht⟩ := behindExport?_eq_some h
    -- Both spellings have the same characters of keys in front, and then the same blanks.
    have hbehind : (b ++ t).takeWhile isKeyChar = [] := by
      cases b with
      | nil => contradiction
      | cons c b =>
        refine List.takeWhile_cons_of_neg fun hc => ?_
        have hblank := hb c List.mem_cons_self
        rw [isBlank_of_isKeyChar hc] at hblank
        contradiction
    have hexport : IsKey "export".toList := by decide
    have hsame : key = "export".toList := by
      have htake := congrArg (List.takeWhile isKeyChar) hs
      rwa [takeWhile_key hkey.chars hgap, List.takeWhile_append_of_pos hexport.chars, hbehind,
        List.append_nil] at htake
    rw [hsame] at hs
    have hdrop := congrArg (List.dropWhile isBlank) (List.append_cancel_left hs)
    rw [dropWhile_gap hgap, List.dropWhile_append_of_pos hb, ht] at hdrop
    rw [← hdrop]
    exact pair?_eq_none_of_head rfl

theorem exists_head_of_lead {lead : List Char} (hlead : IsLead lead) (hkey : IsKey key)
    (s : List Char) : ∃ c t, lead ++ (key ++ s) = c :: t ∧ isKeyStart c = true := by
  cases hlead with
  | nothing =>
    obtain ⟨c, t, rfl, hc⟩ := hkey.exists_cons
    exact ⟨c, t ++ s, rfl, hc⟩
  | exported hb hne => exact ⟨'e', _, rfl, by decide⟩

theorem trimLeft_of_lead {lead : List Char} (hlead : IsLead lead) (hkey : IsKey key)
    (s : List Char) : trimLeft (lead ++ (key ++ s)) = lead ++ (key ++ s) := by
  obtain ⟨c, t, he, hc⟩ := exists_head_of_lead hlead hkey s
  rw [he, trimLeft_cons (isBlank_of_isKeyChar (isKeyChar_of_isKeyStart hc))]

/-! ## Lines -/

/-- A line is an assignment exactly if it is spelled as one, and its value comes from what is
behind the first equals sign. -/
theorem assignment?_eq_some_iff : assignment? line = some (k, v) ↔
    ∃ rest, Assigns line k.toList rest ∧ v = String.ofList (value (trim rest)) := by
  constructor
  · intro h
    obtain ⟨a, b, ha, hb, hline⟩ := exists_trim_eq line
    have hassigns (lead : List Char) (hlead : IsLead lead) {s : List Char}
        (hs : trim line = lead ++ s) (hpair : pair? s = some (k, v)) :
        ∃ rest, Assigns line k.toList rest ∧ v = String.ofList (value (trim rest)) := by
      obtain ⟨hkey, gap, rest, hgap, rfl, rfl⟩ := pair?_eq_some_iff.mp hpair
      refine ⟨rest ++ b, ⟨hkey, a, lead, gap, ha, hlead, hgap, ?_⟩, ?_⟩
      · rw [hline, hs]
        simp only [List.append_assoc, List.cons_append]
      · rw [trim_append_blanks rest hb]
    unfold assignment? at h
    simp only at h
    split at h
    · next p hp =>
      obtain rfl := Option.some.inj h
      obtain ⟨s, hs, hpair⟩ := Option.bind_eq_some_iff.mp hp
      obtain ⟨b', hb', hne, hspelled, -⟩ := behindExport?_eq_some hs
      exact hassigns ("export".toList ++ b') (.exported hb' hne)
        (hspelled.trans (List.append_assoc _ _ _).symm) hpair
    · exact hassigns [] .nothing rfl h
  · rintro ⟨rest, ⟨hkey, a, lead, gap, ha, hlead, hgap, rfl⟩, rfl⟩
    have hpair : pair? (k.toList ++ (gap ++ '=' :: trimRight rest)) =
        some (k, String.ofList (value (trim rest))) := by
      rw [← trim_trimRight rest]
      exact pair?_eq_some_iff.mpr ⟨hkey, gap, _, hgap, rfl, rfl⟩
    have htrim : trim (a ++ (lead ++ (k.toList ++ (gap ++ '=' :: rest)))) =
        lead ++ (k.toList ++ (gap ++ '=' :: trimRight rest)) := by
      have hright := trimRight_append (lead ++ (k.toList ++ gap)) rest
        (show isBlank '=' = false by decide)
      simp only [List.append_assoc] at hright
      rw [trim_blanks_append ha, ← hright, trim, trimLeft_of_lead hlead hkey]
    unfold assignment?
    simp only [htrim]
    cases hlead with
    | nothing =>
      rw [List.nil_append, bind_behindExport?_of_key hkey hgap]
      exact hpair
    | exported hb hne =>
      have hhead : trimLeft (k.toList ++ (gap ++ '=' :: trimRight rest)) =
          k.toList ++ (gap ++ '=' :: trimRight rest) := trimLeft_of_lead .nothing hkey _
      rw [List.append_assoc, behindExport?_export hb hne hhead, Option.bind_some, hpair]

/-- Nothing is assigned by a line that begins, behind its blanks, with what begins no key. -/
theorem assignment?_eq_none (h : (trim line).head?.any isKeyStart = false) :
    assignment? line = none := by
  cases hline : assignment? line with
  | none => rfl
  | some p =>
    obtain ⟨rest, ⟨hkey, a, lead, gap, ha, hlead, -, rfl⟩, -⟩ := assignment?_eq_some_iff.mp hline
    obtain ⟨c, t, he, hc⟩ := exists_head_of_lead hlead hkey (gap ++ '=' :: rest)
    rw [trim_blanks_append ha, he,
      trim_cons (isBlank_of_isKeyChar (isKeyChar_of_isKeyStart hc))] at h
    rw [show (c :: trimRight t).head?.any isKeyStart = isKeyStart c from rfl, hc] at h
    contradiction

end TypedContent.Settings.EnvFile
