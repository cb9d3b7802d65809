import Mathlib.Data.List.Basic
import TypedContent.Text.Encoding

/-!
# Bytes that hold a text

A decoder fails on a byte sequence exactly if that is no sequence of code units, each written out as
its encoding has it: `utf8Chars_eq_ok_iff` for UTF-8, with or without halves of surrogate pairs, and
`exists_decodeDetected_iff` for the bytes of a message.  `decodeUtf8_eq_ok_iff`: a file holds the
text whose bytes it holds.
-/

namespace TypedContent.Text

theorem exists_map_eq_ok_iff {ε α β : Type} {r : Except ε α} {f : α → β} :
    (∃ y, r.map f = .ok y) ↔ ∃ x, r = .ok x := by
  cases r <;> simp [Except.map]

/-! ## UTF-8 -/

/-- The bytes of a code point, be it half of a surrogate pair. -/
def pointBytes (n : Nat) : List UInt8 :=
  if n < 0x80 then [.ofNat n]
  else if n < 0x800 then [.ofNat (0xC0 + n / 64), .ofNat (0x80 + n % 64)]
  else if n < 0x10000 then
    [.ofNat (0xE0 + n / 4096), .ofNat (0x80 + n / 64 % 64), .ofNat (0x80 + n % 64)]
  else
    [.ofNat (0xF0 + n / 262144), .ofNat (0x80 + n / 4096 % 64), .ofNat (0x80 + n / 64 % 64),
      .ofNat (0x80 + n % 64)]

/-- The character of a code point. -/
def pointChar (n : Nat) : Char := if n.isValidChar then Char.ofNat n else replacement

/-- What may be written in UTF-8: code points, halves of surrogate pairs only where they pass. -/
def IsPoint (surrogates : Bool) (n : Nat) : Prop :=
  n < 0x110000 ∧ (n.isValidChar ∨ surrogates = true)

/-- The bytes are those of code points that have the characters `cs`. -/
def IsText (surrogates : Bool) (bs : List UInt8) (cs : List Char) : Prop :=
  ∃ ns : List Nat, (∀ n ∈ ns, IsPoint surrogates n) ∧ bs = ns.flatMap pointBytes ∧
    cs = ns.map pointChar

variable {surrogates : Bool} {pos n : Nat} {bs : List UInt8} {cs : List Char}

theorem isContinuation_iff {b : UInt8} :
    isContinuation b = true ↔ 0x80 ≤ b.toNat ∧ b.toNat < 0xC0 := by
  simp [isContinuation, UInt8.le_iff_toNat_le, UInt8.lt_iff_toNat_lt]

theorem isSecond_iff {lead b : UInt8} : isSecond lead b = true ↔
    (0x80 ≤ b.toNat ∧ b.toNat < 0xC0) ∧ (lead.toNat = 0xE0 → 0xA0 ≤ b.toNat) ∧
      (lead.toNat = 0xED → b.toNat < 0xA0) ∧ (lead.toNat = 0xF0 → 0x90 ≤ b.toNat) ∧
      (lead.toNat = 0xF4 → b.toNat < 0x90) := by
  simp [isSecond, isContinuation_iff, UInt8.le_iff_toNat_le, UInt8.lt_iff_toNat_lt,
    ← UInt8.toNat_inj, and_assoc, Decidable.imp_iff_not_or]

theorem isSurrogate_iff {lead b c : UInt8} : isSurrogate lead b c = true ↔
    lead.toNat = 0xED ∧ (0x80 ≤ b.toNat ∧ b.toNat < 0xC0) ∧ 0xA0 ≤ b.toNat ∧
      (0x80 ≤ c.toNat ∧ c.toNat < 0xC0) := by
  simp [isSurrogate, isContinuation_iff, UInt8.le_iff_toNat_le, ← UInt8.toNat_inj, and_assoc]

theorem isPoint_of_lt (h : n < 0xD800) : IsPoint surrogates n := ⟨by omega, .inl (.inl h)⟩

/-! ### From bytes to code points -/

theorem ofNat_eq (b : UInt8) {k : Nat} (h : k = b.toNat) : UInt8.ofNat k = b := by
  rw [h, UInt8.ofNat_toNat]

theorem pointBytes_one {b : UInt8} (h : b.toNat < 0x80) : pointBytes b.toNat = [b] := by
  rw [pointBytes, if_pos h, UInt8.ofNat_toNat]

theorem pointBytes_two {b c : UInt8} (hb : 0xC2 ≤ b.toNat ∧ b.toNat < 0xE0)
    (hc : 0x80 ≤ c.toNat ∧ c.toNat < 0xC0) :
    pointBytes ((b.toNat - 0xC0) * 64 + (c.toNat - 0x80)) = [b, c] := by
  -- The value gets a name, so that each byte is a small problem for `omega`.
  obtain ⟨n, hn⟩ : ∃ n, n = (b.toNat - 0xC0) * 64 + (c.toNat - 0x80) := ⟨_, rfl⟩
  rw [← hn, pointBytes, if_neg (by omega), if_pos (by omega), ofNat_eq b (by omega),
    ofNat_eq c (by omega)]

theorem pointBytes_three {b c d : UInt8} (hb : 0xE0 ≤ b.toNat ∧ b.toNat < 0xF0)
    (hc : 0x80 ≤ c.toNat ∧ c.toNat < 0xC0) (hlong : b.toNat = 0xE0 → 0xA0 ≤ c.toNat)
    (hd : 0x80 ≤ d.toNat ∧ d.toNat < 0xC0) :
    pointBytes (((b.toNat - 0xE0) * 64 + (c.toNat - 0x80)) * 64 + (d.toNat - 0x80)) =
      [b, c, d] := by
  obtain ⟨n, hn⟩ : ∃ n, n = ((b.toNat - 0xE0) * 64 + (c.toNat - 0x80)) * 64 + (d.toNat - 0x80) :=
    ⟨_, rfl⟩
  rw [← hn, pointBytes, if_neg (by omega), if_neg (by omega), if_pos (by omega),
    ofNat_eq b (by omega), ofNat_eq c (by omega), ofNat_eq d (by omega)]

theorem pointBytes_four {b c d e : UInt8} (hb : 0xF0 ≤ b.toNat ∧ b.toNat < 0xF5)
    (hc : 0x80 ≤ c.toNat ∧ c.toNat < 0xC0) (hlong : b.toNat = 0xF0 → 0x90 ≤ c.toNat)
    (hd : 0x80 ≤ d.toNat ∧ d.toNat < 0xC0) (he : 0x80 ≤ e.toNat ∧ e.toNat < 0xC0) :
    pointBytes ((((b.toNat - 0xF0) * 64 + (c.toNat - 0x80)) * 64 + (d.toNat - 0x80)) * 64 +
      (e.toNat - 0x80)) = [b, c, d, e] := by
  obtain ⟨n, hn⟩ : ∃ n, n = (((b.toNat - 0xF0) * 64 + (c.toNat - 0x80)) * 64 +
    (d.toNat - 0x80)) * 64 + (e.toNat - 0x80) := ⟨_, rfl⟩
  rw [← hn, pointBytes, if_neg (by omega), if_neg (by omega), if_neg (by omega),
    ofNat_eq b (by omega), ofNat_eq c (by omega), ofNat_eq d (by omega), ofNat_eq e (by omega)]

theorem isText_nil : IsText surrogates [] [] := ⟨[], by simp, rfl, rfl⟩

theorem isText_cons (hn : IsPoint surrogates n) (h : IsText surrogates bs cs) :
    IsText surrogates (pointBytes n ++ bs) (pointChar n :: cs) := by
  obtain ⟨ns, hns, rfl, rfl⟩ := h
  exact ⟨n :: ns, List.forall_mem_cons.mpr ⟨hn, hns⟩, rfl, rfl⟩

/-- A decoder that goes on behind the bytes of a code point. -/
theorem isText_of_map {r : Except DecodeError (List Char)} {first : List UInt8} {c : Char}
    (hn : IsPoint surrogates n) (hfirst : pointBytes n = first) (hc : pointChar n = c)
    (ih : ∀ cs, r = .ok cs → IsText surrogates bs cs) (cs : List Char)
    (h : r.map (c :: ·) = .ok cs) : IsText surrogates (first ++ bs) cs := by
  cases r with
  | error e => contradiction
  | ok cs' =>
    obtain rfl := Except.ok.inj h
    rw [← hfirst, ← hc]
    exact isText_cons hn (ih cs' rfl)

theorem isText_of_utf8Chars (surrogates : Bool) (pos : Nat) (bs : List UInt8) :
    ∀ cs, utf8Chars surrogates pos bs = .ok cs → IsText surrogates bs cs := by
  -- The named cases are the end and the five ways to go on; in all others decoding fails.
  fun_induction utf8Chars surrogates pos bs with
  | case1 pos =>
    intro cs h
    obtain rfl := Except.ok.inj h
    exact isText_nil
  | case2 pos b r hb ih =>
    have hb : b.toNat < 0x80 := UInt8.lt_iff_toNat_lt.mp hb
    refine isText_of_map (isPoint_of_lt (by omega)) (pointBytes_one hb) ?_ ih
    exact if_pos (.inl (by omega))
  | case6 pos b _ hlow hhigh c r hc ih =>
    have hb : 0xC2 ≤ b.toNat ∧ b.toNat < 0xE0 := by
      simpa [UInt8.lt_iff_toNat_lt] using And.intro hlow hhigh
    have hc : 0x80 ≤ c.toNat ∧ c.toNat < 0xC0 := isContinuation_iff.mp (by simpa using hc)
    exact isText_of_map (isPoint_of_lt (by omega)) (pointBytes_two hb hc) rfl ih
  | case10 pos b _ _ _ hhigh c d r hsurrogate ih =>
    obtain ⟨rfl, hsurrogate⟩ := Bool.and_eq_true_iff.mp hsurrogate
    obtain ⟨hb, hc, hsecond, hd⟩ := isSurrogate_iff.mp hsurrogate
    have hbytes := pointBytes_three (b := b) ⟨by omega, by omega⟩ hc (by omega) hd
    refine isText_of_map ⟨by omega, .inr rfl⟩ hbytes (if_neg ?_) ih
    rintro (h | h) <;> omega
  | case13 pos b _ _ hlow hhigh c d r _ hc hd ih =>
    have hb : 0xE0 ≤ b.toNat ∧ b.toNat < 0xF0 := by
      simpa [UInt8.lt_iff_toNat_lt] using And.intro hlow hhigh
    obtain ⟨hc, hlong, hhalf, -, -⟩ := isSecond_iff.mp (by simpa using hc)
    have hd : 0x80 ≤ d.toNat ∧ d.toNat < 0xC0 := isContinuation_iff.mp (by simpa using hd)
    refine isText_of_map ⟨by omega, .inl ?_⟩ (pointBytes_three hb hc hlong hd) rfl ih
    unfold Nat.isValidChar
    omega
  | case23 pos b _ _ _ hlow hhigh c d e r hc hd he ih =>
    have hb : 0xF0 ≤ b.toNat ∧ b.toNat < 0xF5 := by
      simpa [UInt8.lt_iff_toNat_lt] using And.intro hlow hhigh
    obtain ⟨hc, -, -, hlong, hrange⟩ := isSecond_iff.mp (by simpa using hc)
    have hd : 0x80 ≤ d.toNat ∧ d.toNat < 0xC0 := isContinuation_iff.mp (by simpa using hd)
    have he : 0x80 ≤ e.toNat ∧ e.toNat < 0xC0 := isContinuation_iff.mp (by simpa using he)
    refine isText_of_map ⟨by omega, .inl (.inr ?_)⟩ (pointBytes_four hb hc hlong hd he) rfl ih
    omega
  | _ =>
    intro cs h
    contradiction

/-! ### From code points to bytes -/

theorem utf8Chars_one {b : UInt8} (hb : b.toNat < 0x80) (r : List UInt8) :
    utf8Chars surrogates pos (b :: r) =
      (utf8Chars surrogates (pos + 1) r).map (pointChar b.toNat :: ·) := by
  have hchar : pointChar b.toNat = Char.ofNat b.toNat := if_pos (.inl (by omega))
  rw [utf8Chars.eq_def]
  simp only
  rw [if_pos (UInt8.lt_iff_toNat_lt.mpr hb), hchar]

theorem utf8Chars_two {b c : UInt8} (hb : 0xC2 ≤ b.toNat ∧ b.toNat < 0xE0)
    (hc : 0x80 ≤ c.toNat ∧ c.toNat < 0xC0) (r : List UInt8) :
    utf8Chars surrogates pos (b :: c :: r) = (utf8Chars surrogates (pos + 2) r).map
      (pointChar ((b.toNat - 0xC0) * 64 + (c.toNat - 0x80)) :: ·) := by
  have hascii : ¬ b < 0x80 := by simpa [UInt8.lt_iff_toNat_lt] using (by omega : 128 ≤ b.toNat)
  have hstart : ¬ b < 0xC2 := by simpa [UInt8.lt_iff_toNat_lt] using hb.1
  have htwo : b < 0xE0 := UInt8.lt_iff_toNat_lt.mpr hb.2
  rw [utf8Chars, if_neg hascii, if_neg hstart, if_pos htwo]
  simp only [isContinuation_iff.mpr hc, Bool.not_true, Bool.false_eq_true, if_false]
  rfl

theorem utf8Chars_three {b c d : UInt8} (hb : 0xE0 ≤ b.toNat ∧ b.toNat < 0xF0)
    (hc : 0x80 ≤ c.toNat ∧ c.toNat < 0xC0) (hlong : b.toNat = 0xE0 → 0xA0 ≤ c.toNat)
    (hhalf : b.toNat = 0xED → 0xA0 ≤ c.toNat → surrogates = true)
    (hd : 0x80 ≤ d.toNat ∧ d.toNat < 0xC0) (r : List UInt8) :
    utf8Chars surrogates pos (b :: c :: d :: r) = (utf8Chars surrogates (pos + 3) r).map
      (pointChar (((b.toNat - 0xE0) * 64 + (c.toNat - 0x80)) * 64 + (d.toNat - 0x80)) :: ·) := by
  have hascii : ¬ b < 0x80 := by simpa [UInt8.lt_iff_toNat_lt] using (by omega : 128 ≤ b.toNat)
  have hstart : ¬ b < 0xC2 := by simpa [UInt8.lt_iff_toNat_lt] using (by omega : 194 ≤ b.toNat)
  have htwo : ¬ b < 0xE0 := by simpa [UInt8.lt_iff_toNat_lt] using hb.1
  have hthree : b < 0xF0 := UInt8.lt_iff_toNat_lt.mpr hb.2
  rw [utf8Chars, if_neg hascii, if_neg hstart, if_neg htwo, if_pos hthree]
  -- Half of a surrogate pair is read in a branch of its own, where the check of `c` would fail.
  by_cases hsurrogate : b.toNat = 0xED ∧ 0xA0 ≤ c.toNat
  · have hmark : isSurrogate b c d = true := isSurrogate_iff.mpr ⟨hsurrogate.1, hc, hsurrogate.2, hd⟩
    have hchar : pointChar (((b.toNat - 0xE0) * 64 + (c.toNat - 0x80)) * 64 + (d.toNat - 0x80)) =
        replacement := if_neg (by rintro (h | h) <;> omega)
    simp only [hhalf hsurrogate.1 hsurrogate.2, hmark, Bool.and_self, if_true, hchar]
  · have hmark : isSurrogate b c d = false := by
      rw [← Bool.not_eq_true, isSurrogate_iff]
      exact fun h => hsurrogate ⟨h.1, h.2.2.1⟩
    have hsecond : isSecond b c = true :=
      isSecond_iff.mpr ⟨hc, hlong, by omega, by omega, by omega⟩
    simp only [hmark, Bool.and_false, hsecond, isContinuation_iff.mpr hd, Bool.not_true,
      Bool.false_eq_true, if_false]
    rfl

theorem utf8Chars_four {b c d e : UInt8} (hb : 0xF0 ≤ b.toNat ∧ b.toNat < 0xF5)
    (hc : 0x80 ≤ c.toNat ∧ c.toNat < 0xC0) (hlong : b.toNat = 0xF0 → 0x90 ≤ c.toNat)
    (hrange : b.toNat = 0xF4 → c.toNat < 0x90) (hd : 0x80 ≤ d.toNat ∧ d.toNat < 0xC0)
    (he : 0x80 ≤ e.toNat ∧ e.toNat < 0xC0) (r : List UInt8) :
    utf8Chars surrogates pos (b :: c :: d :: e :: r) = (utf8Chars surrogates (pos + 4) r).map
      (pointChar ((((b.toNat - 0xF0) * 64 + (c.toNat - 0x80)) * 64 + (d.toNat - 0x80)) * 64 +
        (e.toNat - 0x80)) :: ·) := by
  have hascii : ¬ b < 0x80 := by simpa [UInt8.lt_iff_toNat_lt] using (by omega : 128 ≤ b.toNat)
  have hstart : ¬ b < 0xC2 := by simpa [UInt8.lt_iff_toNat_lt] using (by omega : 194 ≤ b.toNat)
  have htwo : ¬ b < 0xE0 := by simpa [UInt8.lt_iff_toNat_lt] using (by omega : 224 ≤ b.toNat)
  have hthree : ¬ b < 0xF0 := by simpa [UInt8.lt_iff_toNat_lt] using hb.1
  have hfour : b < 0xF5 := UInt8.lt_iff_toNat_lt.mpr hb.2
  have hsecond : isSecond b c = true :=
    isSecond_iff.mpr ⟨hc, by omega, by omega, hlong, hrange⟩
  rw [utf8Chars, if_neg hascii, if_neg hstart, if_neg htwo, if_neg hthree, if_pos hfour]
  simp only [hsecond, isContinuation_iff.mpr hd, isContinuation_iff.mpr he, Bool.not_true,
    Bool.false_eq_true, if_false]
  rfl

theorem toNat_ofNat {k : Nat} (h : k < 256) : (UInt8.ofNat k).toNat = k := by
  rw [UInt8.toNat_ofNat', Nat.mod_eq_of_lt h]

/-- The bytes of a code point are read as its character. -/
theorem utf8Chars_pointBytes (pos : Nat) (hn : IsPoint surrogates n) (r : List UInt8) :
    ∃ pos', utf8Chars surrogates pos (pointBytes n ++ r) =
      (utf8Chars surrogates pos' r).map (pointChar n :: ·) := by
  obtain ⟨hrange, hvalid⟩ := hn
  unfold pointBytes
  split
  · have hb := toNat_ofNat (k := n) (by omega)
    refine ⟨pos + 1, ?_⟩
    rw [List.singleton_append, utf8Chars_one (by omega), hb]
  split
  · have hb := toNat_ofNat (k := 0xC0 + n / 64) (by omega)
    have hc := toNat_ofNat (k := 0x80 + n % 64) (by omega)
    generalize UInt8.ofNat (0xC0 + n / 64) = b at hb ⊢
    generalize UInt8.ofNat (0x80 + n % 64) = c at hc ⊢
    have hvalue : (b.toNat - 0xC0) * 64 + (c.toNat - 0x80) = n := by omega
    refine ⟨pos + 2, ?_⟩
    rw [List.cons_append, List.singleton_append, utf8Chars_two (by omega) (by omega), hvalue]
  split
  · have hb := toNat_ofNat (k := 0xE0 + n / 4096) (by omega)
    have hc := toNat_ofNat (k := 0x80 + n / 64 % 64) (by omega)
    have hd := toNat_ofNat (k := 0x80 + n % 64) (by omega)
    generalize UInt8.ofNat (0xE0 + n / 4096) = b at hb ⊢
    generalize UInt8.ofNat (0x80 + n / 64 % 64) = c at hc ⊢
    generalize UInt8.ofNat (0x80 + n % 64) = d at hd ⊢
    have hvalue : ((b.toNat - 0xE0) * 64 + (c.toNat - 0x80)) * 64 + (d.toNat - 0x80) = n := by omega
    have hhalf : b.toNat = 0xED → 0xA0 ≤ c.toNat → surrogates = true := fun hb' hc' =>
      hvalid.resolve_left (by unfold Nat.isValidChar; omega)
    refine ⟨pos + 3, ?_⟩
    rw [List.cons_append, List.cons_append, List.singleton_append,
      utf8Chars_three (by omega) (by omega) (by omega) hhalf (by omega), hvalue]
  · have hb := toNat_ofNat (k := 0xF0 + n / 262144) (by omega)
    have hc := toNat_ofNat (k := 0x80 + n / 4096 % 64) (by omega)
    have hd := toNat_ofNat (k := 0x80 + n / 64 % 64) (by omega)
    have he := toNat_ofNat (k := 0x80 + n % 64) (by omega)
    generalize UInt8.ofNat (0xF0 + n / 262144) = b at hb ⊢
    generalize UInt8.ofNat (0x80 + n / 4096 % 64) = c at hc ⊢
    generalize UInt8.ofNat (0x80 + n / 64 % 64) = d at hd ⊢
    generalize UInt8.ofNat (0x80 + n % 64) = e at he ⊢
    have hvalue : (((b.toNat - 0xF0) * 64 + (c.toNat - 0x80)) * 64 + (d.toNat - 0x80)) * 64 +
        (e.toNat - 0x80) = n := by omega
    refine ⟨pos + 4, ?_⟩
    rw [List.cons_append, List.cons_append, List.cons_append, List.singleton_append,
      utf8Chars_four (by omega) (by omega) (by omega) (by omega) (by omega) (by omega), hvalue]

/-- What is decoded are the characters of the code points that the bytes are those of. -/
theorem utf8Chars_eq_ok_iff :
    utf8Chars surrogates pos bs = .ok cs ↔ IsText surrogates bs cs := by
  refine ⟨isText_of_utf8Chars surrogates pos bs cs, ?_⟩
  rintro ⟨ns, hns, rfl, rfl⟩
  induction ns generalizing pos with
  | nil => rfl
  | cons n ns ih =>
    obtain ⟨hn, hns⟩ := List.forall_mem_cons.mp hns
    obtain ⟨pos', hstep⟩ := utf8Chars_pointBytes pos hn (ns.flatMap pointBytes)
    rw [List.flatMap_cons, hstep, ih hns]
    rfl

/-! ### The text of a file -/

theorem toList_loop_eq (b : ByteArray) (i : Nat) (done : List UInt8) :
    ByteArray.toList.loop b i done = done.reverse ++ b.data.toList.drop i := by
  fun_induction ByteArray.toList.loop b i done with
  | case1 i done h ih =>
    have hi : i < b.data.toList.length := by rwa [Array.length_toList]
    rw [ih, List.drop_eq_getElem_cons hi]
    simp [ByteArray.get!, h]
  | case2 i done h =>
    have hi : b.data.toList.length ≤ i := by
      rw [Array.length_toList]
      exact Nat.not_lt.mp h
    rw [List.drop_eq_nil_of_le hi, List.append_nil]

theorem toList_eq (b : ByteArray) : b.toList = b.data.toList := by
  rw [ByteArray.toList, toList_loop_eq]
  rfl

/-- The bytes of a code point are those of its character. -/
theorem pointBytes_eq (h : n.isValidChar) :
    pointBytes n = String.utf8EncodeChar (pointChar n) := by
  have hn : (pointChar n).val.toNat = n := by
    rw [pointChar, if_pos h, Char.ofNat, dif_pos h]
    rfl
  have hrange : n < 0x110000 := by
    rcases h with h | h <;> omega
  unfold pointBytes String.utf8EncodeChar
  simp only [hn]
  split
  · rw [if_pos (by omega)]
  split
  · have hfirst : 0xC0 + n / 64 = n / 64 % 32 + 192 := by omega
    rw [if_neg (by omega), if_pos (by omega), hfirst, Nat.add_comm 0x80 (n % 64)]
  split
  · have hfirst : 0xE0 + n / 4096 = n / 4096 % 16 + 224 := by omega
    rw [if_neg (by omega), if_neg (by omega), if_pos (by omega), hfirst,
      Nat.add_comm 0x80 (n / 64 % 64), Nat.add_comm 0x80 (n % 64)]
  · have hfirst : 0xF0 + n / 262144 = n / 262144 % 8 + 240 := by omega
    rw [if_neg (by omega), if_neg (by omega), if_neg (by omega), hfirst,
      Nat.add_comm 0x80 (n / 4096 % 64), Nat.add_comm 0x80 (n / 64 % 64), Nat.add_comm 0x80 (n % 64)]

/-- Without halves of surrogate pairs, the bytes are those of a string. -/
theorem isValidUTF8_of_isText {b : ByteArray} (h : IsText false b.toList cs) : b.IsValidUTF8 := by
  obtain ⟨ns, hns, hbytes, -⟩ := h
  have hpoints : ∀ n ∈ ns, pointBytes n = String.utf8EncodeChar (pointChar n) := fun n hn =>
    pointBytes_eq ((hns n hn).2.resolve_right Bool.false_ne_true)
  have hencoded : b.toList = (ns.map pointChar).flatMap String.utf8EncodeChar := by
    rw [hbytes, List.flatMap_map, List.flatMap_congr hpoints]
  refine .intro (ns.map pointChar) (ByteArray.ext ?_)
  rw [List.utf8Encode, List.data_toByteArray, ← hencoded, toList_eq, Array.toArray_toList]

/-- A file holds the text whose bytes it holds. -/
theorem decodeUtf8_eq_ok_iff {b : ByteArray} {s : String} : decodeUtf8 b = .ok s ↔ b = s.toUTF8 := by
  refine ⟨fun h => ?_, fun h => h ▸ decodeUtf8_toUTF8 s⟩
  unfold decodeUtf8 String.fromUTF8? at h
  by_cases hvalid : b.IsValidUTF8
  · rw [dif_pos hvalid] at h
    obtain rfl := Except.ok.inj h
    rfl
  · rw [dif_neg hvalid] at h
    cases hchars : utf8Chars false 0 b.toList with
    | error e => simp [hchars, Except.map] at h
    | ok cs => exact absurd (isValidUTF8_of_isText (utf8Chars_eq_ok_iff.mp hchars)) hvalid

/-- The bytes are those of no text. -/
def NoText (b : ByteArray) : Prop := ∀ s : String, b ≠ s.toUTF8

theorem exists_decodeUtf8_eq_error_iff {b : ByteArray} :
    (∃ e, decodeUtf8 b = .error e) ↔ NoText b := by
  constructor
  · rintro ⟨e, he⟩ s hs
    cases he.symm.trans (decodeUtf8_eq_ok_iff.mpr hs)
  · intro hnone
    cases h : decodeUtf8 b with
    | error e => exact ⟨e, rfl⟩
    | ok s => exact absurd (decodeUtf8_eq_ok_iff.mp h) (hnone s)

/-! ## Bytes of a message -/

/-- The bytes are whole units of the encoding.  Every unit of two bytes counts, be it half of a
surrogate pair; one of four bytes has to be a code point. -/
def Encoding.IsWhole : Encoding → List UInt8 → Prop
  | utf8, bs => ∃ cs, IsText true bs cs
  | utf16 _, bs => bs.length % 2 = 0
  | utf32 big, bs => bs.length % 4 = 0 ∧
      ∀ i, 4 * i < bs.length → unitValue big ((bs.drop (4 * i)).take 4) < 0x110000

theorem exists_utf16Units_iff (big : Bool) (pos : Nat) (bs : List UInt8) :
    (∃ us, utf16Units big pos bs = .ok us) ↔ bs.length % 2 = 0 := by
  fun_induction utf16Units big pos bs with
  | case1 => simp
  | case2 => simp
  | case3 pos b c r ih =>
    rw [exists_map_eq_ok_iff, ih]
    simp only [List.length_cons]
    omega

theorem isWhole_utf32_cons {big : Bool} {a b c d : UInt8} {r : List UInt8} :
    (Encoding.utf32 big).IsWhole (a :: b :: c :: d :: r) ↔
      unitValue big [a, b, c, d] < 0x110000 ∧ (Encoding.utf32 big).IsWhole r := by
  have hdrop (i : Nat) : (a :: b :: c :: d :: r).drop (4 * (i + 1)) = r.drop (4 * i) := rfl
  have hlength : (a :: b :: c :: d :: r).length = r.length + 4 := rfl
  simp only [Encoding.IsWhole, hlength, Nat.add_mod_right]
  constructor
  · rintro ⟨hwhole, hunits⟩
    exact ⟨hunits 0 (by omega), hwhole, fun i hi => hdrop i ▸ hunits (i + 1) (by omega)⟩
  · rintro ⟨hfirst, hwhole, hunits⟩
    refine ⟨hwhole, fun i hi => ?_⟩
    cases i with
    | zero => exact hfirst
    | succ i => exact hdrop i ▸ hunits i (by omega)

theorem exists_utf32Chars_iff (big : Bool) (pos : Nat) (bs : List UInt8) :
    (∃ cs, utf32Chars big pos bs = .ok cs) ↔ (Encoding.utf32 big).IsWhole bs := by
  fun_induction utf32Chars big pos bs with
  | case1 => simp [Encoding.IsWhole]
  | case2 pos a b c d r n hn =>
    rw [isWhole_utf32_cons]
    simp only [reduceCtorEq, exists_false, false_iff, not_and]
    exact fun hlt => absurd hlt (Nat.not_lt.mpr hn)
  | case3 pos a b c d r n hn ih =>
    rw [exists_map_eq_ok_iff, ih, isWhole_utf32_cons]
    exact (and_iff_right (Nat.not_le.mp hn)).symm
  | case4 pos bs hnil hcons =>
    simp only [reduceCtorEq, exists_false, false_iff]
    rintro ⟨hwhole, -⟩
    match bs with
    | [] => exact hnil rfl
    | [_] => contradiction
    | [_, _] => contradiction
    | [_, _, _] => contradiction
    | a :: b :: c :: d :: r => exact hcons a b c d r rfl

/-- A message is decoded exactly if what stands behind its mark are whole units of the encoding
that its first bytes show. -/
theorem exists_decodeDetected_iff {b : ByteArray} :
    (∃ cs, decodeDetected b = .ok cs) ↔
      (detect b.toList).1.IsWhole (b.toList.drop (detect b.toList).2) := by
  unfold decodeDetected
  simp only
  split
  · next k hdetect =>
    rw [hdetect]
    simp only [utf8Chars_eq_ok_iff]
    rfl
  · next big k hdetect =>
    rw [hdetect, exists_map_eq_ok_iff, exists_utf16Units_iff]
    rfl
  · next big k hdetect =>
    rw [hdetect]
    exact exists_utf32Chars_iff big k _

end TypedContent.Text
