/-!
# Bytes in the base-64 alphabet

Four signs stand for three bytes, and a last group that is shorter is padded.  Characters outside
of the alphabet are passed over, and nothing is read behind the padding that completes a group.
-/

namespace TypedContent.Text.Base64

/-- The six bits that a sign of the alphabet stands for. -/
def sextet? (c : Char) : Option Nat :=
  if 'A' ≤ c ∧ c ≤ 'Z' then some (c.toNat - 'A'.toNat)
  else if 'a' ≤ c ∧ c ≤ 'z' then some (c.toNat - 'a'.toNat + 26)
  else if '0' ≤ c ∧ c ≤ '9' then some (c.toNat - '0'.toNat + 52)
  else if c = '+' then some 62
  else if c = '/' then some 63
  else none

/-- Where a reader stands inside of a group. -/
structure Place where
  /-- The signs of the group that have been read. -/
  signs : Nat
  /-- The paddings that followed the last sign. -/
  pads : Nat
  /-- The bits that do not make a byte yet. -/
  rest : Nat

def Place.start : Place := ⟨0, 0, 0⟩

/-- A sign completes a byte, unless it is the first of its group. -/
def Place.read (p : Place) (bits : Nat) : List UInt8 × Place :=
  match p.signs with
  | 0 => ([], ⟨1, 0, bits⟩)
  | 1 => ([UInt8.ofNat (p.rest * 4 + bits / 16)], ⟨2, 0, bits % 16⟩)
  | 2 => ([UInt8.ofNat (p.rest * 16 + bits / 4)], ⟨3, 0, bits % 4⟩)
  | _ => ([UInt8.ofNat (p.rest * 64 + bits)], .start)

/-- A padding counts from the third place of a group on. -/
def Place.pad (p : Place) : Place := if 2 ≤ p.signs then { p with pads := p.pads + 1 } else p

def Place.isComplete (p : Place) : Bool := 2 ≤ p.signs && 4 ≤ p.signs + p.pads

def decodeFrom (p : Place) : List Char → Option (List UInt8)
  | [] => if p.signs = 0 then some [] else none
  | c :: cs =>
    if c = '=' then
      if p.pad.isComplete then some [] else decodeFrom p.pad cs
    else match sextet? c with
      | none => decodeFrom p cs
      | some bits => (decodeFrom (p.read bits).2 cs).map ((p.read bits).1 ++ ·)

/-- The bytes that a text stands for, if its last group is complete. -/
def decode? (s : List Char) : Option (List UInt8) := decodeFrom .start s

end TypedContent.Text.Base64
