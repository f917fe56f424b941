import IrListing.Text.Basic

namespace IrListing.Text

def byteSize (t : Text) : Nat := t.foldr (fun c size => c.utf8Size + size) 0

/-- What a first byte announces: how many bytes follow, its own bits, and the range of the next
byte, which shuts out overlong forms, surrogates and too great code points. -/
def announced? (b : Nat) : Option (Nat × Nat × Nat × Nat) :=
  if 0xc2 ≤ b ∧ b ≤ 0xdf then some (1, b - 0xc0, 0x80, 0xbf)
  else if b = 0xe0 then some (2, 0, 0xa0, 0xbf)
  else if b = 0xed then some (2, 0xd, 0x80, 0x9f)
  else if 0xe1 ≤ b ∧ b ≤ 0xef then some (2, b - 0xe0, 0x80, 0xbf)
  else if b = 0xf0 then some (3, 0, 0x90, 0xbf)
  else if 0xf1 ≤ b ∧ b ≤ 0xf3 then some (3, b - 0xf0, 0x80, 0xbf)
  else if b = 0xf4 then some (3, 4, 0x80, 0x8f)
  else none

structure Pending where
  more : Nat
  bits : Nat
  least : Nat
  most : Nat

/-- The characters read so far in reverse, with nothing in the place of each longest run of bytes
that could have started a character and did not become one; and what may still become one. -/
structure Decoder where
  done : List (Option Char) := []
  pending : Option Pending := none

namespace Decoder

def start (d : Decoder) (b : Nat) : Decoder :=
  if b < 0x80 then ⟨some (Char.ofNat b) :: d.done, none⟩
  else match announced? b with
    | some (more, bits, least, most) => ⟨d.done, some ⟨more, bits, least, most⟩⟩
    | none => ⟨none :: d.done, none⟩

def feed (d : Decoder) (byte : UInt8) : Decoder :=
  let b := byte.toNat
  match d.pending with
  | none => d.start b
  | some p =>
    if p.least ≤ b ∧ b ≤ p.most then
      let bits := p.bits * 64 + (b - 0x80)
      if p.more = 1 then ⟨some (Char.ofNat bits) :: d.done, none⟩
      else ⟨d.done, some ⟨p.more - 1, bits, 0x80, 0xbf⟩⟩
    else ({ d with done := none :: d.done } : Decoder).start b

def chars (d : Decoder) : List (Option Char) := d.done.reverse

end Decoder

def decode (bytes : List UInt8) : List (Option Char) :=
  let d := bytes.foldl Decoder.feed {}
  if d.pending.isSome then d.chars ++ [none] else d.chars

def ofBytes? (bytes : List UInt8) : Option Text := (decode bytes).mapM id

def ofBytesLossy (bytes : List UInt8) : Text := (decode bytes).map (·.getD '\ufffd')

end IrListing.Text
