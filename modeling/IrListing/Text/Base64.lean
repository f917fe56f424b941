import IrListing.Text.Basic

namespace IrListing.Text

def sextet? (c : Char) : Option Nat :=
  if 'A' ≤ c ∧ c ≤ 'Z' then some (c.toNat - 'A'.toNat)
  else if 'a' ≤ c ∧ c ≤ 'z' then some (c.toNat - 'a'.toNat + 26)
  else if c.isDigit then some (c.toNat - '0'.toNat + 52)
  else if c = '+' then some 62
  else if c = '/' then some 63
  else none

def base64From? (place left pads : Nat) : Text → Option (List UInt8)
  | [] => if place = 0 then some [] else none
  | c :: t =>
    match sextet? c with
    | some n =>
      if place = 0 then base64From? 1 n 0 t
      else
        let bits := left * 64 + n
        let rest := 4 ^ (3 - place)
        (base64From? ((place + 1) % 4) (bits % rest) 0 t).map ((bits / rest).toUInt8 :: ·)
    | none =>
      if c = '=' ∧ 2 ≤ place then
        if 4 ≤ place + pads + 1 then some [] else base64From? place left (pads + 1) t
      else base64From? place left pads t

def base64? (t : Text) : Option (List UInt8) := base64From? 0 0 0 t

end IrListing.Text
