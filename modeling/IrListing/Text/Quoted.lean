import IrListing.Text.Numeral
import IrListing.Text.Printable

namespace IrListing.Text

def hex (width n : Nat) : Text :=
  let row := Nat.toDigits 16 n
  List.replicate (width - row.length) '0' ++ row

def quotedChar (quote c : Char) : Text :=
  if c = '\\' ∨ c = quote then ['\\', c]
  else if c = '\t' then ['\\', 't']
  else if c = '\n' then ['\\', 'n']
  else if c = '\r' then ['\\', 'r']
  else if isPrintable c then [c]
  else if c.toNat < 0x100 then '\\' :: 'x' :: hex 2 c.toNat
  else if c.toNat < 0x10000 then '\\' :: 'u' :: hex 4 c.toNat
  else '\\' :: 'U' :: hex 8 c.toNat

def quoted (t : Text) : Text :=
  let quote := if '\'' ∈ t ∧ '"' ∉ t then '"' else '\''
  quote :: t.flatMap (quotedChar quote) ++ [quote]

def quotedList (ts : List Text) : Text :=
  '[' :: joined [',', ' '] (ts.map quoted) ++ [']']

end IrListing.Text
