import IrListing.Listing.Basic

namespace IrListing.Listing

/-- Bell, backspace, vertical tab, form feed and carriage return move the cursor, so they are left
out. -/
def isSteering (c : Char) : Bool := c.toNat ∈ [7, 8, 11, 12, 13]

def steady (t : Text) : Text := t.filter (!isSteering ·)

def Line.note (l : Line) : Text :=
  match l.source.bind (·.text?) with
  | some place => "  ; ".toList ++ place
  | none => []

def Line.shown (places : Bool) (l : Line) : Text :=
  steady l.text ++ if places then steady l.note else []

def width (c : Char) : Nat := if c.toNat < 0x20 || (0x7f ≤ c.toNat && c.toNat < 0xa0) then 0 else 1

def untabbed (column : Nat) : Text → Text
  | [] => []
  | c :: t =>
    if c = '\t' then List.replicate (8 - column % 8) ' ' ++ untabbed (column + (8 - column % 8)) t
    else c :: untabbed (column + width c) t

def Result.shown (places : Bool) (r : Result) : Text :=
  r.lines.flatMap fun l => untabbed 0 (l.shown places) ++ ['\n']

end IrListing.Listing
