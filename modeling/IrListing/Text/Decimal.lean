import IrListing.Text.Numeral

namespace IrListing

structure Decimal where
  negative : Bool
  digits : Nat
  exponent : Int
  deriving DecidableEq, Repr

namespace Decimal

def shorten (digits : Nat) (exponent : Int) : Nat × Int :=
  if h : digits ≠ 0 ∧ digits % 10 = 0 then shorten (digits / 10) (exponent + 1)
  else (digits, exponent)
termination_by digits
decreasing_by omega

def text (d : Decimal) : Text :=
  let (n, e) := if d.digits = 0 then (0, 0) else shorten d.digits d.exponent
  let row := Text.ofNat n
  let first := e + row.length - 1
  let body :=
    if first < -4 ∨ 16 ≤ first then
      let mantissa := match row with
        | [c] => [c]
        | c :: more => c :: '.' :: more
        | [] => []
      let size := Text.ofNat first.natAbs
      let size := if size.length < 2 then '0' :: size else size
      mantissa ++ ['e', if first < 0 then '-' else '+'] ++ size
    else if 0 ≤ e then row ++ List.replicate e.toNat '0' ++ ['.', '0']
    else if first < 0 then ['0', '.'] ++ List.replicate (-first - 1).toNat '0' ++ row
    else row.take (first + 1).toNat ++ '.' :: row.drop (first + 1).toNat
  if d.negative then '-' :: body else body

end Decimal

/-- A binary number, `mantissa * 2 ^ exponent` with a sign, or one beyond all of these. -/
inductive Binary
  | finite (negative : Bool) (mantissa : Nat) (exponent : Int)
  | infinite (negative : Bool)
  | undefined
  deriving DecidableEq, Repr

namespace Binary

def roundDiv (n d : Nat) : Nat :=
  let q := n / d
  let twice := 2 * (n % d)
  if twice < d then q else if d < twice then q + 1 else q + q % 2

/-- The nearest number with 53 significant bits, or with the step 2^-1074 near zero; beyond the
greatest it is infinite. -/
def ofFraction (negative : Bool) (n d : Nat) : Binary :=
  if n = 0 ∨ d = 0 then .finite negative 0 0
  else
    let guess : Int := (n.log2 : Int) - d.log2
    let floor := if (if 0 ≤ guess then d <<< guess.toNat ≤ n else d ≤ n <<< (-guess).toNat)
      then guess else guess - 1
    let e := max (floor - 52) (-1074)
    let m := if 0 ≤ e then roundDiv n (d <<< e.toNat) else roundDiv (n <<< (-e).toNat) d
    if 1 <<< 1024 ≤ (if 0 ≤ e then m <<< e.toNat else 0) then .infinite negative
    else .finite negative m e

/-- The first tests keep the powers of ten small: `10 ^ 400` is above every number here, and a
number below `2 ^ -1100` is nearer to zero than to any other. -/
def ofDecimal (d : Decimal) : Binary :=
  if d.digits = 0 then .finite d.negative 0 0
  else if 400 < d.exponent then .infinite d.negative
  else if d.digits.log2 + 1 + 3 * d.exponent < -1100 then .finite d.negative 0 0
  else if 0 ≤ d.exponent then ofFraction d.negative (d.digits * Nat.pow 10 d.exponent.toNat) 1
  else ofFraction d.negative d.digits (Nat.pow 10 (-d.exponent).toNat)

def ofScaled (negative : Bool) (mantissa : Nat) (exponent : Int) : Binary :=
  if 0 ≤ exponent then ofFraction negative (mantissa <<< exponent.toNat) 1
  else ofFraction negative mantissa (1 <<< (-exponent).toNat)

def neg : Binary → Binary
  | .finite negative m e => .finite (!negative) m e
  | .infinite negative => .infinite (!negative)
  | .undefined => .undefined

def mul : Binary → Binary → Binary
  | .undefined, _ | _, .undefined => .undefined
  | .finite s m e, .finite s' m' e' => ofScaled (s != s') (m * m') (e + e')
  | .finite s m _, .infinite s' | .infinite s', .finite s m _ =>
    if m = 0 then .undefined else .infinite (s != s')
  | .infinite s, .infinite s' => .infinite (s != s')

def add : Binary → Binary → Binary
  | .undefined, _ | _, .undefined => .undefined
  | .finite s m e, .finite s' m' e' =>
    let least := min e e'
    let n := Text.signed s (m <<< (e - least).toNat) + Text.signed s' (m' <<< (e' - least).toNat)
    ofScaled (n < 0) n.natAbs least
  | .finite .., .infinite s | .infinite s, .finite .. => .infinite s
  | .infinite s, .infinite s' => if s = s' then .infinite s else .undefined

def ofText? (t : Text) : Option Binary :=
  let (negative, t) := Text.splitSign (Text.toAsciiDigits (Text.unpad t))
  let name := t.map Char.toLower
  if name ∈ ["inf".toList, "infinity".toList] then some (.infinite negative)
  else if name = "nan".toList then some .undefined
  else
    let front := t.takeWhile Char.isDigit
    let (places, t) := match t.dropWhile Char.isDigit with
      | '.' :: t => (t.takeWhile Char.isDigit, t.dropWhile Char.isDigit)
      | t => ([], t)
    let number (exponent : Int) : Option Binary :=
      if front = [] && places = [] then none
      else some (.ofDecimal
        ⟨negative, Text.digitsValue (front ++ places), exponent - places.length⟩)
    match t with
    | [] => number 0
    | e :: t =>
      let (down, digits) := Text.splitSign t
      if (e = 'e' || e = 'E') && digits ≠ [] && digits.all Char.isDigit then
        number (Text.signed down (Text.digitsValue digits))
      else none

def whole? : Binary → Option Int
  | .finite negative m e =>
    if 0 ≤ e then some (Text.signed negative (m <<< e.toNat))
    else if m % (1 <<< (-e).toNat) = 0 then some (Text.signed negative (m >>> (-e).toNat))
    else none
  | _ => none

end Binary

end IrListing
