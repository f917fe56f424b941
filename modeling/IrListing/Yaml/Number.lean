import IrListing.Text.Decimal
import IrListing.Yaml.Scalar

namespace IrListing.Yaml

open Text

def isDigitOrLow (c : Char) : Bool := c.isDigit || c = '_'

def isRow : Text → Bool
  | [] => false
  | c :: t => c.isDigit && t.all isDigitOrLow

def isSixtieth : Text → Bool
  | [c] => c.isDigit
  | [a, b] => '0' ≤ a && a ≤ '5' && b.isDigit
  | _ => false

def colonParts (t : Text) : List Text :=
  t.foldr (fun c parts => match parts with
    | p :: ps => if c = ':' then [] :: p :: ps else (c :: p) :: ps
    | [] => [[c]]) [[]]

def isExponent : Text → Bool
  | [] => true
  | e :: s :: digits =>
    (e = 'e' || e = 'E') && (s = '-' || s = '+') && digits ≠ [] && digits.all Char.isDigit
  | _ => false

def isFraction (t : Text) : Bool :=
  let (_, body) := splitSign t
  let unsigned := body.length = t.length
  if body ∈ [".inf".toList, ".Inf".toList, ".INF".toList] then true
  else if t ∈ [".nan".toList, ".NaN".toList, ".NAN".toList] then true
  else
    match body.dropWhile (· ≠ '.') with
    | [] => false
    | _ :: back =>
      match colonParts (body.takeWhile (· ≠ '.')) with
      | [row] =>
        isExponent (back.dropWhile isDigitOrLow) &&
          (isRow row || row = [] && unsigned && isRow (back.takeWhile isDigitOrLow))
      | row :: parts => isRow row && parts.all isSixtieth && back.all isDigitOrLow
      | [] => false

def isWhole (t : Text) : Bool :=
  match (splitSign t).2 with
  | '0' :: 'b' :: c :: digits => (c :: digits).all fun x => x = '0' || x = '1' || x = '_'
  | '0' :: 'x' :: c :: digits => (c :: digits).all fun x => (hexDigit? x).isSome || x = '_'
  | '0' :: digits => digits.all fun x => '0' ≤ x && x ≤ '7' || x = '_'
  | body =>
    match colonParts body with
    | row :: parts => isRow row && parts.all isSixtieth
    | [] => false

def withoutLows (t : Text) : Text := t.filter (· ≠ '_')

def based? (base : Nat) (mark : Char) (t : Text) : Option Int :=
  let (negative, t) := splitSign (toAsciiDigits (unpad t))
  let digits := match t with
    | '0' :: c :: more => if c.toLower = mark then more else t
    | _ => t
  if digits = [] then none
  else
    let read (n? : Option Nat) (c : Char) : Option Nat := do
      let n ← n?
      let d ← hexDigit? c
      if d < base then some (base * n + d) else none
    (digits.foldl read (some 0)).map (signed negative)

def unsignedWhole? (t : Text) : Option Int :=
  match t with
  | '0' :: 'b' :: t => based? 2 'b' t
  | '0' :: 'x' :: t => based? 16 'x' t
  | '0' :: _ => based? 8 'o' t
  | _ => ((colonParts t).mapM integer?).map fun parts => parts.foldl (60 * · + ·) 0

def outOfRange (x? : Option α) : Except Problem α := x?.elim (.error (.fault .outOfRange)) .ok

def wholeNumber (t : Text) : Except Problem Int :=
  let (negative, body) := splitSign (withoutLows t)
  if body = [] then .error (.fault .emptyNumber)
  else (outOfRange (unsignedWhole? body)).map fun n => if negative then -n else n

def sixtieths : (weight : Nat) → (sum : Binary) → List Binary → Except Problem Binary
  | _, sum, [] => .ok sum
  | weight, sum, x :: xs =>
    match Binary.ofFraction false weight 1 with
    | .finite s m e => sixtieths (60 * weight) (sum.add (x.mul (.finite s m e))) xs
    | _ => .error (.fault .tooGreat)

def fraction (t : Text) : Except Problem Binary :=
  let t := withoutLows t
  let (negative, body) := splitSign (t.map Char.toLower)
  let read : Except Problem Binary :=
    if body = ".inf".toList then .ok (.infinite false)
    else if body = ".nan".toList then .ok .undefined
    else
      (outOfRange ((colonParts body).mapM Binary.ofText?)).bind fun
        | [x] => .ok x
        | parts => sixtieths 1 (.finite false 0 0) parts.reverse
  if t = [] then .error (.fault .emptyNumber)
  else read.map fun x => if negative then x.neg else x

end IrListing.Yaml
