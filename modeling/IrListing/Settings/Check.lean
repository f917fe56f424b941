import IrListing.Settings.Value
import IrListing.Text.Utf8

/-! Reading a value as what a field needs. All that is wrong is reported at once, each fault with
the way to it through keys and indexes. -/

namespace IrListing.Settings

open Text

inductive Key
  | name (t : Text)
  | index (n : Nat)
  deriving DecidableEq, Repr

inductive Fault
  | notBool
  | unreadableBool
  | notWhole
  | unreadableWhole
  | tooLong
  | fractional
  | notFinite
  | tooLow
  | notText
  | notUnicode
  | notRecord
  | notList
  | notMap
  | absent
  deriving DecidableEq, Repr

def Fault.word : Fault → Text
  | .notBool => "bool_type".toList
  | .unreadableBool => "bool_parsing".toList
  | .notWhole => "int_type".toList
  | .unreadableWhole => "int_parsing".toList
  | .tooLong => "int_parsing_size".toList
  | .fractional => "int_from_float".toList
  | .notFinite => "finite_number".toList
  | .tooLow => "greater_than_equal".toList
  | .notText => "string_type".toList
  | .notUnicode => "string_unicode".toList
  | .notRecord => "model_type".toList
  | .notList => "list_type".toList
  | .notMap => "dict_type".toList
  | .absent => "missing".toList

structure Finding where
  way : List Key
  fault : Fault
  deriving DecidableEq, Repr

abbrev Check (α : Type) := Except (List Finding) α

namespace Check

def fail (fault : Fault) : Check α := .error [⟨[], fault⟩]

def under (key : Key) : Check α → Check α
  | .ok a => .ok a
  | .error fs => .error (fs.map fun f => { f with way := key :: f.way })

def both (x : Check α) (y : Check β) : Check (α × β) :=
  match x, y with
  | .ok a, .ok b => .ok (a, b)
  | .ok _, .error fs => .error fs
  | .error fs, .ok _ => .error fs
  | .error fs, .error gs => .error (fs ++ gs)

def all : List (Check α) → Check (List α)
  | [] => .ok []
  | x :: xs => (both x (all xs)).map fun (a, as) => a :: as

def boolWords : Assoc Text Bool :=
  ["0", "off", "f", "false", "n", "no"].map (fun w : String => (w.toList, false)) ++
    ["1", "on", "t", "true", "y", "yes"].map (fun w : String => (w.toList, true))

def boolOfText (t : Text) : Check Bool :=
  ((boolWords.get? (t.map Char.toLower)).map .ok).getD (fail .unreadableBool)

def tooWide : Int := 0x8000000000000000

def boolOfWhole (n : Int) : Check Bool :=
  if n = 0 then .ok false
  else if n = 1 then .ok true
  else if -tooWide ≤ n ∧ n < tooWide then fail .unreadableBool
  else fail .notBool

def wholeOfFraction (x : Binary) : Check Int :=
  match x.whole?, x with
  | some n, _ => if -tooWide < n ∧ n < tooWide then .ok n else fail .tooLong
  | none, .finite .. => fail .fractional
  | none, _ => fail .notFinite

def boolOfFraction (x : Binary) : Check Bool :=
  match wholeOfFraction x with
  | .ok n => boolOfWhole n
  | .error _ => fail .notBool

def bool : Value → Check Bool
  | .bool b => .ok b
  | .whole n => boolOfWhole n
  | .fraction x => boolOfFraction x
  | .text t => boolOfText t
  | .garbled _ => fail .notUnicode
  | .bytes bs => ((ofBytes? bs).map boolOfText).getD (fail .unreadableBool)
  | _ => fail .notBool

def afterZeros? (last : Char) : Text → Option Text
  | [] => some [last]
  | c :: t =>
    if c = '0' || c = '_' then afterZeros? c t
    else if c = '.' then some (last :: c :: t)
    else if c.isDigit || c = '-' then some (c :: t)
    else none

def fromNumeral? : Text → Option Text
  | '0' :: t => afterZeros? '0' t
  | c :: t => if c.isDigit || c = '-' then some (c :: t) else none
  | [] => none

def withoutZeroFraction (t : Text) : Text :=
  let zeros := (t.dropWhile (· ≠ '.')).tail
  if zeros ≠ [] && zeros.all (· = '0') then t.takeWhile (· ≠ '.') else t

def withoutInnerLows (t : Text) : Text :=
  if t.head? = some '_' || t.getLast? = some '_' || has ['_', '_'] t then t
  else t.filter (· ≠ '_')

/-- The text without padding, a plus sign, zeros before it all, a fraction of zeros and single inner
underscores. The zeros may be followed by the sign. -/
def tidied? (t : Text) : Option Text :=
  let numeral? := match unpad t with
    | '-' :: t => (fromNumeral? t).map ('-' :: ·)
    | '+' :: '-' :: _ => none
    | '+' :: t => fromNumeral? t
    | t => fromNumeral? t
  numeral?.map fun t => withoutInnerLows (withoutZeroFraction t)

def plainNumber (negative : Bool) (t : Text) : Except Fault Int :=
  let digits := t.takeWhile Char.isDigit
  if digits = [] || (digits.head? = some '0' && digits ≠ ['0']) then .error .unreadableWhole
  else if maxDigits < negative.toNat + digits.length then .error .tooLong
  else if digits = t then .ok (signed negative (digitsValue digits))
  else .error .unreadableWhole

def plainWhole : Text → Except Fault Int
  | '-' :: t => plainNumber true t
  | t => plainNumber false t

/-- Reads a whole number that is plain or becomes so when it is tidied. Only one that is too long as
it stands is said to be so. -/
def wholeOfText (t : Text) : Check Int :=
  match plainWhole t, (tidied? t).map plainWhole with
  | .ok n, _ => .ok n
  | .error .tooLong, _ => fail .tooLong
  | .error _, some (.ok n) => .ok n
  | .error _, _ => fail .unreadableWhole

def whole : Value → Check Int
  | .bool b => .ok (if b then 1 else 0)
  | .whole n => .ok n
  | .fraction x => wholeOfFraction x
  | .text t => wholeOfText t
  | .garbled _ => fail .notUnicode
  | .bytes bs => ((ofBytes? bs).map wholeOfText).getD (fail .unreadableWhole)
  | _ => fail .notWhole

def wholeFrom (least : Int) (v : Value) : Check Int :=
  match whole v with
  | .ok n => if least ≤ n then .ok n else fail .tooLow
  | .error fs => .error fs

def text : Value → Check Text
  | .text t | .garbled t => .ok t
  | .bytes bs => ((ofBytes? bs).map .ok).getD (fail .notUnicode)
  | _ => fail .notText

def optional (check : Value → Check α) : Value → Check (Option α)
  | .null => .ok none
  | v => (check v).map some

def items (check : Value → Check α) : Value → Check (List α)
  | .list vs => all (vs.zipIdx.map fun (v, i) => under (.index i) (check v))
  | _ => fail .notList

def entries (check : Value → Check α) : Value → Check (Assoc Text α)
  | .map es =>
    all (es.map fun (k, v) => under (.name k) ((check v).map fun a => (k, a)))
  | _ => fail .notMap

def record (read : Assoc Text Value → Check α) : Value → Check α
  | .map es => read es
  | _ => fail .notRecord

def field (es : Assoc Text Value) (names : List Text) (check : Value → Check α)
    (absent : Check α) : Check α :=
  match names.findSome? fun name => (es.get? name).map fun v => (name, v) with
  | some (name, v) => under (.name name) (check v)
  | none => absent

def required (es : Assoc Text Value) (name : Text) (check : Value → Check α) : Check α :=
  field es [name] check (under (.name name) (fail .absent))

end Check

end IrListing.Settings
