import IrListing.Text.Digit

namespace IrListing.Yaml

open Text

def daysIn (year month : Nat) : Nat :=
  if month = 2 then if year % 4 = 0 && (year % 100 ≠ 0 || year % 400 = 0) then 29 else 28
  else if month ∈ [4, 6, 9, 11] then 30 else 31

def digits? (least most : Nat) (t : Text) : Option (Nat × Text) :=
  let row := (t.take most).takeWhile Char.isDigit
  if least ≤ row.length then some (digitsValue row, t.drop row.length) else none

def offset? (t : Text) : Option Bool := do
  let (hours, t) ← digits? 1 2 t
  match t with
  | [] => some (hours < 24)
  | _ =>
    let t ← after? [':'] t
    let (minutes, t) ← digits? 2 2 t
    if t = [] then some (60 * hours + minutes < 24 * 60) else none

def zone? (t : Text) : Option Bool :=
  if t = [] then some true
  else
    match t.dropWhile fun c => c = ' ' || c = '\t' with
    | ['Z'] => some true
    | s :: t => if s = '-' || s = '+' then offset? t else none
    | [] => none

def clock? (t : Text) : Option Bool := do
  let (hour, t) ← digits? 1 2 t
  let t ← after? [':'] t
  let (minute, t) ← digits? 2 2 t
  let t ← after? [':'] t
  let (second, t) ← digits? 2 2 t
  let t := match t with
    | '.' :: t => t.dropWhile Char.isDigit
    | t => t
  (zone? t).map (hour < 24 && minute < 60 && second < 60 && ·)

def date? (t : Text) : Option Bool := do
  let (year, r) ← digits? 4 4 t
  let r ← after? ['-'] r
  let (month, r) ← digits? 1 2 r
  let r ← after? ['-'] r
  let (day, r) ← digits? 1 2 r
  let exists? := 0 < year && 0 < month && month ≤ 12 && 0 < day && day ≤ daysIn year month
  match r with
  | [] => some exists?
  | c :: rest =>
    if c = 'T' || c = 't' then (clock? rest).map (exists? && ·)
    else if c = ' ' || c = '\t' then
      (clock? (rest.dropWhile fun x => x = ' ' || x = '\t')).map (exists? && ·)
    else none

def isDate (t : Text) : Bool := 10 ≤ t.length && (date? t).isSome

end IrListing.Yaml
