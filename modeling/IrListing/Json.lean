import IrListing.Text.Quoted

/-! JSON values and their text: members on lines of their own, two more spaces for each level, and
nothing but printable ASCII. -/

namespace IrListing

open Text

inductive Json
  | null
  | bool (b : Bool)
  | number (n : Int)
  | text (t : Text)
  | array (items : List Json)
  | object (fields : List (Text × Json))

namespace Json

def unitEscapes (n : Nat) : Text :=
  if n < 0x10000 then '\\' :: 'u' :: hex 4 n
  else
    '\\' :: 'u' :: hex 4 (0xd800 + (n - 0x10000) / 0x400) ++
      '\\' :: 'u' :: hex 4 (0xdc00 + (n - 0x10000) % 0x400)

def escape (c : Char) : Text :=
  if c = '"' ∨ c = '\\' then ['\\', c]
  else if c = '\n' then ['\\', 'n']
  else if c = '\r' then ['\\', 'r']
  else if c = '\t' then ['\\', 't']
  else if c = '\x08' then ['\\', 'b']
  else if c = '\x0c' then ['\\', 'f']
  else if 0x20 ≤ c.toNat ∧ c.toNat < 0x7f then [c]
  else unitEscapes c.toNat

def textLiteral (t : Text) : Text := '"' :: t.flatMap escape ++ ['"']

def newline (level : Nat) : Text := '\n' :: List.replicate (2 * level) ' '

mutual

def render (level : Nat) : Json → Text
  | .null => "null".toList
  | .bool b => if b then "true".toList else "false".toList
  | .number n => ofInt n
  | .text t => textLiteral t
  | .array [] => ['[', ']']
  | .array (item :: items) =>
    '[' :: newline (level + 1) ++ render (level + 1) item ++ renderItems level items
  | .object [] => ['\x7b', '\x7d']
  | .object (field :: fields) =>
    '\x7b' :: newline (level + 1) ++ renderField (level + 1) field ++ renderFields level fields

def renderItems (level : Nat) : List Json → Text
  | [] => newline level ++ [']']
  | item :: items =>
    ',' :: newline (level + 1) ++ render (level + 1) item ++ renderItems level items

def renderFields (level : Nat) : List (Text × Json) → Text
  | [] => newline level ++ ['\x7d']
  | field :: fields =>
    ',' :: newline (level + 1) ++ renderField (level + 1) field ++ renderFields level fields

def renderField (level : Nat) : Text × Json → Text
  | (key, value) => textLiteral key ++ [':', ' '] ++ render level value

end

def print (j : Json) : Text := render 0 j

def ofText? : Option Text → Json
  | some t => .text t
  | none => .null

def ofInt? : Option Int → Json
  | some n => .number n
  | none => .null

end Json

end IrListing
