import IrListing.Json
import IrListing.Proofs.Text.Span

/-! JSON text read back. A reader knows no more of the printer than the format, and finds in what is
printed the value that was printed. -/

namespace IrListing.Json

open Text

namespace Reader

def isGap (c : Char) : Bool := c = ' ' || c = '\n' || c = '\r' || c = '\t'

def skip (t : Text) : Text := t.dropWhile isGap

def hexDigit? (c : Char) : Option Nat :=
  if c.isDigit then some (c.toNat - 48)
  else if 'a' ≤ c ∧ c ≤ 'f' then some (c.toNat - 87)
  else if 'A' ≤ c ∧ c ≤ 'F' then some (c.toNat - 55)
  else none

def unit? : Text → Option (Nat × Text)
  | a :: b :: c :: d :: t => do
    let a ← hexDigit? a
    let b ← hexDigit? b
    let c ← hexDigit? c
    let d ← hexDigit? d
    return (((a * 16 + b) * 16 + c) * 16 + d, t)
  | _ => none

def ofUnits? (t : Text) : Option (Char × Text) := do
  let (high, t) ← unit? t
  if high < 0xd800 ∨ 0xe000 ≤ high then return (Char.ofNat high, t)
  let low ← after? ['\\', 'u'] t
  let (low, t) ← unit? low
  if high < 0xdc00 ∧ 0xdc00 ≤ low ∧ low < 0xe000 then
    return (Char.ofNat (0x10000 + (high - 0xd800) * 0x400 + (low - 0xdc00)), t)
  none

def escaped? : Char → Option Char
  | 'n' => some '\n'
  | 'r' => some '\r'
  | 't' => some '\t'
  | 'b' => some '\x08'
  | 'f' => some '\x0c'
  | c => if c = '"' ∨ c = '\\' ∨ c = '/' then some c else none

def char? : Text → Option (Char × Text)
  | [] => none
  | '\\' :: 'u' :: t => ofUnits? t
  | '\\' :: c :: t => (escaped? c).map fun c => (c, t)
  | c :: t => if c.toNat < 0x20 then none else some (c, t)

def string? : (fuel : Nat) → Text → Option (Text × Text)
  | 0, _ => none
  | _ + 1, '"' :: t => some ([], t)
  | fuel + 1, t =>
    (char? t).bind fun (c, t) => (string? fuel t).map fun (s, t) => (c :: s, t)

def natural? (t : Text) : Option (Nat × Text) :=
  let digits := t.takeWhile Char.isDigit
  if digits = [] then none
  else some (Nat.ofDigitChars 10 digits 0, t.dropWhile Char.isDigit)

def number? : Text → Option (Int × Text)
  | '-' :: t => (natural? t).map fun (n, t) => (-(n : Int), t)
  | t => (natural? t).map fun (n, t) => ((n : Int), t)

def scalar? (t : Text) : Option (Json × Text) :=
  let word (w : String) (j : Json) := (after? w.toList t).map fun t => (j, t)
  (word "null" .null).or <| (word "true" (.bool true)).or <| (word "false" (.bool false)).or <|
    (number? t).map fun (n, t) => (.number n, t)

def key? : Text → Option (Text × Text)
  | '"' :: t =>
    (string? (t.length + 1) t).bind fun (key, t) => (after? [':'] (skip t)).map fun t => (key, t)
  | _ => none

mutual

def value? : (fuel : Nat) → Text → Option (Json × Text)
  | 0, _ => none
  | fuel + 1, t =>
    match skip t with
    | '"' :: t => (string? (t.length + 1) t).map fun (s, t) => (.text s, t)
    | '[' :: t =>
      match skip t with
      | ']' :: t => some (.array [], t)
      | t => (items? fuel t).map fun (items, t) => (.array items, t)
    | '\x7b' :: t =>
      match skip t with
      | '\x7d' :: t => some (.object [], t)
      | t => (fields? fuel t).map fun (fields, t) => (.object fields, t)
    | t => scalar? t

def items? : (fuel : Nat) → Text → Option (List Json × Text)
  | 0, _ => none
  | fuel + 1, t =>
    (value? fuel t).bind fun (item, t) =>
      match skip t with
      | ',' :: t => (items? fuel t).map fun (items, t) => (item :: items, t)
      | ']' :: t => some ([item], t)
      | _ => none

def fields? : (fuel : Nat) → Text → Option (List (Text × Json) × Text)
  | 0, _ => none
  | fuel + 1, t =>
    (key? (skip t)).bind fun (key, t) => (value? fuel t).bind fun (value, t) =>
      match skip t with
      | ',' :: t => (fields? fuel t).map fun (fields, t) => ((key, value) :: fields, t)
      | '\x7d' :: t => some ([(key, value)], t)
      | _ => none

end

end Reader

def read? (t : Text) : Option Json :=
  (Reader.value? t.length t).bind fun (j, rest) => if Reader.skip rest = [] then some j else none

namespace Reader

theorem hexDigit?_digitChar_mod (n : Nat) : hexDigit? (n % 16).digitChar = some (n % 16) := by
  have digits : ∀ d < 16, hexDigit? d.digitChar = some d := by decide
  exact digits _ (Nat.mod_lt n (by decide))

theorem toDigits_of_le {n : Nat} (h : 16 ≤ n) :
    Nat.toDigits 16 n = Nat.toDigits 16 (n / 16) ++ [(n % 16).digitChar] := by
  rw [Nat.toDigits_eq_if (by decide), if_neg (Nat.not_lt.2 h)]

theorem hex_succ (width n : Nat) :
    hex (width + 2) n = hex (width + 1) (n / 16) ++ [(n % 16).digitChar] := by
  by_cases small : n < 16
  · have nothing_above : n / 16 = 0 := Nat.div_eq_of_lt small
    simp [hex, nothing_above, Nat.toDigits_of_lt_base small, Nat.mod_eq_of_lt small,
      List.replicate_succ']
  · simp [hex, toDigits_of_le (Nat.not_lt.1 small)]

theorem hex_one {n : Nat} (h : n < 16) : hex 1 n = [(n % 16).digitChar] := by
  simp [hex, Nat.toDigits_of_lt_base h, Nat.mod_eq_of_lt h]

theorem hex_four {n : Nat} (h : n < 0x10000) :
    hex 4 n = [(n / 16 / 16 / 16 % 16).digitChar, (n / 16 / 16 % 16).digitChar,
      (n / 16 % 16).digitChar, (n % 16).digitChar] := by
  rw [hex_succ, hex_succ, hex_succ, hex_one (by omega)]
  rfl

theorem unit?_hex {n : Nat} (h : n < 0x10000) (rest : Text) :
    unit? (hex 4 n ++ rest) = some (n, rest) := by
  have whole : ((n / 16 / 16 / 16 % 16 * 16 + n / 16 / 16 % 16) * 16 + n / 16 % 16) * 16 + n % 16 =
      n := by omega
  simp only [hex_four h, List.cons_append, List.nil_append, unit?, hexDigit?_digitChar_mod,
    Option.bind_eq_bind, Option.bind_some, Option.pure_def, whole]

theorem valid_toNat (c : Char) :
    c.toNat < 0xd800 ∨ 0xe000 ≤ c.toNat ∧ c.toNat < 0x110000 := by
  have valid := c.valid
  simp only [UInt32.isValidChar, Nat.isValidChar] at valid
  change c.val.toNat < _ ∨ _ ≤ c.val.toNat ∧ c.val.toNat < _
  omega

theorem ofUnits?_single {n : Nat} (plain : n < 0xd800 ∨ 0xe000 ≤ n) (h : n < 0x10000)
    (rest : Text) : ofUnits? (hex 4 n ++ rest) = some (Char.ofNat n, rest) := by
  simp only [ofUnits?, unit?_hex h, Option.bind_eq_bind, Option.bind_some, plain, if_true,
    Option.pure_def]

theorem ofUnits?_pair {high low : Nat} (first : 0xd800 ≤ high) (paired : high < 0xdc00)
    (second : 0xdc00 ≤ low) (last : low < 0xe000) (rest : Text) :
    ofUnits? (hex 4 high ++ ('\\' :: 'u' :: (hex 4 low ++ rest))) =
      some (Char.ofNat (0x10000 + (high - 0xd800) * 0x400 + (low - 0xdc00)), rest) := by
  have surrogate : ¬ (high < 0xd800 ∨ 0xe000 ≤ high) := by omega
  simp only [ofUnits?, unit?_hex (show high < 0x10000 by omega), Option.bind_eq_bind,
    Option.bind_some, surrogate, if_false, after?, if_true, unit?_hex (show low < 0x10000 by omega),
    paired, second, last, and_self, Option.pure_def]

theorem char?_unitEscapes (c : Char) (rest : Text) :
    char? (unitEscapes c.toNat ++ rest) = some (c, rest) := by
  have valid := valid_toNat c
  unfold unitEscapes
  split
  · rename_i single
    rw [List.cons_append, List.cons_append, char?, ofUnits?_single (by omega) single,
      Char.ofNat_toNat]
  · rename_i pair
    generalize unit : c.toNat - 0x10000 = n at valid
    have whole : 0x10000 + (0xd800 + n / 0x400 - 0xd800) * 0x400 + (0xdc00 + n % 0x400 - 0xdc00) =
        c.toNat := by omega
    rw [List.append_assoc, List.cons_append, List.cons_append, char?, List.cons_append,
      List.cons_append, ofUnits?_pair (by omega) (by omega) (by omega) (by omega), whole,
      Char.ofNat_toNat]

theorem char?_escape (c : Char) (rest : Text) : char? (escape c ++ rest) = some (c, rest) := by
  unfold escape
  split
  · rename_i quoted
    rcases quoted with rfl | rfl <;> rfl
  iterate 5
    split
    · subst c
      rfl
  split
  · rename_i special _ _ _ _ _ shown
    rw [not_or] at special
    simp [char?, special.2, Nat.not_lt.2 shown.1]
  · exact char?_unitEscapes c rest

theorem exists_cons_escape (c : Char) : ∃ d t, escape c = d :: t ∧ d ≠ '"' := by
  unfold escape
  split
  · exact ⟨'\\', _, rfl, by decide⟩
  iterate 5
    split
    · exact ⟨'\\', _, rfl, by decide⟩
  split
  · rename_i special _ _ _ _ _ _
    exact ⟨c, [], rfl, fun quote => special (.inl quote)⟩
  · unfold unitEscapes
    split <;> exact ⟨'\\', _, rfl, by decide⟩

theorem length_le_flatMap_escape (s : Text) : s.length ≤ (s.flatMap escape).length := by
  induction s with
  | nil => exact Nat.le_refl 0
  | cons c s ih =>
    obtain ⟨d, t, escaped, -⟩ := exists_cons_escape c
    rw [List.flatMap_cons, escaped, List.length_append, List.length_cons, List.length_cons]
    omega

theorem string?_escape_append (fuel : Nat) (c : Char) (rest : Text) :
    string? (fuel + 1) (escape c ++ rest) =
      (string? fuel rest).map fun (s, t) => (c :: s, t) := by
  have read := char?_escape c rest
  obtain ⟨d, t, escaped, unquoted⟩ := exists_cons_escape c
  rw [escaped, List.cons_append] at read ⊢
  rw [string?, read, Option.bind_some]
  rintro _ ⟨⟩
  exact unquoted rfl

theorem string?_flatMap_escape (s rest : Text) {fuel : Nat} (enough : s.length < fuel) :
    string? fuel (s.flatMap escape ++ '"' :: rest) = some (s, rest) := by
  induction s generalizing fuel with
  | nil =>
    obtain ⟨fuel, rfl⟩ := Nat.exists_eq_add_of_lt enough
    rfl
  | cons c s ih =>
    obtain ⟨fuel, rfl⟩ := Nat.exists_eq_add_of_lt enough
    rw [List.flatMap_cons, List.append_assoc, string?_escape_append,
      ih (by rw [List.length_cons]; omega)]
    rfl

theorem string?_of_textLiteral (s rest : Text) :
    string? ((s.flatMap escape ++ '"' :: rest).length + 1) (s.flatMap escape ++ '"' :: rest) =
      some (s, rest) := by
  apply string?_flatMap_escape
  have := length_le_flatMap_escape s
  rw [List.length_append]
  omega

theorem exists_cons_ofNat (n : Nat) : ∃ c t, ofNat n = c :: t ∧ c.isDigit = true := by
  obtain ⟨c, t, row⟩ := List.exists_cons_of_ne_nil (Nat.toDigits_ne_nil (n := n) (b := 10))
  exact ⟨c, t, row, Nat.isDigit_of_mem_toDigits (b := 10) (n := n) (by decide) (by decide)
    (row ▸ List.mem_cons_self)⟩

theorem exists_cons_ofInt (n : Int) : ∃ c t, ofInt n = c :: t ∧ (c = '-' ∨ c.isDigit = true) := by
  cases n with
  | ofNat n =>
    obtain ⟨c, t, row, digit⟩ := exists_cons_ofNat n
    exact ⟨c, t, row, .inr digit⟩
  | negSucc n => exact ⟨'-', _, rfl, .inl rfl⟩

section

variable {rest : Text} (ends : ∀ c ∈ rest.head?, c.isDigit = false)
include ends

theorem natural?_ofNat (n : Nat) : natural? (ofNat n ++ rest) = some (n, rest) := by
  have digits : ∀ c ∈ ofNat n, c.isDigit = true := fun c hc =>
    Nat.isDigit_of_mem_toDigits (by decide) (by decide) hc
  have row : ofNat n ≠ [] := Nat.toDigits_ne_nil
  rw [natural?, takeWhile_span digits ends, dropWhile_span digits ends, if_neg row, ofNat,
    Nat.ofDigitChars_ten_toDigits]

theorem number?_ofInt (n : Int) : number? (ofInt n ++ rest) = some (n, rest) := by
  cases n with
  | ofNat n =>
    obtain ⟨c, t, row, digit⟩ := exists_cons_ofNat n
    have unsigned : number? (ofNat n ++ rest) =
        (natural? (ofNat n ++ rest)).map fun (n, t) => ((n : Int), t) := by
      rw [row, List.cons_append, number?]
      rintro _ ⟨⟩
      cases digit
    rw [ofInt, unsigned, natural?_ofNat ends]
    rfl
  | negSucc n =>
    rw [ofInt, List.cons_append, number?, natural?_ofNat ends]
    rfl

end

theorem ne_of_isDigit {c d : Char} (digit : c.isDigit = true) (h : d.isDigit = false) : c ≠ d := by
  rintro rfl
  cases digit.symm.trans h

theorem isGap_of_isDigit {c : Char} (digit : c.isDigit = true) : isGap c = false := by
  simp [isGap, ne_of_isDigit digit]

theorem exists_cons_render (level : Nat) (j : Json) :
    ∃ c t, render level j = c :: t ∧ isGap c = false ∧ c ≠ ']' := by
  cases j with
  | null => exact ⟨'n', _, rfl, by decide⟩
  | bool b => cases b <;> exact ⟨_, _, rfl, by decide⟩
  | number n =>
    obtain ⟨c, t, row, rfl | digit⟩ := exists_cons_ofInt n
    · exact ⟨'-', t, by rw [render, row], by decide⟩
    · exact ⟨c, t, by rw [render, row], isGap_of_isDigit digit, ne_of_isDigit digit (by decide)⟩
  | text t => exact ⟨'"', _, rfl, by decide⟩
  | array items => cases items <;> exact ⟨'[', _, rfl, by decide⟩
  | object fields => cases fields <;> exact ⟨'\x7b', _, rfl, by decide⟩

theorem skip_cons {c : Char} (h : isGap c = false) (t : Text) : skip (c :: t) = c :: t := by
  simp [skip, h]

theorem skip_newline (level : Nat) (t : Text) : skip (newline level ++ t) = skip t := by
  have gaps : ∀ c ∈ newline level, isGap c = true := by
    simp [newline, isGap]
  exact List.dropWhile_append_of_pos gaps

theorem value?_of_skip (fuel : Nat) {t t' : Text} (h : skip t = skip t') :
    value? fuel t = value? fuel t' := by
  cases fuel with
  | zero => rfl
  | succ fuel => rw [value?, value?, h]

theorem value?_blank (fuel : Nat) (t : Text) : value? fuel (' ' :: t) = value? fuel t :=
  value?_of_skip fuel rfl

theorem items?_newline (fuel level : Nat) (t : Text) :
    items? fuel (newline level ++ t) = items? fuel t := by
  cases fuel with
  | zero => rfl
  | succ fuel => rw [items?, items?, value?_of_skip fuel (skip_newline level t)]

theorem fields?_newline (fuel level : Nat) (t : Text) :
    fields? fuel (newline level ++ t) = fields? fuel t := by
  cases fuel with
  | zero => rfl
  | succ fuel => rw [fields?, fields?, skip_newline]

theorem value?_of_scalar (fuel : Nat) {c : Char} (gap : isGap c = false)
    (plain : c ≠ '"' ∧ c ≠ '[' ∧ c ≠ '\x7b') (t : Text) :
    value? (fuel + 1) (c :: t) = scalar? (c :: t) := by
  rw [value?, skip_cons gap]
  split <;> simp_all

theorem scalar?_ofInt (n : Int) {rest : Text} (ends : ∀ c ∈ rest.head?, c.isDigit = false) :
    scalar? (ofInt n ++ rest) = some (.number n, rest) := by
  have read := number?_ofInt ends n
  obtain ⟨c, t, row, first⟩ := exists_cons_ofInt n
  have letters : 'n' ≠ c ∧ 't' ≠ c ∧ 'f' ≠ c := by
    rcases first with rfl | digit
    · decide
    · exact ⟨(ne_of_isDigit digit (by decide)).symm, (ne_of_isDigit digit (by decide)).symm,
        (ne_of_isDigit digit (by decide)).symm⟩
  rw [row, List.cons_append] at read ⊢
  simp [scalar?, after?, letters, read]

theorem value?_array (fuel level : Nat) {c : Char} (gap : isGap c = false) (more : c ≠ ']')
    (t : Text) : value? (fuel + 1) ('[' :: (newline level ++ c :: t)) =
      (items? fuel (c :: t)).map fun (items, t) => (.array items, t) := by
  simp only [value?, skip_cons (show isGap '[' = false by decide), skip_newline, skip_cons gap]
  split
  · rename_i same
    cases same
    exact absurd rfl more
  · rfl

theorem value?_object (fuel level : Nat) (t : Text) :
    value? (fuel + 1) ('\x7b' :: (newline level ++ '"' :: t)) =
      (fields? fuel ('"' :: t)).map fun (fields, t) => (.object fields, t) := by
  simp only [value?, skip_cons (show isGap '\x7b' = false by decide), skip_newline,
    skip_cons (show isGap '"' = false by decide)]
  split
  · rename_i same
    cases same
  · rfl

theorem key?_renderField (level : Nat) (key : Text) (value : Json) (rest : Text) :
    key? (skip (renderField level (key, value) ++ rest)) =
      some (key, ' ' :: (render level value ++ rest)) := by
  simp only [renderField, textLiteral, List.cons_append, List.append_assoc, List.nil_append,
    skip_cons (show isGap '"' = false by decide), key?, string?_of_textLiteral, Option.bind_some,
    skip_cons (show isGap ':' = false by decide), after?, if_true, Option.map_some]

theorem not_isDigit_head_renderItems {level : Nat} {items : List Json} {rest : Text} :
    ∀ c ∈ (renderItems level items ++ rest).head?, c.isDigit = false := by
  cases items <;> simp [renderItems, newline]

theorem not_isDigit_head_renderFields {level : Nat} {fields : List (Text × Json)} {rest : Text} :
    ∀ c ∈ (renderFields level fields ++ rest).head?, c.isDigit = false := by
  cases fields <;> simp [renderFields, newline]

mutual

theorem value?_render : ∀ (j : Json) (level fuel : Nat) (rest : Text),
    (render level j).length ≤ fuel → (∀ c ∈ rest.head?, c.isDigit = false) →
      value? fuel (render level j ++ rest) = some (j, rest)
  | j, level, 0, rest, enough, _ => by
    obtain ⟨c, t, first, -⟩ := exists_cons_render level j
    rw [first] at enough
    cases enough
  | .null, level, fuel + 1, rest, _, _ => by
    rw [render]
    exact value?_of_scalar fuel (by decide) (by decide) _
  | .bool b, level, fuel + 1, rest, _, _ => by
    rw [render]
    cases b <;> exact value?_of_scalar fuel (by decide) (by decide) _
  | .number n, level, fuel + 1, rest, _, ends => by
    obtain ⟨c, t, row, first⟩ := exists_cons_ofInt n
    have plain : isGap c = false ∧ c ≠ '"' ∧ c ≠ '[' ∧ c ≠ '\x7b' := by
      rcases first with rfl | digit
      · decide
      · simp [isGap_of_isDigit digit, ne_of_isDigit digit]
    rw [render, ← scalar?_ofInt n ends, row, List.cons_append]
    exact value?_of_scalar fuel plain.1 plain.2 _
  | .text t, level, fuel + 1, rest, _, _ => by
    simp only [render, textLiteral, List.cons_append, List.append_assoc, List.nil_append, value?,
      skip_cons (show isGap '"' = false by decide), string?_of_textLiteral, Option.map_some]
  | .array [], level, fuel + 1, rest, _, _ => by
    rw [render]
    rfl
  | .array (item :: items), level, fuel + 1, rest, enough, _ => by
    obtain ⟨c, t, first, gap, more⟩ := exists_cons_render (level + 1) item
    have read := items?_render item items level fuel rest (by
      simp only [render, List.length_cons, List.length_append, newline] at enough
      omega)
    simp only [render, List.cons_append, List.append_assoc, first]
    rw [value?_array fuel (level + 1) gap more, ← List.cons_append, ← first, read]
    rfl
  | .object [], level, fuel + 1, rest, _, _ => by
    rw [render]
    rfl
  | .object ((key, value) :: fields), level, fuel + 1, rest, enough, _ => by
    have read := fields?_render key value fields level fuel rest (by
      simp only [render, renderField, List.length_cons, List.length_append, newline] at enough ⊢
      omega)
    simp only [render, renderField, textLiteral, List.cons_append, List.append_assoc] at read ⊢
    rw [value?_object fuel (level + 1), read]
    rfl

theorem items?_render : ∀ (item : Json) (items : List Json) (level fuel : Nat) (rest : Text),
    (render (level + 1) item).length + (renderItems level items).length ≤ fuel →
      items? fuel (render (level + 1) item ++ (renderItems level items ++ rest)) =
        some (item :: items, rest)
  | item, items, level, 0, rest, enough => by
    cases items <;> simp [renderItems] at enough
  | item, [], level, fuel + 1, rest, enough => by
    have read := value?_render item (level + 1) fuel (renderItems level [] ++ rest)
      (by simp [renderItems] at enough; omega) not_isDigit_head_renderItems
    rw [items?, read]
    simp only [Option.bind_some, renderItems, List.append_assoc, List.cons_append, skip_newline,
      skip_cons (show isGap ']' = false by decide), List.nil_append]
  | item, next :: items, level, fuel + 1, rest, enough => by
    simp only [renderItems, List.length_cons, List.length_append, newline] at enough
    have read := value?_render item (level + 1) fuel (renderItems level (next :: items) ++ rest)
      (by omega) not_isDigit_head_renderItems
    have more := items?_render next items level fuel rest (by omega)
    rw [items?, read]
    simp only [Option.bind_some, renderItems, List.append_assoc, List.cons_append,
      skip_cons (show isGap ',' = false by decide), items?_newline, more, Option.map_some]

theorem fields?_render : ∀ (key : Text) (value : Json) (fields : List (Text × Json))
    (level fuel : Nat) (rest : Text),
    (renderField (level + 1) (key, value)).length + (renderFields level fields).length ≤ fuel →
      fields? fuel (renderField (level + 1) (key, value) ++ (renderFields level fields ++ rest)) =
        some ((key, value) :: fields, rest)
  | key, value, fields, level, 0, rest, enough => by
    cases fields <;> simp [renderFields] at enough
  | key, value, [], level, fuel + 1, rest, enough => by
    have read := value?_render value (level + 1) fuel (renderFields level [] ++ rest)
      (by simp [renderFields, renderField] at enough; omega) not_isDigit_head_renderFields
    rw [fields?, key?_renderField, Option.bind_some]
    dsimp only
    rw [value?_blank, read]
    simp only [Option.bind_some, renderFields, List.append_assoc, List.cons_append, skip_newline,
      skip_cons (show isGap '\x7d' = false by decide), List.nil_append]
  | key, value, (key', value') :: fields, level, fuel + 1, rest, enough => by
    simp only [renderFields, renderField, List.length_cons, List.length_append, newline] at enough
    have read := value?_render value (level + 1) fuel
      (renderFields level ((key', value') :: fields) ++ rest) (by omega)
      not_isDigit_head_renderFields
    have more := fields?_render key' value' fields level fuel rest (by
      simp only [renderField, List.length_cons, List.length_append]
      omega)
    rw [fields?, key?_renderField, Option.bind_some]
    dsimp only
    rw [value?_blank, read]
    simp only [Option.bind_some, renderFields, List.append_assoc, List.cons_append,
      skip_cons (show isGap ',' = false by decide), fields?_newline, more, Option.map_some]

end

end Reader

/-- What is printed is read as what it was printed from, also in front of gaps. -/
theorem read?_print (j : Json) {gaps : Text} (h : ∀ c ∈ gaps, Reader.isGap c = true) :
    read? (j.print ++ gaps) = some j := by
  have ends : ∀ c ∈ gaps.head?, c.isDigit = false := by
    intro c hc
    rw [Bool.eq_false_iff]
    intro digit
    have gap := h c (List.mem_of_head? hc)
    rw [Reader.isGap_of_isDigit digit] at gap
    cases gap
  have nothing : Reader.skip gaps = [] := by
    have skipped := dropWhile_span (r := []) h (by simp)
    rwa [List.append_nil] at skipped
  rw [read?, print, Reader.value?_render j 0 _ gaps (by simp) ends, Option.bind_some]
  exact if_pos nothing

theorem read?_print_newline (j : Json) : read? (j.print ++ ['\n']) = some j :=
  read?_print j (by simp [Reader.isGap])

end IrListing.Json
