import IrListing.Proofs.Assoc
import IrListing.Proofs.Metadata.Declared

/-! Declarations in written form, and what is read from them: all options in order, whatever the
quoted ones hold. -/

namespace IrListing.Metadata

open Text

structure Row (p : Char → Bool) where
  text : Text
  nonempty : text ≠ []
  kind : text.all p = true

/-- What may stand between quotes: a backslash is there only with the character it takes along. -/
inductive Quotable : Text → Prop
  | nil : Quotable []
  | plain {c : Char} {t : Text} : c ≠ '"' → c ≠ '\\' → c ≠ '\n' → Quotable t → Quotable (c :: t)
  | escaped {c : Char} {t : Text} : c ≠ '\n' → Quotable t → Quotable ('\\' :: c :: t)

theorem quotable_escaped_iff {c : Char} {t : Text} :
    Quotable ('\\' :: c :: t) ↔ c ≠ '\n' ∧ Quotable t := by
  constructor
  · rintro (_ | ⟨-, slash, -, -⟩ | ⟨line, rest⟩)
    · cases slash rfl
    · exact ⟨line, rest⟩
  · rintro ⟨line, rest⟩
    exact .escaped line rest

theorem quotable_cons_iff {c : Char} {t : Text} (h : c ≠ '\\') :
    Quotable (c :: t) ↔ (c ≠ '"' ∧ c ≠ '\n') ∧ Quotable t := by
  constructor
  · rintro (_ | ⟨quote, -, line, rest⟩ | _)
    · exact ⟨⟨quote, line⟩, rest⟩
    · cases h rfl
  · rintro ⟨⟨quote, line⟩, rest⟩
    exact .plain quote h line rest

instance decidableQuotable : (t : Text) → Decidable (Quotable t)
  | [] => .isTrue .nil
  | [c] =>
    if h : c = '\\' then .isFalse (by rintro (_ | ⟨-, slash, -, -⟩); exact slash h)
    else decidable_of_iff (c ≠ '"' ∧ c ≠ '\n') (by simp [quotable_cons_iff h, Quotable.nil])
  | c :: d :: t =>
    have := decidableQuotable t
    have := decidableQuotable (d :: t)
    if h : c = '\\' then decidable_of_iff (d ≠ '\n' ∧ Quotable t) (by rw [h, quotable_escaped_iff])
    else decidable_of_iff _ (quotable_cons_iff h).symm

inductive Value
  | reference (digits : Row isDigit)
  | number (digits : Row isDigit)
  | word (row : Row isWord) (start : row.text.head?.any isDigit = false)
  | quoted (content : Text) (quotable : Quotable content)

def Value.text : Value → Text
  | .reference digits => '!' :: digits.text
  | .number digits => digits.text
  | .word row _ => row.text
  | .quoted content _ => '"' :: content ++ ['"']

def Value.meant : Value → Text
  | .quoted content _ => content
  | v => v.text

structure Setting where
  key : Row isWord
  value : Value

def Setting.text (s : Setting) : Text := s.key.text ++ [':', ' '] ++ s.value.text

def Setting.entry (s : Setting) : Text × Text := (s.key.text, s.value.meant)

def writtenSettings (ss : List Setting) : Text := joined [',', ' '] (ss.map Setting.text)

/-- A declaration `!12 = distinct !DIFile(filename: "a.c")` by its parts. -/
structure Written where
  digits : Row isDigit
  distinct : Bool
  kind : Row Char.isAlpha
  settings : List Setting

namespace Written

def id (d : Written) : Text := '!' :: d.digits.text

def lead (d : Written) : Text := if d.distinct then "distinct ".toList else []

def text (d : Written) : Text :=
  d.id ++ " = ".toList ++ d.lead ++ "!DI".toList ++ d.kind.text ++ ['('] ++
    writtenSettings d.settings ++ [')']

def entries (d : Written) : List (Text × Text) := d.settings.map Setting.entry

end Written

section Row

variable {p : Char → Bool} (s : Row p) {rest : Text}

theorem Row.of_mem {c : Char} (h : c ∈ s.text) : p c = true := List.all_eq_true.1 s.kind c h

theorem Row.run?_eq (ends : ∀ c ∈ rest.head?, p c = false) :
    run? p (s.text ++ rest) = some (s.text, rest) :=
  run?_eq_some_iff.2 ⟨rfl, s.nonempty, fun _ => s.of_mem, ends⟩

theorem Row.head?_append (s : Row p) (rest : Text) : (s.text ++ rest).head? = s.text.head? := by
  obtain ⟨text, nonempty, -⟩ := s
  cases text with
  | nil => cases nonempty rfl
  | cons c t => rfl

theorem Row.head (s : Row p) {rest : Text} : ∀ c ∈ (s.text ++ rest).head?, p c = true := by
  intro c hc
  rw [s.head?_append] at hc
  exact s.of_mem (List.mem_of_mem_head? hc)

theorem Row.not_mem {c : Char} (h : p c = false) : c ∉ s.text := by
  intro hc
  cases h.symm.trans (s.of_mem hc)

end Row

theorem Quotable.quotedContent?_eq {content : Text} (h : Quotable content) (rest : Text) :
    quotedContent? (content ++ '"' :: rest) = some (content, rest) := by
  induction h with
  | nil => rfl
  | plain quote slash _ _ ih =>
    rw [List.cons_append, quotedContent?, if_neg slash, ih, Option.map_some]
    · exact quote
    · intro c t first
      cases slash first
  | escaped line _ ih =>
    rw [List.cons_append, List.cons_append, quotedContent?, if_neg line, ih, Option.map_some]

theorem run?_eq_none {p : Char → Bool} {t : Text} (h : ∀ c ∈ t.head?, p c = false) :
    run? p t = none := by
  cases t with
  | nil => rfl
  | cons c t => simp [run?, h c rfl]

theorem value?_of_head {t : Text} (h : ∀ c ∈ t.head?, isWord c = true) :
    value? t = (run? isDigit t).or (run? isWord t) := by
  unfold value?
  split
  · cases h '"' rfl
  · cases h '!' rfl
  · rfl

theorem Value.value?_eq (v : Value) {rest : Text} (ends : ∀ c ∈ rest.head?, isWord c = false) :
    value? (v.text ++ rest) = some (v.meant, rest) := by
  have noDigit : ∀ c ∈ rest.head?, isDigit c = false := by
    intro c hc
    rw [Bool.eq_false_iff]
    intro digit
    cases (ends c hc).symm.trans (isWord_of_isDigit digit)
  cases v with
  | reference digits =>
    have read := digits.run?_eq noDigit
    simp [Value.text, Value.meant, value?, read]
  | number digits =>
    have head : ∀ c ∈ (digits.text ++ rest).head?, isWord c = true := by
      intro c hc
      exact isWord_of_isDigit (digits.head c hc)
    rw [Value.text, value?_of_head head, digits.run?_eq noDigit]
    rfl
  | word row start =>
    have noNumber : run? isDigit (row.text ++ rest) = none := by
      apply run?_eq_none
      rw [row.head?_append]
      exact (Option.any_eq_false ..).1 start
    rw [Value.text, value?_of_head row.head, noNumber, row.run?_eq ends]
    rfl
  | quoted content quotable =>
    have read := quotable.quotedContent?_eq rest
    simp [Value.text, Value.meant, value?, read]

theorem Setting.option?_eq (s : Setting) {rest : Text} (ends : ∀ c ∈ rest.head?, isWord c = false) :
    option? (s.text ++ rest) = some (s.entry, rest) := by
  have key : run? isWord (s.text ++ rest) =
      some (s.key.text, ':' :: ' ' :: (s.value.text ++ rest)) := by
    rw [Setting.text, List.append_assoc, List.append_assoc]
    apply Row.run?_eq
    simp
    decide
  simp [option?, key, after?, s.value.value?_eq ends, Setting.entry]

theorem options_eq_cons {t rest : Text} {o : Text × Text} (h : option? t = some (o, rest)) :
    options t = o :: options rest := by
  cases t with
  | nil => cases h
  | cons c t =>
    have word : isWord c = true := by
      by_contra other
      rw [Bool.not_eq_true] at other
      have noKey : run? isWord (c :: t) = none := run?_eq_none (by simpa using other)
      simp [option?, noKey] at h
    rw [options, if_pos word]
    split
    · rename_i o' r read
      obtain ⟨rfl, rfl⟩ := Prod.mk.inj (Option.some.inj (read.symm.trans h))
      rfl
    · rename_i nothing
      cases nothing.symm.trans h

theorem options_skip {c : Char} (h : isWord c = false) (t : Text) :
    options (c :: t) = options t := by
  rw [options, if_neg]
  simp [h]

theorem options_nil : options [] = [] := by rw [options]

theorem options_writtenSettings_append (ss : List Setting) {rest : Text}
    (ends : ∀ c ∈ rest.head?, isWord c = false) :
    options (writtenSettings ss ++ rest) = ss.map Setting.entry ++ options rest := by
  induction ss with
  | nil => rfl
  | cons s ss ih =>
    cases ss with
    | nil =>
      rw [writtenSettings, List.map_singleton, joined, options_eq_cons (s.option?_eq ends)]
      rfl
    | cons next ss =>
      have split : writtenSettings (s :: next :: ss) ++ rest =
          s.text ++ ',' :: ' ' :: (writtenSettings (next :: ss) ++ rest) := by
        simp [writtenSettings, joined]
      have comma : isWord ',' = false := by decide
      have space : isWord ' ' = false := by decide
      have apart : ∀ c ∈ (',' :: ' ' :: (writtenSettings (next :: ss) ++ rest)).head?,
          isWord c = false := by
        simpa using comma
      rw [split, options_eq_cons (s.option?_eq apart), options_skip comma, options_skip space, ih]
      rfl

theorem Quotable.newline_not_mem {content : Text} (h : Quotable content) : '\n' ∉ content := by
  induction h with
  | nil => simp
  | plain quote slash line _ ih => simp [Ne.symm line, ih]
  | escaped line _ ih => simp [Ne.symm line, ih]

theorem Value.newline_not_mem (v : Value) : '\n' ∉ v.text := by
  have digit : isDigit '\n' = false := by decide
  cases v with
  | reference digits => simp [Value.text, digits.not_mem digit]
  | number digits => exact digits.not_mem digit
  | word row start => exact row.not_mem (by decide)
  | quoted content quotable => simp [Value.text, quotable.newline_not_mem]

theorem newline_not_mem_writtenSettings (ss : List Setting) : '\n' ∉ writtenSettings ss := by
  intro h
  rcases mem_joined h with h | ⟨t, ht, h⟩
  · revert h
    decide
  · obtain ⟨s, -, rfl⟩ := List.mem_map.1 ht
    rw [Setting.text, List.mem_append, List.mem_append] at h
    rcases h with (h | h) | h
    · exact s.key.not_mem (by decide) h
    · revert h
      decide
    · exact s.value.newline_not_mem h

theorem beforeLast?_eq_none {x : Char} {t : Text} (h : x ∉ t) : beforeLast? x t = none := by
  rw [← Option.not_isSome_iff_eq_none, beforeLast?_isSome_iff]
  exact h

theorem beforeLast?_append (x : Char) (rest t : Text) :
    beforeLast? x (t ++ x :: rest) =
      some (t ++ ((beforeLast? x rest).map (x :: ·)).getD []) := by
  induction t with
  | nil => cases h : beforeLast? x rest <;> simp [beforeLast?, h]
  | cons c t ih => rw [List.cons_append, beforeLast?, ih, List.cons_append]

/-- The options in a text up to its last closing parenthesis. -/
def told (t : Text) : List (Text × Text) := ((beforeLast? ')' t).map options).getD []

theorem told_eq_nil {t : Text} (h : ')' ∉ t) : told t = [] := by
  rw [told, beforeLast?_eq_none h]
  rfl

namespace Written

variable (d : Written)

theorem assignment?_eq (rest : Text) :
    assignment? (d.id ++ (" = ".toList ++ (d.lead ++ '!' :: rest))) = some (d.id, rest) := by
  apply assignment?_eq_some_iff.2
  refine ⟨d.digits.text, d.lead, rfl, ?_, d.digits.nonempty, fun _ => d.digits.of_mem, ?_⟩
  · simp only [id, List.append_assoc, List.cons_append]
  · rw [lead]
    cases d.distinct with
    | true => exact Or.inr rfl
    | false => exact Or.inl rfl

theorem options_body (rest : Text) :
    options (writtenSettings d.settings ++ ((beforeLast? ')' rest).map (')' :: ·)).getD []) =
      d.entries ++ told rest := by
  have parenthesis : isWord ')' = false := by decide
  cases h : beforeLast? ')' rest with
  | none =>
    rw [options_writtenSettings_append _ (by simp), told, h]
    exact congrArg (d.entries ++ ·) options_nil
  | some between =>
    have ends : ∀ c ∈ (')' :: between).head?, isWord c = false := by simpa using parenthesis
    rw [Option.map_some, Option.getD_some, options_writtenSettings_append _ ends,
      options_skip parenthesis, told, h]
    rfl

theorem declaration?_append (trailing : Text) :
    declaration? (d.text ++ trailing) =
      some ⟨d.id, d.kind.text,
        Assoc.ofList (d.entries ++ told (trailing.takeWhile (· ≠ '\n')))⟩ := by
  have parts : d.text ++ trailing = d.id ++ (" = ".toList ++ (d.lead ++
      '!' :: ("DI".toList ++ (d.kind.text ++ (['('] ++
        (writtenSettings d.settings ++ ')' :: trailing)))))) := by
    simp only [text, List.append_assoc, List.cons_append, List.nil_append]
    rfl
  have ends : ∀ c ∈ (['('] ++ (writtenSettings d.settings ++ ')' :: trailing)).head?,
      c.isAlpha = false := by
    intro c hc
    obtain rfl := Option.some.inj hc
    decide
  have line : (writtenSettings d.settings ++ ')' :: trailing).takeWhile (· ≠ '\n') =
      writtenSettings d.settings ++ ')' :: trailing.takeWhile (· ≠ '\n') := by
    rw [List.takeWhile_append_of_pos, List.takeWhile_cons_of_pos (by decide)]
    exact all_ne_of_not_mem (newline_not_mem_writtenSettings d.settings)
  rw [parts, declaration?, d.assignment?_eq]
  simp only [Option.bind_eq_bind, Option.bind_some, after?_append, d.kind.run?_eq ends, line,
    beforeLast?_append, options_body]
  rfl

theorem declaration?_eq {trailing : Text} (h : ')' ∉ trailing) :
    declaration? (d.text ++ trailing) = some ⟨d.id, d.kind.text, Assoc.ofList d.entries⟩ := by
  have last : ')' ∉ trailing.takeWhile (· ≠ '\n') := fun hc => h (List.takeWhile_subset _ hc)
  rw [declaration?_append, told_eq_nil last, List.append_nil]

end Written

/-- A declaration is read back from its written form, up to the first closing parenthesis that no
quotes hold and whatever else follows without one. The attributes have each key in the place of its
first option with the value of its last one. -/
theorem declaration?_of_written (d : Written) {trailing : Text} (h : ')' ∉ trailing) :
    ∃ n, declaration? (d.text ++ trailing) = some n ∧ n.id = '!' :: d.digits.text ∧
      n.kind = d.kind.text ∧ n.attributes.map (·.1) = (d.entries.map (·.1)).eraseDups ∧
      ∀ key, n.attributes.get? key = d.entries.reverse.lookup key := by
  refine ⟨_, d.declaration?_eq h, rfl, rfl, ?_, ?_⟩
  · exact Assoc.map_fst_ofList d.entries
  · exact Assoc.get?_ofList d.entries

def imitating : Written where
  digits := ⟨"12".toList, by decide, by decide⟩
  distinct := true
  kind := ⟨"Subprogram".toList, by decide, by decide⟩
  settings := [
    ⟨⟨"line".toList, by decide, by decide⟩, .number ⟨"3".toList, by decide, by decide⟩⟩,
    ⟨⟨"name".toList, by decide, by decide⟩,
      .quoted "f(\\\"), line: 9, scope: !7)".toList (by decide)⟩,
    ⟨⟨"scope".toList, by decide, by decide⟩, .reference ⟨"4".toList, by decide, by decide⟩⟩,
    ⟨⟨"line".toList, by decide, by decide⟩, .word ⟨"x9".toList, by decide, by decide⟩ (by decide)⟩]

def imitatingText : Text :=
  "!12 = distinct !DISubprogram(line: 3, ".toList ++
    "name: \"f(\\\"), line: 9, scope: !7)\", scope: !4, line: x9)".toList

theorem declaration?_imitating :
    ')' ∉ " ; line: 5".toList ∧ imitating.text = imitatingText ∧
      ∃ n, declaration? (imitatingText ++ " ; line: 5".toList) = some n ∧
        n.attributes.map (·.1) = ["line", "name", "scope"].map (·.toList) ∧
        n.attributes.get? "line".toList = some "x9".toList ∧
        n.attributes.get? "name".toList = some "f(\\\"), line: 9, scope: !7)".toList := by
  have clear : ')' ∉ " ; line: 5".toList := by decide
  have text : imitating.text = imitatingText := by decide +kernel
  obtain ⟨n, read, -, -, keys, values⟩ := declaration?_of_written imitating clear
  refine ⟨clear, text, n, text ▸ read, ?_, ?_, ?_⟩
  · rw [keys]
    decide +kernel
  · rw [values]
    decide +kernel
  · rw [values]
    decide +kernel

end IrListing.Metadata
