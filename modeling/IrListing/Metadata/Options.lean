import IrListing.Assoc
import IrListing.Text.Lines
import IrListing.Text.Word

/-! Options of a declaration, `key: value` anywhere in its body. A value is a reference `!3`, a
number, a word or a quoted string, and what stands between the options is passed over. -/

namespace IrListing.Metadata

open Text

/-- The content up to the closing quote, with its backslashes, and what follows the quote. A
backslash takes the next character along, which may not be a line feed. -/
def quotedContent? : Text → Option (Text × Text)
  | [] => none
  | '"' :: t => some ([], t)
  | '\\' :: c :: t =>
    if c = '\n' then none else (quotedContent? t).map fun (s, r) => ('\\' :: c :: s, r)
  | c :: t => if c = '\\' then none else (quotedContent? t).map fun (s, r) => (c :: s, r)

def run? (p : Char → Bool) (t : Text) : Option (Text × Text) :=
  if t.takeWhile p = [] then none else some (t.takeWhile p, t.dropWhile p)

def value? : Text → Option (Text × Text)
  | '"' :: t => quotedContent? t
  | '!' :: t => (run? isDigit t).map fun (s, r) => ('!' :: s, r)
  | t => (run? isDigit t).or (run? isWord t)

def option? (t : Text) : Option ((Text × Text) × Text) := do
  let (key, r) ← run? isWord t
  let r ← after? [':', ' '] r
  let (value, r) ← value? r
  return ((key, value), r)

theorem length_run? {p : Char → Bool} {t s r : Text} (h : run? p t = some (s, r)) :
    r.length < t.length := by
  unfold run? at h
  split at h
  · simp at h
  · rename_i hne
    simp only [Option.some.injEq, Prod.mk.injEq] at h
    rw [← h.2]
    conv => rhs; rw [← List.takeWhile_append_dropWhile (p := p) (l := t)]
    have := List.length_pos_iff.2 hne
    simp only [List.length_append]
    omega

theorem length_quotedContent? {t s r : Text} (h : quotedContent? t = some (s, r)) :
    r.length < t.length := by
  fun_induction quotedContent? t generalizing s with
  | case1 => simp at h
  | case2 t => simp at h; simp [h.2]
  | case3 => simp at h
  | case4 c t hc ih =>
    obtain ⟨⟨s', r'⟩, h', e⟩ := Option.map_eq_some_iff.1 h
    simp only [Prod.mk.injEq] at e
    have := ih (e.2 ▸ h')
    simp only [List.length_cons]
    omega
  | case5 => simp at h
  | case6 c t _ _ hc ih =>
    obtain ⟨⟨s', r'⟩, h', e⟩ := Option.map_eq_some_iff.1 h
    simp only [Prod.mk.injEq] at e
    have := ih (e.2 ▸ h')
    simp only [List.length_cons]
    omega

theorem length_value? {t s r : Text} (h : value? t = some (s, r)) : r.length < t.length := by
  unfold value? at h
  split at h
  · have := length_quotedContent? h
    simp only [List.length_cons]
    omega
  · obtain ⟨⟨s', r'⟩, h', e⟩ := Option.map_eq_some_iff.1 h
    simp only [Prod.mk.injEq] at e
    have := length_run? (e.2 ▸ h')
    simp only [List.length_cons]
    omega
  · rcases Option.or_eq_some_iff.1 h with h | ⟨_, h⟩ <;> exact length_run? h

theorem length_option? {t r : Text} {o : Text × Text} (h : option? t = some (o, r)) :
    r.length < t.length := by
  simp only [option?, Option.bind_eq_bind, Option.bind_eq_some_iff, Prod.exists, Option.pure_def,
    Option.some.injEq, Prod.mk.injEq, after?_eq_some_iff] at h
  obtain ⟨key, r₁, h₁, r₂, h₂, value, r₃, h₃, _, rfl⟩ := h
  have := length_run? h₁
  have := length_value? h₃
  have : r₁.length = r₂.length + 2 := by simp [h₂]
  omega

/-- All options in order. After an option the reading goes on right behind its value; a run of word
characters that starts none is passed over as a whole. -/
def options (t : Text) : List (Text × Text) :=
  match t with
  | [] => []
  | c :: rest =>
    if isWord c then
      match _ : option? (c :: rest) with
      | some (o, r) => o :: options r
      | none => options (rest.dropWhile isWord)
    else options rest
termination_by t.length
decreasing_by
  · exact length_option? ‹_›
  · exact Nat.lt_succ_of_le (List.dropWhile_sublist _).length_le
  · simp

end IrListing.Metadata
