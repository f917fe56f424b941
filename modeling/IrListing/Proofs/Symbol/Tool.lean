import IrListing.Proofs.Assoc
import IrListing.Proofs.Text.Span
import IrListing.Symbol.Tool

namespace IrListing

namespace Text

theorem unlines_cons (t : Text) (ts : List Text) :
    unlines (t :: ts) = t ++ '\n' :: unlines ts := by
  simp [unlines]

theorem answerLines_unlines {ts : List Text} (h : ∀ t ∈ ts, ∀ c ∈ t, isBreak c = false) :
    answerLines (unlines ts) = ts := by
  induction ts with
  | nil => simp [unlines, answerLines]
  | cons t ts ih =>
    have line : ∀ c ∈ t, (!isBreak c) = true := by
      intro c hc
      simp [h t List.mem_cons_self c hc]
    have ends : ∀ c ∈ ('\n' :: unlines ts).head?, (!isBreak c) = false := by simp [isBreak]
    have dropped := dropWhile_span line ends
    rw [unlines_cons, answerLines, if_neg (by simp)]
    split
    · rename_i e
      rw [dropped] at e
      cases e
    · rename_i e
      rw [dropped] at e
      cases e
    · rename_i e
      rw [dropped] at e
      cases e
      rw [takeWhile_span line ends, ih fun u hu => h u (List.mem_cons_of_mem _ hu)]

end Text

namespace Symbol

open Text

def answer (g : Text → Text) : (line : Text) → Text → Text
  | _, [] => []
  | line, c :: t =>
    if c = '\n' then g line.reverse ++ '\n' :: answer g [] t else answer g (c :: line) t

theorem answer_append (g : Text → Text) (line t rest : Text) (h : '\n' ∉ t) :
    answer g line (t ++ '\n' :: rest) = g (line.reverse ++ t) ++ '\n' :: answer g [] rest := by
  induction t generalizing line with
  | nil => simp [answer]
  | cons c t ih =>
    rw [List.mem_cons, not_or] at h
    rw [List.cons_append, answer, if_neg (Ne.symm h.1), ih _ h.2]
    simp

theorem answer_unlines (g : Text → Text) {ts : List Text} (h : ∀ t ∈ ts, '\n' ∉ t) :
    answer g [] (unlines ts) = unlines (ts.map g) := by
  induction ts with
  | nil => rfl
  | cons t ts ih =>
    rw [unlines_cons, answer_append g [] t _ (h t List.mem_cons_self),
      ih fun u hu => h u (List.mem_cons_of_mem _ hu), List.map_cons, unlines_cons]
    rfl

def Tool.naming (g : Text → Text) : Tool where
  command := "names".toList
  limit := .usual
  run input := .done (answer g [] input)

def Tool.garbled : Tool where
  command := "garbled".toList
  limit := .usual
  run _ := .brokeDown .undecodable

/-- Whatever lines the tool reads, it answers each with its name. -/
def Tool.Answers (tool : Tool) (g : Text → Text) : Prop :=
  ∀ asked : List Text, (∀ t ∈ asked, '\n' ∉ t) →
    tool.run (unlines asked) = .done (unlines (asked.map g))

theorem Tool.naming_answers (g : Text → Text) : (naming g).Answers g :=
  fun _ h => congrArg Exit.done (answer_unlines g h)

theorem Tool.Answers.result_ask {tool : Tool} {g : Text → Text} (h : tool.Answers g)
    {symbols : List Text} (lines : ∀ s ∈ symbols, '\n' ∉ s)
    (unbroken : ∀ s ∈ symbols, ∀ c ∈ g s, isBreak c = false) :
    (tool.ask symbols).result = .ok (Assoc.ofList (symbols.map fun s => (s, g s))) := by
  by_cases nothing : symbols = []
  · simp [Tool.ask, nothing, Assoc.ofList]
  · have answer : answerLines (unlines (symbols.map g)) = symbols.map g := by
      apply answerLines_unlines
      intro t ht
      obtain ⟨s, hs, rfl⟩ := List.mem_map.1 ht
      exact unbroken s hs
    have pairs : symbols.zip (symbols.map g) = symbols.map fun s => (s, g s) := by
      simpa using List.zip_map' (f := id) (g := g) (l := symbols)
    simp [Tool.ask, nothing, Tool.pair, h symbols lines, answer, pairs]

theorem Traced.result_map_eq_ok_iff {f : α → β} {t : Traced α} {b : β} :
    (t.map f).result = .ok b ↔ ∃ a, t.result = .ok a ∧ b = f a := by
  rw [Traced.map]
  cases t.result with
  | error e => simp [Except.map]
  | ok a => simp [Except.map, eq_comm]

theorem Traced.result_map_eq_error_iff {f : α → β} {t : Traced α} {e : Stop} :
    (t.map f).result = .error e ↔ t.result = .error e := by
  rw [Traced.map]
  cases t.result with
  | error e => simp [Except.map]
  | ok a => simp [Except.map]

/-- The tool is not needed, or it ends in an orderly way with a line for each symbol. -/
def Tool.Serves (tool : Tool) (symbols : List Text) : Prop :=
  symbols = [] ∨ ∃ output, tool.run (unlines symbols) = .done output ∧
    (answerLines output).length = symbols.length

def Tool.BreaksDown (tool : Tool) (symbols : List Text) (b : Breakdown) : Prop :=
  symbols ≠ [] ∧ tool.run (unlines symbols) = .brokeDown b

theorem Tool.calls_ask (tool : Tool) (symbols : List Text) :
    (tool.ask symbols).calls = if symbols = [] then [] else [⟨tool.command, unlines symbols⟩] := by
  unfold ask
  split <;> rfl

theorem Tool.pair_eq_ok_iff {tool : Tool} {symbols : List Text} {exit : Exit}
    {names : Assoc Text Text} :
    tool.pair symbols exit = .ok names ↔ ∃ output, exit = .done output ∧
      (answerLines output).length = symbols.length ∧
      names = Assoc.ofList (symbols.zip (answerLines output)) := by
  cases exit with
  | done output =>
    by_cases counted : (answerLines output).length = symbols.length
    · simp [pair, counted, eq_comm]
    · simp [pair, counted]
  | _ => simp [pair]

theorem Tool.pair_eq_breakdown_iff {tool : Tool} {symbols : List Text} {exit : Exit}
    {b : Breakdown} : tool.pair symbols exit = .error (.breakdown b) ↔ exit = .brokeDown b := by
  cases exit with
  | done output =>
    by_cases counted : (answerLines output).length = symbols.length
    · simp [pair, counted]
    · simp [pair, counted]
  | _ => simp [pair]

theorem Tool.command_of_pair_failure {tool : Tool} {symbols : List Text} {exit : Exit}
    {f : Failure} (h : tool.pair symbols exit = .error (.failure f)) :
    f.command = tool.command := by
  cases exit with
  | done output =>
    simp only [pair] at h
    split at h
    · cases h
    · cases h
      rfl
  | brokeDown b => cases h
  | _ =>
    cases h
    rfl

theorem Tool.result_ask_eq_ok_iff {tool : Tool} {symbols : List Text} {names : Assoc Text Text} :
    (tool.ask symbols).result = .ok names ↔
      if symbols = [] then names = []
      else ∃ output, tool.run (unlines symbols) = .done output ∧
        (answerLines output).length = symbols.length ∧
        names = Assoc.ofList (symbols.zip (answerLines output)) := by
  unfold ask
  split
  · simp [eq_comm]
  · exact pair_eq_ok_iff

theorem Tool.result_ask_eq_breakdown_iff {tool : Tool} {symbols : List Text} {b : Breakdown} :
    (tool.ask symbols).result = .error (.breakdown b) ↔ tool.BreaksDown symbols b := by
  unfold ask BreaksDown
  split
  · simp [*]
  · simp [*, pair_eq_breakdown_iff]

theorem Tool.serves_iff_exists_names {tool : Tool} {symbols : List Text} :
    tool.Serves symbols ↔ ∃ names, (tool.ask symbols).result = .ok names := by
  simp only [result_ask_eq_ok_iff, Serves]
  by_cases nothing : symbols = []
  · simp [nothing]
  · simp only [nothing, if_false, false_or]
    rw [exists_comm]
    simp

theorem Tool.command_of_ask_failure {tool : Tool} {symbols : List Text} {f : Failure}
    (h : (tool.ask symbols).result = .error (.failure f)) : f.command = tool.command := by
  unfold ask at h
  split at h
  · cases h
  · exact command_of_pair_failure h

/-- The end that a question is meant to have: names, or a failure of the tool that was asked. -/
def Tool.Replies (tool : Tool) (symbols : List Text) : Prop :=
  (∃ names, (tool.ask symbols).result = .ok names) ∨
    ∃ f, (tool.ask symbols).result = .error (.failure f) ∧ f.command = tool.command

theorem Tool.replies_iff {tool : Tool} {symbols : List Text} :
    tool.Replies symbols ↔ ∀ b, ¬ tool.BreaksDown symbols b := by
  simp only [← result_ask_eq_breakdown_iff]
  constructor
  · rintro (⟨names, done⟩ | ⟨f, failed, -⟩) b broken
    · cases done.symm.trans broken
    · cases failed.symm.trans broken
  · intro whole
    cases result : (tool.ask symbols).result with
    | ok names => exact .inl ⟨names, result⟩
    | error stop =>
      cases stop with
      | failure f => exact .inr ⟨f, result, command_of_ask_failure result⟩
      | breakdown b => cases whole b result

theorem Tool.mem_of_mem_names {tool : Tool} {symbols : List Text} {names : Assoc Text Text}
    (h : (tool.ask symbols).result = .ok names) {e : Text × Text} (he : e ∈ names) :
    e.1 ∈ symbols := by
  rw [result_ask_eq_ok_iff] at h
  split at h
  · subst h
    cases he
  · obtain ⟨output, -, -, rfl⟩ := h
    exact (List.of_mem_zip (Assoc.mem_of_mem_ofList he)).1

end Symbol

end IrListing
