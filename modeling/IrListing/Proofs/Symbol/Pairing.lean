import IrListing.Proofs.Symbol.Collect
import IrListing.Proofs.Symbol.Tool

namespace IrListing.Symbol

open Text

/-- Each symbol is there once, in the order of first places, with the name at its last place. -/
structure Paired (symbols answers : List Text) (names : Assoc Text Text) : Prop where
  keys : FirstSeen symbols (names.map (·.1))
  last : ∀ (i : Nat) (s name : Text), symbols[i]? = some s → answers[i]? = some name →
    (∀ j, i < j → symbols[j]? ≠ some s) → names.get? s = some name

theorem map_fst_ofList_zip {symbols answers : List Text}
    (counted : answers.length = symbols.length) :
    (Assoc.ofList (symbols.zip answers)).map (·.1) = symbols.eraseDups := by
  rw [Assoc.map_fst_ofList, List.map_fst_zip (Nat.le_of_eq counted.symm)]

theorem paired_ofList_zip {symbols answers : List Text}
    (counted : answers.length = symbols.length) :
    Paired symbols answers (Assoc.ofList (symbols.zip answers)) where
  keys := by
    rw [map_fst_ofList_zip counted]
    exact firstSeen_eraseDups symbols
  last := by
    intro i s name here answer last
    have entry : (symbols.zip answers)[i]? = some (s, name) :=
      List.getElem?_zip_eq_some.2 ⟨here, answer⟩
    apply Assoc.get?_ofList_of_last entry
    intro j d later there same
    apply last j later
    rw [(List.getElem?_zip_eq_some.1 there).1, same]

namespace Tool

variable {tool : Tool} {symbols : List Text}

theorem map_fst_names {names : Assoc Text Text} (h : (tool.ask symbols).result = .ok names) :
    names.map (·.1) = symbols.eraseDups := by
  rw [result_ask_eq_ok_iff] at h
  split at h
  · rename_i nothing
    rw [h, nothing]
    rfl
  · obtain ⟨output, -, counted, rfl⟩ := h
    exact map_fst_ofList_zip counted

theorem nodup_names {names : Assoc Text Text} (h : (tool.ask symbols).result = .ok names) :
    (names.map (·.1)).Nodup := by
  rw [map_fst_names h]
  apply (pairwise_eraseDups symbols).imp
  rintro s _ earlier rfl
  exact Nat.lt_irrefl _ earlier

/-- A tool that names line by line gives each symbol its name. Any other answer is paired with the
symbols in order when it has as many lines, and is a failure otherwise; no symbols, no question.
There are names or a failure exactly as long as the run does not break down. -/
theorem ask_pairs (tool : Tool) (symbols : List Text) :
    (symbols = [] → tool.ask symbols = ⟨[], .ok []⟩) ∧
      (∀ g, tool.Answers g → (∀ s ∈ symbols, '\n' ∉ s ∧ ∀ c ∈ g s, isBreak c = false) →
        ∃ seen, FirstSeen symbols seen ∧
          (tool.ask symbols).result = .ok (seen.map fun s => (s, g s))) ∧
      (symbols ≠ [] →
        (tool.ask symbols).calls = [⟨tool.command, unlines symbols⟩] ∧
        ((∃ output names, tool.run (unlines symbols) = .done output ∧
            (answerLines output).length = symbols.length ∧
            (tool.ask symbols).result = .ok names ∧ Paired symbols (answerLines output) names) ∨
          (¬ ∃ output, tool.run (unlines symbols) = .done output ∧
              (answerLines output).length = symbols.length) ∧
            ((∃ f, (tool.ask symbols).result = .error (.failure f) ∧ f.command = tool.command) ∨
              ∃ b, (tool.ask symbols).result = .error (.breakdown b) ∧
                tool.run (unlines symbols) = .brokeDown b))) ∧
      (tool.Replies symbols ↔ ∀ b, ¬ tool.BreaksDown symbols b) := by
  refine ⟨?_, ?_, ?_, replies_iff⟩
  · intro nothing
    exact if_pos nothing
  · intro g answers lines
    refine ⟨_, firstSeen_eraseDups symbols, ?_⟩
    rw [answers.result_ask (fun s hs => (lines s hs).1) fun s hs => (lines s hs).2,
      Assoc.ofList_map]
  · intro some_symbol
    refine ⟨by rw [calls_ask, if_neg some_symbol], ?_⟩
    cases result : (tool.ask symbols).result with
    | ok names =>
      left
      rw [result_ask_eq_ok_iff, if_neg some_symbol] at result
      obtain ⟨output, done, counted, rfl⟩ := result
      exact ⟨output, _, done, counted, rfl, paired_ofList_zip counted⟩
    | error stop =>
      right
      constructor
      · intro serves
        obtain ⟨names, served⟩ := serves_iff_exists_names.1 (Or.inr serves)
        cases served.symm.trans result
      · cases stop with
        | failure f => exact .inl ⟨f, rfl, command_of_ask_failure result⟩
        | breakdown b => exact .inr ⟨b, rfl, (result_ask_eq_breakdown_iff.1 result).2⟩

def twice : List Text := ["_Z1av".toList, "_Z1bv".toList, "_Z1av".toList]

def halfNamed (s : Text) : Text := if s = "_Z1bv".toList then [] else "a()".toList

def torn : Tool where
  command := "torn".toList
  limit := .usual
  run _ := .done "a\r\n\x0cb".toList

theorem ask_pairs_twice :
    Tool.Answers (.naming halfNamed) halfNamed ∧
      (∀ s ∈ twice, '\n' ∉ s ∧ ∀ c ∈ halfNamed s, isBreak c = false) ∧
      (∃ seen, FirstSeen twice seen ∧ ((naming halfNamed).ask twice).result =
        .ok (seen.map fun s => (s, halfNamed s))) ∧
      twice ≠ [] ∧ (∃ names, (torn.ask twice).result = .ok names ∧
        names.get? "_Z1av".toList = some "b".toList) ∧ torn.Replies twice := by
  have lines : ∀ s ∈ twice, '\n' ∉ s ∧ ∀ c ∈ halfNamed s, isBreak c = false := by
    simp only [← Bool.not_eq_true, ← List.any_eq_false]
    decide +kernel
  have some_symbol : twice ≠ [] := by decide
  have answers := naming_answers halfNamed
  obtain ⟨-, named, -⟩ := ask_pairs (naming halfNamed) twice
  obtain ⟨-, -, any, replies⟩ := ask_pairs torn twice
  have read : answerLines "a\r\n\x0cb".toList = ["a".toList, [], "b".toList] := by decide +kernel
  refine ⟨answers, lines, named _ answers lines, some_symbol, ?_, replies.2 ?_⟩
  · rcases (any some_symbol).2 with ⟨output, names, done, -, result, paired⟩ | ⟨miscounted, -⟩
    · obtain rfl := Exit.done.inj done
      rw [read] at paired
      refine ⟨names, result, paired.last 2 _ _ rfl rfl ?_⟩
      intro j later
      have beyond : twice[j]? = none := List.getElem?_eq_none later
      rw [beyond]
      rintro ⟨⟩
    · exact absurd ⟨_, rfl, by rw [read]; rfl⟩ miscounted
  · rintro b ⟨-, ⟨⟩⟩

theorem garbled_not_replies :
    ¬ ((∃ names, (garbled.ask ["_Z1fv".toList]).result = .ok names) ∨
      ∃ f, (garbled.ask ["_Z1fv".toList]).result = .error (.failure f)) := by
  have broken : (garbled.ask ["_Z1fv".toList]).result = .error (.breakdown .undecodable) := rfl
  rintro (⟨names, done⟩ | ⟨f, failed⟩)
  · cases done.symm.trans broken
  · cases failed.symm.trans broken

end Tool

end IrListing.Symbol
