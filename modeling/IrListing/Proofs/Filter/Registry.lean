import IrListing.Filter.Registry
import Mathlib.Data.List.Perm.Basic

namespace IrListing.Filter

def Descending (rules : List Rule) : Prop := rules.Pairwise fun r s => s.priority ≤ r.priority

/-- All rules of a history, those of high priority first, and those of one priority in the order of
the history. -/
structure Ranked (history rules : List Rule) : Prop where
  perm : rules.Perm history
  descending : Descending rules
  stable : ∀ p, rules.filter (·.priority = p) = history.filter (·.priority = p)

theorem Descending.tail {r : Rule} {rules : List Rule} (h : Descending (r :: rules)) :
    Descending rules :=
  List.Pairwise.of_cons h

theorem Descending.le_head {r s : Rule} {rules : List Rule} (h : Descending (s :: rules))
    (hr : r ∈ s :: rules) : r.priority ≤ s.priority := by
  rcases List.mem_cons.1 hr with rfl | later
  · exact Int.le_refl _
  · exact (List.pairwise_cons.1 h).1 r later

theorem mem_iff_of_filter_priority {rules rules' : List Rule}
    (same : ∀ p, rules.filter (·.priority = p) = rules'.filter (·.priority = p)) (r : Rule) :
    r ∈ rules ↔ r ∈ rules' := by
  have both : r ∈ rules.filter (·.priority = r.priority) ↔
      r ∈ rules'.filter (·.priority = r.priority) := by
    rw [same]
  simpa using both

theorem Descending.eq {rules rules' : List Rule} (h : Descending rules) (h' : Descending rules')
    (same : ∀ p, rules.filter (·.priority = p) = rules'.filter (·.priority = p)) :
    rules = rules' := by
  induction rules generalizing rules' with
  | nil =>
    cases rules' with
    | nil => rfl
    | cons s rules' => simpa using mem_iff_of_filter_priority same s
  | cons r rules ih =>
    cases rules' with
    | nil => simpa using mem_iff_of_filter_priority same r
    | cons s rules' =>
      have mem := mem_iff_of_filter_priority same
      have below : r.priority ≤ s.priority := h'.le_head ((mem r).1 List.mem_cons_self)
      have above : s.priority ≤ r.priority := h.le_head ((mem s).2 List.mem_cons_self)
      have level : s.priority = r.priority := Int.le_antisymm above below
      have first := same r.priority
      simp only [List.filter_cons, level, decide_true, if_true, List.cons.injEq] at first
      obtain ⟨rfl, -⟩ := first
      congr 1
      apply ih h.tail h'.tail
      intro p
      have whole := same p
      by_cases hp : r.priority = p
      · simpa [List.filter_cons, hp] using whole
      · simpa [List.filter_cons, hp] using whole

theorem Ranked.eq {history rules rules' : List Rule} (h : Ranked history rules)
    (h' : Ranked history rules') : rules = rules' :=
  h.descending.eq h'.descending fun p => (h.stable p).trans (h'.stable p).symm

def isAhead (r s : Rule) : Bool := s.priority ≤ r.priority

theorem isAhead_trans (r s t : Rule) (h : isAhead r s = true) (h' : isAhead s t = true) :
    isAhead r t = true := by
  simp only [isAhead, decide_eq_true_eq] at h h' ⊢
  omega

theorem isAhead_total (r s : Rule) : (isAhead r s || isAhead s r) = true := by
  simp only [isAhead, Bool.or_eq_true, decide_eq_true_eq]
  omega

theorem ranked_mergeSort (history : List Rule) : Ranked history (history.mergeSort isAhead) where
  perm := List.mergeSort_perm history isAhead
  descending := by
    apply (List.pairwise_mergeSort isAhead_trans isAhead_total history).imp
    intro r s ahead
    simpa [isAhead] using ahead
  stable p := by
    have level : (history.filter (·.priority = p)).Pairwise fun r s => isAhead r s = true := by
      apply List.pairwise_of_forall_mem_list
      intro r hr s hs
      simp only [List.mem_filter, decide_eq_true_eq] at hr hs
      simp [isAhead, hr.2, hs.2]
    have kept := List.sublist_mergeSort isAhead_trans isAhead_total level List.filter_sublist
    have inside := kept.filter (·.priority = p)
    rw [List.filter_filter] at inside
    simp only [Bool.and_self] at inside
    exact (inside.eq_of_length ((List.mergeSort_perm _ _).filter _).length_eq.symm).symm

theorem perm_place (rule : Rule) (rules : List Rule) : (place rule rules).Perm (rule :: rules) := by
  induction rules with
  | nil => rfl
  | cons r rules ih =>
    rw [place]
    split
    · rfl
    · exact (ih.cons r).trans (List.Perm.swap rule r rules)

theorem Descending.place (rule : Rule) {rules : List Rule} (h : Descending rules) :
    Descending (place rule rules) := by
  induction rules with
  | nil => exact List.pairwise_singleton _ rule
  | cons r rules ih =>
    rw [Filter.place]
    split
    · rename_i lower
      apply List.pairwise_cons.2 ⟨?_, h⟩
      intro s hs
      have := h.le_head hs
      omega
    · rename_i higher
      apply List.pairwise_cons.2 ⟨?_, ih h.tail⟩
      intro s hs
      rcases List.mem_cons.1 ((perm_place rule rules).mem_iff.1 hs) with rfl | hs
      · omega
      · exact h.le_head (List.mem_cons_of_mem r hs)

theorem Descending.filter_place (rule : Rule) {rules : List Rule} (h : Descending rules) (p : Int) :
    (Filter.place rule rules).filter (·.priority = p) =
      (rules ++ [rule]).filter (·.priority = p) := by
  induction rules with
  | nil => rfl
  | cons r rules ih =>
    rw [Filter.place]
    split
    · rename_i lower
      by_cases level : rule.priority = p
      · have none_left : (r :: rules).filter (·.priority = p) = [] := by
          apply List.filter_eq_nil_iff.2
          intro s hs
          have := h.le_head hs
          simp only [decide_eq_true_eq]
          omega
        rw [List.filter_append, List.filter_cons, none_left]
        simp [level]
      · rw [List.filter_append, List.filter_cons]
        simp [level]
    · rw [List.filter_cons, ih h.tail, List.cons_append, List.filter_cons]

theorem Ranked.place {history rules : List Rule} (h : Ranked history rules) (rule : Rule) :
    Ranked (history ++ [rule]) (Filter.place rule rules) where
  perm := by
    apply (perm_place rule rules).trans
    exact (h.perm.cons rule).trans (List.perm_append_singleton rule history).symm
  descending := h.descending.place rule
  stable p := by
    rw [h.descending.filter_place, List.filter_append, h.stable, List.filter_append]

structure Registration where
  stage : Text
  rule : Rule

def registered (stage : Stage) (history : List Registration) : List Rule :=
  (history.filter (·.stage = stage.name)).map (·.rule)

theorem registered_append (stage : Stage) (history : List Registration) (r : Registration) :
    registered stage (history ++ [r]) =
      registered stage history ++ if r.stage = stage.name then [r.rule] else [] := by
  by_cases h : r.stage = stage.name
  · simp [registered, h]
  · simp [registered, h]

theorem Stage.name_inj {stage stage' : Stage} : stage.name = stage'.name ↔ stage = stage' := by
  cases stage <;> cases stage' <;> decide

theorem Stage.ofName?_name (stage : Stage) : ofName? stage.name = some stage := by
  cases stage <;> rfl

theorem Stage.ofName?_eq_none_iff {name : Text} :
    ofName? name = none ↔ ∀ stage : Stage, name ≠ stage.name := by
  constructor
  · rintro unknown stage rfl
    rw [ofName?_name] at unknown
    cases unknown
  · intro other
    apply List.find?_eq_none.2
    intro stage _
    simpa using Ne.symm (other stage)

namespace Registry

def take (reg : Registry) (r : Registration) : Registry := (reg.register? r.stage r.rule).getD reg

def run (reg : Registry) (rs : List Registration) : Registry := rs.foldl take reg

theorem register?_eq_none_iff {reg : Registry} {r : Registration} :
    reg.register? r.stage r.rule = none ↔ ∀ stage : Stage, r.stage ≠ stage.name := by
  rw [register?, Option.map_eq_none_iff, Stage.ofName?_eq_none_iff]

theorem rules_register (reg : Registry) (stage stage' : Stage) (rule : Rule) :
    (reg.register stage rule).rules stage' =
      if stage = stage' then place rule (reg.rules stage') else reg.rules stage' := by
  cases stage <;> cases stage' <;> rfl

theorem rules_take (reg : Registry) (r : Registration) (stage : Stage) :
    (reg.take r).rules stage =
      if r.stage = stage.name then place r.rule (reg.rules stage) else reg.rules stage := by
  obtain ⟨name, rule⟩ := r
  rw [take, register?]
  cases found : Stage.ofName? name with
  | none =>
    rw [if_neg (Stage.ofName?_eq_none_iff.1 found stage)]
    rfl
  | some stage' =>
    obtain rfl : stage'.name = name := by simpa using List.find?_some found
    simp only [Option.map_some, Option.getD_some, rules_register, Stage.name_inj]

/-- The registry holds all rules of a history, each stage those that are meant for it. -/
def Records (reg : Registry) (history : List Registration) : Prop :=
  ∀ stage, Ranked (registered stage history) (reg.rules stage)

namespace Records

variable {reg : Registry} {history : List Registration} (h : reg.Records history)
include h

theorem take (r : Registration) : (reg.take r).Records (history ++ [r]) := by
  intro stage
  rw [rules_take, registered_append]
  split
  · exact (h stage).place r.rule
  · rw [List.append_nil]
    exact h stage

theorem run (rs : List Registration) : (reg.run rs).Records (history ++ rs) := by
  induction rs generalizing reg history with
  | nil => rwa [List.append_nil]
  | cons r rs ih =>
    rw [List.append_cons]
    exact ih (h.take r)

theorem mem_rules_iff {stage : Stage} {rule : Rule} :
    rule ∈ reg.rules stage ↔ rule ∈ registered stage history :=
  (h stage).perm.mem_iff

theorem rules_eq (stage : Stage) :
    reg.rules stage = (registered stage history).mergeSort isAhead :=
  (h stage).eq (ranked_mergeSort _)

theorem rules_register_self (stage : Stage) (rule : Rule) :
    (reg.register stage rule).rules stage = (reg.rules stage ++ [rule]).mergeSort isAhead := by
  have alone : Ranked (reg.rules stage) (reg.rules stage) :=
    ⟨.refl _, (h stage).descending, fun _ => rfl⟩
  rw [rules_register, if_pos rfl]
  exact (alone.place rule).eq (ranked_mergeSort _)

end Records

inductive Start
  | empty
  | standard
  deriving DecidableEq, Repr

def Start.registry : Start → Registry
  | .empty => {}
  | .standard => .standard

def Start.history : Start → List Registration
  | .empty => []
  | .standard =>
    [⟨Stage.beforeCapture.name, commentRule⟩, ⟨Stage.beforeCapture.name, debugCallRule⟩,
      ⟨Stage.afterCapture.name, directiveRule⟩]

theorem records_empty : Records {} [] := by
  intro stage
  cases stage <;> exact ⟨.refl _, List.Pairwise.nil, fun _ => rfl⟩

theorem Start.records (start : Start) : start.registry.Records start.history := by
  cases start with
  | empty => exact records_empty
  | standard => exact records_empty.run (Start.history .standard)

end Registry

namespace Pipeline

def drops (p : Pipeline) : Stage → Text → Bool
  | .beforeCapture => p.dropsBefore
  | .afterCapture => p.dropsAfter

theorem drops_ofRegistry (reg : Registry) (config : Config) (stage : Stage) (line : Text) :
    (ofRegistry reg config).drops stage line =
      (reg.rules stage).any fun rule => rule.enabled config && rule.drops line := by
  cases stage <;> exact List.any_filter

theorem drops_iff {reg : Registry} {history : List Registration} (h : reg.Records history)
    {config : Config} {stage : Stage} {line : Text} :
    (ofRegistry reg config).drops stage line = true ↔
      ∃ rule ∈ registered stage history, rule.enabled config = true ∧ rule.drops line = true := by
  rw [drops_ofRegistry, List.any_eq_true]
  simp only [h.mem_rules_iff, Bool.and_eq_true]

theorem drops_eq_of_perm {reg reg' : Registry} {history history' : List Registration}
    (h : reg.Records history) (h' : reg'.Records history') (perm : history.Perm history')
    (config : Config) (stage : Stage) (line : Text) :
    (ofRegistry reg config).drops stage line = (ofRegistry reg' config).drops stage line := by
  have same : (registered stage history).Perm (registered stage history') :=
    (perm.filter _).map _
  rw [Bool.eq_iff_iff, drops_iff h, drops_iff h']
  simp only [same.mem_iff]

end Pipeline

/-- After any registrations a stage holds the rules registered for it, as one stable sort of all of
them, to which sorting again after each comes down. A registration for no stage fails and changes
nothing. A pipeline drops what one of its enabled rules drops, in whatever order they came. -/
theorem Registry.ranked_run (start : Start) (rs : List Registration) :
    let reg := start.registry.run rs
    let history := start.history ++ rs
    (∀ stage, Ranked (registered stage history) (reg.rules stage) ∧
      reg.rules stage = (registered stage history).mergeSort isAhead ∧
      ∀ rule, (reg.register stage rule).rules stage =
        (reg.rules stage ++ [rule]).mergeSort isAhead) ∧
    (∀ r : Registration,
      (reg.register? r.stage r.rule = none ↔ ∀ stage : Stage, r.stage ≠ stage.name) ∧
      (reg.register? r.stage r.rule = none → ∀ stage, (reg.take r).rules stage = reg.rules stage)) ∧
    ∀ config,
      (∀ stage line,
        ((Pipeline.ofRegistry reg config).drops stage line = true ↔
          ∃ rule ∈ registered stage history,
            rule.enabled config = true ∧ rule.drops line = true) ∧
        ∀ rs', rs.Perm rs' →
          (Pipeline.ofRegistry (start.registry.run rs') config).drops stage line =
            (Pipeline.ofRegistry reg config).drops stage line) ∧
      (Pipeline.ofRegistry reg config).names =
        ((reg.rules .beforeCapture).filter (·.enabled config)).map (·.name) ++
          ((reg.rules .afterCapture).filter (·.enabled config)).map (·.name) := by
  intro reg history
  have records : reg.Records history := start.records.run rs
  refine ⟨?_, ?_, ?_⟩
  · intro stage
    exact ⟨records stage, records.rules_eq stage, records.rules_register_self stage⟩
  · intro r
    refine ⟨register?_eq_none_iff, ?_⟩
    intro fails stage
    rw [take, fails, Option.getD_none]
  · intro config
    refine ⟨?_, List.map_append⟩
    intro stage line
    refine ⟨Pipeline.drops_iff records, ?_⟩
    intro rs' perm
    have records' : (start.registry.run rs').Records (start.history ++ rs') := start.records.run rs'
    exact Pipeline.drops_eq_of_perm records' records (perm.symm.append_left _) config stage line

def tied : List Registration :=
  [⟨Stage.beforeCapture.name, ⟨"tail".toList, 95, (·.comments), (Text.has "tail".toList ·)⟩⟩,
    ⟨"mid-capture".toList, commentRule⟩,
    ⟨Stage.beforeCapture.name, ⟨"loose".toList, 95, fun _ => true, (Text.has "tail".toList ·)⟩⟩]

theorem Registry.ranked_run_tied :
    let reg := Start.standard.registry.run tied
    ((reg.rules .beforeCapture).map (·.name) =
        ["comment_only", "tail", "loose", "debug_calls"].map (·.toList) ∧
      (reg.rules .beforeCapture).Perm
        (registered .beforeCapture (Start.standard.history ++ tied))) ∧
    (reg.register? "mid-capture".toList commentRule = none ∧
      ∀ stage, (reg.take ⟨"mid-capture".toList, commentRule⟩).rules stage = reg.rules stage) ∧
    tied.Perm tied.reverse ∧
      ∀ config line,
        (Pipeline.ofRegistry (Start.standard.registry.run tied.reverse) config).drops
            .beforeCapture line =
          (Pipeline.ofRegistry reg config).drops .beforeCapture line := by
  intro reg
  obtain ⟨ranked, fails, drops⟩ := Registry.ranked_run .standard tied
  have unknown : reg.register? "mid-capture".toList commentRule = none := by rfl
  have turned : tied.Perm tied.reverse := (List.reverse_perm tied).symm
  refine ⟨⟨by rfl, (ranked .beforeCapture).1.perm⟩,
    ⟨unknown, (fails ⟨"mid-capture".toList, commentRule⟩).2 unknown⟩, turned, ?_⟩
  intro config line
  exact ((drops config).1 .beforeCapture line).2 _ turned

end IrListing.Filter
