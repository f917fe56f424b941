import IrListing.Filter.Config
import IrListing.Filter.Kind

namespace IrListing.Filter

structure Rule where
  name : Text
  priority : Int
  enabled : Config → Bool
  drops : Text → Bool

inductive Stage
  | beforeCapture
  | afterCapture
  deriving DecidableEq, Repr

def Stage.name : Stage → Text
  | .beforeCapture => "pre-capture".toList
  | .afterCapture => "post-capture".toList

def Stage.ofName? (name : Text) : Option Stage :=
  [Stage.beforeCapture, .afterCapture].find? (·.name = name)

def place (rule : Rule) : List Rule → List Rule
  | [] => [rule]
  | r :: rules => if r.priority < rule.priority then rule :: r :: rules else r :: place rule rules

structure Registry where
  before : List Rule := []
  after : List Rule := []

namespace Registry

def rules (reg : Registry) : Stage → List Rule
  | .beforeCapture => reg.before
  | .afterCapture => reg.after

def register (reg : Registry) (stage : Stage) (rule : Rule) : Registry :=
  match stage with
  | .beforeCapture => { reg with before := place rule reg.before }
  | .afterCapture => { reg with after := place rule reg.after }

def register? (reg : Registry) (stage : Text) (rule : Rule) : Option Registry :=
  (Stage.ofName? stage).map (reg.register · rule)

end Registry

def commentRule : Rule := ⟨"comment_only".toList, 100, (·.comments), isComment⟩

def debugCallRule : Rule := ⟨"debug_calls".toList, 90, (·.debugCalls), isDebugCall⟩

def directiveRule : Rule := ⟨"directives".toList, 100, (·.metadata), isDirective⟩

def Registry.standard : Registry :=
  (({} : Registry).register .beforeCapture commentRule
    |>.register .beforeCapture debugCallRule
    |>.register .afterCapture directiveRule)

structure Pipeline where
  before : List Rule
  after : List Rule

namespace Pipeline

def ofRegistry (reg : Registry) (config : Config) : Pipeline :=
  ⟨reg.before.filter (·.enabled config), reg.after.filter (·.enabled config)⟩

def standard (config : Config) : Pipeline := ofRegistry .standard config

def names (p : Pipeline) : List Text := (p.before ++ p.after).map (·.name)

def dropsBefore (p : Pipeline) (line : Text) : Bool := p.before.any (·.drops line)

def dropsAfter (p : Pipeline) (line : Text) : Bool := p.after.any (·.drops line)

end Pipeline

end IrListing.Filter
