import Folio.Code.Highlight
import Folio.Code.Raw
import Folio.Code.Title
import Folio.Component.Resolve
import Folio.Lower.Document
import Folio.Markdown.Parse

/-!
# Pipelines

A pipeline is a list of stages, each of which changes a tree or fails.  What a stage does to code
is its role, and roles restrict the order of stages: the text of code is kept before anything
changes it, and published after.
-/

namespace Folio

/-- What a stage does to the code of a tree. -/
inductive Role where
  /-- Keeps the text of code. -/
  | preserveRaw
  /-- Leaves code alone. -/
  | annotate
  /-- Changes code for display. -/
  | highlight
  /-- Publishes the kept text of code. -/
  | attachRaw
  deriving DecidableEq, Repr, Inhabited

/-- A stage of a pipeline. -/
inductive Stage where
  | resolveComponents (registry : Registry)
  | preserveRawCode
  | codeTitle
  | headingIds
  | headingAutolinks (link : SelfLink)
  | highlight (highlighter : Highlighter)
  | attachRawCode
  /-- A stage of the user's own. -/
  | custom (name : String) (role : Role) (run : Tree → Except CompileError Tree)

namespace Stage

/-- The name of a stage. -/
def name : Stage → String
  | resolveComponents _ => "resolve-components"
  | preserveRawCode => "preserve-raw-code"
  | codeTitle => "code-title"
  | headingIds => "heading-ids"
  | headingAutolinks _ => "heading-autolinks"
  | highlight _ => "highlight"
  | attachRawCode => "attach-raw-code"
  | custom name _ _ => name

/-- The role of a stage. -/
def role : Stage → Role
  | preserveRawCode => .preserveRaw
  | highlight _ => .highlight
  | attachRawCode => .attachRaw
  | custom _ role _ => role
  | _ => .annotate

/-- Runs one stage. -/
def apply (stage : Stage) (tree : Tree) : Except CompileError Tree :=
  match stage with
  | resolveComponents registry => Folio.resolveComponents registry tree
  | preserveRawCode => .ok (preserveRaw tree)
  | codeTitle => .ok (liftTitles tree)
  | headingIds => .ok (Folio.headingIds tree)
  | headingAutolinks link => .ok (linkHeadings link tree)
  | highlight highlighter => highlightTree highlighter tree
  | attachRawCode => attachRaw tree
  | custom _ _ run => run tree

end Stage

/-- Runs stages one after the other; the first failure ends the run. -/
def applyStages : List Stage → Tree → Except CompileError Tree
  | [], tree => .ok tree
  | stage :: stages, tree => do
    let tree ← stage.apply tree
    applyStages stages tree

/-! ## Order -/

/-- The position of the first stage with a role. -/
def firstWith? (role : Role) (stages : List Stage) : Option Nat :=
  stages.findIdx? (·.role == role)

/-- The position of the last stage with a role. -/
def lastWith? (role : Role) (stages : List Stage) : Option Nat :=
  (firstWith? role stages.reverse).map fun i => stages.length - 1 - i

/-- What is wrong with a stage that changes code at a position: no text is kept before it, or none
is published after it. -/
def highlightFault? (preserve attach : Option Nat) (index : Nat) (stage : Stage) :
    Option OrderFault :=
  if stage.role ≠ .highlight then none
  else if preserve.all (index < ·) then some (.highlightsUnkept stage.name)
  else if attach.all (· < index) then some (.highlightsUnattached stage.name)
  else none

/-- What is wrong with the first stage that publishes text: none is kept before it. -/
def attachFault? (stages : List Stage) : Option OrderFault := do
  let at_ ← firstWith? .attachRaw stages
  let stage ← stages[at_]?
  if (firstWith? .preserveRaw stages).all (at_ < ·) then some (.attachesUnkept stage.name) else none

/-- What is wrong with the order of stages. -/
def orderFault? (stages : List Stage) : Option OrderFault :=
  let preserve := firstWith? .preserveRaw stages
  let attach := lastWith? .attachRaw stages
  attachFault? stages <|>
    stages.zipIdx.findSome? fun (stage, index) => highlightFault? preserve attach index stage

/-! ## Pipelines -/

/-- Stages in an accepted order, and the markup that bodies may use. -/
structure Pipeline where
  parse : ParseOptions
  stages : List Stage
  ordered : orderFault? stages = none

namespace Pipeline

/-- The pipeline of a list of stages, if their order is accepted. -/
def ofStages (parse : ParseOptions) (stages : List Stage) : Except CompileError Pipeline :=
  match h : orderFault? stages with
  | some fault => .error (.pipeline fault)
  | none => .ok ⟨parse, stages, h⟩

/-- The stages that documents are compiled with. -/
def standardStages (registry : Registry) (options : CompileOptions)
    (highlighter : Theme → Highlighter) : Except CompileError (List Stage) := do
  let colours ←
    if options.highlight then do
      let theme ← Theme.find options.theme
      pure [Stage.highlight (highlighter theme)]
    else pure []
  return [.resolveComponents registry, .preserveRawCode, .codeTitle, .headingIds,
    .headingAutolinks options.autolink] ++ colours ++ [.attachRawCode]

/-- The pipeline that documents are compiled with, highlighting all code as plain text.  Fails on a
theme that does not exist. -/
def standard (registry : Registry) (options : CompileOptions) : Except CompileError Pipeline := do
  let stages ← standardStages registry options Highlighter.plain
  ofStages options.parse stages

/-- The tree of a body after all stages. -/
def compile (pipeline : Pipeline) (body : String) : Except CompileError Tree := do
  let markup ← Markdown.parse pipeline.parse body
  let tree ← lower markup body
  applyStages pipeline.stages tree

/-- The names of the stages in order. -/
def names (pipeline : Pipeline) : List String :=
  pipeline.stages.map (·.name)

end Pipeline

end Folio
