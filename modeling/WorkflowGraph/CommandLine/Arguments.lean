import WorkflowGraph.Number.Numeral
set_option autoImplicit false

namespace WorkflowGraph.CommandLine

inductive Command where
  | validate (graph : String) (schema : Option String)
  | run (graph : String) (schema state : Option String) (budget : Option Nat) (json : Bool)
  | checkCondition (text : String) (state schema : Option String)
deriving DecidableEq, Repr

inductive Refusal where
  | usage
  | help
deriving DecidableEq, Repr

/-- How an option is written. One without a test for its value has none. -/
structure OptionSpec where
  long : String
  short : Option Char
  accepts : Option (String → Bool)

def isPath (value : String) : Bool := value ≠ ""

def word64? (value : String) : Option Nat := readWord64? 10 value.toList

namespace OptionSpec

def graph : OptionSpec := ⟨"graph", some 'g', some isPath⟩

def schema : OptionSpec := ⟨"schema", some 's', some isPath⟩

def state : OptionSpec := ⟨"state", none, some isPath⟩

def maxSteps : OptionSpec := ⟨"max-steps", some 'm', some fun value => (word64? value).isSome⟩

def json : OptionSpec := ⟨"json", none, none⟩

end OptionSpec

structure Given where
  options : List (String × String)
  operands : List String

namespace Given

def value? (given : Given) (spec : OptionSpec) : Option String :=
  (given.options.find? (·.1 = spec.long)).map (·.2)

def addOption (given : Given) (spec : OptionSpec) (value : String) : Except Refusal Given :=
  if given.options.any (·.1 = spec.long) || !spec.accepts.all (· value) then .error .usage
  else .ok { given with options := (spec.long, value) :: given.options }

def addOperand (given : Given) (limit : Nat) (operand : String) : Except Refusal Given :=
  if given.operands.length < limit then
    .ok { given with operands := given.operands ++ [operand] }
  else .error .usage

end Given

def looksLikeOption (arg : String) : Bool :=
  match arg.toList with
  | ['-'] => false
  | '-' :: _ => true
  | _ => false

inductive Spelling where
  | option (spec : OptionSpec) (value : Option String)
  | help
  | unknown

def longOption (specs : List OptionSpec) (cs : List Char) : Spelling :=
  let name := String.ofList (cs.takeWhile (· != '='))
  let value := match cs.dropWhile (· != '=') with
    | _ :: value => some (String.ofList value)
    | [] => none
  match specs.find? (·.long = name) with
  | some spec => .option spec value
  | none => if name = "help" && value.isNone then .help else .unknown

/-- An option by its letter, from after its dash. What follows the letter is its value, of which an
equals sign in front is no part. -/
def shortOption (specs : List OptionSpec) (letter : Char) (cs : List Char) : Spelling :=
  match specs.find? (·.short = some letter) with
  | some spec =>
    .option spec <| match cs with
      | [] => none
      | '=' :: value => some (String.ofList value)
      | value => some (String.ofList value)
  | none => if letter = 'h' then .help else .unknown

/-- Sorts the arguments of a command into options and at most `limit` operands. After two dashes
alone all arguments are operands. -/
def collect (specs : List OptionSpec) (limit : Nat) (given : Given) :
    List String → Except Refusal Given
  | [] => .ok given
  | arg :: rest => do
    let spelling ← match arg.toList with
      | ['-', '-'] => return ← rest.foldlM (·.addOperand limit) given
      | '-' :: '-' :: cs => .ok (longOption specs cs)
      | '-' :: letter :: cs => .ok (shortOption specs letter cs)
      | _ => return ← collect specs limit (← given.addOperand limit arg) rest
    match spelling with
    | .help => .error .help
    | .unknown => .error .usage
    | .option spec value =>
      match spec.accepts, value, rest with
      | none, none, rest => collect specs limit (← given.addOption spec "") rest
      | none, some _, _ => .error .usage
      | some _, some value, rest => collect specs limit (← given.addOption spec value) rest
      | some _, none, value :: rest =>
        if looksLikeOption value then .error .usage
        else collect specs limit (← given.addOption spec value) rest
      | some _, none, [] => .error .usage

def orRefuse {α : Type} : Option α → Except Refusal α
  | some a => .ok a
  | none => .error .usage

def helpTopics : List String := ["validate", "run", "check-condition", "help"]

/-- Whether an argument in place of a command asks for the help text or for the version. What
follows the letter of a short option is not looked at. -/
def asksForHelp (arg : String) : Bool :=
  match arg.toList with
  | '-' :: '-' :: _ => arg = "--help" || arg = "--version"
  | '-' :: letter :: _ => letter = 'h' || letter = 'V'
  | _ => false

def Command.ofArguments : List String → Except Refusal Command
  | "validate" :: rest => do
    let given ← collect [.graph, .schema] 0 ⟨[], []⟩ rest
    let graph ← orRefuse (given.value? .graph)
    return .validate graph (given.value? .schema)
  | "run" :: rest => do
    let given ← collect [.graph, .schema, .state, .maxSteps, .json] 0 ⟨[], []⟩ rest
    let graph ← orRefuse (given.value? .graph)
    return .run graph (given.value? .schema) (given.value? .state)
      ((given.value? .maxSteps).bind word64?) (given.value? .json).isSome
  | "check-condition" :: rest => do
    let given ← collect [.state, .schema] 1 ⟨[], []⟩ rest
    let text ← orRefuse given.operands.head?
    return .checkCondition text (given.value? .state) (given.value? .schema)
  | "help" :: topics =>
    .error (if topics = [] ∨ topics ∈ helpTopics.map ([·]) then .help else .usage)
  | arg :: _ => .error (if asksForHelp arg then .help else .usage)
  | [] => .error .usage

def Command.paths : Command → List String
  | .validate graph schema => graph :: schema.toList
  | .run graph schema state _ _ => graph :: schema.toList ++ state.toList
  | .checkCondition _ state schema => state.toList ++ schema.toList

end WorkflowGraph.CommandLine
