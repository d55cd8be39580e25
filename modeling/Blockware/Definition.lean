import Blockware.Builtin.Kind
import Blockware.Number.Numeral
import Blockware.Template
import Blockware.Text.Blank

/-!
# Definitions of custom blocks

The user adds block types by data: a definition declares which inputs the builder asks for and gives
templates of the code.

- `Input`, `CodeSpec`, `Definition`: the data.
- `Definition.initialParams`: the parameters of a new block.
- `Definition.preview`, `Preview`: the code for some parameters.
- `Definition.check`, `InputFinding`: what parameters do not fit the declared inputs.
- `includeLine`: the line that includes a header, however it is written.
-/

namespace Blockware

/-- The kind of value that an input asks for. -/
inductive Input.Kind where
  | text
  | number
  | select
  deriving DecidableEq

/-- The kinds by their names in stored data. -/
def Input.Kind.known : List (String × Input.Kind) :=
  [("text", .text), ("number", .number), ("select", .select)]

/-- The name of a kind in stored data. -/
def Input.Kind.tag : Input.Kind → String
  | .text => "text"
  | .number => "number"
  | .select => "select"

/-- An input that the builder asks for. -/
structure Input where
  /-- The key of the parameter, and of placeholders for it. -/
  name : String
  kind : Input.Kind
  label : String
  default : Option Param
  /-- The choices of a selection. -/
  options : List String

/-- The value of an input in a new block: its default, the first choice, zero or an empty text. -/
def Input.initial (i : Input) : Param :=
  match i.default with
  | some p => p
  | none =>
    match i.kind, i.options with
    | .select, first :: _ => .string first
    | .number, _ => .integer 0
    | _, _ => .string ""

/-- How code is made for a custom block. -/
structure CodeSpec where
  headers : List String := []
  /-- The code that runs once. -/
  setupTemplate : Option String := none
  /-- The code where the block stands. -/
  codeTemplate : Option String := none
  libraries : List String := []

/-- A block type that the user has defined. -/
structure Definition where
  /-- The type name. -/
  id : String
  label : String
  category : Category
  color : String
  description : Option String
  inputs : List Input
  code : CodeSpec

/-- What a single block generates. -/
structure Preview where
  headers : List String
  setup : Option String
  code : Option String
  libraries : List String

/-- The line that includes a header: a whole directive stands as it is, a name in quotes or angle
brackets is completed, and a bare name is put into quotes. -/
def includeLine (header : String) : String :=
  let header := Text.trim header
  if "#include".toList.isPrefixOf header.toList then header
  else
    match header.toList.head? with
    | some '"' => "#include " ++ header
    | some '<' => "#include " ++ header
    | _ => "#include \"" ++ header ++ "\""

/-- How parameters fail to fit the inputs of a definition. -/
inductive InputFinding where
  | missing (definition input : String)
  | notNumber (definition input value : String)
  | notOption (definition input value : String) (options : List String)
  | undeclared (definition key : String)
  deriving DecidableEq

namespace InputFinding

/-- Whether the code cannot be right. The other findings leave a placeholder or a value that may still
be meant. -/
def isError : InputFinding → Bool
  | .notNumber .. => true
  | _ => false

/-- The wording. -/
def message : InputFinding → String
  | .missing definition input => s!"'{definition}' is missing input '{input}'"
  | .notNumber definition input value =>
    s!"'{definition}' input '{input}' expects a number, got '{value}'"
  | .notOption definition input value options =>
    let choices := ", ".intercalate options
    s!"'{definition}' input '{input}' value '{value}' is not one of [{choices}]"
  | .undeclared definition key => s!"'{definition}' has undeclared parameter '{key}'"

end InputFinding

/-- The number that a value means: a number, or a text that denotes one with blanks around it. -/
def Param.numeral? (p : Param) : Option Binary64.Extended :=
  match p.number? with
  | some x => some (.finite x)
  | none => p.string?.bind fun s => Numeral.read? (Text.trim s)

namespace Definition

/-- The parameters of a new block. -/
def initialParams (d : Definition) : Params :=
  Dict.ofList (d.inputs.map fun i => (i.name, i.initial))

/-- The lines that include the headers. -/
def headerLines (d : Definition) : List String := d.code.headers.map includeLine

/-- The code that runs once. -/
def setupText? (d : Definition) (params : Params) : Option String :=
  d.code.setupTemplate.map fun t => Template.fill t params

/-- The code where the block stands. -/
def codeText? (d : Definition) (params : Params) : Option String :=
  d.code.codeTemplate.map fun t => Template.fill t params

/-- What a block with some parameters generates. -/
def preview (d : Definition) (params : Params) : Preview where
  headers := d.headerLines
  setup := d.setupText? params
  code := d.codeText? params
  libraries := d.code.libraries

/-- What a value fails as the value of an input. -/
def checkValue (d : Definition) (i : Input) (p : Param) : List InputFinding :=
  match i.kind with
  | .number => if p.numeral?.isSome then [] else [.notNumber d.id i.name p.display]
  | .select =>
    if i.options.isEmpty || i.options.contains p.display then []
    else [.notOption d.id i.name p.display i.options]
  | .text => []

/-- What parameters fail of the declared inputs, input by input, and then the keys that no input
declares, in key order. -/
def check (d : Definition) (params : Params) : List InputFinding :=
  (d.inputs.flatMap fun i =>
    match params.get? i.name with
    | none => [.missing d.id i.name]
    | some p => d.checkValue i p) ++
  (params.keys.filter fun key => !d.inputs.any fun i => i.name == key).map (.undeclared d.id)

end Definition
end Blockware
