import Blockware.Definition

/-!
# Definitions in stored data

Reading and writing of definitions. Optional members that are not set are left out in writing; some
members have an older name as well, which is read but not written.
-/

namespace Blockware

open Json (Field Record Node Fault)

namespace Input

/-- The input as JSON. -/
def toJson (i : Input) : Json :=
  .obj ([("name", .str i.name), ("kind", .str i.kind.tag), ("label", .str i.label)] ++
    Json.optionalMember "default" (i.default.map Param.toJson) ++
    if i.options.isEmpty then [] else [("options", .ofStrings i.options)])

/-- What has been read of an input. -/
structure Draft where
  name : Option String := none
  kind : Option Input.Kind := none
  label : Option String := none
  default : Option (Option Param) := none
  options : Option (List String) := none

/-- The members of an input. -/
def record : Record Draft where
  name := "BlockInput"
  fields := [
    { name := "name"
      required := true
      isSet := fun d => d.name.isSome
      set := fun d n => do return { d with name := some (← n.readString) } },
    { name := "kind"
      others := ["type"]
      required := true
      isSet := fun d => d.kind.isSome
      set := fun d n => do return { d with kind := some (← n.readVariant Input.Kind.known) } },
    { name := "label"
      required := true
      isSet := fun d => d.label.isSome
      set := fun d n => do return { d with label := some (← n.readString) } },
    { name := "default"
      isSet := fun d => d.default.isSome
      set := fun d n => do return { d with default := some (← n.readOption Param.read) } },
    { name := "options"
      isSet := fun d => d.options.isSome
      set := fun d n => do return { d with options := some (← n.readList Node.readString) } }]

/-- Reads an input. -/
def read (n : Node) : Except Fault Input := do
  let d ← record.read {} n
  return {
    name := d.name.getD ""
    kind := d.kind.getD .text
    label := d.label.getD ""
    default := d.default.getD none
    options := d.options.getD [] }

end Input

namespace CodeSpec

/-- The code of a definition as JSON. -/
def toJson (g : CodeSpec) : Json :=
  .obj ([("headers", .ofStrings g.headers)] ++
    Json.optionalMember "setupTemplate" (g.setupTemplate.map .str) ++
    Json.optionalMember "codeTemplate" (g.codeTemplate.map .str) ++
    [("libraries", .ofStrings g.libraries)])

/-- What has been read of it. -/
structure Draft where
  headers : Option (List String) := none
  setupTemplate : Option (Option String) := none
  codeTemplate : Option (Option String) := none
  libraries : Option (List String) := none

/-- The members of the code. -/
def record : Record Draft where
  name := "GeneratorSpec"
  fields := [
    { name := "headers"
      isSet := fun d => d.headers.isSome
      set := fun d n => do return { d with headers := some (← n.readList Node.readString) } },
    { name := "setupTemplate"
      others := ["setup"]
      isSet := fun d => d.setupTemplate.isSome
      set := fun d n => do
        return { d with setupTemplate := some (← n.readOption Node.readString) } },
    { name := "codeTemplate"
      others := ["code"]
      isSet := fun d => d.codeTemplate.isSome
      set := fun d n => do
        return { d with codeTemplate := some (← n.readOption Node.readString) } },
    { name := "libraries"
      isSet := fun d => d.libraries.isSome
      set := fun d n => do return { d with libraries := some (← n.readList Node.readString) } }]

/-- Reads the code of a definition. -/
def read (n : Node) : Except Fault CodeSpec := do
  let d ← record.read {} n
  return {
    headers := d.headers.getD []
    setupTemplate := d.setupTemplate.getD none
    codeTemplate := d.codeTemplate.getD none
    libraries := d.libraries.getD [] }

end CodeSpec

namespace Definition

/-- The definition as JSON. -/
def toJson (d : Definition) : Json :=
  .obj ([("id", .str d.id), ("label", .str d.label), ("category", .str d.category.tag),
      ("color", .str d.color)] ++
    Json.optionalMember "description" (d.description.map .str) ++
    [("inputs", .arr (d.inputs.map Input.toJson)), ("generator", d.code.toJson)])

/-- What has been read of a definition. -/
structure Draft where
  id : Option String := none
  label : Option String := none
  category : Option Category := none
  color : Option String := none
  description : Option (Option String) := none
  inputs : Option (List Input) := none
  code : Option CodeSpec := none

/-- The members of a definition. -/
def record : Record Draft where
  name := "CustomBlockDefinition"
  fields := [
    { name := "id"
      required := true
      isSet := fun d => d.id.isSome
      set := fun d n => do return { d with id := some (← n.readString) } },
    { name := "label"
      isSet := fun d => d.label.isSome
      set := fun d n => do return { d with label := some (← n.readString) } },
    { name := "category"
      required := true
      isSet := fun d => d.category.isSome
      set := fun d n => do return { d with category := some (← n.readVariant Category.known) } },
    { name := "color"
      isSet := fun d => d.color.isSome
      set := fun d n => do return { d with color := some (← n.readString) } },
    { name := "description"
      isSet := fun d => d.description.isSome
      set := fun d n => do return { d with description := some (← n.readOption Node.readString) } },
    { name := "inputs"
      isSet := fun d => d.inputs.isSome
      set := fun d n => do return { d with inputs := some (← n.readList Input.read) } },
    { name := "generator"
      isSet := fun d => d.code.isSome
      set := fun d n => do return { d with code := some (← CodeSpec.read n) } }]

/-- Reads a definition. -/
def read (n : Node) : Except Fault Definition := do
  let d ← record.read {} n
  return {
    id := d.id.getD ""
    label := d.label.getD ""
    category := d.category.getD .loop
    color := d.color.getD ""
    description := d.description.getD none
    inputs := d.inputs.getD []
    code := d.code.getD {} }

end Definition
/-- What a block generates, as JSON. -/
def Preview.toJson (p : Preview) : Json :=
  .obj [("headers", .ofStrings p.headers), ("setup", .ofString? p.setup),
    ("code", .ofString? p.code), ("libraries", .ofStrings p.libraries)]

end Blockware
