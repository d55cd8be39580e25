import Blockware.Registry
import Blockware.Text.LowerCase

/-!
# Settings of the generator

- `Policy`: whether conflicts of resources stop the generation.
- `Settings`: where definitions are kept, how long they stay fresh, what conflicts do, and how long the
  idle loop waits.
- `Settings.read`, `Settings.ofFile`, `Settings.ofEnvironment`: settings from stored data and from the
  environment. A file must be right; a variable that makes no sense is ignored.
-/

namespace Blockware

open Json (Record Node Fault)

/-- What to do when blocks claim the same resource. -/
inductive Policy where
  /-- Report it and generate all the same. -/
  | advisory
  /-- Refuse to generate. -/
  | strict
  deriving DecidableEq

namespace Policy

/-- The policies by their names in stored data. -/
def known : List (String × Policy) := [("advisory", .advisory), ("strict", .strict)]

/-- The name in stored data. -/
def tag : Policy → String
  | .advisory => "advisory"
  | .strict => "strict"

/-- The policy that a text means, in any case and with blanks around it. -/
def ofText? (text : String) : Option Policy :=
  let word := Text.lowerCase (Text.trim text)
  (known.find? fun entry => entry.1 == word).map Prod.snd

end Policy

/-- The settings of the generator. -/
structure Settings where
  /-- The file with the definitions; without one there are none. -/
  customBlocksPath : Option String := none
  /-- How long loaded definitions stay fresh, in milliseconds. -/
  cacheTtl : Nat := 5000
  policy : Policy := .advisory
  /-- How long the idle loop waits, in milliseconds. -/
  heartbeat : Nat := 1000
  deriving DecidableEq

/-- Why settings cannot be had from a file. -/
inductive SettingsFault where
  | unreadable (path : String) (fault : FileFault)
  | malformed (path : String) (fault : Fault)
  deriving DecidableEq

/-- The wording. -/
def SettingsFault.message : SettingsFault → String
  | .unreadable path fault => s!"reading generator config {path}: {fault.message}"
  | .malformed path fault => s!"parsing generator config {path}: {fault.message}"

namespace Settings

/-- What has been read of the settings. -/
structure Draft where
  customBlocksPath : Option (Option String) := none
  cacheTtl : Option Nat := none
  policy : Option Policy := none
  heartbeat : Option Nat := none

/-- The members of the settings. -/
def record : Record Draft where
  name := "GeneratorConfig"
  fields := [
    { name := "custom_blocks_path"
      isSet := fun d => d.customBlocksPath.isSome
      set := fun d n => do
        return { d with customBlocksPath := some (← n.readOption (Node.readText "path string")) } },
    { name := "cache_ttl_ms"
      isSet := fun d => d.cacheTtl.isSome
      set := fun d n => do return { d with cacheTtl := some (← n.readNat64) } },
    { name := "conflict_policy"
      isSet := fun d => d.policy.isSome
      set := fun d n => do
        return { d with policy := some (← n.readVariant Policy.known) } },
    { name := "heartbeat_ms"
      isSet := fun d => d.heartbeat.isSome
      set := fun d n => do return { d with heartbeat := some (← n.readNat64) } }]

/-- Reads settings; what is absent has its default. -/
def read (n : Node) : Except Fault Settings := do
  let d ← record.read {} n
  let default : Settings := {}
  return {
    customBlocksPath := d.customBlocksPath.getD default.customBlocksPath
    cacheTtl := d.cacheTtl.getD default.cacheTtl
    policy := d.policy.getD default.policy
    heartbeat := d.heartbeat.getD default.heartbeat }

/-- The settings in a file. -/
def ofFile (files : Files) (path : String) : Except SettingsFault Settings := do
  let text ← (files.read path).mapError (.unreadable path)
  (Json.readText text read).mapError (.malformed path)

/-- A number of milliseconds in a variable, with blanks around it. -/
def milliseconds? (text : String) : Option Nat :=
  Numeral.readNatural? (2 ^ 64 - 1) (Text.trim text)

/-- The settings in the variables of the environment, given how a variable is looked up. -/
def ofEnvironment (lookUp : String → Option String) : Settings :=
  let default : Settings := {}
  let path := (lookUp "BLOCK_FORGE_CUSTOM_BLOCKS").filter fun p => !(Text.trim p).isEmpty
  let ttl := (lookUp "BLOCK_FORGE_CACHE_TTL_MS").bind milliseconds?
  let policy := (lookUp "BLOCK_FORGE_CONFLICT_POLICY").bind Policy.ofText?
  let heartbeat := (lookUp "BLOCK_FORGE_HEARTBEAT_MS").bind milliseconds?
  { customBlocksPath := path.or default.customBlocksPath
    cacheTtl := ttl.getD default.cacheTtl
    policy := policy.getD default.policy
    heartbeat := heartbeat.getD default.heartbeat }

/-- The registry that the settings describe. -/
def registry (s : Settings) : Registry :=
  .ofStore ((s.customBlocksPath.map Store.file).getD .empty) s.cacheTtl

end Settings
end Blockware
