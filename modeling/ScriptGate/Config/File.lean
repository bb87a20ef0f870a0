import ScriptGate.Config.Settings
import ScriptGate.Config.Toml
import ScriptGate.Yaml.Load
import ScriptGate.Text.Lines

/-!
# Configuration files

A configuration file is read by the suffix of its name.

* A `.yaml` or `.yml` file is a manifest: a mapping whose `kind` is the string
  `Config` and whose `spec`, a mapping when it is given, holds the settings.
* Any other file is TOML.  A file named `pyproject.toml` keeps the settings in
  its table `tool.puregate`; when that table is missing or empty, the settings
  are the defaults.  Another TOML file keeps them in `tool.puregate` when its
  table `tool` has that entry, and otherwise in the whole document.

The faults of a file are named by the file's name.
-/

namespace ScriptGate

namespace ConfigFile

/-- The suffix of a file name: from its last dot, when that dot neither starts nor
ends the name. -/
def suffix (name : String) : String :=
  let cs := name.toList
  let tail := (cs.reverse.takeWhile (· ≠ '.')).reverse
  let dot := cs.length - tail.length
  if dot ≥ 2 && !tail.isEmpty then String.ofList ('.' :: tail) else ""

/-- Whether a file name names a manifest. -/
def isManifest (name : String) : Bool := suffix name == ".yaml" || suffix name == ".yml"

/-- Whether an entry is in a value the way a membership test finds it: a key of an
object, an item of a list, a piece of a string.  Other values cannot hold entries. -/
def holds (container : Value) (entry : String) : Except Refusal Bool :=
  match container with
  | .obj fields => .ok (fields.any (·.1 == entry))
  | .list items => .ok (items.any fun v => v.string? == some entry)
  | .str s => .ok ((s.splitOn entry).length > 1)
  | .glyphs t => .ok ((t.toLossyString.splitOn entry).length > 1)
  | _ => .error .wrongType

/-- The value of a field of an object, with a default for a missing field; a value
that is no object has no fields to read. -/
def fieldOr (v : Value) (name : String) (default : Value) : Except Refusal Value :=
  match v with
  | .obj fields => .ok ((fields.lookup name).getD default)
  | _ => .error .missingAttribute

/-- The value at an entry of an object; other values cannot be indexed by a name. -/
def entry (v : Value) (name : String) : Except Refusal Value :=
  match v with
  | .obj fields => match fields.lookup name with
    | some w => .ok w
    | none => .error .wrongType
  | _ => .error .wrongType

/-- The settings of a TOML file. -/
def ofToml (env : Environment) (name : String) (text : String) :
    Except Refusal ProjectSettings := do
  let root : Value := .obj (← match Toml.read text with
    | some t => pure t
    | none => throw .malformedToml)
  if name == "pyproject.toml" then
    let section_ ← fieldOr (← fieldOr root "tool" (.obj [])) "puregate" (.obj [])
    if !section_.truthy then return ProjectSettings.defaults env
    ProjectSettings.read env section_
  else
    let tool? := match root with
      | .obj fields => fields.lookup "tool"
      | _ => none
    match tool? with
    | some tool =>
      if ← holds tool "puregate" then ProjectSettings.read env (← entry tool "puregate")
      else ProjectSettings.read env root
    | none => ProjectSettings.read env root

/-- The settings of a manifest: a mapping of `kind: Config` with its settings in the
mapping `spec`.  The file is read as text, so its line ends are unified first. -/
def ofManifest (env : Environment) (name : String) (text : String) :
    Except Refusal ProjectSettings := do
  let data ← Yaml.load (unifyLineEnds text)
  if data.entries?.isNone then
    throw (.misconfigured name ("expected a mapping, got " ++ data.typeName))
  let kind := (data.field? "kind").getD .null
  match kind with
  | .str "Config" => pure ()
  | _ => throw (.misconfigured name
      ("must use 'kind: Config' manifest format, got 'kind: " ++ kind.display ++ "'"))
  let spec := (data.field? "spec").getD (.obj [])
  if spec.entries?.isNone then throw (.misconfigured name "'spec' must be a mapping")
  ProjectSettings.read env spec

/-- The settings of a configuration file, read by the suffix of its name. -/
def load (env : Environment) (name : String) (text : String) : Except Refusal ProjectSettings :=
  if isManifest name then ofManifest env name text else ofToml env name text

end ConfigFile

end ScriptGate
