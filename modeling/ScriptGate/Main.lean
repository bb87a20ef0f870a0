import ScriptGate.Command.Output
import ScriptGate.Config.File

/-!
# The program

Reads the command line, the files and the environment, runs the library, and
prints.  Everything it decides is decided by the library; here stand only
reading, timing and printing.
-/

namespace ScriptGate.Command

/-- The names of the environment variables the settings read. -/
def settingNames : List String :=
  ["PUREGATE_LOG_LEVEL", "PUREGATE_LOG_FORMAT", "PUREGATE_LOG_FILE", "PUREGATE_LOG_COLOR",
   "PUREGATE_LOG_TIMESTAMP"]

/-- The environment a configuration text may read: the variables its placeholders name
and those the settings read. -/
def environmentFor (text : String) : IO Environment := do
  let names := ((Environment.placeholderNames (GlyphText.ofString text)).map
    GlyphText.toLossyString ++ settingNames).eraseDups
  names.filterMapM fun name => do
    match ← IO.getEnv name with
    | some v => pure (some (name, v))
    | none => pure none

/-- The text of a file, if it can be read. -/
def readText (path : String) : IO (Option String) := do
  try pure (some (← IO.FS.readFile path)) catch _ => pure none

/-- Why settings could not be loaded. -/
inductive LoadFault where
  /-- The named configuration file cannot be read. -/
  | missing (path : String)
  /-- The configuration refuses. -/
  | refused (r : Refusal)

/-- The settings of a configuration text. -/
def settingsOf (path text : String) : IO (Except LoadFault ProjectSettings) := do
  let env ← environmentFor text
  pure (match ConfigFile.load env (fileName path) text with
    | .ok s => .ok s
    | .error r => .error (.refused r))

/-- The settings of the project: from the file named, else from the file the
environment names, else from `pyproject.toml` here, else the defaults. -/
def loadSettings (path : Option String) : IO (Except LoadFault ProjectSettings) := do
  match path with
  | some p =>
    if !p.isEmpty then
      match ← readText p with
      | some text => return ← settingsOf p text
      | none => return .error (.missing p)
  | none => pure ()
  match ← IO.getEnv "PUREGATE_CONFIG_PATH" with
  | some p =>
    if !p.isEmpty then
      match ← readText p with
      | some text => return ← settingsOf p text
      | none => pure ()
  | none => pure ()
  match ← readText "pyproject.toml" with
  | some text => settingsOf "pyproject.toml" text
  | none => return .ok (ProjectSettings.defaults (← environmentFor ""))

/-- Reports settings that could not be loaded. -/
def reportFault (fault : LoadFault) : IO Unit :=
  match fault with
  | .missing p => IO.println ("Configuration Error: Configuration file not found: " ++ p)
  | .refused r =>
    if r.isOwn then IO.println ("Configuration Error: " ++ r.message.getD "")
    else IO.eprintln ("Error: the configuration cannot be read" ++
      ((r.message.map (": " ++ ·)).getD ""))

/-- Milliseconds since `start`, to three decimals. -/
def elapsed (start : Nat) : IO Float := do
  let now ← IO.monoNanosNow
  pure (Float.ofNat ((now - start + 500) / 1000) / 1000.0)

/-- Checks one file. -/
def checkOne (syntaxOnly : Bool) (path : String) (text : String) (o : CheckOptions) :
    IO (Except Refusal Checked) := do
  let source := GlyphText.ofString text
  let start ← IO.monoNanosNow
  if syntaxOnly then
    let stage := checkSyntax source o.format o.maxErrors o.file
    let ms ← elapsed start
    pure (stage.map fun s => .syntaxOnly path s ms)
  else
    let report := checkSource source o
    let ms ← elapsed start
    pure (report.map fun r => .full path r { total := ms })

/-- Runs `check`. -/
def runCheck (r : CheckRequest) : IO UInt32 := do
  for path in r.files do
    if (← (try pure (some (← IO.FS.readBinFile path)) catch _ => pure none)).isNone then
      IO.eprintln (usageHint checkUsage ++ "\n\nError: Invalid value for 'FILES...': File " ++
        Value.quoteString path ++ " does not exist.")
      return 2
  if r.output != "text" && r.output != "json" then
    IO.println ("Invalid format '" ++ r.output ++ "'. Choose from: text, json")
    return 1
  match ← loadSettings r.config with
  | .error fault =>
    reportFault fault
    return 1
  | .ok settings =>
    if let some note := unknownRulesNote r then IO.println note
    let given := overrides settings r
    let mut jobs : List (String × String × CheckOptions) := []
    for path in r.files do
      match ← (try pure (some (← IO.FS.readFile path)) catch e => do
          IO.println ("File Error: " ++ toString e)
          pure none) with
      | none => return 1
      | some text =>
        match settings.toOptions (("filename", .str path) :: given) with
        | .ok o => jobs := jobs ++ [(path, unifyLineEnds text, o)]
        | .error e =>
          IO.println ("Invalid options: " ++ e.message.getD "")
          return 1
    let mut checked : List Checked := []
    for (path, text, o) in jobs do
      match ← checkOne r.syntaxOnly path text o with
      | .ok c => checked := checked ++ [c]
      | .error e =>
        IO.println ("Validation Error: " ++ e.message.getD "")
        return 1
    IO.println (checkOutput (r.output == "json") checked)
    return if checked.all Checked.valid then 0 else 1

/-- Runs `rules`. -/
def runRules (r : RulesRequest) : IO UInt32 := do
  match ← loadSettings r.config with
  | .error fault =>
    reportFault fault
    return 1
  | .ok settings =>
    match ruleRows settings with
    | .ok rows =>
      IO.println (rulesOutput (r.output == "json") rows)
      return 0
    | .error e =>
      IO.println ("Configuration Error: " ++ e.message.getD "")
      return 1

end ScriptGate.Command

open ScriptGate.Command in
/-- Runs the command line. -/
def main (args : List String) : IO UInt32 := do
  match parse args with
  | .usage text =>
    IO.println text
    return 0
  | .version =>
    IO.println "puregate version 0.0.0.dev0"
    return 0
  | .mistake usage problem =>
    IO.eprintln (usageHint usage ++ "\n\nError: " ++ problem)
    return 2
  | .check r => runCheck r
  | .rules r => runRules r
