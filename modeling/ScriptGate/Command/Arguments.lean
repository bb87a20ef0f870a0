import ScriptGate.Config.Settings

/-!
# The command line

The program takes a command and its options:

* `check FILES...` checks each file, with the options `--syntax-only`,
  `--skip-style`, `--module-format` (`-m`), `--max-errors`, `--allow` and
  `--allow-member` (each may be given again), `--disable` (`-d`, rule ids
  separated by commas), `--format` (`-f`, `text` or `json`) and `--config`
  (`-c`, a configuration file);
* `rules` lists the style rules at the level the configuration sets, with the
  options `--format` and `--config`.

Before the command stand `--verbose` (`-V`) and `--version` (`-v`).  An option
that takes a value takes the next word, or the rest of its word after `=` (a
long option) or after the letter (a short one); after `--` every word is a
file.  Without a command the program shows its usage.
-/

namespace ScriptGate

namespace Command

/-- What `check` is asked to do. -/
structure CheckRequest where
  /-- The files to check, in order. -/
  files : List String := []
  /-- Whether to run the syntax stage only. -/
  syntaxOnly : Bool := false
  /-- Whether to skip the style stage. -/
  skipStyle : Bool := false
  /-- The module format, when given. -/
  format : Option ModuleFormat := none
  /-- The cap on syntax errors, when given. -/
  maxErrors : Option Nat := none
  /-- Forbidden global names to allow. -/
  allow : List String := []
  /-- Member paths to allow. -/
  allowMember : List String := []
  /-- Rule ids to turn off, separated by commas. -/
  disable : String := ""
  /-- The output format's name. -/
  output : String := "text"
  /-- The configuration file, when given. -/
  config : Option String := none

/-- What `rules` is asked to do. -/
structure RulesRequest where
  /-- The output format's name. -/
  output : String := "text"
  /-- The configuration file, when given. -/
  config : Option String := none

/-- What a command line asks for. -/
inductive Invocation where
  /-- Show the usage of the program or of a command. -/
  | usage (text : String)
  /-- Show the version. -/
  | version
  /-- Check files. -/
  | check (request : CheckRequest)
  /-- List the style rules. -/
  | rules (request : RulesRequest)
  /-- The command line is wrong: the usage of the command and what is wrong. -/
  | mistake (usage problem : String)

/-- The usage of the program. -/
def programUsage : String :=
  "Usage: puregate [OPTIONS] COMMAND [ARGS]...\n\n" ++
  "  puregate - Syntax, purity and style gate for generated JavaScript.\n\n" ++
  "Options:\n" ++
  "  -V, --verbose  Enable verbose logging\n" ++
  "  -v, --version  Show version and exit\n" ++
  "  --help         Show this message and exit.\n\n" ++
  "Commands:\n" ++
  "  check  Validate JavaScript files\n" ++
  "  rules  List style rules and their configured severity"

/-- The usage of `check`. -/
def checkUsage : String :=
  "Usage: puregate check [OPTIONS] FILES...\n\n" ++
  "  Validate JavaScript files against the syntax, purity and style gates.\n\n" ++
  "Options:\n" ++
  "  --syntax-only              Run only the syntax gate\n" ++
  "  --skip-style               Skip the style gate\n" ++
  "  -m, --module-format TEXT   Module convention (cjs, esm, infer)\n" ++
  "  --max-errors INTEGER       Maximum syntax errors reported per file\n" ++
  "  --allow TEXT               Forbidden identifier to permit (repeatable)\n" ++
  "  --allow-member TEXT        Member path or a.b.* prefix to permit (repeatable)\n" ++
  "  -d, --disable TEXT         Comma-separated style rule IDs to turn off\n" ++
  "  -f, --format TEXT          Output format (text, json)\n" ++
  "  -c, --config PATH          Path to a kind: Config YAML or TOML file\n" ++
  "  --help                     Show this message and exit."

/-- The usage of `rules`. -/
def rulesUsage : String :=
  "Usage: puregate rules [OPTIONS]\n\n" ++
  "  List the built-in style rules with the severity each is configured at.\n\n" ++
  "Options:\n" ++
  "  -f, --format TEXT  Output format (text, json)\n" ++
  "  -c, --config PATH  Path to a kind: Config YAML or TOML file\n" ++
  "  --help             Show this message and exit."

/-- The long name of an option given by its letter. -/
def longName (letter : Char) : Option String :=
  match letter with
  | 'm' => some "--module-format"
  | 'd' => some "--disable"
  | 'f' => some "--format"
  | 'c' => some "--config"
  | 'V' => some "--verbose"
  | 'v' => some "--version"
  | _ => none

/-- A word that names an option, split into the option's long name and a value
written into the same word. -/
def optionOf (word : String) : Option (String × Option String) :=
  match word.toList with
  | '-' :: '-' :: rest =>
    match rest.span (· ≠ '=') with
    | (name, '=' :: value) => some ("--" ++ String.ofList name, some (String.ofList value))
    | (name, _) => some ("--" ++ String.ofList name, none)
  | ['-', c] => (longName c).map fun n => (n, none)
  | '-' :: c :: value => (longName c).map fun n => (n, some (String.ofList value))
  | _ => none

/-- Whether a word is an option rather than an argument. -/
def isOptionWord (word : String) : Bool := word.startsWith "-" && word.length > 1

/-- Reads the value of a module format option. -/
def readFormat (value : String) : Except String ModuleFormat :=
  match ModuleFormat.ofName? value with
  | some f => .ok f
  | none => .error ("Invalid value for '--module-format' / '-m': " ++ Value.quoteString value ++
      " is not one of 'cjs', 'esm', 'infer'.")

/-- Reads the value of the cap option: an integer of at least 1. -/
def readCap (value : String) : Except String Nat :=
  match Settings.integerOfText? value with
  | some n =>
    if n ≥ 1 then .ok n.toNat
    else .error ("Invalid value for '--max-errors': " ++ toString n ++ " is not in the range x>=1.")
  | none => .error ("Invalid value for '--max-errors': " ++ Value.quoteString value ++
      " is not a valid integer.")

/-- Reads the words of `check`; `fuel` bounds the words read. -/
def readCheck : Nat → Bool → CheckRequest → List String → Except String CheckRequest
  | 0, _, r, _ => .ok r
  | _ + 1, _, r, [] => .ok r
  | fuel + 1, onlyFiles, r, word :: rest =>
    if onlyFiles || !isOptionWord word then
      readCheck fuel onlyFiles { r with files := r.files ++ [word] } rest
    else if word == "--" then readCheck fuel true r rest
    else
      match optionOf word with
      | none => .error ("No such option: " ++ word)
      | some (name, given) =>
        let flag (set : CheckRequest) : Except String CheckRequest :=
          match given with
          | some _ => .error ("Option '" ++ name ++ "' does not take a value.")
          | none => readCheck fuel onlyFiles set rest
        let valued (set : String → Except String CheckRequest) : Except String CheckRequest :=
          match given, rest with
          | some v, _ => do readCheck fuel onlyFiles (← set v) rest
          | none, v :: more => do readCheck fuel onlyFiles (← set v) more
          | none, [] => .error ("Option '" ++ name ++ "' requires an argument.")
        if name == "--syntax-only" then flag { r with syntaxOnly := true }
        else if name == "--skip-style" then flag { r with skipStyle := true }
        else if name == "--module-format" then
          valued fun v => do pure { r with format := some (← readFormat v) }
        else if name == "--max-errors" then
          valued fun v => do pure { r with maxErrors := some (← readCap v) }
        else if name == "--allow" then valued fun v => pure { r with allow := r.allow ++ [v] }
        else if name == "--allow-member" then
          valued fun v => pure { r with allowMember := r.allowMember ++ [v] }
        else if name == "--disable" then valued fun v => pure { r with disable := v }
        else if name == "--format" then valued fun v => pure { r with output := v }
        else if name == "--config" then valued fun v => pure { r with config := some v }
        else .error ("No such option: " ++ name)

/-- Reads the words of `rules`; `fuel` bounds the words read. -/
def readRules : Nat → RulesRequest → List String → Except String RulesRequest
  | 0, r, _ => .ok r
  | _ + 1, r, [] => .ok r
  | fuel + 1, r, word :: rest =>
    match optionOf word with
    | none => .error ("Got unexpected extra argument (" ++ word ++ ")")
    | some (name, given) =>
      let valued (set : String → RulesRequest) : Except String RulesRequest :=
        match given, rest with
        | some v, _ => readRules fuel (set v) rest
        | none, v :: more => readRules fuel (set v) more
        | none, [] => .error ("Option '" ++ name ++ "' requires an argument.")
      if name == "--format" then valued fun v => { r with output := v }
      else if name == "--config" then valued fun v => { r with config := some (v) }
      else .error ("No such option: " ++ name)

/-- What a command line asks for. -/
def parse (args : List String) : Invocation :=
  let global := args.takeWhile isOptionWord
  let rest := args.drop global.length
  let names := global.map fun w => (optionOf w).map (·.1)
  if names.contains (some "--help") then .usage programUsage
  else if names.contains (some "--version") then .version
  else match names.find? fun n => n != some "--verbose" with
    | some _ =>
      .mistake programUsage ("No such option: " ++ (global.find? fun w =>
        (optionOf w).map (·.1) != some "--verbose").getD "")
    | none =>
      match rest with
      | [] => .usage programUsage
      | "check" :: words =>
        if words.contains "--help" then .usage checkUsage
        else match readCheck (words.length + 1) false {} words with
          | .ok r =>
            if r.files.isEmpty then .mistake checkUsage "Missing argument 'FILES...'."
            else .check r
          | .error problem => .mistake checkUsage problem
      | "rules" :: words =>
        if words.contains "--help" then .usage rulesUsage
        else match readRules (words.length + 1) {} words with
          | .ok r => .rules r
          | .error problem => .mistake rulesUsage problem
      | command :: _ => .mistake programUsage ("No such command '" ++ command ++ "'.")

end Command

end ScriptGate
