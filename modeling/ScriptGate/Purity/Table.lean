import ScriptGate.Purity.Violation

/-!
# What purity forbids and what it allows

The tables of the purity contract.  Each forbidden global name and member path
carries a *hazard*, which decides the kind of violation and the wording of its
message.  Beside them stand the node types that are forbidden outright, the
array methods that mutate in place with what to use instead, the object calls
that mutate their target, and the methods and object calls known to be pure.

A member path is dotted (`fs.readFile`); a path ending in `.*` stands for every
path below its prefix (`child_process.*`).
-/

namespace ScriptGate

/-- Why a global name or a member path is forbidden. -/
inductive Hazard where
  /-- The global object itself. -/
  | globalObject
  /-- Deferred work. -/
  | timer
  /-- The network. -/
  | network
  /-- The running process and its environment. -/
  | process
  /-- Other processes. -/
  | subprocess
  /-- Values that differ from run to run. -/
  | nonDeterministic
  /-- The console. -/
  | console
  /-- Files. -/
  | fileIo
  /-- The page of a browser. -/
  | dom
  /-- Storage of a browser. -/
  | storage
  /-- Where a browser is. -/
  | navigation
deriving DecidableEq, Repr, Inhabited

namespace Hazard

/-- The kind of violation a hazard makes: reading global state, or an effect. -/
def kind : Hazard → ViolationKind
  | .globalObject | .process | .dom | .storage | .navigation => .globalAccess
  | .timer | .network | .subprocess | .nonDeterministic | .console | .fileIo => .sideEffect

/-- The message for a use of `name`, which a hazard forbids.  Dynamic regular
expressions have a message of their own. -/
def describe (h : Hazard) (name : String) : String :=
  if name = "RegExp" then
    "Dynamic 'RegExp' construction is not allowed; use a regular expression literal " ++
      "so matching stays deterministic"
  else
    let q := "'" ++ name ++ "'"
    match h with
    | .globalObject =>
      "Access to global object " ++ q ++ " is not allowed; pure functions cannot read global state"
    | .process =>
      "Access to process-level global " ++ q ++ " is not allowed; it exposes the runtime environment"
    | .dom => "DOM access via " ++ q ++ " depends on global browser state and is not allowed"
    | .storage => "Storage access via " ++ q ++ " reads or writes global state and is not allowed"
    | .navigation => "Navigation via " ++ q ++ " changes global browser state and is not allowed"
    | .timer => "Timer function " ++ q ++ " schedules deferred side effects and is not allowed"
    | .network => "Network access via " ++ q ++ " is a side effect and is not allowed"
    | .subprocess => q ++ " spawns or controls external processes, which is a side effect"
    | .nonDeterministic => q ++ " is non-deterministic; pure functions must be deterministic"
    | .console => q ++ " writes to the console; console logging is a side effect"
    | .fileIo => q ++ " performs file I/O, which is a side effect"

end Hazard

namespace Purity

/-- The global names that are forbidden, with their hazards.  Regular expression
literals stay allowed; only the constructor is forbidden. -/
def forbiddenNames : List (String × Hazard) :=
  [("window", .globalObject), ("document", .globalObject), ("global", .globalObject),
   ("globalThis", .globalObject),
   ("setTimeout", .timer), ("setInterval", .timer), ("setImmediate", .timer),
   ("clearTimeout", .timer), ("clearInterval", .timer), ("clearImmediate", .timer),
   ("requestAnimationFrame", .timer), ("cancelAnimationFrame", .timer),
   ("fetch", .network), ("XMLHttpRequest", .network), ("WebSocket", .network),
   ("process", .process), ("Buffer", .process), ("__dirname", .process),
   ("__filename", .process),
   ("Date", .nonDeterministic), ("RegExp", .nonDeterministic)]

/-- The paths `root.name` for each name, all with one hazard. -/
def membersOf (root : String) (names : List String) (h : Hazard) : List (String × Hazard) :=
  names.map fun n => (root ++ "." ++ n, h)

/-- The console methods. -/
def consoleMethods : List String :=
  ["log", "error", "warn", "info", "debug", "trace", "dir", "table", "time", "timeEnd",
   "group", "groupEnd", "assert", "count", "clear"]

/-- The file system methods. -/
def fileMethods : List String :=
  ["readFile", "readFileSync", "writeFile", "writeFileSync", "appendFile", "appendFileSync",
   "unlink", "unlinkSync", "mkdir", "mkdirSync", "rmdir", "rmdirSync", "rename",
   "renameSync", "copyFile", "copyFileSync", "access", "accessSync", "stat", "statSync",
   "readdir", "readdirSync", "existsSync", "createReadStream", "createWriteStream"]

/-- The methods of the running process. -/
def processMethods : List String :=
  ["exit", "abort", "chdir", "kill", "send", "disconnect", "on", "once", "emit"]

/-- The methods of a browser's page. -/
def documentMethods : List String :=
  ["write", "writeln", "createElement", "getElementById", "querySelector", "querySelectorAll"]

/-- The methods of a browser's storage. -/
def storageMethods : List String := ["setItem", "getItem", "removeItem", "clear"]

/-- The methods of a browser's history. -/
def historyMethods : List String := ["pushState", "replaceState", "back", "forward", "go"]

/-- The methods of a browser's location. -/
def locationMethods : List String := ["assign", "replace", "reload"]

/-- The member paths that are forbidden, with their hazards. -/
def forbiddenMembers : List (String × Hazard) :=
  membersOf "console" consoleMethods .console ++
  membersOf "fs" fileMethods .fileIo ++
  [("fs.promises.*", .fileIo), ("child_process.*", .subprocess)] ++
  membersOf "process" processMethods .process ++
  [("Math.random", .nonDeterministic), ("crypto.getRandomValues", .nonDeterministic),
   ("crypto.randomUUID", .nonDeterministic), ("performance.now", .nonDeterministic)] ++
  membersOf "document" documentMethods .dom ++
  membersOf "localStorage" storageMethods .storage ++
  membersOf "sessionStorage" storageMethods .storage ++
  membersOf "history" historyMethods .navigation ++
  membersOf "location" locationMethods .navigation

/-- What a loop is told. -/
def loopMessage : String :=
  "Loop statements are not allowed; use functional alternatives such as map(), " ++
    "filter(), reduce() or recursion"

/-- What a class is told. -/
def classMessage : String :=
  "Classes are not allowed; use factory functions and plain objects instead"

/-- The message for a node type that is forbidden outright: loops, classes, `this`
and `with`. -/
def forbiddenConstruct? : String → Option String
  | "ForStatement" | "ForInStatement" | "ForOfStatement" | "WhileStatement"
  | "DoWhileStatement" => some loopMessage
  | "ClassDeclaration" | "ClassExpression" => some classMessage
  | "ThisExpression" =>
    some "'this' is not allowed; use closures or pass context as explicit parameters"
  | "WithStatement" => some "'with' statements inject dynamic scope and are not allowed"
  | _ => none

/-- What to use instead of an array method that mutates in place. -/
def mutatingArrayMethod? : String → Option String
  | "push" => some "[...arr, item] or concat()"
  | "pop" => some "slice(0, -1)"
  | "shift" => some "slice(1)"
  | "unshift" => some "[item, ...arr]"
  | "splice" => some "toSpliced() or slice()"
  | "sort" => some "toSorted()"
  | "reverse" => some "toReversed()"
  | "fill" => some "map() or Array.from()"
  | "copyWithin" => some "slice() and concat()"
  | _ => none

/-- The object calls that mutate their first argument. -/
def mutatingObjectCalls : List String :=
  ["Object.assign", "Object.defineProperty", "Object.defineProperties",
   "Object.setPrototypeOf", "Reflect.set", "Reflect.defineProperty",
   "Reflect.deleteProperty", "Reflect.setPrototypeOf"]

/-- The array methods that build new values. -/
def pureArrayMethods : List String :=
  ["map", "filter", "reduce", "reduceRight", "every", "some", "find", "findIndex",
   "findLast", "findLastIndex", "includes", "indexOf", "lastIndexOf", "flat", "flatMap",
   "concat", "slice", "join", "entries", "keys", "values", "at", "with", "toReversed",
   "toSorted", "toSpliced"]

/-- The string methods, all of which build new values. -/
def pureStringMethods : List String :=
  ["charAt", "charCodeAt", "codePointAt", "endsWith", "localeCompare", "match", "matchAll",
   "normalize", "padEnd", "padStart", "repeat", "replace", "replaceAll", "search", "split",
   "startsWith", "substring", "toLowerCase", "toUpperCase", "trim", "trimEnd", "trimStart"]

/-- The methods known to be pure. -/
def pureMethods : List String := pureArrayMethods ++ pureStringMethods

/-- The object calls known to be pure. -/
def pureObjectCalls : List String :=
  ["Object.keys", "Object.values", "Object.entries", "Object.fromEntries", "Object.freeze",
   "Object.isFrozen", "Object.seal", "Object.isSealed", "Object.is", "Object.hasOwn"]

/-- The name whose top-level assignments wire up the exports of a module. -/
def exportObject : String := "exports"

/-- The member path whose top-level assignments wire up the exports of a module. -/
def exportSlot : String := "module.exports"

/-- The function that loads a module. -/
def moduleLoader : String := "require"

end Purity

end ScriptGate
