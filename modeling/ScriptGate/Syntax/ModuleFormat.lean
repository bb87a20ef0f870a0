import ScriptGate.Syntax.Numeral
import ScriptGate.Text.Unicode

/-!
# Module formats

A text is written for one of two module systems: *declarative* modules with
`import` and `export` statements (`esm`), or *common* modules that call
`require` and assign `module.exports` (`cjs`).  When the caller does not say
which (`infer`), the text is searched for the marks of each, declarative ones
first:

* `import` followed by blanks and a name, `{`, `*` or a quote; `import` followed
  by `(`; `export` followed by blanks and `default`, `const`, `let`, `var`,
  `function`, `class`, `async`, `*` or `{`;
* `require` followed by `(`; `module.exports` as a whole word; `exports.`.

Each mark must start a word.  The search runs over the raw text, comments and
strings included.  A text with neither kind of mark stays `infer`, and only a
declarative module is read as a module.
-/

namespace ScriptGate

/-- The module system a text is written for. -/
inductive ModuleFormat where
  /-- Common modules: `require` and `module.exports`. -/
  | cjs
  /-- Declarative modules: `import` and `export`. -/
  | esm
  /-- Not known. -/
  | infer
deriving Repr, DecidableEq, Inhabited

namespace ModuleFormat

/-- The name of a format. -/
def name : ModuleFormat → String
  | cjs => "cjs"
  | esm => "esm"
  | infer => "infer"

/-- The format of a name. -/
def ofName? : String → Option ModuleFormat
  | "cjs" => some cjs
  | "esm" => some esm
  | "infer" => some infer
  | _ => none

/-- Whether a character belongs to a word: letters, digits, numbers and `_`, in any
script. -/
def isWordChar (c : Char) : Bool := Unicode.isWordChar c

/-- The characters after blanks, and whether there were any. -/
def afterBlanks (cs : List Char) : Bool × List Char :=
  let rest := cs.dropWhile Chars.isSplitSpace
  (rest.length < cs.length, rest)

/-- Whether `w` starts `cs`. -/
def startsWith (cs : List Char) (w : String) : Bool := w.toList.isPrefixOf cs

/-- Whether a mark matches at the start of `cs`, the word before it ended. -/
def declarativeAt (cs : List Char) : Bool :=
  (startsWith cs "import" &&
    (let (blanks, rest) := afterBlanks (cs.drop 6)
     match rest with
     | c :: _ => (blanks && (isWordChar c || c = '{' || c = '*' || c = '\'' || c = '"')) || c = '('
     | [] => false)) ||
  (startsWith cs "export" &&
    (let (blanks, rest) := afterBlanks (cs.drop 6)
     blanks && (["default", "const", "let", "var", "function", "class", "async", "*", "\x7b"].any
       (startsWith rest ·))))

/-- Whether a common-module mark matches at the start of `cs`, the word before it ended. -/
def commonAt (cs : List Char) : Bool :=
  (startsWith cs "require" && (afterBlanks (cs.drop 7)).2.head? == some '(') ||
  (startsWith cs "module.exports" && !((cs.drop 14).head?.map isWordChar).getD false) ||
  startsWith cs "exports."

/-- Whether a mark matches at some start of a word in `cs`; `prev` is the character before. -/
def anyAt (mark : List Char → Bool) : Option Char → List Char → Bool
  | _, [] => false
  | prev, c :: cs =>
    (!(prev.map isWordChar).getD false && mark (c :: cs)) || anyAt mark (some c) cs

/-- The format a text's marks show. -/
def detect (text : List Char) : ModuleFormat :=
  if anyAt declarativeAt none text then esm
  else if anyAt commonAt none text then cjs
  else infer

/-- The format a text is read in: the one given, or for `infer` the one its marks show. -/
def resolve (format : ModuleFormat) (text : List Char) : ModuleFormat :=
  if format = infer then detect text else format

end ModuleFormat

end ScriptGate
