/-!
# Line ends of a text file

A file read as text has its line ends made one: a carriage return with a line
feed after it, and a carriage return alone, each become a line feed.  Other
characters that end lines in some formats (U+0085, U+2028, U+2029) stay.
-/

namespace ScriptGate

/-- A text with its line ends of a carriage return, with or without a line feed after
it, as line feeds: a file is read that way. -/
def unifyLineEnds (text : String) : String :=
  let rec go : List Char → List Char
    | '\r' :: '\n' :: rest => '\n' :: go rest
    | '\r' :: rest => '\n' :: go rest
    | c :: rest => c :: go rest
    | [] => []
  String.ofList (go text.toList)

end ScriptGate
