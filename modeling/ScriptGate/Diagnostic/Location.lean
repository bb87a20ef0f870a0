import ScriptGate.Refusal
import ScriptGate.Syntax.Place

/-!
# Locations of findings

A finding is located by a line, counted from 1, and a column, counted from 0 in
code points, with the end of what it covers when that is known and the name of
the file when the caller gave one.  `Location.make?` refuses a line below 1 and
a negative column; the end is taken as given.
-/

namespace ScriptGate

/-- Where a finding is. -/
structure Location where
  /-- The line, from 1. -/
  line : Nat
  /-- The column, from 0. -/
  column : Nat
  /-- The line where the finding ends, when known. -/
  endLine : Option Int := none
  /-- The column where the finding ends, when known. -/
  endColumn : Option Int := none
  /-- The file, when one was named. -/
  file : Option String := none
deriving Inhabited

namespace Location

/-- A location from numbers that may be out of range: a line below 1 or a negative
column is refused. -/
def make? (line column : Int) (endLine endColumn : Option Int) (file : Option String) :
    Except Refusal Location :=
  if line < 1 then .error (.invalidField "line" "must be at least 1" (.int line))
  else if column < 0 then .error (.invalidField "column" "cannot be negative" (.int column))
  else .ok { line := line.toNat, column := column.toNat, endLine, endColumn, file }

/-- The location that a span covers. -/
def ofSpan (s : Span) (file : Option String) : Location :=
  { line := max s.start.line 1, column := s.start.column,
    endLine := some s.stop.line, endColumn := some s.stop.column, file }

/-- The start of the text. -/
def top (file : Option String) : Location := { line := 1, column := 0, file }

/-- The file, if its name is not empty. -/
def namedFile (l : Location) : Option String :=
  l.file.bind fun f => if f.isEmpty then none else some f

/-- A location as data: the line and column, then the end and the file when known. -/
def toValue (l : Location) : Value :=
  .obj ([("line", .int l.line), ("column", .int l.column)] ++
    (l.endLine.map fun e => ("end_line", .int e)).toList ++
    (l.endColumn.map fun e => ("end_column", .int e)).toList ++
    (l.namedFile.map fun f => ("file", .str f)).toList)

/-- A location as text: `line:column`, after the file and a colon when there is one. -/
def render (l : Location) : String :=
  let position := toString l.line ++ ":" ++ toString l.column
  match l.namedFile with
  | some f => f ++ ":" ++ position
  | none => position

end Location

end ScriptGate
