import ScriptGate.Api.Parse
import ScriptGate.Scope.Report

/-!
# The scopes of a source, as data
-/

namespace ScriptGate

/-- The scopes of a source, or its syntax errors. -/
def scopesOf (source : GlyphText) (format : ModuleFormat) : Except ReadFailure Value :=
  withProgram source format fun p => (analyzeScopes p).toValue

end ScriptGate
