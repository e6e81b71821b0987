import PltKeeper.Analysis.Request

/-!
The argument list that asks dialyzer for an analysis.
-/

namespace PltKeeper.Dialyzer

/-- The flags that select an analysis. Success typing is what is done without any. -/
def modeFlags : Analysis → List String
  | .build => ["--build_plt"]
  | .add => ["--add_to_plt"]
  | .remove => ["--remove_from_plt"]
  | .check => ["--check_plt"]
  | .successTyping => []

/-- Whether an analysis takes the PLT that it writes as an argument. -/
def writesOutput : Analysis → Bool
  | .build | .add | .remove => true
  | .check | .successTyping => false

/-- A flag with a path, if there is one and it applies. -/
def pathFlag (flag : String) (applies : Bool) : Option Path → List String
  | some p => if applies then [flag, p.text] else []
  | none => []

/-- The arguments of an analysis. The flag that switches the check of the PLT off contradicts the
analysis that is this check, and is left out there. -/
def arguments (o : Options) : List String :=
  modeFlags o.analysis
    ++ pathFlag "--plt" (o.analysis ≠ .build) o.initPlt
    ++ pathFlag "--output_plt" (writesOutput o.analysis) o.outputPlt
    ++ (if o.getWarnings.isSet && o.analysis.mutatesPlt then ["--get_warnings"] else [])
    ++ (if !o.checkPlt && o.analysis ≠ .check then ["--no_check_plt"] else [])
    ++ (if o.fromByteCode then [] else ["--src"])
    ++ o.warnings.map (fun category => "-W" ++ category.display)
    ++ ["--fullpath", "--quiet"]
    ++ o.files

/-- The program and its arguments. -/
def command (executable : String) (o : Options) : List String := executable :: arguments o

end PltKeeper.Dialyzer
