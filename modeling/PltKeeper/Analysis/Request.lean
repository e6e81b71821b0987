import PltKeeper.Path.Basic
import PltKeeper.Json.Value

/-!
The analyses and what is asked of one. Maintenance of a PLT asks for warnings only where they are
wanted; without them every optional category is suppressed. The analysis never checks the PLT by
itself, since whoever asks knows what it holds.
-/

namespace PltKeeper

/-- The kinds of analysis. -/
inductive Analysis
  | build
  | add
  | remove
  | check
  | successTyping
  deriving DecidableEq, Repr, Inhabited

namespace Analysis

/-- All kinds. -/
def all : List Analysis := [build, add, remove, check, successTyping]

/-- The name of a kind in requests and records. -/
def name : Analysis → String
  | build => "plt_build"
  | add => "plt_add"
  | remove => "plt_remove"
  | check => "plt_check"
  | successTyping => "succ_typings"

/-- The name of a kind in messages. -/
def label : Analysis → String
  | build => "build"
  | add => "add"
  | remove => "remove"
  | check => "check"
  | successTyping => "succ_typings"

/-- The kind of a name. -/
def ofName? (s : String) : Option Analysis := all.find? (·.name = s)

/-- Whether the analysis works on the PLT itself. -/
def mutatesPlt (a : Analysis) : Bool := a ≠ successTyping

/-- Whether warnings are asked for in any case: success typing is run for nothing else. -/
def alwaysWarns (a : Analysis) : Bool := a = successTyping

end Analysis

/-- Everything that one analysis needs to know. -/
structure Options where
  /-- Which analysis. -/
  analysis : Analysis
  /-- The files to analyse. -/
  files : List String
  /-- Whether warnings are asked for; any value that is set says yes. -/
  getWarnings : Json
  /-- The warning categories. -/
  warnings : List Json
  /-- The PLT to read. -/
  initPlt : Option Path := none
  /-- The PLT to write. -/
  outputPlt : Option Path := none
  /-- Whether the files are compiled. -/
  fromByteCode : Bool := true
  /-- Whether the analysis is to check the PLT first. -/
  checkPlt : Bool := false
  /-- The PLT that the tool behind the analysis takes for its own, by its path. -/
  homePlt : Option String := none
  deriving Inhabited

/-- The categories that suppress every optional warning. -/
def noWarnings : List Json :=
  ["no_return", "no_unused", "no_improper_lists", "no_fun_app", "no_match", "no_opaque",
    "no_fail_call", "no_contracts", "no_behaviours", "no_undefined_callbacks"].map Json.str

/-- What the user wants of the analyses of a run. -/
structure Wishes where
  /-- The warning categories to report. -/
  warnings : List Json := []
  /-- Whether maintenance reports warnings, too; any value that is set says yes. -/
  getWarnings : Json := .bool false
  /-- The PLT that the tool behind the analysis takes for its own, by its path. -/
  homePlt : Option String := none
  deriving Inhabited

namespace Wishes

/-- Whether an analysis is asked for its warnings, as it is told. -/
def wantsWarnings (w : Wishes) (a : Analysis) : Json :=
  if a.alwaysWarns then .bool true else w.getWarnings

/-- What is asked of an analysis of files against a PLT. A build reads no PLT, and success typing
writes none. -/
def optionsFor (w : Wishes) (a : Analysis) (files : List String) (plt : Path) : Options where
  analysis := a
  files := files
  getWarnings := w.wantsWarnings a
  warnings := if (w.wantsWarnings a).isSet then w.warnings else noWarnings
  initPlt := if a = .build then none else some plt
  outputPlt := if a.mutatesPlt then some plt else none
  homePlt := w.homePlt

end Wishes

end PltKeeper
