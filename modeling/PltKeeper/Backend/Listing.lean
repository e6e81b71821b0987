import PltKeeper.Backend.Basic

/-!
A backend that analyses nothing: its PLT is a text that lists its files, and its warnings and
failures are planned in advance. It does exactly what the maintenance of a PLT relies on — a build
writes the given files, an addition and a removal write the union and the difference — and so serves
to rehearse a run.
-/

namespace PltKeeper.Listing

/-- The line at the top of every listing. -/
def heading : String := "PLT"

/-- A listing of the given lines. -/
def render (files : List String) : List UInt8 :=
  Text.Utf8.encode ("\n".intercalate (heading :: files) ++ "\n")

/-- The lines below the heading, if there is one. A line feed alone ends a line. -/
def lines? (bytes : List UInt8) : Option (List String) :=
  match ((Text.Utf8.decodeLossy bytes).toList.splitOn '\n').map String.ofList with
  | first :: rest => if first = heading then some (rest.filter (· ≠ "")) else none
  | [] => none

/-- A failure that is planned for a call. -/
inductive PlannedFailure
  /-- The PLT is unreadable; without one of its own, it is the PLT that the call reads. -/
  | unreadable (plt : Option Path)
  /-- Any other failure. -/
  | other (f : Failure)

/-- What is planned for a call. -/
inductive Plan
  | fails (f : PlannedFailure)
  | finds (diagnostics : List Diagnostic)

/-- What the calls are going to find, and how many there have been. -/
structure Script where
  /-- The warnings of each kind of analysis. -/
  diagnostics : List (Analysis × List Diagnostic) := []
  /-- What is planned for single calls, by the number of calls before them. -/
  plans : List (Nat × Plan) := []
  /-- How many calls there have been. -/
  calls : Nat := 0
  deriving Inhabited

/-- The failure that is planned, for a call with these options. -/
def PlannedFailure.on (options : Options) : PlannedFailure → Failure
  | unreadable plt => .tool (.unreadablePlt (plt.getD (options.initPlt.getD Path.here)))
  | other f => f

/-- The files that a listing holds. -/
def query (cwd : String) (plt : Path) (t : FileTree) : Except Failure (Option FileSet) := do
  if ← t.isFile cwd plt then
    match lines? (← t.read cwd plt) with
    | some files => return some (FileSet.of cwd files)
    | none => .error (.tool (.unreadablePlt plt))
  else return none

/-- The PLT that a call reads, as a failure of the call if it cannot. -/
def initial (cwd : String) (options : Options) (t : FileTree) : Except Failure FileSet := do
  let plt := options.initPlt.getD Path.here
  match ← query cwd plt t with
  | some files => return files
  | none => .error (.tool (.unreadablePlt plt))

/-- Writes a listing. -/
def store (cwd : String) (options : Options) (files : FileSet) (t : FileTree) :
    Except Failure FileTree :=
  t.write cwd (options.outputPlt.getD Path.here) (render files.toList)

/-- What an analysis does to the tree. -/
def effect (cwd : String) (options : Options) (t : FileTree) : Except Failure FileTree := do
  let files := FileSet.of cwd options.files
  match options.analysis with
  | .build => store cwd options files t
  | .add => store cwd options ((← initial cwd options t) ∪ files) t
  | .remove => store cwd options ((← initial cwd options t) \ files) t
  | .check | .successTyping => return t

/-- The warnings of a call for which none are planned. -/
def Script.usual (s : Script) (a : Analysis) : List Diagnostic := (s.diagnostics.lookup a).getD []

/-- Runs one planned analysis. -/
def analyze (cwd : String) (options : Options) (t : FileTree) (s : Script) :
    Reply Script (List Diagnostic) :=
  let after := { s with calls := s.calls + 1 }
  match s.plans.lookup s.calls with
  | some (.fails f) => ⟨.error (f.on options), t, after⟩
  | plan =>
    let found := match plan with
      | some (.finds ds) => ds
      | _ => s.usual options.analysis
    match effect cwd options t with
    | .ok t => ⟨.ok found, t, after⟩
    | .error e => ⟨.error e, t, after⟩

/-- The backend that keeps listings. -/
def backend (cwd : String) : Backend Script where
  query plt t s := ⟨query cwd plt t, t, s⟩
  analyze := analyze cwd

end PltKeeper.Listing
