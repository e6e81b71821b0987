import PltKeeper.Proofs.Command.Setup
import Mathlib.Data.List.Dedup

/-! Asking about a PLT changes nothing. The command sets up a run as an analysis does and reads a PLT as the run
would, but it goes no further: what it leaves differs from what it found by what is written of a crash, and its
processes are the question to `erl` and one that lists the PLT. So the files that it counts are those from which
an analysis with the same configuration brings the PLT up to date. -/
namespace PltKeeper

/-! ## What is listed -/

/-- The compiled objects that a listing names, by their keys and as often as it names them. -/
def Dialyzer.objectsIn (cwd output : String) : List String :=
  (((quotedTexts output.toList).map unescaped).filter fun f => objectEnding.isSuffixOf f).map fun f =>
    Path.canonical cwd (String.ofList f)

namespace Job

variable {job : Job Shell} {d : Dialyzer} {plt : Path} {files wanted : FileSet} {base : Bool} {begun t t₁ : Session Shell}

/-- A run whose report has begun brings a PLT up to date from these files, unless it has done anything before. -/
structure StartsFrom (job : Job Shell) (base : Bool) (files : FileSet) (begun : Session Shell) : Prop where
  /-- The project PLT, if that is to be brought up to date; -/
  project : base = false → job.settings.updatePlt.isSet = true → ∀ wanted t,
    job.requiredFiles { begun with log := begun.log ++ [⟨.info, "Updating plt..."⟩] } = .ok wanted t →
      ∃ t', job.updateProject begun = job.keeper.sync job.plt files wanted t'
  /-- or the base PLT, if that is. -/
  base : base = true → ∀ wanted t, t.tree = begun.tree → t.backend = begun.backend →
    ∃ t', job.updateBase wanted t = job.keeper.sync job.basePlt files wanted t'

end Job

namespace Command

variable {m : Machine} {o : InfoOptions} {s s' : State} {ended : Ended} {arguments rest : List String} {c : Config}
  {log : List LogRecord} {job : Job Shell} {plt : Path} {files : FileSet}

/-! ## What the command leaves -/

/-- From these files an analysis brings the PLT up to date, if it has the same configuration, finds the PLT where
the command did and launches the same processes. -/
def Shared (m : Machine) (o : InfoOptions) (c : Config) (plt : Path) (files : FileSet) (sh : Shell) : Prop :=
  ∀ (d : AnalyzeOptions) (r r' : State) log job begun, d.root = o.root → r.shell = sh →
    Config.load m.host r.tree (Path.parse d.root) = .ok (c, log) → setUp m d.root (choicesOf d) r = .ok job r' →
    r.tree.isFile m.host.cwd plt = .ok true → job.Begins r'.session begun →
      pltOf o job = plt ∧ job.StartsFrom o.base files begun

/-- What comes of a run that is set up. -/
structure Reads (m : Machine) (o : InfoOptions) (s : State) (c : Config) (job : Job Shell) (s' : State)
    (ended : Ended) : Prop where
  /-- Nothing is launched but the question to `erl`, if it is asked, and the process that lists the PLT, if the PLT
  is a regular file and there is the program. -/
  launches : ∃ asked, OtpRuntime.AtMostAsked m.programs asked ∧ s'.shell = s.shell.past asked ∧
    ended.state.shell = s.shell.past (asked ++ (dialyzerOf m c).listings (pltOf o job) s.tree)
  /-- The command succeeds if that process does, nothing is wrong with its launch, and it can be shown where the PLT
  is and, if that is asked for, which files it holds. -/
  succeeds : s.tree.isFile m.host.cwd (pltOf o job) = .ok true →
    (m.programs.find? (runtimeValue c "dialyzer").display).isSome = true →
    (dialyzerOf m c).Fits ["--plt_info", "--plt", (pltOf o job).text] none s'.shell → ∀ out err shown,
      s'.shell.next.ended = .finished 0 out err → heading m.screen o (pltOf o job) = .ok shown →
      Printable m.screen shown.toList →
      (o.files = true → ∀ f ∈ Dialyzer.objectsIn m.host.cwd out, Printable m.screen f.toList) → ended.code = 0
  /-- It succeeds on a PLT that is there in no other way. Then it prints where the PLT is and how many objects the
  process named, in one line if there is room for it; these are the files that an analysis starts from. -/
  counts : s.tree.isFile m.host.cwd (pltOf o job) = .ok true → ended.code = 0 → ∃ out err files shown more n,
    s'.shell.next.ended = .finished 0 out err ∧ files.toList.Perm (Dialyzer.objectsIn m.host.cwd out).dedup ∧
      Shared m o c (pltOf o job) files s.shell ∧ n = (Dialyzer.objectsIn m.host.cwd out).dedup.length ∧
      heading m.screen o (pltOf o job) = .ok shown ∧
      ended.state.out = s.out ++ shown ++ countLine m.screen.width n ++ more ∧
      ((countText n).length ≤ m.screen.width → countLine m.screen.width n = countText n ++ "\n")

/-- Whether the project PLT is a regular file, and there are a runtime and a dialyzer for it, as the configuration
has them. -/
def resolved (m : Machine) (root : String) (s : State) : Except Failure Bool := do
  let (c, _) ← Config.load m.host s.tree (Path.parse root)
  let settings ← Settings.ofDocument m.host (Path.parse root) c.document
  let runtime ← (runtimeReply m c s.tree s.shell).result
  let plt ← Plt.projectPath m.host settings.stem.display settings.location settings.baseDir runtime.release
  let there ← s.tree.isFile m.host.cwd plt
  return there && (m.programs.find? (runtimeValue c "dialyzer").display).isSome

end Command

end PltKeeper
