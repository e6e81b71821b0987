import PltKeeper.Proofs.Backend.Exact
import PltKeeper.Proofs.Run.Mirrored
import PltKeeper.Proofs.Tree.Agreement

/-! Warnings do not steer a run. Whatever a phase finds, it goes into the console, into the total and
into the warnings file; and the maintenance reads none of these. So two runs whose backends differ in
what they find alone go side by side, in trees that differ in the warnings file alone, as long as the
file takes all that is found. -/
namespace PltKeeper

variable {σ τ : Type} {states : σ → τ → Prop} {s s' : Session σ} {r : Session τ} {cwd : String}
  {out : Path} {lines total : Nat}

open Act

/-! ## Object files beside the warnings file -/

/-- The warnings file is no compiled object. -/
theorem Path.suffixOf_ne_of_report {name : String} (ends : reportEnding <:+ name.toList) :
    suffixOf name ≠ objectExtension := by
  intro object
  obtain ⟨front, whole⟩ := ends
  have last : name.toList.reverse = 's' :: ("_warning".toList.reverse ++ front.reverse) := by
    rw [← whole]
    simp [reportEnding]
  unfold suffixOf at object
  rw [last, List.takeWhile_cons_of_pos (by decide)] at object
  simp only at object
  split at object
  · exact absurd object (by decide)
  · have chars := congrArg (List.head? ∘ List.reverse ∘ String.toList) object
    simp [objectExtension] at chars

namespace FileTree

variable {t t' : FileTree}

theorem SameBut.objectFiles (same : t.SameBut cwd out t') (named : out.EndsWith reportEnding) (ebin : Path) :
    Manifest.objectFiles cwd t' ebin = Manifest.objectFiles cwd t ebin := by
  obtain ⟨l, reached, agrees⟩ := same
  obtain ⟨name, last, ends⟩ := named
  have ordinary : name ≠ ".." := by
    rintro rfl
    exact absurd ends.length_le (by decide)
  have dropped : ∀ other ∈ l.getLast?, decide (Path.suffixOf other = objectExtension) = false := by
    intro other member
    rw [reach_last last ordinary reached] at member
    cases member
    exact decide_eq_false (Path.suffixOf_ne_of_report ends)
  unfold Manifest.objectFiles FileTree.list
  rw [agrees.reach]
  cases t.reach cwd ebin with
  | error e => rfl
  | ok here =>
    simp only [bind, Except.bind]
    rcases agrees.cases_at? here with same | ⟨_, _, file, file'⟩
    · rw [same]
      cases t.at? here with
      | none => rfl
      | some e =>
        cases e with
        | file bytes => rfl
        | dir => simp only [pure, Except.pure, Except.mapError, agrees.names dropped here, agrees.isFile]
    · rw [file, file']
      rfl

/-- The project's own files are the same whatever the warnings file says. -/
theorem SameBut.projectFiles (same : t.SameBut cwd out t') (named : out.EndsWith reportEnding)
    (apps : List ProjectApp) : Manifest.projectFiles cwd t' apps = Manifest.projectFiles cwd t apps := by
  have isDir : ∀ p, t'.isDir cwd p = t.isDir cwd p := by
    obtain ⟨l, _, agrees⟩ := same
    exact fun p => agrees.isDir p
  unfold Manifest.projectFiles
  simp only [isDir, same.objectFiles named]

end FileTree

/-! ## Sessions that differ in what has been found -/

/-- Beyond what there was before, there are as many lines on the console as are counted. -/
def Session.Even (lines total : Nat) (s : Session σ) : Prop := s.console.length + total = lines + s.total

/-- Two sessions that differ at most in what has been found: all of it has been filed. -/
structure Session.Unsteered (states : σ → τ → Prop) (cwd : String) (out : Path) (lines total : Nat)
    (s : Session σ) (r : Session τ) : Prop where
  requests : r.requests = s.requests
  searchPath : r.searchPath = s.searchPath
  tree : s.tree.SameBut cwd out r.tree
  backend : states s.backend r.backend
  even : s.Even lines total
  even' : r.Even lines total

/-- Their tie. A phase of which the lines are not filed is lost: it leaves more lines than are counted. -/
def Tie.unsteered (states : σ → τ → Prop) (cwd : String) (out : Path) (lines total : Nat) : Tie σ τ where
  holds := Session.Unsteered states cwd out lines total
  trees := FileTree.SameBut cwd out
  counts _ _ := True
  lost s := ¬ s.Even lines total
  lost' r := ¬ r.Even lines total

theorem Tie.unsteered_lasting {plts : List Path}
    (apart : ∀ plt ∈ plts, ∀ t : FileTree, ¬ t.SameFile cwd plt out) :
    (Tie.unsteered states cwd out lines total).Lasting cwd plts where
  zero := trivial
  add _ _ := trivial
  tree tied := tied.tree
  logged _ tied := ⟨tied.requests, tied.searchPath, tied.tree, tied.backend, tied.even, tied.even'⟩
  moved tied same := ⟨tied.requests, tied.searchPath, same, tied.backend, tied.even, tied.even'⟩
  isFile same p := same.isFile p
  makeDirs same p := same.makeDirs p
  copy same p source q target := same.copy (apart p source _) (apart q target _)

/-! ## Phases -/

namespace Keeper

variable {k : Keeper σ} {b : Backend τ} {plts : List Path} {plt : Path}

/-- What a report leaves as it was. -/
structure Reported (k : Keeper σ) (s s' : Session σ) : Prop where
  requests : s'.requests = s.requests
  searchPath : s'.searchPath = s.searchPath
  backend : s'.backend = s.backend
  tree : ∀ t, s.tree.SameBut k.cwd k.output t → s'.tree.SameBut k.cwd k.output t

/-- A report counts the lines that it shows, unless the warnings file refuses them. -/
theorem report_even (k : Keeper σ) (ds : List Diagnostic) (even : s.Even lines total) :
    (k.report ds).Ensures s (fun _ s' => k.Reported s s' ∧ s'.Even lines total)
      fun _ s' => ¬ s'.Even lines total := by
  unfold Session.Even at even
  refine ensures_report_iff.mpr ⟨?_, fun some => ⟨fun filed => ?_, fun e _ level => ?_⟩⟩
  · rintro rfl
    exact ⟨⟨rfl, rfl, rfl, fun _ same => same⟩, even⟩
  · have appended := append_of_filing (Prod.ext filed rfl)
    refine ⟨⟨rfl, rfl, rfl, fun t' same => same.append appended⟩, ?_⟩
    simp only [Session.Even, List.length_append, List.length_map]
    omega
  · have some := List.length_pos_iff.mpr some
    simp only [Session.Even, List.length_append, List.length_map] at level
    omega

/-- What cannot be filed is something. -/
theorem Course.unfiled {found : List Finding} (course : k.Course plts s found s') :
    ∀ f ∈ found, f.filed = false → f.diagnostics ≠ [] := by
  induction course with
  | start => exact fun f member => nomatch member
  | aside _ _ ih => exact ih
  | @phase found s' _ a plt member files ih =>
    intro f inFound unfiled
    rcases List.mem_append.mp inFound with before | here
    · exact ih f before unfiled
    unfold findings at here
    simp only at here
    split at here
    · cases here
    split at here
    · cases List.mem_singleton.mp here
      cases unfiled
    rename_i ds s₁ _
    split at here
    · cases List.mem_singleton.mp here
      cases unfiled
    rename_i told
    cases List.mem_singleton.mp here
    rintro rfl
    have odd := (report_even k [] (rfl : s₁.Even s₁.console.length s₁.total)).of_error told
    obtain ⟨total, -, console, -⟩ := (report_counts k [] s₁).of_error told
    refine odd ?_
    unfold Session.Even
    rw [total, console]
    simp

theorem Reported.unsteered {k' : Keeper τ} {s' : Session σ} {r' : Session τ} (sameCwd : k'.cwd = k.cwd)
    (sameOutput : k'.output = k.output) (reported : k.Reported s s') (reported' : k'.Reported r r')
    (tied : Session.Unsteered states k.cwd k.output lines total s r) (even : s'.Even lines total)
    (even' : r'.Even lines total) : Session.Unsteered states k.cwd k.output lines total s' r' := by
  have tree := reported'.tree
  rw [sameCwd, sameOutput] at tree
  refine ⟨?_, ?_, (tree _ (reported.tree _ tied.tree).symm).symm, ?_, even, even'⟩
  · rw [reported.requests, reported'.requests, tied.requests]
  · rw [reported.searchPath, reported'.searchPath, tied.searchPath]
  · rw [reported.backend, reported'.backend]
    exact tied.backend

/-- A phase goes side by side with itself, whatever the two backends find. -/
theorem unsteered_runPhase
    (mirrors : k.backend.Mirrors b states (FileTree.SameBut k.cwd k.output) plts fun _ _ _ => True)
    (member : plt ∈ plts) (tied : Session.Unsteered states k.cwd k.output lines total s r) (a : Analysis)
    (files : List String) :
    SideBySide (.unsteered states k.cwd k.output lines total) (k.runPhase a plt files)
      ((k.on b).runPhase a plt files) s r (Tie.unsteered states k.cwd k.output lines total).Returns := by
  refine runPhase_abreast ?_ files ?_ ?_ ?_ ?_ ?_ ?_ ?_
  · exact rfl
  · exact trivial
  · exact tied
  · let given := (FileSet.of k.cwd files).toList
    let options := k.wishes.optionsFor a given plt
    have like := mirrors.analyze options s.tree r.tree s.backend r.backend (within_optionsFor _ member a given)
      tied.tree tied.backend
    have answered : Session.Unsteered states k.cwd k.output lines total
        (answered s (.analyze options) (k.backend.analyze options s.tree s.backend))
        (answered r (.analyze options) (b.analyze options r.tree r.backend)) :=
      ⟨congrArg (· ++ [Request.analyze options]) tied.requests, tied.searchPath, like.tree, like.state,
        tied.even, tied.even'⟩
    refine sideBySide_told (SideBySide.bind (sideBySide_accept like answered) ?_)
    rintro ds ds' _ _ ⟨-, rfl, rfl⟩
    refine .of_ensures (report_even k _ answered.even) (report_even (k.on b) _ answered.even') ?_
    rintro m n s' r' ⟨reported, even⟩ ⟨reported', even'⟩
    exact ⟨trivial, reported.unsteered rfl rfl reported' answered even even'⟩
  · rintro phase m n s' r' ⟨-, tied⟩
    exact ⟨tied.requests, tied.searchPath, tied.tree, tied.backend, tied.even, tied.even'⟩
  · intro phase s' r' tied
    exact ⟨tied.requests, tied.searchPath, tied.tree, tied.backend, tied.even, tied.even'⟩
  · exact fun gone => gone
  · exact fun gone => gone

end Keeper

/-! ## Two backends that differ in what they find -/

/-- What the backends do to PLTs does not depend on the warnings file, nor on what they find. -/
theorem Exact.mirrors {fails : Nat → Option Failure} {finds finds' : List Diagnostic} {plts : List Path}
    (apart : ∀ plt ∈ plts, ∀ t : FileTree, ¬ t.SameFile cwd plt out) :
    (backend cwd fails finds).Mirrors (backend cwd fails finds') Eq (FileTree.SameBut cwd out) plts
      fun _ _ _ => True where
  query := by
    rintro plt member t st _ same rfl
    refine ⟨?_, ⟨rfl, same⟩, rfl⟩
    simp only [backend]
    cases answer plt (t.pltAt (contents cwd) cwd plt) with
    | ok given => exact .inl ⟨given, given, rfl, rfl, rfl⟩
    | error e => exact .inr ⟨e, rfl, rfl⟩
  analyze := by
    rintro o t t' st _ within same rfl
    have initial : o.initial (contents cwd) cwd t' = o.initial (contents cwd) cwd t := by
      unfold Options.initial
      cases read : o.initPlt with
      | none => rfl
      | some plt =>
        simp only [FileTree.pltAt, same.bytesAt? (apart plt (within plt (.inl read)) t)]
    have stored : (∃ u u', store cwd o t = .ok u ∧ store cwd o t' = .ok u' ∧ u.SameBut cwd out u') ∨
        ∃ e, store cwd o t = .error e ∧ store cwd o t' = .error e := by
      unfold store
      rw [initial]
      cases output : o.outputPlt with
      | none => exact .inr ⟨_, rfl, rfl⟩
      | some plt =>
        cases o.analysis.product (o.initial (contents cwd) cwd t) (.of cwd o.files) with
        | none => exact .inr ⟨_, rfl, rfl⟩
        | some held => exact same.modify (apart plt (within plt (.inr output)) t) fun _ => encode held.toList
    simp only [backend]
    cases fails st with
    | some e => exact ⟨.inr ⟨e, rfl, rfl⟩, same, rfl⟩
    | none =>
      simp only
      split
      · rcases stored with ⟨u, u', done, done', left⟩ | ⟨e, failed, failed'⟩
        · rw [done, done']
          exact ⟨.inl ⟨_, _, rfl, rfl, trivial⟩, left, rfl⟩
        · rw [failed, failed']
          exact ⟨.inr ⟨e, rfl, rfl⟩, same, rfl⟩
      · exact ⟨.inl ⟨_, _, rfl, rfl, trivial⟩, same, rfl⟩

/-! ## Runs -/

namespace Job

variable {j : Job σ} {b : Backend τ}

/-- Two sessions in which nothing has been found yet: they are alike, and the warnings file is there. -/
structure Unspoilt (j : Job σ) (states : σ → τ → Prop) (lines total : Nat) (s : Session σ) (r : Session τ) :
    Prop where
  alike : Session.Alike states s r
  output : s.tree.SameBut j.keeper.cwd j.keeper.output s.tree
  even : s.Even lines total

theorem Unspoilt.unsteered (unspoilt : j.Unspoilt states lines total s r) :
    Session.Unsteered states j.keeper.cwd j.keeper.output lines total s r := by
  obtain ⟨⟨state, tied, rfl⟩, output, even⟩ := unspoilt
  exact ⟨rfl, rfl, output, tied, even, even⟩

section
variable (mirrors : j.keeper.backend.Mirrors b states (FileTree.SameBut j.keeper.cwd j.keeper.output) j.plts
    fun _ _ _ => True)
  (apart : ∀ plt ∈ j.plts, ∀ t : FileTree, ¬ t.SameFile j.keeper.cwd plt j.keeper.output)
include mirrors apart

theorem unsteered_on : j.Abreast (.unsteered states j.keeper.cwd j.keeper.output lines total)
    (j.Unspoilt states lines total) (j.on b) where
  keeper := ⟨rfl, Tie.unsteered_lasting apart, fun a _ _ member files _ _ tied =>
    Keeper.unsteered_runPhase mirrors member tied a files⟩
  plt := rfl
  basePlt := rfl
  libRoot := rfl
  project := rfl
  requiredApps := rfl
  baseApps := rfl
  updating := rfl
  tied unspoilt := unspoilt.unsteered
  logged := by
    rintro s _ records ⟨⟨state, tied, rfl⟩, output, even⟩
    exact ⟨⟨state, tied, rfl⟩, output, even⟩
  tree unspoilt := ((Tie.alike_lasting states "" []).tree unspoilt.alike).symm
  searchPath := by
    rintro s _ ⟨⟨state, tied, rfl⟩, output, even⟩
    rfl
  read := by
    rintro s _ ⟨⟨state, tied, rfl⟩, output, even⟩ plt member
    have like := mirrors.query plt member s.tree s.backend state output tied
    have answered : j.Unspoilt states lines total
        (Keeper.answered s (.query plt) (j.keeper.backend.query plt s.tree s.backend))
        (Keeper.answered (s.on state) (.query plt) (b.query plt s.tree state)) :=
      ⟨⟨_, like.state, by simp only [Keeper.answered, Session.on, like.tree.1]⟩, like.tree.2, even⟩
    have accepted : SideBySide (.unsteered states j.keeper.cwd j.keeper.output lines total)
        (j.keeper.read plt) ((j.keeper.on b).read plt) s (s.on state) _ :=
      (Keeper.sideBySide_accept like answered.unsteered).congr rfl rfl
    refine accepted.mono ?_
    rintro answer _ _ _ ⟨rfl, rfl, rfl⟩
    exact ⟨rfl, answered⟩

omit apart in
theorem typesUnsteered_on (named : j.keeper.output.EndsWith reportEnding) :
    j.TypesAbreast (.unsteered states j.keeper.cwd j.keeper.output lines total) (j.on b) where
  typing := rfl
  own tied := tied.tree.projectFiles named j.project.apps
  phase files tied := Keeper.unsteered_runPhase mirrors j.plt_mem tied .successTyping files

end

/-- From the beginning of its report on, a run can file all that its phases find. -/
def FilesAll (j : Job σ) (s : Session σ) : Prop :=
  ∀ s₁, j.Begins s s₁ → ∃ found s', j.keeper.Course j.plts s₁ found s' ∧ s'.HandedOn (j.run.after s) ∧
    ∀ f ∈ found, f.filed = true

/-- A run that can file all that it finds leaves as many new lines as it counts. -/
theorem FilesAll.even (files : j.FilesAll s) {s₁ : Session σ} (begins : j.Begins s s₁)
    (apart : ∀ plt ∈ j.plts, ∀ t : FileTree, ¬ t.SameFile j.keeper.cwd plt j.keeper.output) :
    (j.run.after s).Even s.console.length s.total := by
  obtain ⟨found, s', course, ⟨path, log, handedOn⟩, filed⟩ := files s₁ begins
  obtain ⟨output, begun⟩ := begins
  obtain ⟨sameTotal, -, sameConsole, -⟩ := Keeper.beginReport_clears begun
  have tallied := course.tallied apart
  have shown : s'.console.length = s.console.length + (Finding.allCounted found).length := by
    rw [tallied.console, sameConsole, Finding.allShown_eq_allCounted filed, List.length_append, List.length_map]
    rfl
  have counted : s'.total = s.total + (Finding.allCounted found).length := by
    rw [tallied.total, sameTotal]
    rfl
  rw [handedOn]
  show s'.console.length + s.total = s.console.length + s'.total
  omega

/-- So it can be told from what the run leaves. -/
theorem filesAll_of_even
    (apart : ∀ plt ∈ j.plts, ∀ t : FileTree, ¬ t.SameFile j.keeper.cwd plt j.keeper.output)
    (even : (j.run.after s).Even s.console.length s.total) : j.FilesAll s := by
  rintro s₁ ⟨output, begun⟩
  obtain ⟨found, s', course, ⟨path, log, left⟩, -⟩ := course_of_run begun
  obtain ⟨sameTotal, -, sameConsole, -⟩ := Keeper.beginReport_clears begun
  have tallied := course.tallied apart
  refine ⟨found, _, course, ⟨path, log, left⟩, Finding.filed_of_length_eq course.unfiled ?_⟩
  rw [left] at even
  have even : s'.console.length + s.total = s.console.length + s'.total := even
  rw [tallied.console, tallied.total, sameConsole, sameTotal, List.length_append, List.length_map] at even
  have before : (j.opened s).console = s.console := rfl
  have before' : (j.opened s).total = s.total := rfl
  rw [before, before'] at even
  omega

/-- Two runs of which neither is failed, or both with the same error; or the same failure escapes both. -/
def EndsLike (j : Job σ) (s : Session σ) (i : Job τ) (r : Session τ) : Prop :=
  (∃ o o' s' r', j.run s = .ok o s' ∧ i.run r = .ok o' r' ∧ (o.status = .failed ↔ o'.status = .failed) ∧
    (o.status = .failed → o'.error = o.error)) ∨
  ∃ e s' r', j.run s = .error e s' ∧ i.run r = .error e r'

theorem endsLike_of_failed {i : Job τ} {e : Failure} {r' : Session τ}
    (sameOutput : i.keeper.output = j.keeper.output) (failed : j.steps (j.opened s) = .error e s')
    (failed' : i.steps (i.opened r) = .error e r') : j.EndsLike s i r := by
  have same : i.stopping? e = j.stopping? e := by
    unfold stopping?
    rw [sameOutput]
  cases reported : j.stopping? e with
  | some stop =>
    obtain ⟨s'', -, ran⟩ := run_of_stopped failed reported
    obtain ⟨r'', -, ran'⟩ := run_of_stopped failed' (same.trans reported)
    exact .inl ⟨_, _, s'', r'', ran, ran', Iff.rfl, fun _ => rfl⟩
  | none =>
    obtain ⟨s'', -, ran⟩ := run_of_escaped failed reported
    obtain ⟨r'', -, ran'⟩ := run_of_escaped failed' (same.trans reported)
    exact .inr ⟨e, s'', r'', ran, ran'⟩

theorem endsLike_of_completed {i : Job τ} {m n : Nat} {r' : Session τ}
    (ran : j.steps (j.opened s) = .ok m s') (ran' : i.steps (i.opened r) = .ok n r') : j.EndsLike s i r := by
  obtain ⟨s'', -, whole⟩ := run_of_completed ran
  obtain ⟨r'', -, whole'⟩ := run_of_completed ran'
  have completed := j.completed_ne_failed m s''
  have completed' := i.completed_ne_failed n r''
  exact .inl ⟨_, _, s'', r'', whole, whole', ⟨fun failed => absurd failed completed,
    fun failed => absurd failed completed'⟩, fun failed => absurd failed completed⟩

/-- What two runs have in common that differ at most in what they have found. -/
structure SameCourse (j : Job σ) (s : Session σ) (i : Job τ) (r : Session τ) : Prop where
  /-- They have asked the same, in the same order. -/
  requests : (i.run.after r).requests = (j.run.after s).requests
  /-- They leave the same PLTs. -/
  plts : ∀ plt ∈ j.plts, (i.run.after r).tree.bytesAt? j.keeper.cwd plt =
    (j.run.after s).tree.bytesAt? j.keeper.cwd plt
  /-- They end alike. -/
  ends : j.EndsLike s i r

theorem sameCourse_of_mirrors
    (mirrors : j.keeper.backend.Mirrors b states (FileTree.SameBut j.keeper.cwd j.keeper.output) j.plts
      fun _ _ _ => True)
    (apart : ∀ plt ∈ j.plts, ∀ t : FileTree, ¬ t.SameFile j.keeper.cwd plt j.keeper.output)
    (named : j.keeper.output.EndsWith reportEnding) (alike : Session.Alike states s r)
    (files : j.FilesAll s) (files' : (j.on b).FilesAll r) : j.SameCourse s (j.on b) r := by
  obtain ⟨state, tied, rfl⟩ := alike
  have opened : Session.Alike states (j.opened s) ((j.on b).opened (s.on state)) := ⟨state, tied, rfl⟩
  cases Keeper.sideBySide_beginReport j.keeper b opened with
  | lost _ gone => exact gone.elim
  | lost' _ gone => exact gone.elim
  | @stopped e s₁ r₁ failed failed' alike =>
    have stops : j.steps (j.opened s) = .error e s₁ := Act.bind_of_error failed
    have stops' : (j.on b).steps ((j.on b).opened (s.on state)) = .error e r₁ := Act.bind_of_error failed'
    obtain ⟨path, log, left⟩ := j.after_run s
    obtain ⟨path', log', left'⟩ := (j.on b).after_run (s.on state)
    rw [Act.after_of_error stops] at left
    rw [Act.after_of_error stops'] at left'
    obtain ⟨_, _, rfl⟩ := alike
    refine ⟨?_, fun plt _ => ?_, endsLike_of_failed rfl stops stops'⟩
    · rw [left, left']
      rfl
    · rw [left, left']
      rfl
  | @ended output _ s₁ r₁ begun begun' alike =>
    obtain ⟨-, alike⟩ := alike
    obtain ⟨sameTotal, -, sameConsole, empty⟩ := Keeper.beginReport_clears begun
    have level : s₁.Even s.console.length s.total := by
      unfold Session.Even
      rw [sameConsole, sameTotal]
      rfl
    have unspoilt : j.Unspoilt states s.console.length s.total s₁ r₁ := ⟨alike, .refl empty, level⟩
    obtain ⟨path, log, left⟩ := handedOn_of_begun begun
    obtain ⟨path', log', left'⟩ := handedOn_of_begun (j := j.on b) begun'
    have even := files.even ⟨output, begun⟩ apart
    have even' := files'.even ⟨_, begun'⟩ apart
    rw [left] at even
    rw [left'] at even'
    have common : ∀ {s' r'}, j.work.after s₁ = s' → (j.on b).work.after r₁ = r' →
        Session.Unsteered states j.keeper.cwd j.keeper.output s.console.length s.total s' r' →
        j.EndsLike s (j.on b) (s.on state) → j.SameCourse s (j.on b) (s.on state) := by
      rintro s' r' rfl rfl tied ends
      refine ⟨?_, fun plt member => ?_, ends⟩
      · rw [left, left']
        exact tied.requests
      · rw [left, left']
        exact tied.tree.bytesAt? (apart plt member _)
    cases work_abreast (unsteered_on mirrors apart) (typesUnsteered_on mirrors named) unspoilt with
    | ended ran ran' returns =>
      have steps := (steps_of_begun begun).trans ran
      have steps' := (steps_of_begun begun').trans ran'
      exact common (Act.after_of_ok ran) (Act.after_of_ok ran') returns.2 (endsLike_of_completed steps steps')
    | stopped failed failed' tied =>
      have steps := (steps_of_begun begun).trans failed
      have steps' := (steps_of_begun begun').trans failed'
      exact common (Act.after_of_error failed) (Act.after_of_error failed') tied (endsLike_of_failed rfl steps steps')
    | lost failed gone =>
      rw [Act.after_of_error failed] at even
      exact absurd even gone
    | lost' failed gone =>
      rw [Act.after_of_error failed] at even'
      exact absurd even' gone

/-- What a run finds does not steer it. Two backends that differ only in the diagnostics they return, and
that neither look at the warnings file nor take it away, are asked the same by runs that can file all
they find; the runs leave the same PLTs, and both fail with the same error or neither does. -/
theorem steering_of_run {host : Host} {settings : Settings} {project : Project} {runtime : OtpRuntime}
    {backend : Backend σ} {backend' : Backend τ} {i : Job τ}
    (made : Job.of host backend settings project runtime = .ok j)
    (made' : Job.of host backend' settings project runtime = .ok i)
    (mirrors : backend.Mirrors backend' states (FileTree.SameBut host.cwd j.keeper.output) j.plts
      fun _ _ _ => True)
    (alike : Session.Alike states s r) (files : j.FilesAll s) (files' : i.FilesAll r) :
    j.SameCourse s i r := by
  obtain rfl : j.on backend' = i := Except.ok.inj ((of_on made backend').symm.trans made')
  have apart := Job.apart_of made
  have named := (Job.of_placed made).output
  obtain ⟨_, _, _, _, -, -, -, -, rfl⟩ := of_eq_ok_iff.mp made
  exact sameCourse_of_mirrors mirrors apart named alike files files'

/-- One run finds nothing, the other one a warning in each of its analyses. -/
theorem steering_of_fresh_project : ∃ j i o o' s' r', Exact.job "/w/s" (fun _ => none) [] = .ok j ∧
    Exact.job "/w/s" (fun _ => none) [⟨"a.erl", 3, "no", none, none⟩] = .ok i ∧
    j.run Exact.session = .ok o s' ∧ i.run Exact.session = .ok o' r' ∧ o.status = .success ∧
    o'.status = .warnings ∧ s'.requests.length = 5 ∧ r'.requests = s'.requests ∧
    r'.tree.bytesAt? "/w" j.plt = s'.tree.bytesAt? "/w" j.plt := by
  have checked : checkRun (Exact.job "/w/s" (fun _ => none) []) Exact.session (fun _ o s' =>
      o.status = .success && s'.requests.length = 5 && s'.console.length = s'.total) = true := by decide +kernel
  have checked' : checkRun (Exact.job "/w/s" (fun _ => none) [⟨"a.erl", 3, "no", none, none⟩]) Exact.session
      (fun _ o s' => o.status = .warnings && s'.console.length = s'.total) = true := by decide +kernel
  obtain ⟨j, o, s', made, ran, checked⟩ := of_checkRun checked
  obtain ⟨i, o', r', made', ran', checked'⟩ := of_checkRun checked'
  simp only [Bool.and_eq_true, decide_eq_true_eq] at checked checked'
  obtain ⟨⟨succeeded, five⟩, even⟩ := checked
  obtain ⟨warned, even'⟩ := checked'
  have directory : j.keeper.cwd = "/w" := (Job.of_eq_ok made).2.2.2.2.1
  have apart := Job.apart_of made
  have files : j.FilesAll Exact.session := by
    refine filesAll_of_even apart ?_
    rw [Act.after_of_ok ran]
    simpa [Session.Even, Exact.session] using even
  have files' : i.FilesAll Exact.session := by
    refine filesAll_of_even (Job.apart_of made') ?_
    rw [Act.after_of_ok ran']
    simpa [Session.Even, Exact.session] using even'
  rw [directory] at apart
  have alike : Session.Alike Eq Exact.session Exact.session := ⟨0, rfl, rfl⟩
  have same := steering_of_run made made' (Exact.mirrors apart) alike files files'
  have requests := same.requests
  have plts := same.plts j.plt j.plt_mem
  rw [Act.after_of_ok ran, Act.after_of_ok ran'] at requests plts
  rw [directory] at plts
  exact ⟨j, i, o, o', s', r', made, made', ran, ran', succeeded, warned, five, requests, plts⟩

end Job

end PltKeeper
