import PltKeeper.Proofs.Plt.Effects
import PltKeeper.Proofs.Plt.Follows
import PltKeeper.Proofs.Plt.Reports

/-! What the maintenance does to PLTs. An analysis that comes through makes of a PLT what the sets of
files say; one that fails leaves it. A sync therefore leads a PLT over three states to the files
required, and one that stops leaves it in one of them: as it was, without what is not required, or
complete. -/
namespace PltKeeper.Keeper

variable {σ : Type} {k : Keeper σ} {format : PltFormat} {plts : List Path} {plt : Path}
  {files held required : FileSet}

theorem Keeps.samePlts_modify (keeps : k.Keeps format plts) {t t' : FileTree}
    {change : List UInt8 → List UInt8} (done : t.modify k.cwd k.output change = .ok t') :
    FileTree.SamePlts format k.cwd plts t t' :=
  FileTree.samePlts_modify (fun plt member => keeps.apart plt member t) done

/-- One analysis: what it asks, and what it does to the PLTs. -/
theorem analyze_ends (keeps : k.Keeps format plts) (canonical : files.Canonical k.cwd)
    (member : plt ∈ plts) (a : Analysis) (s : Session σ) :
    (k.analyze a files.toList plt).Ensures s
      (fun _ s' => s.Follows s' [.analyze (k.wishes.optionsFor a files.toList plt)] ∧
        FileTree.Analysed format k.cwd plts a plt files s.tree s'.tree)
      fun _ s' => s.Follows s' [.analyze (k.wishes.optionsFor a files.toList plt)] ∧
        (k.backend.FailsCleanly format k.cwd plts → FileTree.SamePlts format k.cwd plts s.tree s'.tree) := by
  let options := k.wishes.optionsFor a files.toList plt
  let reply := k.backend.analyze options s.tree s.backend
  have follows : s.Follows (answered s (.analyze options) reply) [.analyze options] :=
    follows_answered (keeps.semantics.formed options s.tree s.backend)
  rw [ensures_analyze (rfl : _ = options) (rfl : _ = reply)]
  refine ⟨?_, fun e failed => ⟨follows, fun cleanly => cleanly options s.tree s.backend e failed⟩⟩
  intro ds ran
  refine ⟨follows, ?_⟩
  cases writing : a.writesPlt with
  | false => exact .spared writing (keeps.semantics.spares options s.tree s.backend ds ran writing)
  | true =>
    have output : options.outputPlt = some plt := by
      cases a <;> first | rfl | exact absurd writing (by decide)
    obtain ⟨held, made, here, together, elsewhere⟩ :=
      keeps.semantics.writes options s.tree s.backend ds plt ran writing output member
    have product : a.product (s.tree.pltAt format k.cwd plt) files = some held := by
      have given : FileSet.of k.cwd files.toList = files := FileSet.of_toList canonical
      rw [← given]
      cases a <;> exact made
    exact .written product ⟨here, together, elsewhere⟩

/-- The lines of all that the analyses find can be encoded. -/
def FindsEncodable (k : Keeper σ) : Prop :=
  ∀ a names plt s ds s', k.analyze a names plt s = .ok ds s' → ∀ d ∈ ds, d.IsEncodable

theorem findsEncodable_of_backend
    (encodable : ∀ o t st ds, (k.backend.analyze o t st).result = .ok ds → ∀ d ∈ ds, d.IsEncodable) :
    k.FindsEncodable := by
  intro a names plt s ds s' ran
  have ends : (k.analyze a names plt).Ensures s (fun ds _ => ∀ d ∈ ds, d.IsEncodable) fun _ _ => True := by
    refine (ensures_analyze rfl rfl).mpr ⟨fun ds found d member => ?_, fun _ _ => trivial⟩
    split at member
    · exact encodable _ _ _ _ found d member
    · cases member
  exact ends.of_ok ran

/-- Reporting warnings asks nothing and changes no PLT. -/
theorem report_ends (keeps : k.Keeps format plts) (ds : List Diagnostic) (s : Session σ) :
    (k.report ds).Ensures s
      (fun _ s' => s.Follows s' [] ∧ FileTree.SamePlts format k.cwd plts s.tree s'.tree)
      fun _ s' => s.Follows s' [] ∧ FileTree.SamePlts format k.cwd plts s.tree s'.tree := by
  have left {t : FileTree} {r : Except Failure Unit} (filed : k.filing ds s.tree = (r, t)) :
      (s.tree.WellFormed → t.WellFormed) ∧ FileTree.SamePlts format k.cwd plts s.tree t := by
    obtain rfl | ⟨added, appended⟩ := tree_of_filing filed
    · exact ⟨id, .refl _⟩
    · exact ⟨fun formed => formed.modify appended, keeps.samePlts_modify appended⟩
  refine ensures_report ?silent ?filed ?unfiled
  case silent => exact fun _ => ⟨.refl s, .refl s.tree⟩
  case filed => exact fun t filed => ⟨⟨rfl, by simp, (left filed).1⟩, (left filed).2⟩
  case unfiled => exact fun e t failed => ⟨⟨rfl, by simp, (left failed).1⟩, (left failed).2⟩

theorem ensures_recordPhase {phase : Phase} {act : Act σ Nat} {post : Nat → Session σ → Prop}
    {stopped : Failure → Session σ → Prop} :
    (recordPhase phase act).Ensures s post stopped ↔
      act.Ensures s
        (fun n s' => post n { s' with phases := s'.phases ++ [{ phase with warnings := n }] })
        fun e s' => stopped e { s' with phases := s'.phases ++ [{ phase with status := failedStatus e }] } := by
  unfold Act.Ensures recordPhase
  cases act s <;> rfl

/-- One phase: skipped without files, it otherwise asks for its analysis and reports the warnings. -/
theorem runPhase_ends (keeps : k.Keeps format plts) (canonical : files.Canonical k.cwd)
    (member : plt ∈ plts) (a : Analysis) (s : Session σ) :
    (k.runPhase a plt files.toList).Ensures s
      (fun _ s' => s.Follows s' (k.ask a plt files) ∧
        FileTree.Phased format k.cwd plts a plt files s.tree s'.tree)
      fun _ s' => s.Follows s' (k.ask a plt files) ∧ (k.backend.FailsCleanly format k.cwd plts →
        FileTree.Halted format k.cwd plts a plt files s.tree s'.tree) := by
  unfold runPhase
  simp only [FileSet.of_toList canonical, FileSet.isEmpty_toList]
  rw [Act.ensures_ite]
  constructor
  · intro none
    have same : files = ∅ := FileSet.isEmpty_iff.mp none
    rw [Act.ensures_pure]
    refine ⟨?_, fun _ => rfl, fun some => absurd same some⟩
    simpa [ask, none] using Session.Follows.refl s
  · intro some
    have nonempty : files ≠ ∅ := fun same => some (FileSet.isEmpty_iff.mpr same)
    have asked : k.ask a plt files = [.analyze (k.wishes.optionsFor a files.toList plt)] := by
      simp [ask, some]
    rw [asked, ensures_recordPhase]
    refine (analyze_ends keeps canonical member a s).bind ?_ ?_
    · rintro e s' ⟨follows, cleanly⟩
      exact ⟨follows.recorded, fun clean => .inl (cleanly clean)⟩
    · rintro ds s' ⟨follows, analysed⟩
      refine (report_ends keeps ds s').mono ?_ ?_
      · rintro n s'' ⟨reported, same⟩
        exact ⟨(follows.trans reported).recorded, fun none => absurd none nonempty,
          fun _ => analysed.trans_same member same⟩
      · rintro e s'' ⟨reported, same⟩
        exact ⟨(follows.trans reported).recorded, fun _ => .inr (analysed.trans_same member same)⟩

/-- A part of a delta is a phase that is announced. -/
theorem part_ends (keeps : k.Keeps format plts) (canonical : files.Canonical k.cwd) (member : plt ∈ plts)
    (a : Analysis) (message : String) (s : Session σ) :
    (k.part a plt files message).Ensures s
      (fun _ s' => s.Follows s' (k.ask a plt files) ∧
        FileTree.Phased format k.cwd plts a plt files s.tree s'.tree)
      fun _ s' => s.Follows s' (k.ask a plt files) ∧ (k.backend.FailsCleanly format k.cwd plts →
        FileTree.Halted format k.cwd plts a plt files s.tree s'.tree) := by
  unfold part
  rw [Act.ensures_ite]
  constructor
  · intro none
    obtain rfl : files = ∅ := FileSet.isEmpty_iff.mp none
    rw [Act.ensures_pure]
    exact ⟨.refl s, fun _ => rfl, fun some => absurd rfl some⟩
  · intro _
    rw [Act.ensures_bind, Act.ensures_info]
    refine (runPhase_ends keeps canonical member a _).mono ?_ ?_
    · rintro n s' ⟨follows, phased⟩
      exact ⟨(Session.Follows.refl s).logged.trans follows, phased⟩
    · rintro e s' ⟨follows, cleanly⟩
      exact ⟨(Session.Follows.refl s).logged.trans follows, cleanly⟩

/-- A sync goes through its three phases, or stops in one of them. -/
theorem sync_ends (keeps : k.Keeps format plts) (heldKeys : held.Canonical k.cwd)
    (keys : required.Canonical k.cwd) (member : plt ∈ plts) (s : Session σ) :
    (k.sync plt held required).Ensures s
      (fun _ s' => s.Follows s' (k.syncRequests plt held required) ∧
        FileTree.Synced format k.cwd plts plt held required s.tree s'.tree)
      fun _ s' => s.Stops s' (k.syncRequests plt held required) ∧
        (k.backend.FailsCleanly format k.cwd plts →
          FileTree.SyncHalted format k.cwd plts plt held required s.tree s'.tree) := by
  unfold sync Delta.between
  refine (part_ends keeps (heldKeys.diff required) member .remove _ s).bind ?_ ?_
  · rintro e s' ⟨follows, cleanly⟩
    exact ⟨(follows.stops.append _).append _, fun clean => .remove (cleanly clean)⟩
  rintro _ s₁ ⟨first, removed⟩
  refine (part_ends keeps (heldKeys.inter required) member .check _ s₁).bind ?_ ?_
  · rintro e s' ⟨follows, cleanly⟩
    exact ⟨(first.trans follows).stops.append _, fun clean => .check removed (cleanly clean)⟩
  rintro _ s₂ ⟨second, checked⟩
  refine (part_ends keeps (keys.diff held) member .add _ s₂).bind ?_ ?_
  · rintro e s' ⟨follows, cleanly⟩
    exact ⟨((first.trans second).trans follows).stops, fun clean => .add removed checked (cleanly clean)⟩
  rintro _ s₃ ⟨third, added⟩
  rw [Act.ensures_pure]
  exact ⟨(first.trans second).trans third, s₁.tree, s₂.tree, removed, checked, added⟩

/-- A build makes the directory and then goes through its one phase. -/
theorem build_ends (keeps : k.Keeps format plts) (canonical : files.Canonical k.cwd)
    (member : plt ∈ plts) (s : Session σ) :
    (k.build plt files.toList).Ensures s
      (fun _ s' => s.Follows s' (k.ask .build plt files) ∧ FileTree.Phased format k.cwd plts .build plt
        files (s.tree.makeDirs k.cwd plt.parent).2 s'.tree)
      fun _ s' => s.Stops s' (k.ask .build plt files) ∧ (k.backend.FailsCleanly format k.cwd plts →
        FileTree.Halted format k.cwd plts .build plt files (s.tree.makeDirs k.cwd plt.parent).2
          s'.tree) := by
  have madeDirs : s.Follows { s with tree := (s.tree.makeDirs k.cwd plt.parent).2 } [] :=
    ⟨rfl, by simp, fun formed => formed.makeDirs k.cwd plt.parent⟩
  unfold build
  simp only [FileSet.of_toList canonical]
  rw [Act.ensures_bind]
  apply Act.ensures_restate
  rw [Act.ensures_changePartly]
  constructor
  · intro _
    rw [Act.ensures_bind, Act.ensures_info]
    refine (runPhase_ends keeps canonical member .build _).mono ?_ ?_
    · rintro n s' ⟨follows, phased⟩
      exact ⟨madeDirs.logged.trans follows, phased⟩
    · rintro e s' ⟨follows, cleanly⟩
      exact ⟨(madeDirs.logged.trans follows).stops, cleanly⟩
  · intro _ _ _
    exact ⟨madeDirs.stops.append _, fun _ => .inl (.refl _)⟩

end PltKeeper.Keeper
