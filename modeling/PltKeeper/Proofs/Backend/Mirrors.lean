import PltKeeper.Proofs.Plt.Upkeep
import PltKeeper.Proofs.SideBySide

/-! Backends that mirror one another: asked the same, in trees that count as the same, they do the
same and fail alike, and differ at most in the diagnostics that they return. A phase that is run on
both goes side by side as far as its analysis; what is made of the diagnostics is for the report. -/
namespace PltKeeper

variable {σ τ α : Type} {tie : Tie σ τ} {s : Session σ} {r : Session τ}

open Act

/-- Two replies that leave the same behind, and of which both answer or both fail, in the same way. -/
structure Reply.Like (reply : Reply σ α) (reply' : Reply τ α) (states : σ → τ → Prop)
    (trees : FileTree → FileTree → Prop) (same : α → α → Prop) : Prop where
  result : (∃ a a', reply.result = .ok a ∧ reply'.result = .ok a' ∧ same a a') ∨
    ∃ e, reply.result = .error e ∧ reply'.result = .error e
  tree : trees reply.tree reply'.tree
  state : states reply.state reply'.state

/-- Replies with the same answer, or the same failure, are alike. -/
theorem Reply.Like.of_result {reply : Reply σ α} {reply' : Reply τ α} {states : σ → τ → Prop}
    {trees : FileTree → FileTree → Prop} (same : reply'.result = reply.result) (tree : trees reply.tree reply'.tree)
    (state : states reply.state reply'.state) : reply.Like reply' states trees Eq := by
  refine ⟨?_, tree, state⟩
  rw [same]
  cases reply.result with
  | ok answer => exact .inl ⟨answer, answer, rfl, rfl, rfl⟩
  | error e => exact .inr ⟨e, rfl, rfl⟩

/-- The PLTs that an analysis reads and writes are among these. -/
def Options.Within (o : Options) (plts : List Path) : Prop :=
  ∀ plt, o.initPlt = some plt ∨ o.outputPlt = some plt → plt ∈ plts

/-- Two backends that differ at most in the diagnostics they return, and in these as `same` says. The
trees in which they analyse count as the same by `trees`; questions are only compared in one tree. -/
structure Backend.Mirrors (b : Backend σ) (b' : Backend τ) (states : σ → τ → Prop)
    (trees : FileTree → FileTree → Prop) (plts : List Path)
    (same : Options → List Diagnostic → List Diagnostic → Prop) : Prop where
  query : ∀ plt ∈ plts, ∀ t st st', trees t t → states st st' →
    (b.query plt t st).Like (b'.query plt t st') states (fun u u' => u = u' ∧ trees u u) Eq
  analyze : ∀ o t t' st st', o.Within plts → trees t t' → states st st' →
    (b.analyze o t st).Like (b'.analyze o t' st') states trees (same o)

/-- A backend that does what another one does, and makes other diagnostics of those that it finds. -/
def Backend.remarking (b : Backend σ) (remark : Options → List Diagnostic → List Diagnostic) : Backend σ where
  query := b.query
  analyze o t st :=
    let reply := b.analyze o t st
    ⟨reply.result.map (remark o), reply.tree, reply.state⟩

theorem Backend.mirrors_remarking (b : Backend σ) {remark : Options → List Diagnostic → List Diagnostic}
    {plts : List Path} {same : Options → List Diagnostic → List Diagnostic → Prop}
    (remarked : ∀ o ds, same o ds (remark o ds)) : b.Mirrors (b.remarking remark) Eq Eq plts same where
  query := by
    rintro plt _ t st _ _ rfl
    exact .of_result rfl ⟨rfl, rfl⟩ rfl
  analyze := by
    rintro o t _ st _ _ rfl rfl
    refine ⟨?_, rfl, rfl⟩
    cases found : (b.analyze o t st).result with
    | ok ds => exact .inl ⟨ds, remark o ds, rfl, by simp [remarking, found, Except.map], remarked o ds⟩
    | error e => exact .inr ⟨e, rfl, by simp [remarking, found, Except.map]⟩

namespace Keeper

variable {k : Keeper σ} {k' : Keeper τ} {plts : List Path} {plt : Path} {a : Analysis}

theorem within_optionsFor (w : Wishes) (member : plt ∈ plts) (a : Analysis) (files : List String) :
    (w.optionsFor a files plt).Within plts := by
  intro other spoken
  have same : other = plt := by
    rcases spoken with read | written
    · cases a <;> cases read <;> rfl
    · cases a <;> cases written <;> rfl
  exact same ▸ member

theorem accept_of_ok {request : Request} {reply : Reply σ α} {answer : α} (given : reply.result = .ok answer) :
    accept request reply s = .ok answer (answered s request reply) := by
  simp only [accept, given, answered]

theorem accept_of_error {request : Request} {reply : Reply σ α} {e : Failure}
    (failed : reply.result = .error e) : accept request reply s = .error e (answered s request reply) := by
  simp only [accept, failed, answered]

/-- Replies that are alike are accepted alike. -/
theorem sideBySide_accept {request : Request} {reply : Reply σ α} {reply' : Reply τ α}
    {states : σ → τ → Prop} {trees : FileTree → FileTree → Prop} {same : α → α → Prop}
    (like : reply.Like reply' states trees same)
    (tied : tie.holds (answered s request reply) (answered r request reply')) :
    SideBySide tie (accept request reply) (accept request reply') s r
      fun answer answer' s' r' => same answer answer' ∧ s' = answered s request reply ∧
        r' = answered r request reply' := by
  rcases like.result with ⟨answer, answer', given, given', alike⟩ | ⟨e, failed, failed'⟩
  · exact .ended (accept_of_ok given) (accept_of_ok given') ⟨alike, rfl, rfl⟩
  · exact .stopped (accept_of_error failed) (accept_of_error failed') tied

/-- The diagnostics that an analysis delivers: those that it was not asked for are dropped. -/
def delivered (o : Options) (ds : List Diagnostic) : List Diagnostic :=
  if o.getWarnings.isSet then ds else []

/-- The report of an analysis speaks of what the analysis delivers. -/
theorem analyze_report_eq (k : Keeper σ) (a : Analysis) (files : List String) (plt : Path) (s : Session σ) :
    (k.analyze a files plt >>= k.report) s =
      (accept (.analyze (k.wishes.optionsFor a files plt))
        (k.backend.analyze (k.wishes.optionsFor a files plt) s.tree s.backend) >>= fun ds =>
          k.report (delivered (k.wishes.optionsFor a files plt) ds)) s := by
  cases given : accept (.analyze (k.wishes.optionsFor a files plt))
    (k.backend.analyze (k.wishes.optionsFor a files plt) s.tree s.backend) s with
  | ok ds s' =>
    have analysed : k.analyze a files plt s = .ok (delivered (k.wishes.optionsFor a files plt) ds) s' := by
      unfold analyze
      simp only [given, delivered]
    rw [bind_of_ok given, bind_of_ok analysed]
  | error e s' =>
    have failed : k.analyze a files plt s = .error e s' := by
      unfold analyze
      simp only [given]
    rw [bind_of_error given, bind_of_error failed]

/-- An analysis goes side by side with its report if what is accepted does. -/
theorem sideBySide_told {files : List String} {post : Nat → Nat → Session σ → Session τ → Prop}
    (both : SideBySide tie
      (accept (.analyze (k.wishes.optionsFor a files plt))
        (k.backend.analyze (k.wishes.optionsFor a files plt) s.tree s.backend) >>= fun ds =>
          k.report (delivered (k.wishes.optionsFor a files plt) ds))
      (accept (.analyze (k'.wishes.optionsFor a files plt))
        (k'.backend.analyze (k'.wishes.optionsFor a files plt) r.tree r.backend) >>= fun ds =>
          k'.report (delivered (k'.wishes.optionsFor a files plt) ds)) s r post) :
    SideBySide tie (k.analyze a files plt >>= k.report) (k'.analyze a files plt >>= k'.report) s r post :=
  both.congr (analyze_report_eq k a files plt s) (analyze_report_eq k' a files plt r)

theorem recordPhase_of_ok {phase : Phase} {act : Act σ Nat} {n : Nat} {s' : Session σ}
    (ran : act s = .ok n s') : recordPhase phase act s =
      .ok n { s' with phases := s'.phases ++ [{ phase with warnings := n }] } := by
  simp only [recordPhase, ran]

theorem recordPhase_of_error {phase : Phase} {act : Act σ Nat} {e : Failure} {s' : Session σ}
    (failed : act s = .error e s') : recordPhase phase act s =
      .error e { s' with phases := s'.phases ++ [{ phase with status := failedStatus e }] } := by
  simp only [recordPhase, failed]

/-- A phase goes side by side if its analysis and its report do. -/
theorem runPhase_abreast (sameCwd : k'.cwd = k.cwd) (files : List String) (zero : tie.counts 0 0)
    (tied : tie.holds s r)
    (told : SideBySide tie (k.analyze a (FileSet.of k.cwd files).toList plt >>= k.report)
      (k'.analyze a (FileSet.of k.cwd files).toList plt >>= k'.report) s r tie.Returns)
    (recorded : ∀ {phase : Phase} {m n : Nat} {s' : Session σ} {r' : Session τ}, tie.Returns m n s' r' →
      tie.holds { s' with phases := s'.phases ++ [{ phase with warnings := m }] }
        { r' with phases := r'.phases ++ [{ phase with warnings := n }] })
    (failed : ∀ {phase : Phase} {s' : Session σ} {r' : Session τ}, tie.holds s' r' →
      tie.holds { s' with phases := s'.phases ++ [phase] } { r' with phases := r'.phases ++ [phase] })
    (lost : ∀ {phases : List Phase} {s' : Session σ}, tie.lost s' → tie.lost { s' with phases := phases })
    (lost' : ∀ {phases : List Phase} {r' : Session τ}, tie.lost' r' → tie.lost' { r' with phases := phases }) :
    SideBySide tie (k.runPhase a plt files) (k'.runPhase a plt files) s r tie.Returns := by
  unfold runPhase
  rw [sameCwd]
  simp only
  split
  · exact .pure ⟨zero, tied⟩
  cases told with
  | ended ran ran' returns =>
    exact .ended (recordPhase_of_ok ran) (recordPhase_of_ok ran') ⟨returns.1, recorded returns⟩
  | stopped stop stop' tied =>
    exact .stopped (recordPhase_of_error stop) (recordPhase_of_error stop') (failed tied)
  | lost stop gone => exact .lost (recordPhase_of_error stop) (lost gone)
  | lost' stop gone => exact .lost' (recordPhase_of_error stop) (lost' gone)

end Keeper

end PltKeeper
