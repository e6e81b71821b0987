import PltKeeper.Proofs.Run.Conduct
import PltKeeper.Proofs.Run.Mirrored
import PltKeeper.Proofs.Run.Outcomes
import Mathlib.Data.List.Forall2

/-! What the records of phases say of failures. Each phase with files leaves one record, which is marked as
failed just where the phase failed with an error that the tool reports. The failure of a backend's analysis
is recorded as it comes, whereas whatever the operating system refuses to the keeper itself is restated first;
so an analysis that the operating system stopped is the one failure of a phase that its record does not show.
A backend that notes down its calls tells which records belong to which of them, and where a run stopped. -/
namespace PltKeeper

variable {σ : Type}

open Act

/-! ## Calls that are noted down -/

/-- What a backend was asked, and what went wrong if something did. -/
structure Call where
  /-- What was asked. -/
  request : Request
  /-- What went wrong. -/
  failure : Option Failure

/-- What went wrong. -/
def failureOf {α : Type} : Except Failure α → Option Failure
  | .ok _ => none
  | .error e => some e

/-- The backend, noting down each of its calls. -/
def Backend.noted (b : Backend σ) : Backend (σ × List Call) where
  query plt t st :=
    let reply := b.query plt t st.1
    ⟨reply.result, reply.tree, (reply.state, st.2 ++ [⟨.query plt, failureOf reply.result⟩])⟩
  analyze o t st :=
    let reply := b.analyze o t st.1
    ⟨reply.result, reply.tree, (reply.state, st.2 ++ [⟨.analyze o, failureOf reply.result⟩])⟩

/-- To note calls down changes nothing of them. -/
theorem Backend.mirrors_noted (b : Backend σ) (plts : List Path) :
    b.Mirrors b.noted (fun st noted => noted.1 = st) Eq plts fun _ => Eq where
  query := by
    rintro plt _ t _ noted - rfl
    exact .of_result rfl ⟨rfl, rfl⟩ rfl
  analyze := by
    rintro o t _ _ noted - rfl rfl
    exact .of_result rfl rfl rfl

/-! ## What records say -/

/-- The record is that of this analysis: it names it, the PLT that it reads or writes, and the number of its
files. -/
structure Phase.Tells (p : Phase) (o : Options) : Prop where
  name : p.name = o.analysis.name
  plt : ∃ plt, (o.initPlt = some plt ∨ o.outputPlt = some plt) ∧ p.plt = plt.text
  files : p.files = o.files.length

/-- Calls that all came through, and the records of the analyses among them: one of each, in their order. -/
structure Faithful (calls : List Call) (phases : List Phase) : Prop where
  through : ∀ c ∈ calls, c.failure = none
  told : List.Forall₂ Phase.Tells phases (calls.filterMap (·.request.analyze?))
  success : ∀ p ∈ phases, p.status = .success

/-- Calls of which the last one may have failed, and the records, at the failure that stopped the work. -/
inductive Broken (e : Failure) : List Call → List Phase → Prop
  | question {calls : List Call} {phases : List Phase} (before : Faithful calls phases) (plt : Path) :
    Broken e (calls ++ [⟨.query plt, some e⟩]) phases
  | analysis {calls : List Call} {phases : List Phase} (before : Faithful calls phases) {o : Options} {p : Phase}
    (told : p.Tells o) (status : p.status = Keeper.failedStatus e) :
    Broken e (calls ++ [⟨.analyze o, some e⟩]) (phases ++ [p])
  | report {calls : List Call} {phases : List Phase} (before : Faithful calls phases) {o : Options} {p : Phase}
    (told : p.Tells o) (status : p.status = Keeper.failedStatus e) (restated : ∀ cause, e ≠ .system cause) :
    Broken e (calls ++ [⟨.analyze o, none⟩]) (phases ++ [p])
  | between {calls : List Call} {phases : List Phase} (before : Faithful calls phases) : Broken e calls phases

theorem failedStatus_eq_failed_iff {e : Failure} : Keeper.failedStatus e = .failed ↔ ∃ stop, e = .tool stop := by
  cases e <;> simp [Keeper.failedStatus]

theorem Faithful.nil : Faithful [] [] := ⟨by simp, .nil, by simp⟩

theorem Faithful.append {calls more : List Call} {phases later : List Phase} (first : Faithful calls phases)
    (second : Faithful more later) : Faithful (calls ++ more) (phases ++ later) where
  through c member := (List.mem_append.mp member).elim (first.through c) (second.through c)
  told := by
    rw [List.filterMap_append]
    exact List.rel_append first.told second.told
  success p member := (List.mem_append.mp member).elim (first.success p) (second.success p)

/-- What was asked and recorded before a failure comes before it. -/
theorem Broken.after {e : Failure} {calls more : List Call} {phases later : List Phase}
    (first : Faithful calls phases) (broken : Broken e more later) : Broken e (calls ++ more) (phases ++ later) := by
  cases broken with
  | question before plt =>
    rw [← List.append_assoc]
    exact .question (first.append before) plt
  | analysis before told status =>
    rw [← List.append_assoc, ← List.append_assoc]
    exact .analysis (first.append before) told status
  | report before told status restated =>
    rw [← List.append_assoc, ← List.append_assoc]
    exact .report (first.append before) told status restated
  | between before => exact .between (first.append before)

/-- If an analysis failed, the last record is its own, marked if the tool reports the failure, and all
others are those of analyses that came through. -/
theorem Broken.of_analysis {e cause : Failure} {calls : List Call} {phases : List Phase} {o : Options}
    (broken : Broken e calls phases) (failed : ⟨.analyze o, some cause⟩ ∈ calls) :
    cause = e ∧ ∃ earlier last, phases = earlier ++ [last] ∧ last.Tells o ∧
      (last.status = .failed ↔ ∃ stop, cause = .tool stop) ∧ ∀ p ∈ earlier, p.status = .success := by
  have early : ∀ {calls phases}, Faithful calls phases → (⟨.analyze o, some cause⟩ : Call) ∉ calls :=
    fun before member => nomatch before.through _ member
  cases broken with
  | question before plt => simpa using (List.mem_append.mp failed).resolve_left (early before)
  | analysis before told status =>
    have last := (List.mem_append.mp failed).resolve_left (early before)
    simp only [List.mem_singleton, Call.mk.injEq, Request.analyze.injEq, Option.some.injEq] at last
    obtain ⟨rfl, rfl⟩ := last
    exact ⟨rfl, _, _, rfl, told, by rw [status, failedStatus_eq_failed_iff], before.success⟩
  | report before told status restated =>
    simpa using (List.mem_append.mp failed).resolve_left (early before)
  | between before => exact absurd failed (early before)

/-! ## One phase -/

namespace Keeper

variable {k : Keeper σ}

/-- The record that a phase begins with. -/
def begunPhase (k : Keeper σ) (a : Analysis) (plt : Path) (files : List String) : Phase where
  name := a.name
  plt := plt.text
  files := (FileSet.of k.cwd files).toList.length

theorem tells_begunPhase (w : Wishes) (a : Analysis) (plt : Path) (files : List String) {p : Phase}
    (name : p.name = (k.begunPhase a plt files).name) (place : p.plt = (k.begunPhase a plt files).plt)
    (size : p.files = (k.begunPhase a plt files).files) :
    p.Tells (w.optionsFor a (FileSet.of k.cwd files).toList plt) := by
  refine ⟨name, ⟨plt, ?_, place⟩, size⟩
  cases a with
  | build => exact .inr rfl
  | add | remove | check | successTyping => exact .inl rfl

/-- A report that fails is never refused by the operating system: what it refuses is restated. -/
theorem report_restates (k : Keeper σ) (ds : List Diagnostic) (s : Session σ) :
    (k.report ds).Ensures s (fun _ _ => True) fun e _ => ∀ cause, e ≠ .system cause := by
  refine ensures_report (fun _ => trivial) (fun _ _ => trivial) fun e _ _ => ?_
  cases e <;> exact nofun

/-- How a phase with files ends: with its record, and if it failed, in its analysis or in its report. -/
theorem runPhase_ends_recorded (k : Keeper σ) (a : Analysis) (plt : Path) {files : List String}
    (some : (FileSet.of k.cwd files).toList.isEmpty = false) (s : Session σ) :
    (k.runPhase a plt files).Ensures s
      (fun n s' => ∃ ds s₁, k.analyze a (FileSet.of k.cwd files).toList plt s = .ok ds s₁ ∧
        s'.backend = s₁.backend ∧ s'.phases = s.phases ++ [{ k.begunPhase a plt files with warnings := n }])
      fun e s' => s'.phases = s.phases ++ [{ k.begunPhase a plt files with status := failedStatus e }] ∧
        ((∃ s₁, k.analyze a (FileSet.of k.cwd files).toList plt s = .error e s₁ ∧ s'.backend = s₁.backend) ∨
          ∃ ds s₁, k.analyze a (FileSet.of k.cwd files).toList plt s = .ok ds s₁ ∧
            s'.backend = s₁.backend ∧ ∀ cause, e ≠ .system cause) := by
  have keeps : (k.analyze a (FileSet.of k.cwd files).toList plt).Ensures s (fun _ s₁ => s₁.phases = s.phases)
      fun _ s₁ => s₁.phases = s.phases := (ensures_analyze rfl rfl).mpr ⟨fun _ _ => rfl, fun _ _ => rfl⟩
  unfold runPhase
  simp only [some, Bool.false_eq_true, if_false]
  refine ensures_recordPhase.mpr (Ensures.bind (keeps.and (ensures_ran _ s)) ?_ ?_)
  · rintro e s₁ ⟨same, failed⟩
    exact ⟨by rw [same]; rfl, .inl ⟨s₁, failed, rfl⟩⟩
  · rintro ds s₁ ⟨same, ran⟩
    have reported : (k.report ds).Ensures s₁ (fun _ s' => s'.phases = s₁.phases ∧ s'.backend = s₁.backend)
        fun _ s' => s'.phases = s₁.phases ∧ s'.backend = s₁.backend :=
      ensures_report (fun _ => ⟨rfl, rfl⟩) (fun _ _ => ⟨rfl, rfl⟩) fun _ _ _ => ⟨rfl, rfl⟩
    refine (reported.and (k.report_restates ds s₁)).mono ?_ ?_
    · rintro n s' ⟨⟨phases, backend⟩, -⟩
      exact ⟨ds, s₁, ran, backend, by rw [phases, same]; rfl⟩
    · rintro e s' ⟨⟨phases, backend⟩, restated⟩
      exact ⟨by rw [phases, same]; rfl, .inr ⟨ds, s₁, ran, backend, restated⟩⟩

/-- A list of files has as good as none only if there are none in it. -/
theorem isEmpty_of_ne_nil {cwd : String} {files : List String} (some : files ≠ []) :
    (FileSet.of cwd files).toList.isEmpty = false := by
  obtain ⟨file, member⟩ := List.exists_mem_of_ne_nil files some
  have inside : Path.canonical cwd file ∈ (FileSet.of cwd files).toList := FileSet.mem_of.mpr ⟨file, member, rfl⟩
  exact List.isEmpty_eq_false_iff.mpr (List.ne_nil_of_mem inside)

/-- A phase over files leaves one record, marked just where the tool reports the phase's failure; one that
the operating system stopped was stopped in its analysis. -/
theorem runPhase_records (k : Keeper σ) (a : Analysis) (plt : Path) {files : List String} (some : files ≠ [])
    (s : Session σ) :
    ∃ p, ((k.runPhase a plt files).after s).phases = s.phases ++ [p] ∧
      p.Tells (k.wishes.optionsFor a (FileSet.of k.cwd files).toList plt) ∧
      (p.status = .failed ↔ ∃ stop s', k.runPhase a plt files s = .error (.tool stop) s') ∧
      ∀ cause s', k.runPhase a plt files s = .error (.system cause) s' →
        ∃ s₁, k.analyze a (FileSet.of k.cwd files).toList plt s = .error (.system cause) s₁ := by
  have ends := k.runPhase_ends_recorded a plt (isEmpty_of_ne_nil some) s
  cases ran : k.runPhase a plt files s with
  | ok n s' =>
    obtain ⟨ds, s₁, -, -, phases⟩ := ends.of_ok ran
    refine ⟨_, (congrArg Session.phases (after_of_ok ran)).trans phases, tells_begunPhase _ a plt files rfl rfl rfl,
      ?_, nofun⟩
    simp [begunPhase]
  | error e s' =>
    obtain ⟨phases, stopped⟩ := ends.of_error ran
    refine ⟨_, (congrArg Session.phases (after_of_error ran)).trans phases,
      tells_begunPhase _ a plt files rfl rfl rfl, ?_, ?_⟩
    · rw [failedStatus_eq_failed_iff]
      simp
    · rintro cause _ ⟨⟩
      rcases stopped with ⟨s₁, failed, -⟩ | ⟨_, _, _, _, restated⟩
      · exact ⟨s₁, failed⟩
      · exact absurd rfl (restated cause)

/-! ## A noted run -/

/-- What was noted and recorded from the first session to the second. -/
def noting (R : List Call → List Phase → Prop) (s s' : Session (σ × List Call)) : Prop :=
  ∃ calls phases, s'.backend.2 = s.backend.2 ++ calls ∧ s'.phases = s.phases ++ phases ∧ R calls phases

theorem noting_of_same {R : List Call → List Phase → Prop} {s s' : Session (σ × List Call)} (none : R [] [])
    (backend : s'.backend = s.backend) (phases : s'.phases = s.phases) : noting R s s' :=
  ⟨[], [], by simp [backend], by simp [phases], none⟩

/-- Along a noted run the notes and the records agree, up to the failure that ends it. -/
def notes (σ : Type) : Conduct (σ × List Call) where
  kept := noting Faithful
  broken e := noting (Broken e)
  kept_aside := by
    rintro s _ ⟨t, log, rfl⟩
    exact noting_of_same .nil rfl rfl
  broken_aside := by
    rintro s _ e - ⟨t, log, rfl⟩
    exact noting_of_same (.between .nil) rfl rfl
  trans := by
    rintro s s' s'' ⟨calls, phases, noted, recorded, first⟩ ⟨more, later, notedMore, recordedMore, second⟩
    refine ⟨calls ++ more, phases ++ later, ?_, ?_, first.append second⟩
    · rw [notedMore, noted, List.append_assoc]
    · rw [recordedMore, recorded, List.append_assoc]
  breaks := by
    rintro e s s' s'' ⟨calls, phases, noted, recorded, first⟩ ⟨more, later, notedMore, recordedMore, broken⟩
    refine ⟨calls ++ more, phases ++ later, ?_, ?_, broken.after first⟩
    · rw [notedMore, noted, List.append_assoc]
    · rw [recordedMore, recorded, List.append_assoc]

section
variable {k : Keeper (σ × List Call)} {b : Backend σ} (noted : k.backend = b.noted)
include noted

theorem read_notes (plt : Path) : (k.read plt).KeepsTo (notes σ) := by
  intro s
  have asked : k.read plt s = accept (.query plt) (b.noted.query plt s.tree s.backend) s := by
    unfold read
    rw [noted]
  have answered : (accept (.query plt) (b.noted.query plt s.tree s.backend)).Ensures s
      (fun _ s' => noting Faithful s s') fun e s' => noting (Broken e) s s' := by
    refine ensures_accept.mpr ⟨fun answer given => ?_, fun e failed => ?_⟩
    · have through : failureOf (b.query plt s.tree s.backend.1).result = none := by
        rw [show (b.query plt s.tree s.backend.1).result = .ok answer from given]
        rfl
      exact ⟨[⟨.query plt, none⟩], [], by simp [answered, Backend.noted, through], by simp [answered],
        by simp, .nil, by simp⟩
    · have stopped : failureOf (b.query plt s.tree s.backend.1).result = some e := by
        rw [show (b.query plt s.tree s.backend.1).result = .error e from failed]
        rfl
      exact ⟨[⟨.query plt, some e⟩], [], by simp [answered, Backend.noted, stopped], by simp [answered],
        .question .nil plt⟩
  unfold Act.Ensures at answered ⊢
  rwa [asked]

/-- What an analysis notes down: that it was asked, and how it ended. -/
theorem analyze_notes (a : Analysis) (files : List String) (plt : Path) (s : Session (σ × List Call)) :
    (k.analyze a files plt).Ensures s
      (fun _ s' => s'.backend.2 = s.backend.2 ++ [⟨.analyze (k.wishes.optionsFor a files plt), none⟩])
      fun e s' => s'.backend.2 = s.backend.2 ++ [⟨.analyze (k.wishes.optionsFor a files plt), some e⟩] := by
  refine (ensures_analyze rfl rfl).mpr ⟨fun ds given => ?_, fun e failed => ?_⟩
  · rw [noted] at given ⊢
    simp [answered, Backend.noted, show (b.analyze _ s.tree s.backend.1).result = .ok ds from given, failureOf]
  · rw [noted] at failed ⊢
    simp [answered, Backend.noted, show (b.analyze _ s.tree s.backend.1).result = .error e from failed, failureOf]

theorem runPhase_notes (a : Analysis) (plt : Path) (files : List String) :
    (k.runPhase a plt files).KeepsTo (notes σ) := by
  intro s
  cases none : (FileSet.of k.cwd files).toList.isEmpty with
  | true =>
    unfold runPhase
    simp only [none, if_true]
    exact pure_keepsTo 0 s
  | false =>
    have analysed := analyze_notes noted a (FileSet.of k.cwd files).toList plt s
    refine (k.runPhase_ends_recorded a plt none s).mono ?_ ?_
    · rintro n s' ⟨ds, s₁, ran, backend, phases⟩
      have called := analysed.of_ok ran
      refine ⟨_, _, (congrArg Prod.snd backend).trans called, phases, by simp, ?_, by simp [begunPhase]⟩
      exact .cons (tells_begunPhase k.wishes a plt files rfl rfl rfl) .nil
    · rintro e s' ⟨phases, ⟨s₁, failed, backend⟩ | ⟨ds, s₁, ran, backend, restated⟩⟩
      · have called := analysed.of_error failed
        exact ⟨_, _, (congrArg Prod.snd backend).trans called, phases,
          .analysis .nil (tells_begunPhase k.wishes a plt files rfl rfl rfl) rfl⟩
      · have called := analysed.of_ok ran
        exact ⟨_, _, (congrArg Prod.snd backend).trans called, phases,
          .report .nil (tells_begunPhase k.wishes a plt files rfl rfl rfl) rfl restated⟩

end

end Keeper

namespace Job

variable {j : Job σ} {s : Session σ}

/-- The session in which a run begins, with a backend that has noted nothing down yet. -/
def blank (s : Session σ) : Session (σ × List Call) := s.on (s.backend, [])

/-- A run and the same run with its calls noted down have the same outcome, and leave the same but for the
notes. -/
theorem run_noted {b : Backend σ} (backend : j.keeper.backend = b) {o : Outcome} {r : Session (σ × List Call)}
    (ran : (j.on b.noted).run (blank s) = .ok o r) : ∃ s', j.run s = .ok o s' ∧ r = s'.on r.backend := by
  subst backend
  have mirrors := j.keeper.backend.mirrors_noted j.plts
  have disregards : j.keeper.Disregards fun _ => Eq := by
    rintro a files plt ds _ rfl
    rfl
  have alike : Session.Alike (fun st (noted : σ × List Call) => noted.1 = st) s (blank s) := ⟨_, rfl, rfl⟩
  rcases (run_on mirrors disregards alike).alike with ⟨o', s', r', ran', noted, state, -, rfl⟩ | ⟨e, _, _, -, stopped, -⟩
  · cases noted.symm.trans ran
    exact ⟨s', ran', rfl⟩
  · exact nomatch stopped.symm.trans ran

/-- How a noted run ends: with notes and records that agree, up to the failure that stopped it. -/
theorem run_notes {b : Backend σ} {o : Outcome} {r : Session (σ × List Call)}
    (ran : (j.on b.noted).run (blank s) = .ok o r) :
    ∃ phases, o.phases = s.phases ++ phases ∧ (o.status ≠ .failed → Faithful r.backend.2 phases) ∧
      (o.status = .failed → ∃ e stop, j.stopping? e = some stop ∧ o.error = some (.tool stop) ∧
        Broken e r.backend.2 phases) := by
  have noted : (j.on b.noted).keeper.backend = b.noted := rfl
  have keeps := steps_keepsTo (j := j.on b.noted) (Keeper.runPhase_notes noted) (Keeper.read_notes noted)
    ((j.on b.noted).opened (blank s))
  cases steps : (j.on b.noted).steps ((j.on b.noted).opened (blank s)) with
  | ok n s' =>
    obtain ⟨s'', ⟨path, log, rfl⟩, outcome⟩ := run_of_completed steps
    cases outcome.symm.trans ran
    obtain ⟨calls, phases, called, recorded, faithful⟩ := keeps.of_ok steps
    have called : s'.backend.2 = calls := called
    refine ⟨phases, ?_, fun _ => called ▸ faithful, fun failed => absurd failed (completed_ne_failed _ n _)⟩
    rw [completed_phases]
    exact recorded
  | error e s' =>
    cases reported : j.stopping? e with
    | none =>
      obtain ⟨s'', -, failure⟩ := run_of_escaped steps reported
      exact nomatch failure.symm.trans ran
    | some stop =>
      obtain ⟨s'', ⟨path, log, rfl⟩, outcome⟩ := run_of_stopped steps reported
      cases outcome.symm.trans ran
      obtain ⟨calls, phases, called, recorded, broken⟩ := keeps.of_error steps
      have called : s'.backend.2 = calls := called
      exact ⟨phases, recorded, fun notFailed => absurd rfl notFailed,
        fun _ => ⟨e, stop, reported, rfl, called ▸ broken⟩⟩

/-- Each phase over files, in any session and with any backend, leaves one record, marked as failed just where
the phase failed with an error that the tool reports; one that the operating system stopped was stopped in its
analysis, and its record is not marked. So it is in every run: the analyses that were asked and the records
agree one by one, and all but the last one came through. If a run failed in an analysis, the last record is
that of this analysis, marked just where the tool reports the failure; if it failed in a question or between
two phases, all records are those of analyses that came through. -/
theorem records_of_run {host : Host} {backend : Backend σ} {settings : Settings} {project : Project}
    {runtime : OtpRuntime} (made : Job.of host backend settings project runtime = .ok j) (s : Session σ) :
    (∀ (k : Keeper σ) a plt files s, files ≠ [] → ∃ p,
      ((k.runPhase a plt files).after s).phases = s.phases ++ [p] ∧
      p.Tells (k.wishes.optionsFor a (FileSet.of k.cwd files).toList plt) ∧
      (p.status = .failed ↔ ∃ stop s', k.runPhase a plt files s = .error (.tool stop) s') ∧
      ∀ cause s', k.runPhase a plt files s = .error (.system cause) s' →
        ∃ s₁, k.analyze a (FileSet.of k.cwd files).toList plt s = .error (.system cause) s₁) ∧
    ∀ o r, (j.on backend.noted).run (blank s) = .ok o r →
      (∃ s', j.run s = .ok o s' ∧ r = s'.on r.backend) ∧
      ∃ phases, o.phases = s.phases ++ phases ∧
        (o.status ≠ .failed → Faithful r.backend.2 phases) ∧
        (o.status = .failed → ∃ e stop, j.stopping? e = some stop ∧ o.error = some (.tool stop) ∧
          Broken e r.backend.2 phases) ∧
        ∀ options e, ⟨.analyze options, some e⟩ ∈ r.backend.2 → o.status = .failed ∧
          ∃ earlier last, phases = earlier ++ [last] ∧ last.Tells options ∧
            (last.status = .failed ↔ ∃ stop, e = .tool stop) ∧ ∀ p ∈ earlier, p.status = .success := by
  obtain ⟨_, _, _, sameBackend, _, _⟩ := Job.of_eq_ok made
  refine ⟨fun k a plt files s some => k.runPhase_records a plt some s, fun o r ran => ?_⟩
  obtain ⟨phases, recorded, faithful, broken⟩ := run_notes ran
  refine ⟨run_noted sameBackend ran, phases, recorded, faithful, broken, fun options e called => ?_⟩
  by_cases failed : o.status = .failed
  · obtain ⟨cause, stop, -, -, stopped⟩ := broken failed
    exact ⟨failed, (stopped.of_analysis called).2⟩
  · exact nomatch (faithful failed).through _ called

/-- The second analysis fails: the record of the first one is clean, that of the second one marked. -/
theorem records_of_failed_addition : ∃ j o r,
    Exact.job "/w/s" (fun n => if n = 1 then some (.tool (.backend "no analysis")) else none) [] = .ok j ∧
    (j.on j.keeper.backend.noted).run (blank Exact.session) = .ok o r ∧ o.status = .failed ∧
    ∃ earlier last, o.phases = earlier ++ [last] ∧ earlier ≠ [] ∧ last.status = .failed ∧
      ∀ p ∈ earlier, p.status = .success := by
  let fails : Nat → Option Failure := fun n => if n = 1 then some (.tool (.backend "no analysis")) else none
  have built : checkRun (Exact.job "/w/s" fails []) Exact.session (fun j o _ => o.status = .failed &&
      (j.on (Exact.backend "/w" fails []).noted).run.check (blank Exact.session) fun o r => o.phases.length = 2 &&
        r.backend.2.any fun c => c.request.analyze?.isSome && c.failure = fails 1) = true := by decide +kernel
  obtain ⟨j, _, _, made, _, passed⟩ := of_checkRun built
  rw [Bool.and_eq_true] at passed
  obtain ⟨o, r, ran, noted⟩ := Act.of_check passed.2
  simp only [Bool.and_eq_true, List.any_eq_true, decide_eq_true_eq] at noted
  obtain ⟨two, ⟨request, failure⟩, called, analysed, rfl⟩ := noted
  obtain ⟨options, asked⟩ := Option.isSome_iff_exists.mp analysed
  cases request with
  | query plt => cases asked
  | analyze options =>
    obtain ⟨-, runs⟩ := records_of_run made Exact.session
    obtain ⟨-, phases, recorded, -, -, analyses⟩ := runs o r ran
    obtain ⟨failed, earlier, last, rfl, -, marked, clean⟩ := analyses options _ called
    obtain ⟨_, _, _, sameBackend, _, _⟩ := Job.of_eq_ok made
    refine ⟨j, o, r, made, sameBackend ▸ ran, failed, earlier, last, recorded, ?_, marked.mpr ⟨_, rfl⟩, clean⟩
    rintro rfl
    rw [recorded] at two
    cases two

/-- A backend that knows of no PLT, and that has no room for one. -/
def crowded : Backend Nat where
  query _ t calls := ⟨.ok none, t, calls + 1⟩
  analyze _ t calls := ⟨.error (.system (.ofNumber 28 none)), t, calls + 1⟩

/-- An analysis that the operating system stops fails its run, and its record says that it came through. -/
theorem records_counterexample : ¬ ∀ (j : Job Nat) (s : Session Nat) o r options e, j.keeper.backend.Reports →
    (j.on j.keeper.backend.noted).run (blank s) = .ok o r → o.status = .failed →
    ⟨.analyze options, some e⟩ ∈ r.backend.2 → ∃ last, o.phases.getLast? = some last ∧ last.status = .failed := by
  intro claim
  have built : checkRun (Job.of Exact.host crowded (Exact.settings "/w/s") Exact.project ⟨"26", Path.parse "/otp"⟩)
      Exact.session (fun j _ _ =>
        (j.on crowded.noted).run.check (blank Exact.session) fun o r => o.status = .failed &&
          o.phases.getLast?.all (fun p => p.status = .success) &&
          r.backend.2.any fun c => c.request.analyze?.isSome && c.failure.isSome) = true := by decide +kernel
  obtain ⟨j, _, _, made, _, passed⟩ := of_checkRun built
  obtain ⟨o, r, ran, noted⟩ := Act.of_check passed
  simp only [Bool.and_eq_true, List.any_eq_true, decide_eq_true_eq, Option.all_eq_true] at noted
  obtain ⟨⟨failed, clean⟩, ⟨request, failure⟩, called, analysed, failure'⟩ := noted
  obtain ⟨options, asked⟩ := Option.isSome_iff_exists.mp analysed
  obtain ⟨e, rfl⟩ := Option.isSome_iff_exists.mp failure'
  obtain ⟨_, _, _, sameBackend, _, _⟩ := Job.of_eq_ok made
  have reports : crowded.Reports :=
    ⟨fun _ _ _ _ never => (nomatch never), fun _ _ _ e failed => by cases failed; exact .inr ⟨_, rfl⟩⟩
  cases request with
  | query plt => cases asked
  | analyze options =>
    obtain ⟨last, recorded, marked⟩ :=
      claim j Exact.session o r options e (sameBackend ▸ reports) (sameBackend ▸ ran) failed called
    exact nomatch marked.symm.trans (clean last recorded)

end Job

end PltKeeper
