import PltKeeper.Proofs.Backend.Exact
import PltKeeper.Proofs.Run.Mirrored

/-! Diagnostics that maintenance finds and nobody asked for. With the warnings of maintenance off, all
of them are dropped before anything is made of them, so no trace of a run depends on them; and since
every optional category is suppressed then, neither does maintenance depend on the categories that the
user asks for. -/
namespace PltKeeper

variable {σ τ : Type} {s s' : Session σ}

open Act

/-- A question, or an analysis for maintenance that is asked for no warnings at all. -/
def Request.Suppressed : Request → Prop
  | .query _ => True
  | .analyze o => o.analysis.mutatesPlt = true ∧ o.getWarnings.isSet = false ∧ o.warnings = noWarnings

/-- A request for success typing. -/
def Request.Types (q : Request) : Prop := ∃ o, q = .analyze o ∧ o.analysis = .successTyping

/-- From the first session to the second only such requests were made. -/
def Session.Asks (s s' : Session σ) (kind : Request → Prop) : Prop :=
  ∃ made, s'.requests = s.requests ++ made ∧ ∀ q ∈ made, kind q

namespace Session

variable {kind : Request → Prop}

theorem Asks.of_same (same : s'.requests = s.requests) : s.Asks s' kind := ⟨[], by simp [same], by simp⟩

theorem Asks.one {q : Request} (asked : s'.requests = s.requests ++ [q]) (holds : kind q) : s.Asks s' kind :=
  ⟨[q], asked, by simpa using holds⟩

theorem Asks.trans {s'' : Session σ} (first : s.Asks s' kind) (second : s'.Asks s'' kind) : s.Asks s'' kind := by
  obtain ⟨made, requests, all⟩ := first
  obtain ⟨more, moreRequests, allMore⟩ := second
  refine ⟨made ++ more, by rw [moreRequests, requests, List.append_assoc], ?_⟩
  intro q member
  rcases List.mem_append.mp member with member | member
  · exact all q member
  · exact allMore q member

end Session

namespace Keeper

variable {k : Keeper σ} {a : Analysis} {plt : Path}

theorem read_asks (plt : Path) (s : Session σ) {kind : Request → Prop} (holds : kind (.query plt)) :
    (k.read plt).Ensures s (fun _ s' => s.Asks s' kind) fun _ s' => s.Asks s' kind := by
  show (accept (.query plt) (k.backend.query plt s.tree s.backend)).Ensures s _ _
  rw [ensures_accept]
  exact ⟨fun _ _ => .one rfl holds, fun _ _ => .one rfl holds⟩

theorem report_requests (k : Keeper σ) (ds : List Diagnostic) (s : Session σ) :
    (k.report ds).Ensures s (fun _ s' => s'.requests = s.requests) fun _ s' => s'.requests = s.requests :=
  ensures_report (fun _ => rfl) (fun _ _ => rfl) fun _ _ _ => rfl

/-- A phase makes at most the one request for its analysis. -/
theorem runPhase_asks (files : List String) (s : Session σ) {kind : Request → Prop}
    (holds : ∀ files, kind (.analyze (k.wishes.optionsFor a files plt))) :
    (k.runPhase a plt files).Ensures s (fun _ s' => s.Asks s' kind) fun _ s' => s.Asks s' kind := by
  let options := k.wishes.optionsFor a (FileSet.of k.cwd files).toList plt
  have asked : ∀ s₁, s₁.requests = s.requests ++ [.analyze options] → s.Asks s₁ kind :=
    fun s₁ requests => .one requests (holds _)
  unfold runPhase
  simp only
  refine Act.ensures_ite.mpr ⟨fun _ => Act.ensures_pure.mpr (.of_same rfl), fun _ => ?_⟩
  rw [ensures_recordPhase, Act.ensures_bind, ensures_analyze (rfl : _ = options) (rfl : _ = _)]
  refine ⟨fun ds _ => ?_, fun _ _ => asked _ rfl⟩
  exact (report_requests k _ _).mono (fun _ _ same => asked _ same) fun _ _ same => asked _ same

/-- The same keeper, asked for other categories of warnings. -/
def asking (k : Keeper σ) (categories : List Json) : Keeper σ :=
  { k with wishes := { k.wishes with warnings := categories } }

section
variable (off : k.wishes.getWarnings.isSet = false)
include off

/-- What maintenance is asked for, where its warnings are off. -/
theorem optionsFor_of_off (maintains : a ≠ .successTyping) (files : List String) (plt : Path) :
    k.wishes.optionsFor a files plt =
      { analysis := a
        files := files
        getWarnings := k.wishes.getWarnings
        warnings := noWarnings
        initPlt := if a = .build then none else some plt
        outputPlt := if a.mutatesPlt then some plt else none
        homePlt := k.wishes.homePlt } := by
  have unheard : k.wishes.wantsWarnings a = k.wishes.getWarnings := by
    simp [Wishes.wantsWarnings, Analysis.alwaysWarns, maintains]
  simp only [Wishes.optionsFor, unheard, off, Bool.false_eq_true, if_false]

/-- What maintenance finds is dropped. -/
theorem disregards_of_off : k.Disregards fun o ds ds' => o.analysis = .successTyping → ds = ds' := by
  intro a files plt ds ds' same
  by_cases typing : a = .successTyping
  · rw [same typing]
  · simp only [delivered, optionsFor_of_off off typing, off, Bool.false_eq_true, if_false]

/-- Maintenance is asked for no warnings at all, -/
theorem suppressed_optionsFor (maintains : a.mutatesPlt = true) (files : List String) (plt : Path) :
    (Request.analyze (k.wishes.optionsFor a files plt)).Suppressed := by
  rw [optionsFor_of_off off (by simpa [Analysis.mutatesPlt] using maintains)]
  exact ⟨maintains, off, rfl⟩

/-- and in the same way whatever the categories of the other analyses. -/
theorem runPhase_asking (categories : List Json) (maintains : a.mutatesPlt = true) (plt : Path)
    (files : List String) : (k.asking categories).runPhase a plt files = k.runPhase a plt files := by
  have maintains : a ≠ .successTyping := by simpa [Analysis.mutatesPlt] using maintains
  have offToo : (k.asking categories).wishes.getWarnings.isSet = false := off
  have analyzed : ∀ files, (k.asking categories).analyze a files plt = k.analyze a files plt := by
    intro files
    funext s
    unfold analyze
    rw [optionsFor_of_off offToo maintains, optionsFor_of_off off maintains]
    rfl
  unfold runPhase
  simp only [analyzed]
  rfl

end

end Keeper

/-! ## Runs with other categories -/

/-- The tie of a session with itself, once only such requests have been made since another one. -/
def Tie.self (s₀ : Session σ) (kind : Request → Prop) : Tie σ σ where
  holds s r := r = s ∧ s₀.Asks s kind
  trees := Eq
  counts := Eq

theorem Tie.self_lasting (s₀ : Session σ) (kind : Request → Prop) (cwd : String) (plts : List Path) :
    (Tie.self s₀ kind).Lasting cwd plts := by
  refine Tie.lasting_of_eq rfl rfl ?tree ?logged ?moved cwd plts
  case tree =>
    rintro s _ ⟨rfl, _⟩
    rfl
  case logged =>
    rintro s _ records ⟨rfl, asks⟩
    exact ⟨rfl, asks⟩
  case moved =>
    rintro s _ t ⟨rfl, asks⟩
    exact ⟨rfl, asks⟩

/-- An action beside itself. -/
theorem Act.SideBySide.self {α : Type} {act : Act σ α} {s₀ : Session σ} {kind : Request → Prop}
    (before : s₀.Asks s kind) (asks : act.Ensures s (fun _ s' => s.Asks s' kind) fun _ s' => s.Asks s' kind) :
    SideBySide (Tie.self s₀ kind) act act s s
      fun a a' s' r' => a = a' ∧ (Tie.self s₀ kind).holds s' r' := by
  cases ran : act s with
  | ok a s' => exact .ended ran ran ⟨rfl, rfl, before.trans (asks.of_ok ran)⟩
  | error e s' => exact .stopped ran ran ⟨rfl, before.trans (asks.of_error ran)⟩

namespace Job

variable {j : Job σ}

/-- The same run, asked for other categories of warnings. -/
def asking (j : Job σ) (value : Json) (categories : List Json) : Job σ :=
  { j with keeper := j.keeper.asking categories, settings := { j.settings with warnings := value } }

/-- A run that is made for other categories of warnings differs in nothing else. -/
theorem of_asking {host : Host} {backend : Backend σ} {settings : Settings} {project : Project}
    {runtime : OtpRuntime} (made : Job.of host backend settings project runtime = .ok j) {value : Json}
    {i : Job σ} (made' : Job.of host backend { settings with warnings := value } project runtime = .ok i) :
    ∃ categories, i = j.asking value categories := by
  obtain ⟨_, _, _, _, placed, basePlaced, based, -, rfl⟩ := of_eq_ok_iff.mp made
  obtain ⟨_, _, _, categories, placed', basePlaced', based', -, rfl⟩ := of_eq_ok_iff.mp made'
  cases placed.symm.trans placed'
  cases basePlaced.symm.trans basePlaced'
  cases based.symm.trans based'
  exact ⟨categories, rfl⟩

/-- Success typing asks for itself and for nothing else. -/
theorem successTyping_asks (j : Job σ) (s : Session σ) :
    j.successTyping.Ensures s (fun _ s' => s.Asks s' Request.Types) fun _ s' => s.Asks s' Request.Types := by
  unfold successTyping
  refine Act.ensures_ite.mpr ⟨fun _ => Act.ensures_pure.mpr (.of_same rfl), fun _ => ?_⟩
  refine Act.ensures_bind.mpr (Act.ensures_info.mpr ?_)
  refine (j.ownFiles_ends _).bind ?_ ?_
  · rintro e _ ⟨records, rfl⟩
    exact .of_same rfl
  rintro files _ ⟨⟨records, rfl⟩, -⟩
  refine Act.ensures_bind.mpr (Act.ensures_info.mpr ?_)
  exact Keeper.runPhase_asks files.toList _ fun _ => ⟨_, rfl, rfl⟩

section
variable (off : j.keeper.wishes.getWarnings.isSet = false) (value : Json) (categories : List Json)
include off

theorem abreast_asking (s₀ : Session σ) :
    j.Abreast (.self s₀ Request.Suppressed) (Tie.self s₀ Request.Suppressed).holds (j.asking value categories) where
  keeper := by
    refine ⟨rfl, Tie.self_lasting s₀ _ _ _, ?_⟩
    rintro a maintains plt member files _ s ⟨rfl, asks⟩
    show Act.SideBySide _ _ ((j.keeper.asking categories).runPhase a plt files) s s _
    rw [Keeper.runPhase_asking off categories maintains]
    exact .self asks (Keeper.runPhase_asks files s (Keeper.suppressed_optionsFor off maintains · plt))
  plt := rfl
  basePlt := rfl
  libRoot := rfl
  project := rfl
  requiredApps := rfl
  baseApps := rfl
  updating := rfl
  tied tied := tied
  logged records tied := (Tie.self_lasting s₀ _ "" []).logged records tied
  tree := by
    rintro s _ ⟨rfl, _⟩
    rfl
  searchPath := by
    rintro s _ ⟨rfl, _⟩
    rfl
  read := by
    rintro _ s ⟨rfl, asks⟩ plt member
    exact .self asks (Keeper.read_asks plt s trivial)

/-- All that a run asks after its report has begun: first what the maintenance asks, which is suppressed
and does not depend on the categories, and then what success typing does. -/
theorem work_asks (s : Session σ) : ∃ maintenance typing typing',
    (j.work.after s).requests = s.requests ++ maintenance ++ typing ∧
      ((j.asking value categories).work.after s).requests = s.requests ++ maintenance ++ typing' ∧
      (∀ q ∈ maintenance, q.Suppressed) ∧ ∀ q ∈ typing ++ typing', q.Types := by
  have typed : ∀ (i : Job σ) m s₁, i.updateProject s = .ok m s₁ → s₁.Asks (i.work.after s) Request.Types := by
    intro i m s₁ updated
    have asks : i.work.Ensures s (fun _ s' => s₁.Asks s' Request.Types) fun _ s' => s₁.Asks s' Request.Types := by
      unfold work
      rw [Act.ensures_bind, Act.ensures_of_ok updated]
      refine (successTyping_asks i s₁).bind (fun _ _ asks => asks) fun _ _ asks => Act.ensures_pure.mpr asks
    exact asks.after
  have stopped : ∀ (i : Job σ) e s₁, i.updateProject s = .error e s₁ → i.work.after s = s₁ := by
    intro i e s₁ failed
    exact Act.after_of_error (Act.bind_of_error failed)
  cases updateProject_abreast (abreast_asking off value categories s) ⟨rfl, .of_same rfl⟩ with
  | @ended m m' s₁ _ ran ran' returns =>
    obtain ⟨-, rfl, maintenance, requests, suppressed⟩ := returns
    obtain ⟨typing, typingRequests, types⟩ := typed j m _ ran
    obtain ⟨typing', typingRequests', types'⟩ := typed _ m' _ ran'
    refine ⟨maintenance, typing, typing', by rw [typingRequests, requests], by rw [typingRequests', requests],
      suppressed, ?_⟩
    intro q member
    exact (List.mem_append.mp member).elim (types q) (types' q)
  | @stopped e s₁ _ failed failed' tied =>
    obtain ⟨rfl, maintenance, requests, suppressed⟩ := tied
    refine ⟨maintenance, [], [], ?_, ?_, suppressed, by simp⟩
    · rw [stopped j e _ failed, requests, List.append_nil]
    · rw [stopped _ e _ failed', requests, List.append_nil]
  | lost _ gone => exact gone.elim
  | lost' _ gone => exact gone.elim

/-- The same of the whole run. A report that cannot begin is followed by no requests. -/
theorem run_asks (s : Session σ) : ∃ maintenance typing typing',
    (j.run.after s).requests = s.requests ++ maintenance ++ typing ∧
      ((j.asking value categories).run.after s).requests = s.requests ++ maintenance ++ typing' ∧
      (∀ q ∈ maintenance, q.Suppressed) ∧ ∀ q ∈ typing ++ typing', q.Types := by
  let i := j.asking value categories
  have handed : ∀ {s' s'' : Session σ}, s'.HandedOn s'' → s''.requests = s'.requests := by
    rintro s' _ ⟨path, log, rfl⟩
    rfl
  have begins : j.keeper.beginReport.Ensures (j.opened s) (fun _ s' => s'.requests = s.requests)
      fun _ s' => s'.requests = s.requests := Keeper.ensures_beginReport (fun _ _ => rfl) fun _ => rfl
  cases begun : j.keeper.beginReport (j.opened s) with
  | ok output s₁ =>
    have begunToo : i.keeper.beginReport (i.opened s) = .ok output s₁ := begun
    have before : s₁.requests = s.requests := begins.of_ok begun
    obtain ⟨maintenance, typing, typing', first, second, kinds⟩ := work_asks off value categories s₁
    rw [before] at first second
    exact ⟨maintenance, typing, typing', (handed (handedOn_of_begun begun)).trans first,
      (handed (handedOn_of_begun begunToo)).trans second, kinds⟩
  | error e s₁ =>
    have before : s₁.requests = s.requests := begins.of_error begun
    have failed : ∀ i : Job σ, i.keeper.beginReport (i.opened s) = .error e s₁ →
        (i.run.after s).requests = s.requests := by
      intro i begun
      have stops : i.steps (i.opened s) = .error e s₁ := Act.bind_of_error begun
      rw [← before, ← Act.after_of_error stops]
      exact handed (i.after_run s)
    exact ⟨[], [], [], by simpa using failed j begun, by simpa using failed i begun, by simp, by simp⟩

end

/-- Where the warnings of maintenance are off, nothing shows what maintenance finds: two backends that
differ in that alone lead to the same outcome, or to the same failure, and to sessions that are the same
in all their parts. Nor does maintenance depend on the categories of warnings: whichever the user asks
for, it makes the same requests, and suppresses all of them. -/
theorem suppression_of_run {host : Host} {settings : Settings} {project : Project} {runtime : OtpRuntime}
    {backend : Backend σ} {backend' : Backend τ} {states : σ → τ → Prop} {r : Session τ}
    (made : Job.of host backend settings project runtime = .ok j)
    (off : settings.getWarnings.isSet = false)
    (mirrors : backend.Mirrors backend' states Eq j.plts fun o ds ds' => o.analysis = .successTyping → ds = ds')
    (alike : Session.Alike states s r) :
    (∃ i, Job.of host backend' settings project runtime = .ok i ∧
      ((∃ o s' r', j.run s = .ok o s' ∧ i.run r = .ok o r' ∧ Session.Alike states s' r') ∨
        ∃ e s' r', j.run s = .error e s' ∧ i.run r = .error e r' ∧ Session.Alike states s' r')) ∧
    ∀ value i, Job.of host backend { settings with warnings := value } project runtime = .ok i →
      ∃ maintenance typing typing',
        (j.run.after s).requests = s.requests ++ maintenance ++ typing ∧
        (i.run.after s).requests = s.requests ++ maintenance ++ typing' ∧
        (∀ q ∈ maintenance, q.Suppressed) ∧ ∀ q ∈ typing ++ typing', q.Types := by
  refine ⟨⟨j.on backend', of_on made backend', ?_⟩, ?_⟩
  · obtain ⟨_, _, _, _, -, -, -, -, rfl⟩ := of_eq_ok_iff.mp made
    exact (run_on mirrors (Keeper.disregards_of_off off) alike).alike
  · intro value i madeToo
    obtain ⟨categories, rfl⟩ := of_asking made madeToo
    obtain ⟨_, _, _, _, -, -, -, -, rfl⟩ := of_eq_ok_iff.mp made
    exact run_asks off value categories s

/-- The second backend finds every warning of the maintenance twice, and it does not show. -/
theorem suppression_of_fresh_project :
    let settings := { Exact.settings "/w/s" with getWarnings := .bool false }
    let backend := Exact.backend "/w" (fun _ => none) [⟨"a.erl", 3, "no", none, none⟩]
    let talkative := backend.remarking fun o ds => if o.analysis = .successTyping then ds else ds ++ ds
    ∃ j i o s' r', Job.of Exact.host backend settings Exact.project ⟨"26", Path.parse "/otp"⟩ = .ok j ∧
      Job.of Exact.host talkative settings Exact.project ⟨"26", Path.parse "/otp"⟩ = .ok i ∧
      j.run Exact.session = .ok o s' ∧ i.run Exact.session = .ok o r' ∧ o.status = .warnings ∧
      o.phases.length = 3 ∧ r'.tree = s'.tree ∧ r'.console = s'.console ∧ r'.console.length = 1 := by
  intro settings backend talkative
  have checked : checkRun (Job.of Exact.host backend settings Exact.project ⟨"26", Path.parse "/otp"⟩)
      Exact.session (fun _ o s' => o.status = .warnings && o.phases.length = 3 && s'.console.length = 1) =
        true := by decide +kernel
  obtain ⟨j, o, s', made, ran, checked⟩ := of_checkRun checked
  simp only [Bool.and_eq_true, decide_eq_true_eq] at checked
  obtain ⟨⟨warned, three⟩, one⟩ := checked
  have mirrors : backend.Mirrors talkative Eq Eq j.plts fun o ds ds' => o.analysis = .successTyping → ds = ds' :=
    backend.mirrors_remarking fun o ds typing => by simp [typing]
  obtain ⟨⟨i, madeToo, ends⟩, -⟩ := suppression_of_run made rfl mirrors (s := Exact.session)
    (r := Exact.session) ⟨_, rfl, rfl⟩
  rcases ends with ⟨_, _, r', ran₁, ranToo, state, -, rfl⟩ | ⟨_, _, _, failed, -⟩
  · cases ran.symm.trans ran₁
    exact ⟨j, i, o, s', _, made, madeToo, ran, ranToo, warned, three, rfl, rfl, one⟩
  · exact nomatch ran.symm.trans failed

end Job

end PltKeeper
