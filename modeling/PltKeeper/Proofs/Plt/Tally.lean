import PltKeeper.Proofs.Plt.Upkeep
import Mathlib.Algebra.Ring.Int.Defs

/-! How warnings are accounted for. Each phase that is recorded finds some diagnostics, and counts them
once they have been filed. The total and the records of the phases grow by what is counted, and by
nothing else; the console is given what is found before it is filed. The warnings file grows by the lines
of what is counted, too, and by no more than the front of the lines of a report that fails. -/
namespace PltKeeper

/-- What a phase has found. -/
structure Finding where
  /-- The diagnostics, none if the analysis failed. -/
  diagnostics : List Diagnostic
  /-- Whether they could be added to the warnings file. Without any there was nothing to add. -/
  filed : Bool

namespace Finding

/-- What is counted of a finding: all of it, once it has been filed. -/
def counted (f : Finding) : List Diagnostic := if f.filed then f.diagnostics else []

/-- What is counted of all findings, in their order. -/
def allCounted (found : List Finding) : List Diagnostic := found.flatMap counted

/-- What is shown of all findings, in their order. -/
def allShown (found : List Finding) : List Diagnostic := found.flatMap diagnostics

variable {found more : List Finding}

@[simp] theorem allCounted_nil : allCounted [] = [] := rfl

@[simp] theorem allCounted_append : allCounted (found ++ more) = allCounted found ++ allCounted more := by
  simp [allCounted]

@[simp] theorem allShown_append : allShown (found ++ more) = allShown found ++ allShown more := by
  simp [allShown]

/-- Where everything could be filed, everything shown is counted. -/
theorem allShown_eq_allCounted (filed : ∀ f ∈ found, f.filed = true) : allShown found = allCounted found := by
  induction found with
  | nil => rfl
  | cons f found ih =>
    have here : f.counted = f.diagnostics := if_pos (filed f List.mem_cons_self)
    have rest := ih fun g member => filed g (List.mem_cons_of_mem _ member)
    simp only [allShown, allCounted, List.flatMap_cons] at rest ⊢
    rw [here, rest]

/-- Where as much is counted as is shown, everything could be filed that there was to file. -/
theorem filed_of_length_eq (some : ∀ f ∈ found, f.filed = false → f.diagnostics ≠ [])
    (same : (allShown found).length = (allCounted found).length) : ∀ f ∈ found, f.filed = true := by
  have most : ∀ f : Finding, f.counted.length ≤ f.diagnostics.length := by
    intro f
    unfold counted
    split <;> simp
  have most' : ∀ found : List Finding, (allCounted found).length ≤ (allShown found).length := by
    intro found
    induction found with
    | nil => exact Nat.le_refl 0
    | cons f found ih =>
      simp only [allCounted, allShown, List.flatMap_cons, List.length_append] at ih ⊢
      exact Nat.add_le_add (most f) ih
  induction found with
  | nil => exact fun f member => nomatch member
  | cons f found ih =>
    have here := most f
    have rest := most' found
    simp only [allCounted, allShown, List.flatMap_cons, List.length_append] at same here rest ih
    intro g member
    rcases List.mem_cons.mp member with rfl | member
    · cases filed : g.filed with
      | true => rfl
      | false =>
        have nonempty := List.length_pos_iff.mpr (some g List.mem_cons_self filed)
        have nothing : g.counted = [] := by simp [counted, filed]
        rw [nothing, List.length_nil] at same
        omega
    · exact ih (fun f member => some f (List.mem_cons_of_mem _ member)) (by omega) g member

/-- How many are counted is the sum over the findings. -/
theorem sum_counted (found : List Finding) :
    (found.map fun f => (f.counted.length : Int)).sum = (allCounted found).length := by
  induction found with
  | nil => rfl
  | cons f found ih =>
    have split : allCounted (f :: found) = f.counted ++ allCounted found := rfl
    rw [List.map_cons, List.sum_cons, ih, split, List.length_append]
    omega

end Finding

open Finding

variable {σ : Type}

namespace Keeper

variable {k : Keeper σ} {plts : List Path} {plt : Path} {s s' s'' : Session σ} {found more : List Finding}

/-- What a finding leaves in the warnings file: all its lines if they were filed, else those at the front. -/
structure Leaves (k : Keeper σ) (f : Finding) (part : List UInt8) : Prop where
  filed : f.filed = true → part = reportBytes (f.diagnostics.map Diagnostic.reported)
  front : part <+: reportBytes (f.diagnostics.map Diagnostic.reported)
  /-- Without a reason to stop in between nothing is left of what was not filed. -/
  refused : f.filed = false → (∀ t bytes, k.stops? t bytes = none) →
    (∀ d ∈ f.diagnostics, d.IsEncodable) → part = []

theorem leaves_of_filed {ds : List Diagnostic} :
    k.Leaves ⟨ds, true⟩ (reportBytes (ds.map Diagnostic.reported)) :=
  ⟨fun _ => rfl, List.prefix_rfl, nofun⟩

theorem leaves_of_unfiled {ds : List Diagnostic} {part : List UInt8}
    (front : part <+: reportBytes (ds.map Diagnostic.reported))
    (refused : (∀ t bytes, k.stops? t bytes = none) → (∀ d ∈ ds, d.IsEncodable) → part = []) :
    k.Leaves ⟨ds, false⟩ part :=
  ⟨nofun, front, fun _ => refused⟩

/-- Where all lines can be encoded and the system does not stop, just the lines of what is counted are left. -/
theorem flatten_of_leaves {parts : List (List UInt8)} (leaves : List.Forall₂ k.Leaves found parts)
    (unstopped : ∀ t bytes, k.stops? t bytes = none) (encodable : ∀ d ∈ allShown found, d.IsEncodable) :
    parts.flatten = reportBytes ((allCounted found).map Diagnostic.reported) := by
  induction leaves with
  | nil => rfl
  | @cons f part found parts here _ ih =>
    simp only [allShown, List.flatMap_cons, List.mem_append] at encodable
    rw [List.flatten_cons, ih fun d member => encodable d (.inr member)]
    have split : allCounted (f :: found) = f.counted ++ allCounted found := rfl
    rw [split, List.map_append, reportBytes_append]
    congr 1
    cases filed : f.filed with
    | true => rw [here.filed filed, counted, if_pos filed]
    | false =>
      rw [here.refused filed unstopped fun d member => encodable d (.inl member)]
      simp [counted, filed, reportBytes]

/-- Where all but the last finding were filed, the lines of what is counted stand in front of what the last one leaves. -/
theorem front_of_leaves {parts : List (List UInt8)} (leaves : List.Forall₂ k.Leaves found parts)
    (filed : ∀ f ∈ found.dropLast, f.filed = true) : ∃ front,
    parts.flatten = reportBytes ((allCounted found).map Diagnostic.reported) ++ front ∧
      (front = [] ∨ ∃ f, found.getLast? = some f ∧ f.filed = false ∧
        front <+: reportBytes (f.diagnostics.map Diagnostic.reported)) := by
  induction leaves with
  | nil => exact ⟨[], rfl, .inl rfl⟩
  | @cons f part found parts here later ih =>
    have split : allCounted (f :: found) = f.counted ++ allCounted found := rfl
    rw [List.flatten_cons, split, List.map_append, reportBytes_append]
    cases later with
    | nil =>
      cases wasFiled : f.filed with
      | true => exact ⟨[], by simp [here.filed wasFiled, counted, wasFiled, reportBytes], .inl rfl⟩
      | false =>
        exact ⟨part, by simp [counted, wasFiled, reportBytes], .inr ⟨f, rfl, wasFiled, here.front⟩⟩
    | @cons g next found parts there later =>
      rw [List.dropLast_cons_cons] at filed
      obtain ⟨wasFiled, filed⟩ := List.forall_mem_cons.mp filed
      obtain ⟨front, whole, ends⟩ := ih filed
      refine ⟨front, ?_, ?_⟩
      · rw [whole, here.filed wasFiled, counted, if_pos wasFiled, List.append_assoc]
      · rwa [List.getLast?_cons_cons]

/-- From the first session to the second the accounts have grown by these findings. -/
structure Tallied (k : Keeper σ) (plts : List Path) (found : List Finding) (s s' : Session σ) : Prop where
  /-- The total grows by what is counted. -/
  total : s'.total = s.total + (allCounted found).length
  /-- Each finding has its phase. -/
  phases : s'.phases.map (·.warnings) = s.phases.map (·.warnings) ++ found.map fun f => (f.counted.length : Int)
  /-- The console is given every finding. -/
  console : s'.console = s.console ++ (allShown found).map Diagnostic.reported
  /-- The warnings file grows by what each finding leaves in it. -/
  file : k.backend.Spares k.cwd plts k.output → ∀ bytes, s.tree.bytesAt? k.cwd k.output = some bytes →
    ∃ parts, List.Forall₂ k.Leaves found parts ∧
      s'.tree.bytesAt? k.cwd k.output = some (bytes ++ parts.flatten)

/-- The accounts of a session in which the warnings file holds what it did. -/
theorem Tallied.still (total : s'.total = s.total) (phases : s'.phases = s.phases) (console : s'.console = s.console)
    (file : k.backend.Spares k.cwd plts k.output → ∀ bytes, s.tree.bytesAt? k.cwd k.output = some bytes →
      s'.tree.bytesAt? k.cwd k.output = some bytes) : k.Tallied plts [] s s' :=
  ⟨total, by simp [phases], by simp [console, allShown],
    fun spares bytes before => ⟨[], .nil, by simpa using file spares bytes before⟩⟩

theorem Tallied.refl (s : Session σ) : k.Tallied plts [] s s := .still rfl rfl rfl fun _ _ before => before

theorem Tallied.trans (first : k.Tallied plts found s s') (second : k.Tallied plts more s' s'') :
    k.Tallied plts (found ++ more) s s'' where
  total := by
    rw [second.total, first.total, allCounted_append, List.length_append]
    omega
  phases := by rw [second.phases, first.phases, List.map_append, List.append_assoc]
  console := by rw [second.console, first.console, allShown_append, List.map_append, List.append_assoc]
  file := by
    intro spares bytes before
    obtain ⟨parts, leaves, middle⟩ := first.file spares bytes before
    obtain ⟨later, leavesLater, after⟩ := second.file spares _ middle
    exact ⟨parts ++ later, List.rel_append leaves leavesLater, by rw [after, List.flatten_append, List.append_assoc]⟩

/-! ## One phase -/

/-- What a phase finds when it is run in a session: nothing is recorded of one without files. -/
def findings (k : Keeper σ) (a : Analysis) (plt : Path) (files : List String) (s : Session σ) : List Finding :=
  let files := (FileSet.of k.cwd files).toList
  if files.isEmpty then []
  else match k.analyze a files plt s with
    | .error _ _ => [⟨[], true⟩]
    | .ok ds s' =>
      match k.report ds s' with
      | .ok _ _ => [⟨ds, true⟩]
      | .error _ _ => [⟨ds, false⟩]

/-- Reporting shows all diagnostics. It counts them where they could be filed, and nothing otherwise. -/
theorem report_counts (k : Keeper σ) (ds : List Diagnostic) (s : Session σ) :
    (k.report ds).Ensures s
      (fun n s' => n = ds.length ∧ s'.total = s.total + ds.length ∧ s'.phases = s.phases ∧
        s'.console = s.console ++ ds.map Diagnostic.reported ∧
        ∀ bytes, s.tree.bytesAt? k.cwd k.output = some bytes →
          s'.tree.bytesAt? k.cwd k.output = some (bytes ++ reportBytes (ds.map Diagnostic.reported)))
      fun _ s' => s'.total = s.total ∧ s'.phases = s.phases ∧
        s'.console = s.console ++ ds.map Diagnostic.reported ∧
        ∀ bytes, s.tree.bytesAt? k.cwd k.output = some bytes →
          ∃ part, k.Leaves ⟨ds, false⟩ part ∧ s'.tree.bytesAt? k.cwd k.output = some (bytes ++ part) := by
  refine ensures_report ?silent ?filed ?unfiled
  case silent =>
    rintro rfl
    exact ⟨rfl, rfl, rfl, by simp, fun bytes before => by simpa [reportBytes] using before⟩
  case filed =>
    intro t filed
    refine ⟨rfl, rfl, rfl, rfl, fun bytes before => ?_⟩
    have after := (FileTree.bytesAt?_modify (append_of_filing filed)).1
    rw [before] at after
    exact after
  case unfiled =>
    intro e t failed
    refine ⟨rfl, rfl, rfl, fun bytes before => ?_⟩
    have unchanged := fun unstopped encodable => unchanged_of_filing unstopped encodable failed
    obtain ⟨-, same | ⟨front, within, added⟩⟩ := part_of_filing failed
    · refine ⟨[], leaves_of_unfiled List.nil_prefix fun _ _ => rfl, ?_⟩
      rw [List.append_nil]
      exact same ▸ before
    · have after := (FileTree.bytesAt?_modify added).1
      rw [before] at after
      refine ⟨front, leaves_of_unfiled within fun unstopped encodable => ?_, after⟩
      rw [unchanged unstopped encodable] at after
      simpa using before.symm.trans after

/-- An analysis leaves the accounts as they are. -/
theorem analyze_tallies (member : plt ∈ plts) (a : Analysis) (files : List String) (s : Session σ) :
    (k.analyze a files plt).Ensures s (fun _ s' => k.Tallied plts [] s s') fun _ s' => k.Tallied plts [] s s' := by
  let options := k.wishes.optionsFor a files plt
  let reply := k.backend.analyze options s.tree s.backend
  have outputs : ∀ target, options.outputPlt = some target → target ∈ plts := by
    intro target output
    have same : target = plt := by cases a <;> cases output <;> rfl
    exact same ▸ member
  have tallied : k.Tallied plts [] s (answered s (.analyze options) reply) := by
    refine .still rfl rfl rfl fun spares bytes before => ?_
    exact (spares.analyze options s.tree s.backend outputs).trans before
  rw [ensures_analyze (rfl : _ = options) (rfl : _ = reply)]
  exact ⟨fun _ _ => tallied, fun _ _ => tallied⟩

/-- A phase that is recorded with what it counted. -/
theorem Tallied.recorded {f : Finding} {phase : Phase} (before : k.Tallied plts [] s s')
    (total : s''.total = s'.total + f.counted.length) (phases : s''.phases = s'.phases)
    (console : s''.console = s'.console ++ f.diagnostics.map Diagnostic.reported)
    (file : ∀ bytes, s'.tree.bytesAt? k.cwd k.output = some bytes →
      ∃ part, k.Leaves f part ∧ s''.tree.bytesAt? k.cwd k.output = some (bytes ++ part))
    (counted : phase.warnings = f.counted.length) :
    k.Tallied plts [f] s { s'' with phases := s''.phases ++ [phase] } := by
  have grown : k.Tallied plts [f] s' { s'' with phases := s''.phases ++ [phase] } := by
    have one : allCounted [f] = f.counted := by simp [allCounted]
    refine ⟨?_, ?_, ?_, fun _ => ?_⟩
    · rw [one]
      exact total
    · simp [phases, counted]
    · simpa [allShown] using console
    · intro bytes before
      obtain ⟨part, leaves, after⟩ := file bytes before
      exact ⟨[part], .cons leaves .nil, by simpa using after⟩
  exact before.trans grown

/-- A phase adds what it finds to the accounts, and returns how much of it is counted. -/
theorem runPhase_tallies (member : plt ∈ plts) (a : Analysis) (files : List String) (s : Session σ) :
    (k.runPhase a plt files).Ensures s
      (fun n s' => k.Tallied plts (k.findings a plt files s) s s' ∧
        n = (allCounted (k.findings a plt files s)).length)
      fun _ s' => k.Tallied plts (k.findings a plt files s) s s' := by
  unfold runPhase
  simp only
  rw [Act.ensures_ite]
  constructor
  · intro none
    have found : k.findings a plt files s = [] := by simp only [findings, none, if_true]
    rw [found, Act.ensures_pure]
    exact ⟨.refl s, rfl⟩
  intro some
  rw [ensures_recordPhase]
  have analysed := analyze_tallies (k := k) member a (FileSet.of k.cwd files).toList s
  cases ran : k.analyze a (FileSet.of k.cwd files).toList plt s with
  | error e s₁ =>
    have found : k.findings a plt files s = [⟨[], true⟩] := by
      simp only [findings, some, ran, Bool.false_eq_true, if_false]
    have before := analysed.of_error ran
    rw [found, Act.ensures_bind, Act.ensures_of_error ran]
    exact before.recorded rfl rfl (by simp)
      (fun bytes same => ⟨[], leaves_of_filed, by simpa using same⟩) rfl
  | ok ds s₁ =>
    have before := analysed.of_ok ran
    rw [Act.ensures_bind, Act.ensures_of_ok ran]
    cases told : k.report ds s₁ with
    | error e s₂ =>
      have found : k.findings a plt files s = [⟨ds, false⟩] := by
        simp only [findings, some, ran, told, Bool.false_eq_true, if_false]
      obtain ⟨total, phases, console, file⟩ := (report_counts k ds s₁).of_error told
      rw [found, Act.ensures_of_error told]
      exact before.recorded total phases console file rfl
    | ok n s₂ =>
      have found : k.findings a plt files s = [⟨ds, true⟩] := by
        simp only [findings, some, ran, told, Bool.false_eq_true, if_false]
      obtain ⟨rfl, total, phases, console, file⟩ := (report_counts k ds s₁).of_ok told
      rw [found, Act.ensures_of_ok told]
      refine ⟨before.recorded total phases console (fun bytes same => ?_) rfl, by simp [allCounted, counted]⟩
      exact ⟨_, leaves_of_filed, file bytes same⟩

/-! ## A course of phases -/

/-- What the maintenance of these PLTs does besides running phases. -/
inductive Aside (k : Keeper σ) (plts : List Path) (s : Session σ) : Session σ → Prop
  | logged (records : List LogRecord) : Aside k plts s { s with log := s.log ++ records }
  | asked (plt : Path) : Aside k plts s ((k.read plt).after s)
  | madeDirs (p : Path) : Aside k plts s { s with tree := (s.tree.makeDirs k.cwd p).2 }
  | copied {source target : Path} {t : FileTree} (member : target ∈ plts)
      (copied : s.tree.copy k.cwd source target = .ok t) : Aside k plts s { s with tree := t }

/-- The sessions between the phases of the maintenance of these PLTs, with what the phases have found.
A phase may end either way. -/
inductive Course (k : Keeper σ) (plts : List Path) (s : Session σ) : List Finding → Session σ → Prop
  | start : Course k plts s [] s
  | aside {found : List Finding} {s' s'' : Session σ} (before : Course k plts s found s')
      (step : k.Aside plts s' s'') : Course k plts s found s''
  | phase {found : List Finding} {s' : Session σ} (before : Course k plts s found s') (a : Analysis)
      {plt : Path} (member : plt ∈ plts) (files : List String) :
      Course k plts s (found ++ k.findings a plt files s') ((k.runPhase a plt files).after s')

theorem Course.trans (first : k.Course plts s found s') (second : k.Course plts s' more s'') :
    k.Course plts s (found ++ more) s'' := by
  induction second with
  | start => simpa using first
  | aside _ step ih => exact .aside ih step
  | phase _ a member files ih =>
    rw [← List.append_assoc]
    exact .phase ih a member files

/-- Nothing but phases touches the accounts. -/
theorem Aside.tallied (aside : k.Aside plts s s')
    (apart : ∀ plt ∈ plts, ∀ t : FileTree, ¬ t.SameFile k.cwd plt k.output) : k.Tallied plts [] s s' := by
  have unchanged : ∀ t : FileTree, (k.backend.Spares k.cwd plts k.output →
      ∀ bytes, s.tree.bytesAt? k.cwd k.output = some bytes → t.bytesAt? k.cwd k.output = some bytes) →
      k.Tallied plts [] s { s with tree := t } := fun t file => .still rfl rfl rfl file
  cases aside with
  | logged records => exact .still rfl rfl rfl fun _ _ before => before
  | asked plt =>
    have asked : (k.read plt).after s = answered s (.query plt) (k.backend.query plt s.tree s.backend) := by
      unfold Act.after read accept answered
      cases (k.backend.query plt s.tree s.backend).result <;> rfl
    rw [asked]
    refine .still rfl rfl rfl fun spares bytes before => ?_
    exact (spares.query plt s.tree s.backend).trans before
  | madeDirs p =>
    exact unchanged _ fun _ bytes before => (FileTree.makeDirs_grows s.tree k.cwd p).bytesAt? before
  | copied member copied =>
    refine unchanged _ fun _ bytes before => ?_
    obtain ⟨_, _, written, _⟩ := FileTree.copy_eq_ok copied
    have elsewhere := (FileTree.bytesAt?_modify written).2.2 k.output
    rw [elsewhere]
    · exact before
    · rintro ⟨l, output, target⟩
      exact apart _ member s.tree ⟨l, target, output⟩

/-- Along a course the accounts grow by what the phases find. -/
theorem Course.tallied (course : k.Course plts s found s')
    (apart : ∀ plt ∈ plts, ∀ t : FileTree, ¬ t.SameFile k.cwd plt k.output) : k.Tallied plts found s s' := by
  induction course with
  | start => exact .refl s
  | aside _ step ih => simpa using ih.trans (step.tallied apart)
  | @phase found s' before a plt member files ih =>
    have ends := (runPhase_tallies (k := k) member a files s').mono (fun _ _ both => both.1)
      fun _ _ tallied => tallied
    exact ih.trans ends.after

/-- An action keeps to the course, and its result weighs what its phases have found. Where it comes through all of
that has been filed; where it fails, all but the last of it. -/
def Goes {α : Type} (k : Keeper σ) (plts : List Path) (act : Act σ α) (s : Session σ)
    (weighs : α → List Finding → Prop) : Prop :=
  act.Ensures s
    (fun a s' => ∃ found, k.Course plts s found s' ∧ (∀ f ∈ found, f.filed = true) ∧ weighs a found)
    fun _ s' => ∃ found, k.Course plts s found s' ∧ ∀ f ∈ found.dropLast, f.filed = true

section
variable {α β : Type} {act : Act σ α} {weighs : α → List Finding → Prop}

theorem filed_append (first : ∀ f ∈ found, f.filed = true) (second : ∀ f ∈ more.dropLast, f.filed = true) :
    ∀ f ∈ (found ++ more).dropLast, f.filed = true := by
  intro f member
  rw [List.dropLast_append] at member
  split at member
  · exact first f (List.dropLast_subset _ member)
  · rcases List.mem_append.mp member with member | member
    · exact first f member
    · exact second f member

theorem Goes.bind {next : α → Act σ β} {final : β → List Finding → Prop} (first : k.Goes plts act s weighs)
    (second : ∀ a s' found, weighs a found →
      k.Goes plts (next a) s' fun b more => final b (found ++ more)) :
    k.Goes plts (act >>= next) s final := by
  refine Act.Ensures.bind first (fun _ _ stopped => stopped) ?_
  rintro a s' ⟨found, course, filed, weight⟩
  refine (second a s' found weight).mono ?_ ?_
  · rintro b s'' ⟨more, later, filedLater, weight⟩
    refine ⟨found ++ more, course.trans later, fun f member => ?_, weight⟩
    exact (List.mem_append.mp member).elim (filed f) (filedLater f)
  · rintro e s'' ⟨more, later, filedLater⟩
    exact ⟨found ++ more, course.trans later, filed_append filed filedLater⟩

theorem goes_pure {a : α} (weight : weighs a []) : k.Goes plts (pure a) s weighs :=
  Act.ensures_pure.mpr ⟨[], .start, nofun, weight⟩

/-- An action that takes one step aside. -/
theorem goes_of_aside (ends : act.Ensures s (fun a s' => k.Aside plts s s' ∧ weighs a [])
    fun _ s' => k.Aside plts s s') : k.Goes plts act s weighs := by
  refine ends.mono ?_ ?_
  · rintro a s' ⟨step, weight⟩
    exact ⟨[], .aside .start step, nofun, weight⟩
  · exact fun e s' step => ⟨[], .aside .start step, nofun⟩

/-- After an action that finds nothing. -/
theorem Goes.next {next : α → Act σ β} {final : β → List Finding → Prop}
    (first : k.Goes plts act s fun _ found => found = []) (second : ∀ a s', k.Goes plts (next a) s' final) :
    k.Goes plts (act >>= next) s final := by
  refine first.bind ?_
  rintro a s' _ rfl
  exact second a s'

theorem Goes.restate {f : SystemError → ToolError} (goes : k.Goes plts act s weighs) :
    k.Goes plts (Act.restate act f) s weighs :=
  Act.ensures_restate (Act.Ensures.mono goes (fun _ _ ended => ended) fun _ _ stopped _ => stopped)

end

/-! ## What keeps to the course -/

/-- A result that counts the diagnostics of what has been found. -/
def Counts (n : Nat) (found : List Finding) : Prop := n = (allCounted found).length

theorem Counts.add {m n : Nat} (first : Counts m found) (second : Counts n more) :
    Counts (m + n) (found ++ more) := by
  unfold Counts at *
  rw [first, second, allCounted_append, List.length_append]

theorem info_goes (message : String) (s : Session σ) :
    k.Goes plts (Act.info message) s fun _ found => found = [] :=
  goes_of_aside (Act.ensures_info.mpr ⟨.logged [⟨.info, message⟩], rfl⟩)

theorem read_goes (plt : Path) (s : Session σ) : k.Goes plts (k.read plt) s fun _ found => found = [] := by
  have aside : k.Aside plts s ((k.read plt).after s) := .asked plt
  apply goes_of_aside
  refine (Act.ensures_ran (k.read plt) s).mono ?_ ?_
  · intro answer s' ran
    exact ⟨Act.after_of_ok ran ▸ aside, rfl⟩
  · intro e s' ran
    exact Act.after_of_error ran ▸ aside

theorem makeDirs_goes (p : Path) (s : Session σ) :
    k.Goes plts (Act.changePartly fun t => t.makeDirs k.cwd p) s fun _ found => found = [] :=
  goes_of_aside (Act.ensures_changePartly.mpr ⟨fun _ => ⟨.madeDirs p, rfl⟩, fun _ _ => .madeDirs p⟩)

theorem ofTree_goes {α : Type} (look : FileTree → Except Failure α) (s : Session σ) :
    k.Goes plts (Act.ofTree look) s fun _ found => found = [] :=
  Act.ensures_ofTree.mpr ⟨fun _ _ => ⟨[], .start, nofun, rfl⟩, fun _ _ => ⟨[], .start, nofun⟩⟩

/-- What a phase finds that came through has been filed; one that did not has one finding at most. -/
theorem findings_filed (k : Keeper σ) (a : Analysis) (plt : Path) (files : List String) (s : Session σ) :
    (k.runPhase a plt files).Ensures s (fun _ _ => ∀ f ∈ k.findings a plt files s, f.filed = true)
      fun _ _ => ∀ f ∈ (k.findings a plt files s).dropLast, f.filed = true := by
  unfold runPhase
  simp only
  rw [Act.ensures_ite]
  constructor
  · intro none
    simp [findings, none, Act.ensures_pure]
  intro some
  rw [ensures_recordPhase, Act.ensures_bind]
  cases ran : k.analyze a (FileSet.of k.cwd files).toList plt s with
  | error e s₁ => simp [findings, some, ran, Act.ensures_of_error ran]
  | ok ds s₁ =>
    rw [Act.ensures_of_ok ran]
    cases told : k.report ds s₁ with
    | error e s₂ => simp [findings, some, ran, told, Act.ensures_of_error told]
    | ok n s₂ => simp [findings, some, ran, told, Act.ensures_of_ok told]

theorem runPhase_goes (member : plt ∈ plts) (a : Analysis) (files : List String) (s : Session σ) :
    k.Goes plts (k.runPhase a plt files) s Counts := by
  have course : k.Course plts s (k.findings a plt files s) ((k.runPhase a plt files).after s) :=
    .phase .start a member files
  refine ((Act.ensures_ran _ s).and ((runPhase_tallies member a files s).and (k.findings_filed a plt files s))).mono
    ?_ ?_
  · rintro n s' ⟨ran, ⟨-, counted⟩, filed⟩
    exact ⟨_, Act.after_of_ok ran ▸ course, filed, counted⟩
  · rintro e s' ⟨ran, -, filed⟩
    exact ⟨_, Act.after_of_error ran ▸ course, filed⟩

theorem part_goes (member : plt ∈ plts) (a : Analysis) (files : FileSet) (message : String) (s : Session σ) :
    k.Goes plts (k.part a plt files message) s Counts := by
  unfold part
  split
  · exact goes_pure rfl
  · exact (info_goes message s).next fun _ s' => runPhase_goes member a files.toList s'

/-- The result of a sync counts what its three phases have found. -/
theorem sync_goes (member : plt ∈ plts) (held required : FileSet) (s : Session σ) :
    k.Goes plts (k.sync plt held required) s Counts := by
  unfold sync
  refine (part_goes member .remove _ _ s).bind fun removed s₁ first counted => ?_
  refine (part_goes member .check _ _ s₁).bind fun checked s₂ second countedToo => ?_
  refine (part_goes member .add _ _ s₂).bind fun added s₃ third countedLast => goes_pure ?_
  rw [List.append_nil, ← List.append_assoc]
  exact (counted.add countedToo).add countedLast

theorem build_goes (member : plt ∈ plts) (files : List String) (s : Session σ) :
    k.Goes plts (k.build plt files) s Counts := by
  unfold build
  refine (makeDirs_goes plt.parent s).restate.next fun _ s₁ => ?_
  exact (info_goes _ s₁).next fun _ s₂ => runPhase_goes member .build _ s₂

end Keeper

end PltKeeper
