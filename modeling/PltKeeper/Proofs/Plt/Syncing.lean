import PltKeeper.Proofs.Backend.Exact
import PltKeeper.Proofs.Plt.Service
import PltKeeper.Proofs.Run.Traces

/-! A sync seen from the PLT that it works on. Its calls are noted down with the trees before and after them, so
that what the PLT holds can be followed from call to call: what is no longer required goes first, then nothing
changes, then what is missing comes. A call that fails changes nothing, a report that fails comes too late to
prevent anything; so wherever a sync stops, the last call and whether it came through say what the PLT holds, and a
sync from what it then holds makes good what is left to do. -/
namespace PltKeeper

variable {σ τ : Type} {format : PltFormat} {cwd : String} {plts : List Path}

/-! ## Watching a backend that works on sets -/

theorem Backend.SetSemantics.watched {b : Backend σ} (semantics : b.SetSemantics format cwd plts) :
    (b.watched cwd).SetSemantics format cwd plts where
  canonical := semantics.canonical
  asks plt t st := semantics.asks plt t st.1
  answers plt member t st := semantics.answers plt member t st.1
  formed o t st := semantics.formed o t st.1
  writes o t st := semantics.writes o t st.1
  spares o t st := semantics.spares o t st.1

theorem Backend.FailsCleanly.watched {b : Backend σ} (cleanly : b.FailsCleanly format cwd plts) :
    (b.watched cwd).FailsCleanly format cwd plts := fun o t st => cleanly o t st.1

/-- To note calls down changes nothing of them. -/
theorem Backend.mirrors_watched (b : Backend σ) (cwd : String) (plts : List Path) :
    b.Mirrors (b.watched cwd) (fun st noted => noted.1 = st) Eq plts fun _ => Eq where
  query := by
    rintro plt _ t _ noted - rfl
    exact .of_result rfl ⟨rfl, rfl⟩ rfl
  analyze := by
    rintro o t _ _ noted - rfl rfl
    exact .of_result rfl rfl rfl

/-- A call that is noted down found a PLT with the files of one set, and left it with those of another. -/
structure Moment.Turns (m : Moment) (format : PltFormat) (plt : Path) (found left : FileSet) : Prop where
  before : m.before.pltAt format m.cwd plt = .holds found
  after : m.after.pltAt format m.cwd plt = .holds left

namespace Keeper

variable {k : Keeper σ} {plt : Path} {files held required P : FileSet}

theorem Keeps.watched (keeps : k.Keeps format plts) : k.watched.Keeps format plts :=
  ⟨keeps.rooted, keeps.semantics.watched, keeps.apart⟩

/-! ## What is planned -/

/-- The call of an analysis, if there are files to work on. -/
def callOf (a : Analysis) (files : FileSet) : List (Analysis × FileSet) := if files = ∅ then [] else [(a, files)]

/-- The calls that a sync is to make, with their files: those that have any. -/
def planned (held required : FileSet) : List (Analysis × FileSet) :=
  [(.remove, held \ required), (.check, held ∩ required), (.add, required \ held)].filter fun c => c.2 ≠ ∅

theorem planned_eq (held required : FileSet) : planned held required =
    callOf .remove (held \ required) ++ callOf .check (held ∩ required) ++ callOf .add (required \ held) := by
  have each (a : Analysis) (files : FileSet) : callOf a files = [(a, files)].filter fun c => c.2 ≠ ∅ := by
    by_cases none : files = ∅ <;> simp [callOf, none]
  rw [each, each, each, ← List.filter_append, ← List.filter_append]
  rfl

/-- What is asked for a call. -/
def optionsOf (k : Keeper σ) (plt : Path) (c : Analysis × FileSet) : Options :=
  k.wishes.optionsFor c.1 c.2.toList plt

/-- What a PLT that held these files holds when the last call of a sync was this one, by whether it came
through. -/
def contentsAt (P held required : FileSet) : Analysis → Bool → FileSet
  | .remove, false => P
  | .add, true => (P \ (held \ required)) ∪ (required \ held)
  | _, _ => P \ (held \ required)

/-! ## One call -/

/-- One call was made, of an analysis on a PLT that held these files. Whether it came through decides what the PLT
holds now. -/
structure Called (k : Keeper σ) (format : PltFormat) (plt : Path) (c : Analysis × FileSet) (found : FileSet)
    (r r' : Session (σ × List Moment)) (m : Moment) : Prop where
  noted : r'.backend.2 = r.backend.2 ++ [m]
  options : m.options = k.optionsOf plt c
  turns : m.Turns format plt found (if m.succeeded then c.1.outcome found c.2 else found)
  now : r'.tree.pltAt format k.cwd plt = .holds (if m.succeeded then c.1.outcome found c.2 else found)

/-- An analysis is noted down, with the trees around it, and whether it came through. -/
theorem analyze_noted (a : Analysis) (files : List String) (plt : Path) (r : Session (σ × List Moment)) :
    (k.watched.analyze a files plt).Ensures r
      (fun _ r' => r'.backend.2 = r.backend.2 ++ [⟨k.cwd, k.wishes.optionsFor a files plt, r.tree, r'.tree, true⟩])
      fun _ r' => r'.backend.2 = r.backend.2 ++ [⟨k.cwd, k.wishes.optionsFor a files plt, r.tree, r'.tree, false⟩] := by
  refine (ensures_analyze rfl rfl).mpr ⟨fun ds given => ?_, fun e failed => ?_⟩
  · simp only [answered, watched, on, Backend.watched] at given ⊢
    simp [given, succeeds]
  · simp only [answered, watched, on, Backend.watched] at failed ⊢
    simp [failed, succeeds]

/-- Reporting warnings is no call. -/
theorem report_unnoted (k : Keeper τ) (ds : List Diagnostic) (s : Session τ) :
    (k.report ds).Ensures s (fun _ s' => s'.backend = s.backend) fun _ s' => s'.backend = s.backend :=
  ensures_report (fun _ => rfl) (fun _ _ => rfl) fun _ _ _ => rfl

section
variable {a : Analysis} {found : FileSet} {r : Session (σ × List Moment)} (keeps : k.Keeps format plts)
  (cleanly : k.backend.FailsCleanly format k.cwd plts) (canonical : files.Canonical k.cwd) (member : plt ∈ plts)
  (holds : r.tree.pltAt format k.cwd plt = .holds found)
include keeps cleanly canonical member holds

/-- A phase with files makes one call. If it fails, that call may have come through: then the report did not. -/
theorem runPhase_called (filled : files ≠ ∅) :
    (k.watched.runPhase a plt files.toList).Ensures r
      (fun _ r' => ∃ m, k.Called format plt (a, files) found r r' m ∧ m.succeeded = true)
      fun _ r' => ∃ m, k.Called format plt (a, files) found r r' m := by
  have nonempty : files.isEmpty = false := Bool.eq_false_iff.mpr (mt FileSet.isEmpty_iff.mp filled)
  have sameSet : FileSet.of k.watched.cwd files.toList = files := FileSet.of_toList canonical
  unfold runPhase
  simp only [sameSet, FileSet.isEmpty_toList, nonempty, Bool.false_eq_true, if_false]
  refine ensures_recordPhase.mpr
    (((analyze_ends keeps.watched canonical member a r).and (analyze_noted a files.toList plt r)).bind ?_ ?_)
  · -- The call failed, and left the PLT as it was.
    rintro e r₁ ⟨⟨-, same⟩, noted⟩
    have still : r₁.tree.pltAt format k.cwd plt = .holds found := (same cleanly.watched plt member).trans holds
    exact ⟨_, noted, rfl, ⟨holds, still⟩, still⟩
  · rintro ds r₁ ⟨⟨-, analysed⟩, noted⟩
    have turned := (analysed.of_holds member holds).1
    refine ((report_ends keeps.watched ds r₁).and (report_unnoted k.watched ds r₁)).mono ?_ ?_
    · rintro n r₂ ⟨⟨-, same⟩, unnoted⟩
      have now : r₂.tree.pltAt format k.cwd plt = .holds (a.outcome found files) := (same plt member).trans turned
      exact ⟨_, ⟨(congrArg Prod.snd unnoted).trans noted, rfl, ⟨holds, turned⟩, now⟩, rfl⟩
    · rintro e r₂ ⟨⟨-, same⟩, unnoted⟩
      have now : r₂.tree.pltAt format k.cwd plt = .holds (a.outcome found files) := (same plt member).trans turned
      exact ⟨_, (congrArg Prod.snd unnoted).trans noted, rfl, ⟨holds, turned⟩, now⟩

end

/-! ## Calls in a row -/

/-- These calls were made and came through, and all the while the PLT held files of these sets only. -/
def Went (k : Keeper σ) (format : PltFormat) (plt : Path) (among : FileSet → Prop)
    (calls : List (Analysis × FileSet)) (r r' : Session (σ × List Moment)) : Prop :=
  ∃ ms, r'.backend.2 = r.backend.2 ++ ms ∧ ms.map (·.options) = calls.map (k.optionsOf plt) ∧
    ∀ m ∈ ms, m.succeeded = true ∧ ∃ found left, among found ∧ among left ∧ m.Turns format plt found left

/-- Some of these calls were made and came through, and the next one was the last, whether it came through or
not. -/
def Halted (k : Keeper σ) (format : PltFormat) (plt : Path) (among : FileSet → Prop) (P held required : FileSet)
    (calls : List (Analysis × FileSet)) (r r' : Session (σ × List Moment)) : Prop :=
  ∃ ms last, r'.backend.2 = r.backend.2 ++ ms ++ [last] ∧
    (ms ++ [last]).map (·.options) <+: calls.map (k.optionsOf plt) ∧ (∀ m ∈ ms, m.succeeded = true) ∧
    (∀ m ∈ ms ++ [last], ∃ found left, among found ∧ among left ∧ m.Turns format plt found left) ∧
    r'.tree.pltAt format k.cwd plt = .holds (contentsAt P held required last.options.analysis last.succeeded)

variable {among : FileSet → Prop} {calls more : List (Analysis × FileSet)} {r r' r'' : Session (σ × List Moment)}

theorem Went.trans (first : k.Went format plt among calls r r') (second : k.Went format plt among more r' r'') :
    k.Went format plt among (calls ++ more) r r'' := by
  obtain ⟨ms, noted, options, sound⟩ := first
  obtain ⟨ms', noted', options', sound'⟩ := second
  refine ⟨ms ++ ms', by rw [noted', noted, List.append_assoc], by simp [options, options'], fun m member => ?_⟩
  exact (List.mem_append.mp member).elim (sound m) (sound' m)

theorem Went.nil (same : r'.backend.2 = r.backend.2) : k.Went format plt among [] r r' :=
  ⟨[], by simpa using same, rfl, fun _ never => absurd never List.not_mem_nil⟩

theorem Went.of_called {c : Analysis × FileSet} {found : FileSet} {m : Moment}
    (called : k.Called format plt c found r r' m) (through : m.succeeded = true) (before : among found)
    (after : among (c.1.outcome found c.2)) : k.Went format plt among [c] r r' := by
  refine ⟨[m], called.noted, by simp [called.options], fun m' member => ?_⟩
  obtain rfl := List.mem_singleton.mp member
  have turns := called.turns
  rw [through] at turns
  exact ⟨through, _, _, before, after, turns⟩

/-- After some calls that came through, one that is the last. -/
theorem Went.halted {c : Analysis × FileSet} {found : FileSet} {m : Moment}
    (went : k.Went format plt among calls r r') (called : k.Called format plt c found r' r'' m)
    (before : among found) (after : among (c.1.outcome found c.2)) (front : calls ++ [c] <+: more)
    (state : (if m.succeeded then c.1.outcome found c.2 else found) = contentsAt P held required c.1 m.succeeded) :
    k.Halted format plt among P held required more r r'' := by
  obtain ⟨ms, noted, options, sound⟩ := went
  refine ⟨ms, m, by rw [called.noted, noted], ?_, fun m' member => (sound m' member).1, ?_, ?_⟩
  · have asked := front.map (k.optionsOf plt)
    rwa [List.map_append, ← options, List.map_singleton, ← called.options, ← List.map_singleton,
      ← List.map_append] at asked
  · intro m' member
    rcases List.mem_append.mp member with member | member
    · exact (sound m' member).2
    · obtain rfl := List.mem_singleton.mp member
      have left : among (if m'.succeeded then c.1.outcome found c.2 else found) := by
        split
        · exact after
        · exact before
      exact ⟨_, _, before, left, called.turns⟩
  · have analysis : m.options.analysis = c.1 := by
      rw [called.options]
      rfl
    rw [called.now, state, analysis]

/-- A part of a sync makes one call if it has files. -/
theorem part_went {a : Analysis} {found : FileSet} (keeps : k.Keeps format plts)
    (cleanly : k.backend.FailsCleanly format k.cwd plts) (canonical : files.Canonical k.cwd) (member : plt ∈ plts)
    (notBuild : a ≠ .build) (holds : r.tree.pltAt format k.cwd plt = .holds found) (before : among found)
    (after : among (a.outcome found files)) (message : String) :
    (k.watched.part a plt files message).Ensures r
      (fun _ r' => k.Went format plt among (callOf a files) r r' ∧
        r'.tree.pltAt format k.cwd plt = .holds (a.outcome found files))
      fun _ r' => ∃ m, callOf a files = [(a, files)] ∧ k.Called format plt (a, files) found r r' m := by
  unfold part callOf
  refine Act.ensures_ite.mpr ⟨fun none => ?_, fun filled => ?_⟩
  · obtain rfl : files = ∅ := FileSet.isEmpty_iff.mp none
    rw [Act.ensures_pure, if_pos rfl, Analysis.outcome_empty notBuild]
    exact ⟨.nil rfl, holds⟩
  · have filled : files ≠ ∅ := mt FileSet.isEmpty_iff.mpr filled
    rw [Act.ensures_bind, Act.ensures_info, if_neg filled]
    have phase := runPhase_called (a := a) (r := { r with log := r.log ++ [⟨.info, message⟩] }) keeps cleanly canonical
      member holds filled
    refine phase.mono ?_ ?_
    · rintro n r' ⟨m, called, through⟩
      have now := called.now
      rw [through] at now
      exact ⟨Went.of_called ⟨called.noted, called.options, called.turns, called.now⟩ through before after, now⟩
    · rintro e r' ⟨m, called⟩
      exact ⟨m, rfl, called.noted, called.options, called.turns, called.now⟩

/-- A sync makes the calls that are planned, or stops after one of them. -/
theorem sync_went (keeps : k.Keeps format plts) (cleanly : k.backend.FailsCleanly format k.cwd plts)
    (heldKeys : held.Canonical k.cwd) (keys : required.Canonical k.cwd) (member : plt ∈ plts)
    (holds : r.tree.pltAt format k.cwd plt = .holds P) (first : among P) (second : among (P \ (held \ required)))
    (third : among ((P \ (held \ required)) ∪ (required \ held))) :
    (k.watched.sync plt held required).Ensures r
      (fun _ r' => k.Went format plt among (planned held required) r r' ∧
        r'.tree.pltAt format k.cwd plt = .holds ((P \ (held \ required)) ∪ (required \ held)))
      fun _ r' => k.Halted format plt among P held required (planned held required) r r' := by
  rw [planned_eq]
  unfold sync Delta.between
  have removing := fun message =>
    part_went (a := .remove) keeps cleanly (heldKeys.diff required) member (by decide) holds first second message
  refine (removing _).bind ?_ ?_
  · rintro e r' ⟨m, call, called⟩
    refine (Went.nil rfl).halted called first second ?_ ?_
    · rw [call]
      exact ⟨_, (List.append_assoc _ _ _).symm⟩
    · cases m.succeeded <;> rfl
  rintro _ r₁ ⟨removed, holds₁⟩
  have checking := fun message =>
    part_went (a := .check) keeps cleanly (heldKeys.inter required) member (by decide) holds₁ second second message
  refine (checking _).bind ?_ ?_
  · rintro e r' ⟨m, call, called⟩
    refine removed.halted called second second ?_ ?_
    · rw [call]
      exact ⟨_, rfl⟩
    · cases m.succeeded <;> rfl
  rintro _ r₂ ⟨checked, holds₂⟩
  refine (part_went (a := .add) keeps cleanly (keys.diff held) member (by decide) holds₂ second third _).bind ?_ ?_
  · rintro e r' ⟨m, call, called⟩
    refine (removed.trans checked).halted called second third ?_ ?_
    · simp only [call, List.prefix_rfl]
    · cases m.succeeded <;> rfl
  rintro _ r₃ ⟨added, holds₃⟩
  rw [Act.ensures_pure]
  exact ⟨(removed.trans checked).trans added, holds₃⟩

/-- Every file that is held or required is given to exactly one call, and to it once. -/
theorem count_planned (held required : FileSet) (file : String) :
    ((planned held required).flatMap fun c => c.2.toList).count file = if file ∈ held ∪ required then 1 else 0 := by
  have given (a : Analysis) (files : FileSet) : ((callOf a files).flatMap fun c => c.2.toList) = files.toList := by
    unfold callOf
    split
    · rename_i none
      rw [none]
      rfl
    · simp
  rw [planned_eq, List.flatMap_append, List.flatMap_append, given, given, given, List.count_append, List.count_append,
    FileSet.count_toList, FileSet.count_toList, FileSet.count_toList]
  by_cases inHeld : file ∈ held <;> by_cases inRequired : file ∈ required <;> simp [inHeld, inRequired]

/-! ## What a PLT holds on the way -/

/-- What a PLT that held just the files that a sync was told of holds when this call was the last. -/
def contentsLeft (held required : FileSet) : Analysis → Bool → FileSet
  | .remove, false => held
  | .add, true => required
  | _, _ => held ∩ required

theorem contentsAt_held (held required : FileSet) (a : Analysis) (cameThrough : Bool) :
    contentsAt held held required a cameThrough = contentsLeft held required a cameThrough := by
  have kept : held \ (held \ required) = held ∩ required := FileSet.diff_diff_self
  have complete : (held ∩ required) ∪ (required \ held) = required := FileSet.inter_union_diff
  cases a <;> cases cameThrough <;> simp [contentsAt, contentsLeft, kept, complete]

/-- What may be found in a PLT while it is synced: all that is held and required, and nothing else but what was
held, or just what is required; at no time more files than before or after. -/
structure Between (held required files : FileSet) : Prop where
  keeps : ∀ file ∈ held ∩ required, file ∈ files
  within : (∀ file ∈ files, file ∈ held) ∨ files = required
  size : files.size ≤ max held.size required.size

theorem between_held (held required : FileSet) : Between held required held :=
  ⟨fun _ member => (FileSet.mem_inter.mp member).1, .inl fun _ member => member, le_max_left _ _⟩

theorem between_inter (held required : FileSet) : Between held required (held ∩ required) where
  keeps _ member := member
  within := .inl fun _ member => (FileSet.mem_inter.mp member).1
  size := by
    have smaller := FileSet.size_le_of_subset fun file (member : file ∈ held ∩ required) => (FileSet.mem_inter.mp member).1
    exact Nat.le_trans smaller (Nat.le_max_left _ _)

theorem between_required (held required : FileSet) : Between held required required :=
  ⟨fun _ member => (FileSet.mem_inter.mp member).2, .inr rfl, le_max_right _ _⟩

/-! ## Once more -/

/-- A sync from what a PLT is found to hold. -/
def resync (k : Keeper σ) (plt : Path) (required : FileSet) : Act σ Nat := do
  let held ← k.read plt
  k.sync plt (held.getD ∅) required

theorem resync_ends {s : Session σ} {files : FileSet} (keeps : k.Keeps format plts)
    (keys : required.Canonical k.cwd) (member : plt ∈ plts) (holds : s.tree.pltAt format k.cwd plt = .holds files) :
    (k.resync plt required).Ensures s (fun _ s' => s'.tree.pltAt format k.cwd plt = .holds required)
      fun _ _ => True := by
  refine (read_ends keeps member s).bind (fun _ _ _ => trivial) ?_
  rintro answer s₁ ⟨-, same, said⟩
  obtain rfl := PltState.ofAnswer_eq_holds_iff.mp (said.symm.trans holds)
  have fileKeys := keeps.semantics.canonical_of_pltAt holds
  refine (sync_ends keeps fileKeys keys member s₁).mono (fun n s₂ synced => ?_) fun _ _ _ => trivial
  exact (synced.2.of_holds member (same ▸ holds)).1

theorem resync_succeeds {s : Session σ} {files : FileSet} {room : FileTree} (keeps : k.Keeps format plts)
    (serves : k.backend.Serves format k.cwd plts) (legible : k.Legible) (keys : required.Canonical k.cwd)
    (member : plt ∈ plts) (sturdy : k.Sturdy room plts s.tree) (holds : s.tree.pltAt format k.cwd plt = .holds files) :
    (k.resync plt required).Succeeds s fun _ s' => s'.tree.pltAt format k.cwd plt = .holds required := by
  have comesThrough : (k.resync plt required).Succeeds s fun _ _ => True := by
    refine Act.Succeeds.bind (read_succeeds keeps serves member (by simp [holds])) ?_
    rintro answer s₁ ⟨-, same, said⟩
    obtain rfl := PltState.ofAnswer_eq_holds_iff.mp (said.symm.trans holds)
    have fileKeys := keeps.semantics.canonical_of_pltAt holds
    exact (sync_succeeds keeps serves legible fileKeys keys member (same ▸ sturdy) (same ▸ holds)).mono
      (fun _ _ _ => trivial) fun _ _ never => never
  exact (comesThrough.and (resync_ends keeps keys member holds)).mono (fun _ _ both => both.2) fun _ _ never => never

/-! ## The whole of it -/

/-- Noting its calls down changes nothing of a sync. -/
theorem sync_watched (k : Keeper σ) (plt : Path) (held required : FileSet) (s : Session σ) :
    (∃ n s' ms, k.sync plt held required s = .ok n s' ∧
        k.watched.sync plt held required (s.on (s.backend, [])) = .ok n (s'.on (s'.backend, ms))) ∨
      ∃ e s' ms, k.sync plt held required s = .error e s' ∧
        k.watched.sync plt held required (s.on (s.backend, [])) = .error e (s'.on (s'.backend, ms)) := by
  have mirrors := k.backend.mirrors_watched k.cwd [plt]
  have disregards : k.Disregards fun _ => Eq := by
    rintro a files plt ds _ rfl
    rfl
  have alike : Session.Alike (fun st (noted : σ × List Moment) => noted.1 = st) s (s.on (s.backend, [])) :=
    ⟨_, rfl, rfl⟩
  have abreast : k.Abreast (Tie.alike fun st (noted : σ × List Moment) => noted.1 = st) [plt] k.watched :=
    ⟨rfl, Tie.alike_lasting _ _ _, fun a _ _ member files _ _ alike =>
      sideBySide_runPhase mirrors disregards member alike a files⟩
  rcases (sync_abreast abreast List.mem_cons_self held required alike).alike with
    ⟨n, s', _, ran, ran', ⟨_, ms⟩, rfl, rfl⟩ | ⟨e, s', _, failed, failed', ⟨_, ms⟩, rfl, rfl⟩
  · exact .inl ⟨n, s', ms, ran, ran'⟩
  · exact .inr ⟨e, s', ms, failed, failed'⟩

/-- What a PLT may be found to hold on the way, if at first it held just what the sync was told of. -/
def Foreseen (P held required files : FileSet) : Prop := P = held → Between held required files

theorem between_of_foreseen {ms : List Moment} (same : P = held) (sound : ∀ m ∈ ms, ∃ found left,
      Foreseen P held required found ∧ Foreseen P held required left ∧ m.Turns format plt found left) :
    ∀ m ∈ ms, ∃ found left, Between held required found ∧ Between held required left ∧ m.Turns format plt found left := by
  intro m member
  obtain ⟨found, left, before, after, turns⟩ := sound m member
  exact ⟨found, left, before same, after same, turns⟩

section

variable {s s' : Session σ} (keeps : k.Keeps format [plt]) (cleanly : k.backend.FailsCleanly format k.cwd [plt])
  (heldKeys : held.Canonical k.cwd) (keys : required.Canonical k.cwd)
  (holds : s.tree.pltAt format k.cwd plt = .holds P)

include keeps cleanly heldKeys keys holds

/-- Of the three sets that a PLT holds on the way, each is as foreseen. -/
theorem sync_foreseen : (k.watched.sync plt held required).Ensures (s.on (s.backend, []))
    (fun _ r' => k.Went format plt (Foreseen P held required) (planned held required) (s.on (s.backend, [])) r' ∧
      r'.tree.pltAt format k.cwd plt = .holds ((P \ (held \ required)) ∪ (required \ held)))
    fun _ r' => k.Halted format plt (Foreseen P held required) P held required (planned held required)
      (s.on (s.backend, [])) r' := by
  have kept : held \ (held \ required) = held ∩ required := FileSet.diff_diff_self
  have complete : (held ∩ required) ∪ (required \ held) = required := FileSet.inter_union_diff
  refine sync_went keeps cleanly heldKeys keys (List.mem_singleton_self plt) holds ?_ ?_ ?_
  · intro same
    rw [same]
    exact between_held held required
  · intro same
    rw [same, kept]
    exact between_inter held required
  · intro same
    rw [same, kept, complete]
    exact between_required held required

theorem calls_of_sync {n : Nat} (ran : k.sync plt held required s = .ok n s') : ∃ ms,
    k.watched.sync plt held required (s.on (s.backend, [])) = .ok n (s'.on (s'.backend, ms)) ∧
    ms.map (·.options) = (planned held required).map (k.optionsOf plt) ∧ (∀ m ∈ ms, m.succeeded = true) ∧
    (∀ m ∈ ms, ∃ found left, Foreseen P held required found ∧ Foreseen P held required left ∧
      m.Turns format plt found left) ∧
    s'.tree.pltAt format k.cwd plt = .holds ((P \ (held \ required)) ∪ (required \ held)) := by
  rcases k.sync_watched plt held required s with ⟨_, _, noted, ran', watched⟩ | ⟨_, _, _, failed, -⟩
  · cases ran'.symm.trans ran
    obtain ⟨⟨ms, notes, options, sound⟩, left⟩ := (sync_foreseen keeps cleanly heldKeys keys holds).of_ok watched
    have notes : noted = ms := by simpa [Session.on] using notes
    exact ⟨ms, notes ▸ watched, options, fun m member => (sound m member).1, fun m member => (sound m member).2, left⟩
  · cases failed.symm.trans ran

theorem calls_of_halt {e : Failure} (failed : k.sync plt held required s = .error e s') : ∃ ms last,
    k.watched.sync plt held required (s.on (s.backend, [])) = .error e (s'.on (s'.backend, ms ++ [last])) ∧
    (ms ++ [last]).map (·.options) <+: (planned held required).map (k.optionsOf plt) ∧
    (∀ m ∈ ms, m.succeeded = true) ∧
    (∀ m ∈ ms ++ [last], ∃ found left, Foreseen P held required found ∧ Foreseen P held required left ∧
      m.Turns format plt found left) ∧
    s'.tree.pltAt format k.cwd plt = .holds (contentsAt P held required last.options.analysis last.succeeded) := by
  rcases k.sync_watched plt held required s with ⟨_, _, _, ran, -⟩ | ⟨_, _, noted, failed', watched⟩
  · cases ran.symm.trans failed
  · cases failed'.symm.trans failed
    obtain ⟨ms, last, notes, options, through, sound, left⟩ :=
      (sync_foreseen keeps cleanly heldKeys keys holds).of_error watched
    have notes : noted = ms ++ [last] := by simpa [Session.on] using notes
    exact ⟨ms, last, notes ▸ watched, options, through, sound, left⟩

end

/-- A sync from the files that it is told a PLT holds to those required, where the PLT holds the files `P`. -/
structure Syncs (k : Keeper σ) (format : PltFormat) (plt : Path) (P held required : FileSet) (s : Session σ) :
    Prop where
  /-- The files of each call are given in increasing order, -/
  increasing : ∀ c ∈ planned held required, c.2.toList.Pairwise (· < ·)
  /-- and each file to one call, once. -/
  once : ∀ file, ((planned held required).flatMap fun c => c.2.toList).count file =
    if file ∈ held ∪ required then 1 else 0
  /-- A sync that comes through made the calls that are planned, and leaves what the sets say. -/
  completed : ∀ n s', k.sync plt held required s = .ok n s' → ∃ ms,
    k.watched.sync plt held required (s.on (s.backend, [])) = .ok n (s'.on (s'.backend, ms)) ∧
    ms.map (·.options) = (planned held required).map (k.optionsOf plt) ∧ (∀ m ∈ ms, m.succeeded = true) ∧
    s'.tree.pltAt format k.cwd plt = .holds ((P \ (held \ required)) ∪ (required \ held)) ∧
    (P = held → s'.tree.pltAt format k.cwd plt = .holds required ∧
      ∀ m ∈ ms, ∃ found left, Between held required found ∧ Between held required left ∧ m.Turns format plt found left)
  /-- One that fails made the first of them, and all but the last one came through. -/
  stopped : ∀ e s', k.sync plt held required s = .error e s' → ∃ ms last,
    k.watched.sync plt held required (s.on (s.backend, [])) = .error e (s'.on (s'.backend, ms ++ [last])) ∧
    (ms ++ [last]).map (·.options) <+: (planned held required).map (k.optionsOf plt) ∧
    (∀ m ∈ ms, m.succeeded = true) ∧
    (P = held → s'.tree.pltAt format k.cwd plt =
        .holds (contentsLeft held required last.options.analysis last.succeeded) ∧
      ∀ m ∈ ms ++ [last], ∃ found left, Between held required found ∧ Between held required left ∧
        m.Turns format plt found left)
  /-- After that a sync from what is found in the PLT, which may also fail, leaves what is required if it does not; -/
  resynced : ∀ e s', k.sync plt held required s = .error e s' →
    ∀ n s'', k.resync plt required s' = .ok n s'' → s''.tree.pltAt format k.cwd plt = .holds required
  /-- and it does not fail with a backend that does what it can, where there is room and what is found can be filed. -/
  recovers : ∀ e s', k.sync plt held required s = .error e s' → ∀ {τ : Type} (b : Backend τ) (r : Session τ) room,
    r.tree = s'.tree → (k.on b).Keeps format [plt] → b.Serves format k.cwd [plt] → (k.on b).Legible →
    (k.on b).Sturdy room [plt] r.tree →
      ∃ n r', (k.on b).resync plt required r = .ok n r' ∧ r'.tree.pltAt format k.cwd plt = .holds required

/-- A sync, told of any files as held and as required, by whatever spelling, on a PLT that holds any others. -/
theorem sync_of_contents {k : Keeper σ} {plt : Path} (keeps : k.Keeps format [plt])
    (cleanly : k.backend.FailsCleanly format k.cwd [plt]) {P : FileSet} {s : Session σ}
    (holds : s.tree.pltAt format k.cwd plt = .holds P) (old new : List String) :
    k.Syncs format plt P (.of k.cwd old) (.of k.cwd new) s := by
  have heldKeys := FileSet.canonical_of keeps.rooted old
  have keys := FileSet.canonical_of keeps.rooted new
  generalize FileSet.of k.cwd old = held at heldKeys ⊢
  generalize FileSet.of k.cwd new = required at keys ⊢
  refine ⟨fun c _ => c.2.increasing, count_planned held required, ?completed, ?stopped, ?resynced, ?recovers⟩
  case completed =>
    intro n s' ran
    obtain ⟨ms, watched, options, through, sound, left⟩ := calls_of_sync keeps cleanly heldKeys keys holds ran
    refine ⟨ms, watched, options, through, left, fun same => ⟨?_, between_of_foreseen same sound⟩⟩
    rwa [same, FileSet.diff_diff_self, FileSet.inter_union_diff] at left
  all_goals
    intro e s' failed
    obtain ⟨ms, last, watched, options, through, sound, left⟩ := calls_of_halt keeps cleanly heldKeys keys holds failed
  case stopped =>
    refine ⟨ms, last, watched, options, through, fun same => ⟨?_, between_of_foreseen same sound⟩⟩
    rw [left, same, contentsAt_held]
  case resynced =>
    intro n s'' ran
    exact (resync_ends keeps keys (List.mem_singleton_self plt) left).of_ok ran
  case recovers =>
    intro τ b r room sameTree keeps' serves legible sturdy
    have succeeds := resync_succeeds keeps' serves legible keys (List.mem_singleton_self plt) sturdy (sameTree ▸ left)
    cases ran : (k.on b).resync plt required r with
    | ok n r' => exact ⟨n, r', rfl, succeeds.of_ok ran⟩
    | error e r' => exact (succeeds.of_error ran).elim

/-- A keeper whose backend fails in its second call. -/
def failingOnce : Keeper Nat where
  backend := Exact.backend "/w" (fun n => if n = 1 then some (.tool (.backend "no analysis")) else none) []
  cwd := "/w"
  wishes := {}
  output := Path.parse "/w/26.dialyzer_warnings"

/-- A PLT of two files. -/
def pairSession : Session Nat where
  tree := ⟨[(["w"], .dir), (["w", "rebar3_26_plt"], .file (Exact.encode ["/a.beam", "/b.beam"]))]⟩
  backend := 0

/-- Where it is kept. -/
def pairPlt : Path := Path.parse "/w/rebar3_26_plt"

/-- The check fails, after the one file that is no longer required has been removed. -/
theorem syncs_of_failed_check :
    pairSession.tree.pltAt (Exact.contents "/w") "/w" pairPlt = .holds (.of "/w" ["/x/../b.beam", "/a.beam"]) ∧
    failingOnce.Syncs (Exact.contents "/w") pairPlt (.of "/w" ["/x/../b.beam", "/a.beam"])
      (.of "/w" ["/x/../b.beam", "/a.beam"]) (.of "/w" ["c.beam", "/b.beam"]) pairSession ∧
    ∃ e s', failingOnce.sync pairPlt (.of "/w" ["/x/../b.beam", "/a.beam"]) (.of "/w" ["c.beam", "/b.beam"])
        pairSession = .error e s' ∧
      s'.tree.pltAt (Exact.contents "/w") "/w" pairPlt = .holds (.of "/w" ["/b.beam"]) := by
  have rooted : Path.Rooted "/w" := by decide +kernel
  have apart : ∀ plt ∈ [pairPlt], ∀ t : FileTree, ¬ t.SameFile "/w" plt failingOnce.output := by
    rintro _ member t
    obtain rfl := List.mem_singleton.mp member
    have named : pairPlt.parts.getLast? = some "rebar3_26_plt" := by decide +kernel
    have named' : failingOnce.output.parts.getLast? = some "26.dialyzer_warnings" := by decide +kernel
    exact FileTree.not_sameFile_of_names named named' (by decide) (by decide) (by decide)
  have keeps : failingOnce.Keeps (Exact.contents "/w") [pairPlt] := ⟨rooted, Exact.setSemantics rooted, apart⟩
  have holds : pairSession.tree.pltAt (Exact.contents "/w") "/w" pairPlt =
      .holds (.of "/w" ["/x/../b.beam", "/a.beam"]) := by decide +kernel
  have syncs := sync_of_contents keeps Exact.failsCleanly holds ["/x/../b.beam", "/a.beam"] ["c.beam", "/b.beam"]
  let sync : Act Nat Nat := failingOnce.sync pairPlt (.of "/w" ["/x/../b.beam", "/a.beam"]) (.of "/w" ["c.beam", "/b.beam"])
  have fails : sync.check pairSession (fun _ _ => true) = false := by decide +kernel
  have left : (sync.after pairSession).tree.pltAt (Exact.contents "/w") "/w" pairPlt = .holds (.of "/w" ["/b.beam"]) := by
    decide +kernel
  refine ⟨holds, syncs, ?_⟩
  cases ran : sync pairSession with
  | ok n s' =>
    rw [Act.check, ran] at fails
    cases fails
  | error e s' =>
    rw [Act.after_of_error ran] at left
    exact ⟨e, s', ran, left⟩

end Keeper

end PltKeeper
