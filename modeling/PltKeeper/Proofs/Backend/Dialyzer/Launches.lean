import PltKeeper.Proofs.Undisturbed

/-! Which processes are launched on the way from one shell to a later one, and whether the user stopped one of
them. Who launches a process hears of that: it fails as interrupted just where the process was. -/
namespace PltKeeper

open OnlyFails

namespace Shell

variable {sh sh' sh'' : Shell} {stopped : Prop}

/-- The processes to come in the second shell are those that the launches since the first one have left. -/
def Launched (sh sh' : Shell) : Prop :=
  sh.launches.length ≤ sh'.launches.length ∧
    sh'.pending = sh.pending.drop (sh'.launches.length - sh.launches.length)

/-- Of the processes launched from the first shell to the second, the user stopped one. -/
def Interrupted (sh sh' : Shell) : Prop :=
  ∃ p ∈ sh.pending.take (sh'.launches.length - sh.launches.length), p.ended = .interrupted

/-- The second shell comes of launches from the first one, of which the user stopped one just if it is said. -/
def Ran (sh sh' : Shell) (stopped : Prop) : Prop := sh.Launched sh' ∧ (sh.Interrupted sh' ↔ stopped)

theorem ran_refl : sh.Ran sh False := by
  refine ⟨⟨Nat.le_refl _, by simp⟩, ?_⟩
  simp [Interrupted]

/-- Launches one after the other are those of both. -/
theorem take_launches (first : sh.Launched sh') (second : sh'.Launched sh'') :
    sh.pending.take (sh''.launches.length - sh.launches.length) =
      sh.pending.take (sh'.launches.length - sh.launches.length) ++
        sh'.pending.take (sh''.launches.length - sh'.launches.length) := by
  obtain ⟨before, left⟩ := first
  obtain ⟨after, -⟩ := second
  rw [left, ← List.take_add]
  congr 1
  omega

theorem Launched.trans (first : sh.Launched sh') (second : sh'.Launched sh'') : sh.Launched sh'' := by
  obtain ⟨before, left⟩ := first
  obtain ⟨after, leftToo⟩ := second
  refine ⟨Nat.le_trans before after, ?_⟩
  rw [leftToo, left, List.drop_drop]
  congr 1
  omega

/-- What comes after launches that the user let be is stopped just where its own launches are. -/
theorem Ran.trans (first : sh.Ran sh' False) (second : sh'.Ran sh'' stopped) : sh.Ran sh'' stopped := by
  refine ⟨first.1.trans second.1, ?_⟩
  rw [← second.2, Interrupted, take_launches first.1 second.1]
  constructor
  · rintro ⟨p, member, here⟩
    rcases List.mem_append.mp member with early | late
    · exact (first.2.mp ⟨p, early, here⟩).elim
    · exact ⟨p, late, here⟩
  · rintro ⟨p, member, here⟩
    exact ⟨p, List.mem_append_right _ member, here⟩

theorem Ran.congr {other : Prop} (ran : sh.Ran sh' stopped) (same : stopped ↔ other) : sh.Ran sh' other :=
  ⟨ran.1, ran.2.trans same⟩

/-- The wait for a process ends as interrupted just where the process does. -/
theorem waited_eq_interrupted {programs : Programs} {l : Launch} {ended : ProcessEnd} :
    waited programs l ended = .ok .interrupted ↔ ended = .interrupted := by
  unfold waited
  cases l.overlong? programs with
  | none => simp
  | some text => cases ended <;> simp [ProcessEnd.isAwaited]

theorem launch_of_usable {l : Launch} (usable : l.unusable? = none) (programs : Programs) (t : FileTree) :
    sh.launch programs l t =
      (waited programs l (sh.pending.head?.getD silent).ended, (sh.pending.head?.getD silent).effect t,
        ⟨sh.pending.tail, sh.launches ++ [l]⟩) := by
  simp only [launch, usable]

theorem launch_of_unusable {l : Launch} {text : String} (unusable : l.unusable? = some text) (programs : Programs)
    (t : FileTree) : sh.launch programs l t = (.error (.unusable text), t, sh) := by
  simp only [launch, unusable]

/-- One process is launched at most. -/
theorem ran_launch (sh : Shell) (programs : Programs) (l : Launch) (t : FileTree) :
    sh.Ran (sh.launch programs l t).2.2 ((sh.launch programs l t).1 = .ok .interrupted) := by
  cases usable : l.unusable? with
  | some text =>
    rw [launch_of_unusable usable]
    exact ran_refl.congr (iff_of_false id nofun)
  | none =>
    rw [launch_of_usable usable]
    refine ⟨⟨by simp, by simp⟩, ?_⟩
    rw [waited_eq_interrupted]
    cases pending : sh.pending with
    | nil => simp [Interrupted, pending, silent]
    | cons p rest => simp [Interrupted, pending]

/-- Where a process cannot be given its texts, or cannot be waited for, that is no interruption. -/
theorem undisturbed_launch {programs : Programs} {l : Launch} {t : FileTree} :
    Undisturbed (sh.launch programs l t).1 := by
  cases usable : l.unusable? with
  | some text =>
    rw [launch_of_unusable usable]
    obtain ⟨_, same⟩ | ⟨_, same⟩ := Failure.unusable_cases text <;> exact error (by simp [same])
  | none =>
    rw [launch_of_usable usable]
    unfold waited
    split
    · split
      · exact error nofun
      · exact ok _
    · exact ok _

/-- It is the first of the processes to come. -/
theorem launch_eq_interrupted {programs : Programs} {l : Launch} {t : FileTree} :
    (sh.launch programs l t).1 = .ok .interrupted ↔
      l.unusable? = none ∧ ∃ p, sh.pending.head? = some p ∧ p.ended = .interrupted := by
  cases usable : l.unusable? with
  | some text => simp [launch_of_unusable usable]
  | none =>
    rw [launch_of_usable usable, waited_eq_interrupted]
    cases pending : sh.pending <;> simp [silent]

end Shell

/-- An answer is that of an interruption just where the user stopped a process that was launched for it. -/
def Reply.Heeds {α : Type} (reply : Reply Shell α) (sh : Shell) : Prop :=
  sh.Ran reply.state (reply.result = .error .interrupted)

theorem Reply.heeds_of_undisturbed {α : Type} {result : Except Failure α} {t : FileTree} {sh : Shell}
    (undisturbed : Undisturbed result) : Reply.Heeds ⟨result, t, sh⟩ sh :=
  Shell.ran_refl.congr ⟨False.elim, fun interrupted => undisturbed _ interrupted rfl⟩

/-- What follows an answer does not change whether it was interrupted, if it cannot be. -/
theorem bind_eq_interrupted {α β : Type} {x : Except Failure α} {f : α → Except Failure β}
    (undisturbed : ∀ a, Undisturbed (f a)) : x >>= f = .error .interrupted ↔ x = .error .interrupted := by
  rw [bind_error_iff]
  exact or_iff_left fun ⟨a, _, failed⟩ => undisturbed a _ failed rfl

namespace Dialyzer

variable {d : Dialyzer} {t : FileTree} {sh : Shell}

theorem of_eq_interrupted (limit : Option Json) {ended : ProcessEnd} :
    Finished.of limit ended = .error .interrupted ↔ ended = .interrupted := by
  cases ended <;> simp [Finished.of, fault]

/-- What came of a process that was launched is an interruption just where its end is one. -/
theorem bind_of_eq_interrupted {limit : Option Json} {ended : Except Failure ProcessEnd}
    (undisturbed : Undisturbed ended) :
    ended >>= Finished.of limit = .error .interrupted ↔ ended = .ok .interrupted := by
  rw [bind_error_iff]
  constructor
  · rintro (failed | ⟨_, rfl, interrupted⟩)
    · exact absurd rfl (undisturbed _ failed)
    · rw [(of_eq_interrupted limit).mp interrupted]
  · rintro rfl
    exact .inr ⟨_, rfl, rfl⟩

theorem launch_heeds {α : Type} {arguments : List String} {homePlt : Option String}
    {use : Finished → Except Failure α} (undisturbed : ∀ f, Undisturbed (use f)) :
    (d.launch arguments homePlt t sh use).Heeds sh := by
  unfold launch
  split
  · exact Reply.heeds_of_undisturbed (error nofun)
  · refine (Shell.ran_launch sh _ _ t).congr ?_
    rw [bind_eq_interrupted undisturbed, bind_of_eq_interrupted Shell.undisturbed_launch]

theorem query_heeds (plt : Path) : (d.query plt t sh).Heeds sh := by
  unfold query
  split
  · rename_i failed
    exact Reply.heeds_of_undisturbed (error (FileTree.undisturbed_test _ failed))
  · exact Reply.heeds_of_undisturbed (ok _)
  · refine launch_heeds fun f => ?_
    unfold listing
    split
    · exact ok _
    · exact error nofun

/-- A text is read as warnings unless a number in it is not. -/
theorem warnings_onlyFails (output : String) : OnlyFails (warnings output) fun e => ∃ reason, e = .badValue reason := by
  have number {s : List Char} : OnlyFails (number s) fun e => ∃ reason, e = .badValue reason :=
    restated fun _ => ⟨_, rfl⟩
  have column {column : Option (List Char)} :
      OnlyFails (column.mapM Dialyzer.number) fun e => ∃ reason, e = .badValue reason := by
    cases column with
    | none => exact ok _
    | some s => exact bind number fun _ _ => ok _
  have warning {raw : List Char} : OnlyFails (warningOf raw) fun e => ∃ reason, e = .badValue reason := by
    unfold warningOf
    split
    · exact ok _
    · exact bind number fun line _ => bind column fun _ _ => ok _
  refine bind (foldlM (fun read raw => ?_) _) fun _ _ => ok _
  unfold addLine
  split
  · exact ok _
  · split
    · exact ok _
    · exact bind warning fun _ _ => ok _

theorem undisturbed_warnings (output : String) : Undisturbed (warnings output) := by
  intro e failed
  obtain ⟨reason, rfl⟩ := warnings_onlyFails output e failed
  exact nofun

theorem analyze_heeds (o : Options) : (d.analyze o t sh).Heeds sh := by
  refine launch_heeds fun f => ?_
  unfold verdict
  split
  · exact undisturbed_warnings _
  · dsimp only
    split
    · split
      · exact error nofun
      · exact error nofun
    · exact error nofun

end Dialyzer

/-! ## The runtime -/

namespace OtpRuntime

variable {host : Host} {programs : Programs} {release root erl : String} {limit : Option Json} {t : FileTree} {sh : Shell}

/-- What an answer says is no interruption. -/
theorem undisturbed_ofAnswer {status : Int} {out err : String} : Undisturbed (ofAnswer erl status out err) := by
  unfold ofAnswer
  dsimp only
  split
  · exact ok _
  · exact error nofun

theorem answerOf_eq_interrupted {ended : ProcessEnd} :
    answerOf erl limit ended = .error .interrupted ↔ ended = .interrupted := by
  cases ended with
  | finished status out err => exact iff_of_false (fun interrupted => undisturbed_ofAnswer _ interrupted rfl) nofun
  | _ => simp [answerOf, fault]

/-- A program that is there is launched, and the question is interrupted where its process is. -/
theorem probe_of_found {program : String} (limit : Option Json) (t : FileTree) (sh : Shell)
    (found : programs.find? erl = some program) :
    (probe programs erl limit t sh).state = (sh.launch programs (questionTo limit program) t).2.2 ∧
      ((probe programs erl limit t sh).result = .error .interrupted ↔
        (sh.launch programs (questionTo limit program) t).1 = .ok .interrupted) := by
  have undisturbed : Undisturbed (sh.launch programs (questionTo limit program) t).1 := Shell.undisturbed_launch
  simp only [probe, found, true_and]
  rw [bind_error_iff]
  constructor
  · rintro (failed | ⟨_, ended, interrupted⟩)
    · exact absurd rfl (undisturbed _ failed)
    · rw [ended, answerOf_eq_interrupted.mp interrupted]
  · exact fun ended => .inr ⟨_, ended, rfl⟩

/-- The question can always be given to the program. -/
theorem unusable?_questionTo {program : String} (limit : Option Json) (found : programs.find? erl = some program) :
    (questionTo limit program).unusable? = none := by
  have launchable := programs.launchable erl program found
  have rest : ["-noshell", "-eval", question].find? (fun s => s.toList.any Text.isUnusable) = none := by
    decide +kernel
  simp only [Launch.unusable?, questionTo, Option.toList_none, List.nil_append, List.find?_cons, launchable, rest]

theorem probe_heeds : (probe programs erl limit t sh).Heeds sh := by
  cases found : programs.find? erl with
  | none =>
    unfold probe
    rw [found]
    exact Reply.heeds_of_undisturbed (error nofun)
  | some program =>
    obtain ⟨left, answer⟩ := probe_of_found limit t sh found
    rw [Reply.Heeds, left]
    exact (Shell.ran_launch sh programs _ t).congr answer.symm

/-- The question to `erl` is interrupted where there is such a program and the next process is. -/
theorem probe_eq_interrupted : (probe programs erl limit t sh).result = .error .interrupted ↔
    (programs.find? erl).isSome = true ∧ ∃ p, sh.pending.head? = some p ∧ p.ended = .interrupted := by
  cases found : programs.find? erl with
  | none => simp [probe, found, fault]
  | some program =>
    rw [(probe_of_found limit t sh found).2, Shell.launch_eq_interrupted, unusable?_questionTo limit found]
    simp

/-- What is not asked of `erl` is configured, and no matter of processes. -/
theorem resolve_cases :
    (release ≠ "" ∧ root ≠ "" ∧ (resolve host programs release root erl limit t sh).state = sh ∧
        Undisturbed (resolve host programs release root erl limit t sh).result) ∨
      (release = "" ∨ root = "") ∧
        (resolve host programs release root erl limit t sh).state = (probe programs erl limit t sh).state ∧
        ((resolve host programs release root erl limit t sh).result = .error .interrupted ↔
          (probe programs erl limit t sh).result = .error .interrupted) := by
  unfold resolve
  dsimp only
  split
  · rename_i both
    rw [Bool.and_eq_true, decide_eq_true_iff, decide_eq_true_iff] at both
    refine .inl ⟨both.1, both.2, rfl, ?_⟩
    exact bind undisturbed_expandHome fun _ _ => ok _
  · rename_i lacking
    rw [Bool.and_eq_true, decide_eq_true_iff, decide_eq_true_iff, not_and_or, not_not, not_not] at lacking
    refine .inr ⟨lacking, rfl, bind_eq_interrupted fun found => ?_⟩
    split
    · exact ok _
    · exact bind undisturbed_expandHome fun _ _ => ok _

theorem resolve_heeds : (resolve host programs release root erl limit t sh).Heeds sh := by
  have said := @resolve_cases host programs release root erl limit t sh
  rcases said with ⟨-, -, left, undisturbed⟩ | ⟨-, left, answer⟩
  · rw [Reply.Heeds, left]
    exact Shell.ran_refl.congr ⟨False.elim, fun interrupted => undisturbed _ interrupted rfl⟩
  · rw [Reply.Heeds, left]
    exact probe_heeds.congr answer.symm

end OtpRuntime

end PltKeeper
