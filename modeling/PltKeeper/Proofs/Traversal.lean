import Mathlib.Data.List.Forall2

/-! Steps that may fail, one after the other and through a list. Either every step succeeds, and each
result is one of a step's, or the first step that fails decides the failure. So what is said of the failures
of each step can be said of the failures of all. -/
namespace PltKeeper

variable {α β ε : Type} {xs : List α} {ys : List β} {f : α → Except ε β} {test : α → Except ε Bool}

theorem bind_ok_iff {x : Except ε α} {b : β} :
    (x >>= f) = .ok b ↔ ∃ a, x = .ok a ∧ f a = .ok b := by
  cases x with
  | ok a => simp [bind, Except.bind]
  | error e => simp [bind, Except.bind]

theorem bind_error_iff {x : Except ε α} {e : ε} :
    (x >>= f) = .error e ↔ x = .error e ∨ ∃ a, x = .ok a ∧ f a = .error e := by
  cases x with
  | ok a => simp [bind, Except.bind]
  | error e' => simp [bind, Except.bind]

theorem mapError_ok_iff {ε' : Type} {restate : ε → ε'} {x : Except ε α} {a : α} :
    x.mapError restate = .ok a ↔ x = .ok a := by
  cases x <;> simp [Except.mapError]

theorem mapError_error_iff {ε' : Type} {restate : ε → ε'} {x : Except ε α} {e : ε'} :
    x.mapError restate = .error e ↔ ∃ cause, x = .error cause ∧ restate cause = e := by
  cases x <;> simp [Except.mapError]

theorem mapM_cases (f : α → Except ε β) (xs : List α) :
    (∃ ys, xs.mapM f = .ok ys ∧ (∀ x ∈ xs, ∃ y, f x = .ok y) ∧ ∀ y ∈ ys, ∃ x ∈ xs, f x = .ok y) ∨
      ∃ e, xs.mapM f = .error e ∧ ∃ x ∈ xs, f x = .error e := by
  induction xs with
  | nil => exact .inl ⟨[], rfl, by simp, by simp⟩
  | cons x xs ih =>
    cases here : f x with
    | error e => exact .inr ⟨e, by simp [here, bind, Except.bind], x, List.mem_cons_self, here⟩
    | ok y =>
      rcases ih with ⟨ys, ran, each, origin⟩ | ⟨e, failed, culprit, member, reason⟩
      · refine .inl ⟨y :: ys, by simp [here, ran, bind, Except.bind, pure, Except.pure], ?_, ?_⟩
        · exact List.forall_mem_cons.mpr ⟨⟨y, here⟩, each⟩
        · refine List.forall_mem_cons.mpr ⟨⟨x, List.mem_cons_self, here⟩, fun z member => ?_⟩
          obtain ⟨source, inList, same⟩ := origin z member
          exact ⟨source, List.mem_cons_of_mem x inList, same⟩
      · exact .inr ⟨e, by simp [here, failed, bind, Except.bind], culprit, List.mem_cons_of_mem x member, reason⟩

/-- Going through succeeds just where every step does. -/
theorem mapM_ok_iff : (∃ ys, xs.mapM f = .ok ys) ↔ ∀ x ∈ xs, ∃ y, f x = .ok y := by
  constructor
  · rintro ⟨ys, ran⟩
    rcases mapM_cases f xs with ⟨_, _, each, _⟩ | ⟨e, failed, _⟩
    · exact each
    · exact nomatch failed.symm.trans ran
  · intro each
    rcases mapM_cases f xs with ⟨ys, ran, _⟩ | ⟨e, _, x, member, failed⟩
    · exact ⟨ys, ran⟩
    · obtain ⟨y, worked⟩ := each x member
      exact nomatch failed.symm.trans worked

theorem mem_of_mapM (ran : xs.mapM f = .ok ys) {y : β} (member : y ∈ ys) : ∃ x ∈ xs, f x = .ok y := by
  rcases mapM_cases f xs with ⟨_, same, _, origin⟩ | ⟨e, failed, _⟩
  · cases ran.symm.trans same
    exact origin y member
  · exact nomatch failed.symm.trans ran

/-- What a step finds is among the results. -/
theorem mem_mapM (ran : xs.mapM f = .ok ys) {x : α} {y : β} (member : x ∈ xs) (found : f x = .ok y) : y ∈ ys := by
  induction xs generalizing ys with
  | nil => cases member
  | cons first rest ih =>
    cases here : f first with
    | error e => simp [here, bind, Except.bind] at ran
    | ok result =>
      cases later : rest.mapM f with
      | error e => simp [here, later, bind, Except.bind] at ran
      | ok results =>
        simp only [List.mapM_cons, here, later, bind, Except.bind, pure, Except.pure, Except.ok.injEq] at ran
        subst ys
        rcases List.mem_cons.mp member with rfl | member
        · cases here.symm.trans found
          exact List.mem_cons_self
        · exact List.mem_cons_of_mem result (ih later member)

theorem mapM_error {e : ε} (failed : xs.mapM f = .error e) : ∃ x ∈ xs, f x = .error e := by
  rcases mapM_cases f xs with ⟨_, ran, _⟩ | ⟨_, same, culprit⟩
  · exact nomatch failed.symm.trans ran
  · cases failed.symm.trans same
    exact culprit

/-- What every step keeps, all of them together keep. -/
theorem foldlM_keeps {kept : β → Prop} {step : β → α → Except ε β} {b b' : β}
    (each : ∀ b, ∀ a ∈ xs, ∀ b', kept b → step b a = .ok b' → kept b') (start : kept b)
    (ran : xs.foldlM step b = .ok b') : kept b' := by
  induction xs generalizing b with
  | nil =>
    cases ran
    exact start
  | cons a rest ih =>
    rw [List.foldlM_cons] at ran
    obtain ⟨next, here, later⟩ := bind_ok_iff.mp ran
    exact ih (fun b a member => each b a (List.mem_cons_of_mem _ member))
      (each b a List.mem_cons_self next start here) later

theorem filterAuxM_cases (test : α → Except ε Bool) (xs passed : List α) :
    (∃ kept, xs.filterAuxM test passed = .ok kept ∧ (∀ x ∈ xs, ∃ keep, test x = .ok keep) ∧
        ∀ x, x ∈ kept ↔ x ∈ xs ∧ test x = .ok true ∨ x ∈ passed) ∨
      ∃ e, xs.filterAuxM test passed = .error e ∧ ∃ x ∈ xs, test x = .error e := by
  induction xs generalizing passed with
  | nil => exact .inl ⟨passed, rfl, by simp, by simp⟩
  | cons x xs ih =>
    cases here : test x with
    | error e => exact .inr ⟨e, by simp [List.filterAuxM, here, bind, Except.bind], x, List.mem_cons_self, here⟩
    | ok keep =>
      have step : (x :: xs).filterAuxM test passed = xs.filterAuxM test (cond keep (x :: passed) passed) := by
        simp [List.filterAuxM, here, bind, Except.bind]
      rw [step]
      rcases ih (cond keep (x :: passed) passed) with ⟨kept, ran, each, members⟩ | ⟨e, failed, y, member, reason⟩
      · refine .inl ⟨kept, ran, List.forall_mem_cons.mpr ⟨⟨keep, here⟩, each⟩, fun y => ?_⟩
        rw [members]
        cases keep with
        | true =>
          have first : y = x → test y = .ok true := fun same => same ▸ here
          simp only [cond_true, List.mem_cons]
          tauto
        | false =>
          have dropped : y = x → test y ≠ .ok true := by
            rintro rfl kept
            exact nomatch here.symm.trans kept
          simp only [cond_false, List.mem_cons]
          tauto
      · exact .inr ⟨e, failed, y, List.mem_cons_of_mem x member, reason⟩

/-- A list is tested to the end, and what passes is kept, or some test fails. -/
theorem filterM_cases (test : α → Except ε Bool) (xs : List α) :
    (∃ kept, xs.filterM test = .ok kept ∧ (∀ x ∈ xs, ∃ keep, test x = .ok keep) ∧
        ∀ x, x ∈ kept ↔ x ∈ xs ∧ test x = .ok true) ∨
      ∃ e, xs.filterM test = .error e ∧ ∃ x ∈ xs, test x = .error e := by
  rw [List.filterM]
  rcases filterAuxM_cases test xs [] with ⟨kept, ran, each, members⟩ | ⟨e, failed, culprit⟩
  · exact .inl ⟨kept.reverse, by rw [ran]; rfl, each, fun x => by simp [members]⟩
  · exact .inr ⟨e, by rw [failed]; rfl, culprit⟩

theorem mem_filterM_iff {kept : List α} (ran : xs.filterM test = .ok kept) {x : α} :
    x ∈ kept ↔ x ∈ xs ∧ test x = .ok true := by
  rcases filterM_cases test xs with ⟨_, same, _, members⟩ | ⟨e, failed, _⟩
  · cases ran.symm.trans same
    exact members x
  · exact nomatch failed.symm.trans ran

theorem filterM_error {e : ε} (failed : xs.filterM test = .error e) : ∃ x ∈ xs, test x = .error e := by
  rcases filterM_cases test xs with ⟨_, ran, _⟩ | ⟨_, same, culprit⟩
  · exact nomatch failed.symm.trans ran
  · cases failed.symm.trans same
    exact culprit

/-! ## Lists item by item -/

theorem mem_of_forall₂ {R : α → β → Prop} {xs : List α} {ys : List β} (related : List.Forall₂ R xs ys) :
    (∀ x ∈ xs, ∃ y ∈ ys, R x y) ∧ ∀ y ∈ ys, ∃ x ∈ xs, R x y := by
  induction related with
  | nil => exact ⟨nofun, nofun⟩
  | @cons x y xs ys here _ ih =>
    constructor
    · intro a member
      rcases List.mem_cons.mp member with rfl | member
      · exact ⟨y, List.mem_cons_self, here⟩
      · obtain ⟨b, inRest, also⟩ := ih.1 a member
        exact ⟨b, List.mem_cons_of_mem y inRest, also⟩
    · intro b member
      rcases List.mem_cons.mp member with rfl | member
      · exact ⟨x, List.mem_cons_self, here⟩
      · obtain ⟨a, inRest, also⟩ := ih.2 b member
        exact ⟨a, List.mem_cons_of_mem x inRest, also⟩

/-! ## Kinds of failures -/

/-- Steps that fail only in the way that is said. -/
def OnlyFails (x : Except ε α) (kind : ε → Prop) : Prop := ∀ e, x = .error e → kind e

namespace OnlyFails

variable {ε' : Type} {kind : ε → Prop} {kind' : ε' → Prop} {x : Except ε α}

theorem ok (a : α) : OnlyFails (.ok a) kind := fun _ failed => nomatch failed

theorem error {e : ε} (said : kind e) : OnlyFails (.error e : Except ε α) kind := by
  rintro _ ⟨⟩
  exact said

theorem bind (first : OnlyFails x kind) (next : ∀ a, x = .ok a → OnlyFails (f a) kind) :
    OnlyFails (x >>= f) kind := by
  intro e failed
  rcases bind_error_iff.mp failed with here | ⟨a, ran, later⟩
  · exact first e here
  · exact next a ran e later

theorem mapError {restate : ε → ε'} (first : OnlyFails x kind) (said : ∀ e, kind e → kind' (restate e)) :
    OnlyFails (x.mapError restate) kind' := by
  cases x with
  | ok a => exact ok a
  | error e => exact error (said e (first e rfl))

/-- Failures that are restated are of the kind that they are restated as. -/
theorem restated {restate : ε → ε'} (said : ∀ e, kind' (restate e)) : OnlyFails (x.mapError restate) kind' :=
  have any : OnlyFails x fun _ => True := fun _ _ => trivial
  any.mapError fun e _ => said e

theorem mapM (each : ∀ x ∈ xs, OnlyFails (f x) kind) : OnlyFails (xs.mapM f) kind := by
  intro e failed
  obtain ⟨x, member, here⟩ := mapM_error failed
  exact each x member e here

theorem filterM (each : ∀ x ∈ xs, OnlyFails (test x) kind) : OnlyFails (xs.filterM test) kind := by
  intro e failed
  obtain ⟨x, member, here⟩ := filterM_error failed
  exact each x member e here

theorem foldlM {step : β → α → Except ε β} (each : ∀ b a, OnlyFails (step b a) kind) (b : β) :
    OnlyFails (xs.foldlM step b) kind := by
  induction xs generalizing b with
  | nil => exact ok b
  | cons a rest ih => exact bind (each b a) fun b' _ => ih b'

theorem forM {step : α → Except ε PUnit} (each : ∀ a, OnlyFails (step a) kind) : OnlyFails (xs.forM step) kind := by
  induction xs with
  | nil => exact ok _
  | cons a rest ih => exact bind (each a) fun _ _ => ih

end OnlyFails

end PltKeeper
