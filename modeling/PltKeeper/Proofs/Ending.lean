import PltKeeper.Application.Resolver

/-! How an action ends. A run may stop at any of its steps and keeps what it did before, so what is
said of an action is said of both its ends at once: of its result with the session it leaves, and of
its failure with the session it leaves. `ensures_bind` takes a statement about a sequence of actions
apart into statements about each. -/
namespace PltKeeper.Act

variable {σ α β : Type} {s : Session σ} {act : Act σ α} {post post' : α → Session σ → Prop}
  {stopped stopped' : Failure → Session σ → Prop}

/-- The session that an action leaves, however it ends. -/
def after (act : Act σ α) (s : Session σ) : Session σ :=
  match act s with
  | .ok _ s' => s'
  | .error _ s' => s'

/-- Carries out an action and tests what it leaves. One that fails does not pass. -/
def check (act : Act σ α) (s : Session σ) (test : α → Session σ → Bool) : Bool :=
  match act s with
  | .ok a s' => test a s'
  | .error _ _ => false

theorem of_check {test : α → Session σ → Bool} (passed : act.check s test = true) :
    ∃ a s', act s = .ok a s' ∧ test a s' = true := by
  unfold check at passed
  cases ran : act s with
  | ok a s' => exact ⟨a, s', rfl, by simpa only [ran] using passed⟩
  | error e s' => simp [ran] at passed

/-- An action that ends with a result leaves what `post` says, one that fails what `stopped` says. -/
def Ensures (act : Act σ α) (s : Session σ) (post : α → Session σ → Prop)
    (stopped : Failure → Session σ → Prop) : Prop :=
  match act s with
  | .ok a s' => post a s'
  | .error e s' => stopped e s'

theorem Ensures.mono (ensured : act.Ensures s post stopped)
    (onResult : ∀ a s', post a s' → post' a s') (onFailure : ∀ e s', stopped e s' → stopped' e s') :
    act.Ensures s post' stopped' := by
  unfold Ensures at *
  cases ran : act s with
  | ok a s' => exact onResult a s' (by simpa only [ran] using ensured)
  | error e s' => exact onFailure e s' (by simpa only [ran] using ensured)

theorem Ensures.and (first : act.Ensures s post stopped) (second : act.Ensures s post' stopped') :
    act.Ensures s (fun a s' => post a s' ∧ post' a s') (fun e s' => stopped e s' ∧ stopped' e s') := by
  unfold Ensures at *
  cases ran : act s with
  | ok a s' => exact ⟨by simpa only [ran] using first, by simpa only [ran] using second⟩
  | error e s' => exact ⟨by simpa only [ran] using first, by simpa only [ran] using second⟩

theorem Ensures.of_ok (ensured : act.Ensures s post stopped) {a : α} {s' : Session σ}
    (ran : act s = .ok a s') : post a s' := by
  unfold Ensures at ensured
  simpa only [ran] using ensured

theorem Ensures.of_error (ensured : act.Ensures s post stopped) {e : Failure} {s' : Session σ}
    (ran : act s = .error e s') : stopped e s' := by
  unfold Ensures at ensured
  simpa only [ran] using ensured

theorem ensures_of_ok {a : α} {s' : Session σ} (ran : act s = .ok a s') :
    act.Ensures s post stopped ↔ post a s' := by
  unfold Ensures
  rw [ran]

theorem ensures_of_error {e : Failure} {s' : Session σ} (ran : act s = .error e s') :
    act.Ensures s post stopped ↔ stopped e s' := by
  unfold Ensures
  rw [ran]

/-- What an action did is what it ensures. -/
theorem ensures_ran (act : Act σ α) (s : Session σ) :
    act.Ensures s (fun a s' => act s = .ok a s') (fun e s' => act s = .error e s') := by
  unfold Ensures
  cases ran : act s <;> rfl

theorem after_of_ok {a : α} {s' : Session σ} (ran : act s = .ok a s') : act.after s = s' := by
  simp only [after, ran]

theorem after_of_error {e : Failure} {s' : Session σ} (ran : act s = .error e s') : act.after s = s' := by
  simp only [after, ran]

/-- What holds of both ends alike holds of the session that is left. -/
theorem Ensures.after {P : Session σ → Prop} (ensured : act.Ensures s (fun _ s' => P s') fun _ s' => P s') :
    P (act.after s) := by
  unfold Ensures at ensured
  unfold Act.after
  cases ran : act s with
  | ok a s' => simpa only [ran] using ensured
  | error e s' => simpa only [ran] using ensured

theorem ensures_pure {a : α} : Ensures (pure a : Act σ α) s post stopped ↔ post a s := Iff.rfl

theorem ensures_bind {next : α → Act σ β} {post : β → Session σ → Prop} :
    Ensures (act >>= next) s post stopped ↔
      act.Ensures s (fun a s' => (next a).Ensures s' post stopped) stopped := by
  unfold Ensures
  cases ran : act s <;> simp [bind, EStateM.bind, ran]

/-- A sequence ends as its second action does after the first, or where the first one fails. -/
theorem Ensures.bind {next : α → Act σ β} {final : β → Session σ → Prop}
    (first : act.Ensures s post stopped') (onFailure : ∀ e s', stopped' e s' → stopped e s')
    (second : ∀ a s', post a s' → (next a).Ensures s' final stopped) :
    Ensures (act >>= next) s final stopped :=
  ensures_bind.mpr (first.mono second onFailure)

theorem bind_eq_ok {next : α → Act σ β} {b : β} {s' : Session σ} (ran : (act >>= next) s = .ok b s') :
    ∃ a middle, act s = .ok a middle ∧ next a middle = .ok b s' := by
  cases first : act s with
  | ok a middle => exact ⟨a, middle, rfl, by simpa [bind, EStateM.bind, first] using ran⟩
  | error e middle => simp [bind, EStateM.bind, first] at ran

theorem info_eq_ok (message : String) (s : Session σ) :
    info message s = .ok () { s with log := s.log ++ [⟨.info, message⟩] } := rfl

theorem ensures_info {message : String} {post : Unit → Session σ → Prop} :
    Ensures (info message) s post stopped ↔
      post () { s with log := s.log ++ [⟨.info, message⟩] } := Iff.rfl

theorem ensures_modify {f : Session σ → Session σ} {post : Unit → Session σ → Prop} :
    Ensures (modify f : Act σ Unit) s post stopped ↔ post () (f s) := Iff.rfl

theorem ensures_lift {r : Except Failure α} :
    Ensures (lift r) s post stopped ↔
      (∀ a, r = .ok a → post a s) ∧ ∀ e, r = .error e → stopped e s := by
  cases r <;> simp [Ensures, lift]

theorem ensures_ofTree {look : FileTree → Except Failure α} :
    Ensures (ofTree look) s post stopped ↔
      (∀ a, look s.tree = .ok a → post a s) ∧ ∀ e, look s.tree = .error e → stopped e s := by
  unfold Ensures ofTree
  cases look s.tree <;> simp

theorem ensures_change {f : FileTree → Except Failure FileTree} {post : Unit → Session σ → Prop} :
    Ensures (change f) s post stopped ↔
      (∀ t, f s.tree = .ok t → post () { s with tree := t }) ∧
        ∀ e, f s.tree = .error e → stopped e s := by
  unfold Ensures change
  cases f s.tree <;> simp

theorem ensures_changePartly {f : FileTree → Except Failure Unit × FileTree}
    {post : Unit → Session σ → Prop} :
    Ensures (changePartly f) s post stopped ↔
      ((f s.tree).1 = .ok () → post () { s with tree := (f s.tree).2 }) ∧
        ∀ e, (f s.tree).1 = .error e → stopped e { s with tree := (f s.tree).2 } := by
  unfold Ensures changePartly
  cases made : f s.tree with
  | mk result t => cases result <;> simp

/-- A failure as it is restated. -/
def restated (f : SystemError → ToolError) : Failure → Failure
  | .system e => .tool (f e)
  | e => e

theorem restate_of_ok {f : SystemError → ToolError} {a : α} {s' : Session σ} (ran : act s = .ok a s') :
    restate act f s = .ok a s' := by
  simp only [restate, ran]

theorem restate_of_error {f : SystemError → ToolError} {e : Failure} {s' : Session σ}
    (failed : act s = .error e s') : restate act f s = .error (restated f e) s' := by
  unfold restate
  rw [failed]
  cases e <;> rfl

/-- A failure that is restated leaves the session as it was left. -/
theorem ensures_restate_iff {f : SystemError → ToolError} :
    Ensures (restate act f) s post stopped ↔ act.Ensures s post fun e s' => stopped (restated f e) s' := by
  unfold Ensures
  cases ran : act s with
  | ok a s' => rw [restate_of_ok ran]
  | error e s' => rw [restate_of_error ran]

/-- Where nothing depends on the failure, what it becomes does not matter. -/
theorem ensures_restate {f : SystemError → ToolError}
    (ensured : act.Ensures s post fun _ s' => ∀ e, stopped e s') :
    Ensures (restate act f) s post stopped :=
  ensures_restate_iff.mpr (ensured.mono (fun _ _ holds => holds) fun _ _ failed => failed _)

theorem ensures_ite {c : Prop} [Decidable c] {other : Act σ α} :
    Ensures (if c then act else other) s post stopped ↔
      (c → act.Ensures s post stopped) ∧ (¬ c → other.Ensures s post stopped) := by
  split <;> simp_all

/-! ## Actions that keep a relation -/

/-- However an action ends, the session that it leaves is related to the one that it began in. -/
def Moves (act : Act σ α) (R : Session σ → Session σ → Prop) (s : Session σ) : Prop :=
  act.Ensures s (fun _ s' => R s s') fun _ s' => R s s'

variable {R : Session σ → Session σ → Prop}

/-- What each of two actions keeps, both keep. -/
theorem Ensures.bind_moves {next : α → Act σ β}
    (first : act.Ensures s (fun a s' => R s s' ∧ post a s') fun _ s' => R s s')
    (trans : ∀ {s₁ s₂ s₃}, R s₁ s₂ → R s₂ s₃ → R s₁ s₃)
    (second : ∀ a s', R s s' → post a s' → (next a).Moves R s') : (act >>= next).Moves R s := by
  refine first.bind (fun _ _ moved => moved) fun a s' ⟨moved, holds⟩ => ?_
  exact (second a s' moved holds).mono (fun _ _ later => trans moved later) fun _ _ later => trans moved later

theorem Moves.bind {next : α → Act σ β} (first : act.Moves R s)
    (trans : ∀ {s₁ s₂ s₃}, R s₁ s₂ → R s₂ s₃ → R s₁ s₃) (second : ∀ a s', R s s' → (next a).Moves R s') :
    (act >>= next).Moves R s := by
  refine Ensures.bind first (fun _ _ moved => moved) fun a s' moved => ?_
  exact (second a s' moved).mono (fun _ _ later => trans moved later) fun _ _ later => trans moved later

/-! ## Actions that come through -/

/-- An action that ends with a result, and leaves what `post` says. -/
def Succeeds (act : Act σ α) (s : Session σ) (post : α → Session σ → Prop) : Prop :=
  act.Ensures s post fun _ _ => False

theorem Succeeds.and (succeeds : act.Succeeds s post) (ends : act.Ensures s post' stopped) :
    act.Succeeds s fun a s' => post a s' ∧ post' a s' :=
  (Ensures.and succeeds ends).mono (fun _ _ both => both) fun _ _ never => never.1

theorem Succeeds.bind {next : α → Act σ β} {final : β → Session σ → Prop} (first : act.Succeeds s post)
    (second : ∀ a s', post a s' → (next a).Succeeds s' final) : (act >>= next).Succeeds s final :=
  Ensures.bind first (fun _ _ never => never) second

theorem Succeeds.eq_ok (succeeds : act.Succeeds s post) : ∃ a s', act s = .ok a s' ∧ post a s' := by
  unfold Succeeds Ensures at succeeds
  cases ran : act s with
  | ok a s' => exact ⟨a, s', rfl, by simpa only [ran] using succeeds⟩
  | error e s' => simp only [ran] at succeeds

theorem succeeds_restate {f : SystemError → ToolError} (succeeds : act.Succeeds s post) :
    (restate act f).Succeeds s post :=
  ensures_restate (Ensures.mono succeeds (fun _ _ holds => holds) fun _ _ never => never.elim)

theorem succeeds_change {f : FileTree → Except Failure FileTree} {t : FileTree}
    {post : Unit → Session σ → Prop} (done : f s.tree = .ok t) (holds : post () { s with tree := t }) :
    (change f).Succeeds s post := by
  refine ensures_change.mpr ⟨?_, ?_⟩
  · intro t' done'
    rw [done] at done'
    cases done'
    exact holds
  · intro e failed
    rw [done] at failed
    cases failed

theorem succeeds_changePartly {f : FileTree → Except Failure Unit × FileTree} {t : FileTree}
    {post : Unit → Session σ → Prop} (done : f s.tree = (.ok (), t)) (holds : post () { s with tree := t }) :
    (changePartly f).Succeeds s post := by
  refine ensures_changePartly.mpr ⟨?_, ?_⟩
  · intro _
    rw [done]
    exact holds
  · intro e failed
    rw [done] at failed
    cases failed

end PltKeeper.Act
