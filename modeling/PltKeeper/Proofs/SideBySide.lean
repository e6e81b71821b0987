import PltKeeper.Proofs.Ending

/-! Two actions side by side, each in a session of its own. A tie says what the two sessions have in
common; actions that run side by side end both with a result or both with the same failure, and the
sessions stay tied. What one of them alone may do is to be lost, in a way that its session shows.
`SideBySide.bind` takes a statement about two sequences of actions apart, step by step. -/
namespace PltKeeper

variable {σ τ α β γ δ : Type}

/-- What two sessions have in common. -/
structure Tie (σ τ : Type) where
  /-- Which sessions are tied. -/
  holds : Session σ → Session τ → Prop
  /-- Which trees count as the same, -/
  trees : FileTree → FileTree → Prop
  /-- and which counts of warnings. -/
  counts : Nat → Nat → Prop
  /-- The first session shows that its action was lost, -/
  lost : Session σ → Prop := fun _ => False
  /-- and the second one that its was. -/
  lost' : Session τ → Prop := fun _ => False

/-- A number of warnings that is returned on both sides, with the sessions still tied. -/
def Tie.Returns (tie : Tie σ τ) (m n : Nat) (s : Session σ) (r : Session τ) : Prop :=
  tie.counts m n ∧ tie.holds s r

/-- A tie that everything keeps but what the backend and the report do. -/
structure Tie.Lasting (tie : Tie σ τ) (cwd : String) (plts : List Path) : Prop where
  zero : tie.counts 0 0
  add : ∀ {m n m' n'}, tie.counts m n → tie.counts m' n' → tie.counts (m + m') (n + n')
  tree : ∀ {s r}, tie.holds s r → tie.trees s.tree r.tree
  logged : ∀ {s r} (records : List LogRecord), tie.holds s r →
    tie.holds { s with log := s.log ++ records } { r with log := r.log ++ records }
  moved : ∀ {s r t t'}, tie.holds s r → tie.trees t t' →
    tie.holds { s with tree := t } { r with tree := t' }
  isFile : ∀ {t t'}, tie.trees t t' → ∀ p, t'.isFile cwd p = t.isFile cwd p
  makeDirs : ∀ {t t'}, tie.trees t t' → ∀ p, (t'.makeDirs cwd p).1 = (t.makeDirs cwd p).1 ∧
    tie.trees (t.makeDirs cwd p).2 (t'.makeDirs cwd p).2
  copy : ∀ {t t'}, tie.trees t t' → ∀ p ∈ plts, ∀ q ∈ plts,
    (∃ u u', t.copy cwd p q = .ok u ∧ t'.copy cwd p q = .ok u' ∧ tie.trees u u') ∨
      ∃ e, t.copy cwd p q = .error e ∧ t'.copy cwd p q = .error e

/-- A tie of sessions in the same tree needs only to disregard the log. -/
theorem Tie.lasting_of_eq {tie : Tie σ τ} (trees : tie.trees = Eq) (counts : tie.counts = Eq)
    (tree : ∀ {s r}, tie.holds s r → r.tree = s.tree)
    (logged : ∀ {s r} (records : List LogRecord), tie.holds s r →
      tie.holds { s with log := s.log ++ records } { r with log := r.log ++ records })
    (moved : ∀ {s r} (t : FileTree), tie.holds s r → tie.holds { s with tree := t } { r with tree := t })
    (cwd : String) (plts : List Path) : tie.Lasting cwd plts where
  zero := by rw [counts]
  add := by
    rw [counts]
    rintro m n _ _ rfl rfl
    rfl
  tree tied := by
    rw [trees]
    exact (tree tied).symm
  logged := logged
  moved := by
    rw [trees]
    rintro s r t _ tied rfl
    exact moved t tied
  isFile := by
    rw [trees]
    rintro t _ rfl p
    rfl
  makeDirs := by
    rw [trees]
    rintro t _ rfl p
    exact ⟨rfl, rfl⟩
  copy := by
    rw [trees]
    rintro t _ rfl p _ q _
    cases copied : t.copy cwd p q with
    | ok u => exact .inl ⟨u, u, rfl, rfl, rfl⟩
    | error e => exact .inr ⟨e, rfl, rfl⟩

namespace Act

/-- How two actions end side by side. -/
inductive SideBySide (tie : Tie σ τ) (act : Act σ α) (other : Act τ β) (s : Session σ) (r : Session τ)
    (post : α → β → Session σ → Session τ → Prop) : Prop
  | ended {a : α} {b : β} {s' : Session σ} {r' : Session τ} (ran : act s = .ok a s')
      (ran' : other r = .ok b r') (holds : post a b s' r')
  | stopped {e : Failure} {s' : Session σ} {r' : Session τ} (failed : act s = .error e s')
      (failed' : other r = .error e r') (holds : tie.holds s' r')
  | lost {e : Failure} {s' : Session σ} (failed : act s = .error e s') (gone : tie.lost s')
  | lost' {e : Failure} {r' : Session τ} (failed : other r = .error e r') (gone : tie.lost' r')

variable {tie : Tie σ τ} {act : Act σ α} {other : Act τ β} {s : Session σ} {r : Session τ}
  {post post' : α → β → Session σ → Session τ → Prop}

theorem SideBySide.mono (both : SideBySide tie act other s r post)
    (weaker : ∀ a b s' r', post a b s' r' → post' a b s' r') : SideBySide tie act other s r post' := by
  cases both with
  | ended ran ran' holds => exact .ended ran ran' (weaker _ _ _ _ holds)
  | stopped failed failed' holds => exact .stopped failed failed' holds
  | lost failed gone => exact .lost failed gone
  | lost' failed gone => exact .lost' failed gone

/-- Only how the actions end from these sessions counts. -/
theorem SideBySide.congr {act₂ : Act σ α} {other₂ : Act τ β} (both : SideBySide tie act₂ other₂ s r post)
    (ends : act s = act₂ s) (ends' : other r = other₂ r) : SideBySide tie act other s r post := by
  cases both with
  | ended ran ran' holds => exact .ended (ends.trans ran) (ends'.trans ran') holds
  | stopped failed failed' holds => exact .stopped (ends.trans failed) (ends'.trans failed') holds
  | lost failed gone => exact .lost (ends.trans failed) gone
  | lost' failed gone => exact .lost' (ends'.trans failed) gone

theorem SideBySide.pure {a : α} {b : β} (holds : post a b s r) :
    SideBySide tie (pure a : Act σ α) (pure b : Act τ β) s r post := .ended rfl rfl holds

theorem bind_of_ok {next : α → Act σ γ} {a : α} {s' : Session σ} (ran : act s = .ok a s') :
    (act >>= next) s = next a s' := by
  simp [Bind.bind, EStateM.bind, ran]

theorem bind_of_error {next : α → Act σ γ} {e : Failure} {s' : Session σ} (failed : act s = .error e s') :
    (act >>= next) s = .error e s' := by
  simp [Bind.bind, EStateM.bind, failed]

theorem SideBySide.bind {next : α → Act σ γ} {next' : β → Act τ δ}
    {final : γ → δ → Session σ → Session τ → Prop} (first : SideBySide tie act other s r post)
    (second : ∀ a b s' r', post a b s' r' → SideBySide tie (next a) (next' b) s' r' final) :
    SideBySide tie (act >>= next) (other >>= next') s r final := by
  cases first with
  | stopped failed failed' holds => exact .stopped (bind_of_error failed) (bind_of_error failed') holds
  | lost failed gone => exact .lost (bind_of_error failed) gone
  | lost' failed gone => exact .lost' (bind_of_error failed) gone
  | @ended a b s' r' ran ran' holds =>
    have ran : (act >>= next) s = next a s' := bind_of_ok ran
    have ran' : (other >>= next') r = next' b r' := bind_of_ok ran'
    cases second a b s' r' holds with
    | ended ran₂ ran₂' holds => exact .ended (ran.trans ran₂) (ran'.trans ran₂') holds
    | stopped failed failed' holds => exact .stopped (ran.trans failed) (ran'.trans failed') holds
    | lost failed gone => exact .lost (ran.trans failed) gone
    | lost' failed gone => exact .lost' (ran'.trans failed) gone

/-- Failures of the operating system are restated alike. -/
theorem SideBySide.restate (both : SideBySide tie act other s r post) (f : SystemError → ToolError) :
    SideBySide tie (restate act f) (restate other f) s r post := by
  cases both with
  | ended ran ran' holds => exact .ended (restate_of_ok ran) (restate_of_ok ran') holds
  | stopped failed failed' holds => exact .stopped (restate_of_error failed) (restate_of_error failed') holds
  | lost failed gone => exact .lost (restate_of_error failed) gone
  | lost' failed gone => exact .lost' (restate_of_error failed) gone

/-- Two actions of which each comes through or is lost. -/
theorem SideBySide.of_ensures {first : α → Session σ → Prop} {second : β → Session τ → Prop}
    (ends : act.Ensures s first fun _ s' => tie.lost s') (ends' : other.Ensures r second fun _ r' => tie.lost' r')
    (both : ∀ a b s' r', first a s' → second b r' → post a b s' r') : SideBySide tie act other s r post := by
  cases ran : act s with
  | error e s' => exact .lost ran (ends.of_error ran)
  | ok a s' =>
    cases ran' : other r with
    | error e r' => exact .lost' ran' (ends'.of_error ran')
    | ok b r' => exact .ended ran ran' (both a b s' r' (ends.of_ok ran) (ends'.of_ok ran'))

/-! ## Steps that a lasting tie survives -/

theorem ofTree_of_ok {look : FileTree → Except Failure α} {a : α} (found : look s.tree = .ok a) :
    ofTree look s = .ok a s := by
  simp only [ofTree, found]

theorem ofTree_of_error {look : FileTree → Except Failure α} {e : Failure} (failed : look s.tree = .error e) :
    ofTree look s = .error e s := by
  simp only [ofTree, failed]

theorem change_of_ok {f : FileTree → Except Failure FileTree} {t : FileTree} (done : f s.tree = .ok t) :
    change f s = .ok () { s with tree := t } := by
  simp only [change, done]

theorem change_of_error {f : FileTree → Except Failure FileTree} {e : Failure} (failed : f s.tree = .error e) :
    change f s = .error e s := by
  simp only [change, failed]

theorem changePartly_of_ok {f : FileTree → Except Failure Unit × FileTree} {t : FileTree}
    (done : f s.tree = (.ok (), t)) : changePartly f s = .ok () { s with tree := t } := by
  simp only [changePartly, done]

theorem changePartly_of_error {f : FileTree → Except Failure Unit × FileTree} {e : Failure} {t : FileTree}
    (failed : f s.tree = (.error e, t)) : changePartly f s = .error e { s with tree := t } := by
  simp only [changePartly, failed]

theorem sideBySide_modify (tie : Tie σ τ) {f : Session σ → Session σ} {f' : Session τ → Session τ}
    (tied : tie.holds (f s) (f' r)) :
    SideBySide tie (modify f : Act σ Unit) (modify f' : Act τ Unit) s r fun _ _ s' r' => tie.holds s' r' :=
  .ended rfl rfl tied

section
variable {cwd : String} {plts : List Path} (lasts : tie.Lasting cwd plts) (tied : tie.holds s r)
include lasts tied

theorem sideBySide_info (message : String) :
    SideBySide tie (info message) (info message) s r fun _ _ s' r' => tie.holds s' r' :=
  .ended rfl rfl (lasts.logged [⟨.info, message⟩] tied)

theorem sideBySide_isFile (p : Path) :
    SideBySide tie (ofTree fun t => t.isFile cwd p) (ofTree fun t => t.isFile cwd p) s r
      fun there there' s' r' => there = there' ∧ tie.holds s' r' := by
  have same := lasts.isFile (lasts.tree tied) p
  cases answered : s.tree.isFile cwd p with
  | ok there => exact .ended (ofTree_of_ok answered) (ofTree_of_ok (same.trans answered)) ⟨rfl, tied⟩
  | error e => exact .stopped (ofTree_of_error answered) (ofTree_of_error (same.trans answered)) tied

theorem sideBySide_makeDirs (p : Path) :
    SideBySide tie (changePartly fun t => t.makeDirs cwd p) (changePartly fun t => t.makeDirs cwd p) s r
      fun _ _ s' r' => tie.holds s' r' := by
  obtain ⟨same, alike⟩ := lasts.makeDirs (lasts.tree tied) p
  have moved := lasts.moved tied alike
  cases result : (s.tree.makeDirs cwd p).1 with
  | ok _ =>
    exact .ended (changePartly_of_ok (Prod.ext result rfl))
      (changePartly_of_ok (Prod.ext (same.trans result) rfl)) moved
  | error e =>
    exact .stopped (changePartly_of_error (Prod.ext result rfl))
      (changePartly_of_error (Prod.ext (same.trans result) rfl)) moved

theorem sideBySide_copy {p q : Path} (source : p ∈ plts) (target : q ∈ plts) :
    SideBySide tie (change fun t => t.copy cwd p q) (change fun t => t.copy cwd p q) s r
      fun _ _ s' r' => tie.holds s' r' := by
  rcases lasts.copy (lasts.tree tied) p source q target with
    ⟨u, u', copied, copied', alike⟩ | ⟨e, failed, failed'⟩
  · exact .ended (change_of_ok copied) (change_of_ok copied') (lasts.moved tied alike)
  · exact .stopped (change_of_error failed) (change_of_error failed') tied

end

/-- What the tree and the search path decide alike is the same on both sides. -/
theorem sideBySide_look {resolver : Resolver} {f f' : Registry → FileTree → Except Failure α}
    (same : f' (resolver.registry r) r.tree = f (resolver.registry s) s.tree) (tied : tie.holds s r) :
    SideBySide tie (resolver.look f) (resolver.look f') s r fun a b s' r' => a = b ∧ s' = s ∧ r' = r := by
  unfold Resolver.look
  cases found : f (resolver.registry s) s.tree with
  | ok a =>
    rw [found] at same
    exact .ended (a := a) (b := a) (by simp only [found]) (by simp only [same]) ⟨rfl, rfl, rfl⟩
  | error e =>
    rw [found] at same
    exact .stopped (e := e) (by simp only [found]) (by simp only [same]) tied

end Act

end PltKeeper
