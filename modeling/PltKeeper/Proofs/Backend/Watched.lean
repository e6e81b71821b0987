import PltKeeper.Proofs.Backend.SetSemantics
import PltKeeper.Proofs.Tree.Places

/-! A backend that is watched: each of its calls is noted down, with the trees before and after it. What
such notes say of a backend that conserves PLTs is put together here from call to call: between them
files are kept, in them no PLT is taken away, and a PLT that has been built once is there ever after. -/
namespace PltKeeper

variable {σ : Type}

open FileTree

/-- A call of a backend: what it was asked, and the trees before and after it. -/
structure Moment where
  /-- The working directory. -/
  cwd : String
  /-- What was asked. -/
  options : Options
  /-- The tree in which it was asked. -/
  before : FileTree
  /-- The tree that it left. -/
  after : FileTree
  /-- Whether it came through. -/
  succeeded : Bool

/-- Whether there was a result. -/
def succeeds {α : Type} : Except Failure α → Bool
  | .ok _ => true
  | .error _ => false

/-- The backend, noting down each of its calls. -/
def Backend.watched (b : Backend σ) (cwd : String) : Backend (σ × List Moment) where
  query plt t st :=
    let reply := b.query plt t st.1
    ⟨reply.result, reply.tree, (reply.state, st.2)⟩
  analyze o t st :=
    let reply := b.analyze o t st.1
    ⟨reply.result, reply.tree, (reply.state, st.2 ++ [⟨cwd, o, t, reply.tree, succeeds reply.result⟩])⟩

/-- A backend that conserves PLTs: a build, an addition and a removal leave a file where they are to
write, and do nothing to other PLTs; any other call, and each that fails, does nothing to PLTs at all. -/
structure Backend.Conserves (b : Backend σ) (cwd : String) : Prop where
  /-- A question changes nothing, -/
  asks : ∀ plt t st, (b.query plt t st).tree = t
  /-- and what is said not to be there is not. -/
  absent : ∀ plt t st, (b.query plt t st).result = .ok none → t.bytesAt? cwd plt = none
  /-- A call leaves a tree in which every entry stands in a directory. -/
  formed : ∀ o t st, t.WellFormed → (b.analyze o t st).tree.WellFormed
  writes : ∀ o t st ds plt, t.WellFormed → (b.analyze o t st).result = .ok ds →
    o.analysis.writesPlt = true → o.outputPlt = some plt → ".." ∉ plt.parts →
    (b.analyze o t st).tree.bytesAt? cwd plt ≠ none ∧
      ∀ l, IsPlt l → l ≠ placeOf cwd plt → (b.analyze o t st).tree.fileAt? l = t.fileAt? l
  spares : ∀ o t st ds, (b.analyze o t st).result = .ok ds → o.analysis.writesPlt = false →
    ∀ l, IsPlt l → (b.analyze o t st).tree.fileAt? l = t.fileAt? l
  fails : ∀ o t st e, (b.analyze o t st).result = .error e →
    ∀ l, IsPlt l → (b.analyze o t st).tree.fileAt? l = t.fileAt? l

namespace Moment

variable {m m' : Moment} {l : Location}

/-- A build where no regular file is. Other calls may find one. -/
def BuildsAnew (m : Moment) : Prop :=
  m.options.analysis = .build → ∀ plt, m.options.outputPlt = some plt → m.before.bytesAt? m.cwd plt = none

/-- No PLT is taken away. -/
def Spares (m : Moment) : Prop :=
  ∀ l, IsPlt l → (m.before.fileAt? l).isSome = true → (m.after.fileAt? l).isSome = true

/-- A build of the PLT at this place that came through. -/
def Builds (m : Moment) (l : Location) : Prop :=
  m.options.analysis = .build ∧ m.succeeded = true ∧
    ∃ plt, m.options.outputPlt = some plt ∧ placeOf m.cwd plt = l

/-- What is to be said of every call, by a keeper of the PLTs at these places. -/
structure Sound (places : Location → Prop) (m : Moment) : Prop where
  anew : m.BuildsAnew
  spares : m.Spares
  built : ∀ l, m.Builds l →
    places l ∧ IsPlt l ∧ m.before.fileAt? l = none ∧ (m.after.fileAt? l).isSome = true

theorem Sound.mono {places more : Location → Prop} (sound : m.Sound places) (within : ∀ l, places l → more l) :
    m.Sound more where
  anew := sound.anew
  spares := sound.spares
  built l builds := ⟨within l (sound.built l builds).1, (sound.built l builds).2⟩

end Moment

/-- From one call to the next, files of a kind are kept. -/
def Unbroken (kind : Location → Prop) : FileTree → List Moment → FileTree → Prop
  | t, [], u => t.Keeps kind u
  | t, m :: rest, u => t.Keeps kind m.before ∧ Unbroken kind m.after rest u

namespace Unbroken

variable {kind kind' : Location → Prop} {t u v : FileTree} {m : Moment} {ms more : List Moment} {l : Location}

theorem keeps_trans (keeps : t.Keeps kind u) (unbroken : Unbroken kind u ms v) : Unbroken kind t ms v := by
  cases ms with
  | nil => exact keeps.trans unbroken
  | cons m rest => exact ⟨keeps.trans unbroken.1, unbroken.2⟩

theorem append (first : Unbroken kind t ms u) (second : Unbroken kind u more v) :
    Unbroken kind t (ms ++ more) v := by
  induction ms generalizing t with
  | nil => exact keeps_trans first second
  | cons m rest ih => exact ⟨first.1, ih first.2⟩

theorem then_keeps (unbroken : Unbroken kind t ms u) (keeps : u.Keeps kind v) : Unbroken kind t ms v := by
  have whole := unbroken.append (show Unbroken kind u [] v from keeps)
  rwa [List.append_nil] at whole

theorem mono (unbroken : Unbroken kind t ms u) (fewer : ∀ l, kind' l → kind l) : Unbroken kind' t ms u := by
  induction ms generalizing t with
  | nil => exact unbroken.mono fewer
  | cons m rest ih => exact ⟨unbroken.1.mono fewer, ih unbroken.2⟩

theorem one (before : t.Keeps kind m.before) : Unbroken kind t [m] m.after := ⟨before, .refl kind m.after⟩

end Unbroken

section
variable {kind places : Location → Prop} {t u : FileTree} {ms : List Moment} {l : Location}

/-- A PLT that is there once is there before and after every later call. -/
theorem Unbroken.survives (unbroken : Unbroken kind t ms u) (sound : ∀ m ∈ ms, m.Sound places) (member : kind l)
    (plt : IsPlt l) (there : (t.fileAt? l).isSome = true) :
    (∀ m ∈ ms, (m.before.fileAt? l).isSome = true ∧ (m.after.fileAt? l).isSome = true) ∧
      (u.fileAt? l).isSome = true := by
  have kept : ∀ {t u : FileTree}, t.Keeps kind u → (t.fileAt? l).isSome = true → (u.fileAt? l).isSome = true := by
    intro t u keeps there
    obtain ⟨bytes, there⟩ := Option.isSome_iff_exists.mp there
    rw [keeps l member bytes there]
    rfl
  induction ms generalizing t with
  | nil => exact ⟨by simp, kept unbroken there⟩
  | cons m rest ih =>
    have before := kept unbroken.1 there
    have after := (sound m List.mem_cons_self).spares l plt before
    obtain ⟨later, last⟩ := ih unbroken.2 (fun m member => sound m (List.mem_cons_of_mem _ member)) after
    refine ⟨fun m' inRest => ?_, last⟩
    rcases List.mem_cons.mp inRest with rfl | inRest
    · exact ⟨before, after⟩
    · exact later m' inRest

/-- So no PLT is built twice. -/
theorem Unbroken.once (unbroken : Unbroken kind t ms u) (sound : ∀ m ∈ ms, m.Sound places)
    (covers : ∀ l, places l → IsPlt l → kind l) :
    ms.Pairwise fun m m' => ∀ l, m.Builds l → ¬ m'.Builds l := by
  induction ms generalizing t with
  | nil => exact .nil
  | cons m rest ih =>
    have soundRest : ∀ m ∈ rest, m.Sound places := fun m member => sound m (List.mem_cons_of_mem _ member)
    refine .cons ?_ (ih unbroken.2 soundRest)
    intro m' member l builds builds'
    obtain ⟨place, plt, -, after⟩ := (sound m List.mem_cons_self).built l builds
    have there := ((unbroken.2.survives soundRest (covers l place plt) plt after).1 m' member).1
    rw [((soundRest m' member).built l builds').2.2.1] at there
    cases there

end

end PltKeeper
