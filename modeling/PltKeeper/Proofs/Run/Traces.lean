import PltKeeper.Proofs.Backend.Watched
import PltKeeper.Proofs.Run.Mirrored

/-! What becomes of PLTs in the course of many runs. A run builds only where it has been told that there
is no PLT, and copies only there; nothing that it does in between lets one appear, but for the update of
the base PLT, which may be kept at the same place. So no run takes a PLT away or overwrites one, and
whichever runs follow one another, no PLT is built twice. -/
namespace PltKeeper

variable {σ : Type}

open FileTree

/-! ## Traces -/

/-- From the first session of a watched run to the second: the calls noted down are sound, and between
them no file but warnings files is touched. -/
def Session.Traced (places : Location → Prop) (s s' : Session (σ × List Moment)) : Prop :=
  ∃ ms, s'.backend.2 = s.backend.2 ++ ms ∧ (∀ m ∈ ms, m.Sound places) ∧
    Unbroken (fun l => ¬ IsReport l) s.tree ms s'.tree ∧ s'.tree.WellFormed

namespace Session

variable {places : Location → Prop} {s s' s'' : Session (σ × List Moment)}

theorem Traced.of_keeps (same : s'.backend.2 = s.backend.2) (keeps : s.tree.Keeps (fun l => ¬ IsReport l) s'.tree)
    (formed : s'.tree.WellFormed) : s.Traced places s' := ⟨[], by simpa using same, by simp, keeps, formed⟩

theorem Traced.of_quiet (same : s'.backend.2 = s.backend.2) (quiet : s.tree.Quiet s'.tree)
    (formed : s.tree.WellFormed) : s.Traced places s' := .of_keeps same quiet.keeps (quiet.formed formed)

theorem Traced.formed (traced : s.Traced places s') : s'.tree.WellFormed := by
  obtain ⟨_, _, _, _, formed⟩ := traced
  exact formed

theorem Traced.trans (first : s.Traced places s') (second : s'.Traced places s'') : s.Traced places s'' := by
  obtain ⟨ms, seen, sound, unbroken, -⟩ := first
  obtain ⟨more, seenMore, soundMore, unbrokenMore, formed⟩ := second
  refine ⟨ms ++ more, by rw [seenMore, seen, List.append_assoc], ?_, unbroken.append unbrokenMore, formed⟩
  intro m member
  exact (List.mem_append.mp member).elim (sound m) (soundMore m)

end Session

/-- All PLTs are as they were, or there is one now where this path leads. -/
def FileTree.Touches (cwd : String) (plt : Path) (t t' : FileTree) : Prop :=
  ∀ l, IsPlt l → t'.fileAt? l = t.fileAt? l ∨ (l = placeOf cwd plt ∧ t'.bytesAt? cwd plt ≠ none)

namespace FileTree

variable {t t' t'' : FileTree} {cwd : String} {plt other : Path}

theorem Quiet.touches (quiet : t.Quiet t') : t.Touches cwd plt t' :=
  fun l named => .inl (quiet.files l (not_isReport_of_isPlt named))

theorem Touches.trans (plain : ".." ∉ plt.parts) (first : t.Touches cwd plt t') (second : t'.Touches cwd plt t'')
    (formed : t''.WellFormed) : t.Touches cwd plt t'' := by
  intro l named
  rcases second l named with same | touched
  · rcases first l named with before | ⟨rfl, there⟩
    · exact .inl (same.trans before)
    · obtain ⟨bytes, found⟩ := Option.ne_none_iff_exists'.mp there
      obtain ⟨here, reached, -⟩ := bytesAt?_eq_some_iff.mp found
      have still := same.trans (fileAt?_of_bytesAt? plain found)
      exact .inr ⟨rfl, by simp [bytesAt?_of_fileAt? formed plain reached still]⟩
  · exact .inr touched

/-- A PLT that was not there still is not, unless it is at the place of the one that was worked on. -/
theorem Touches.absent (touches : t.Touches cwd plt t') (formed : t.WellFormed) (plain : ".." ∉ other.parts)
    (named : other.EndsWith pltEnding) (absent : t.bytesAt? cwd other = none) {l : Location}
    (reached : t'.reach cwd other = .ok l) :
    t'.fileAt? l = none ∨ (l = placeOf cwd plt ∧ t'.bytesAt? cwd plt ≠ none) := by
  obtain rfl := reach_plain plain reached
  rcases touches _ (isPlt_placeOf named) with same | touched
  · left
    rw [same]
    cases there : t.fileAt? (placeOf cwd other) with
    | none => rfl
    | some bytes => exact nomatch absent.symm.trans (bytesAt?_of_fileAt? formed plain reached there)
  · exact .inr touched

end FileTree

/-- The same of a part of a run that works on one PLT only. -/
def Session.Works (places : Location → Prop) (cwd : String) (plt : Path)
    (s s' : Session (σ × List Moment)) : Prop :=
  s.Traced places s' ∧ s.tree.Touches cwd plt s'.tree

namespace Session

variable {places : Location → Prop} {s s' s'' : Session (σ × List Moment)} {cwd : String} {plt : Path}

theorem Works.refl (formed : s.tree.WellFormed) : s.Works places cwd plt s :=
  ⟨.of_quiet rfl (.refl s.tree) formed, (Quiet.refl s.tree).touches⟩

theorem Works.trans (plain : ".." ∉ plt.parts) (first : s.Works places cwd plt s')
    (second : s'.Works places cwd plt s'') : s.Works places cwd plt s'' :=
  ⟨first.1.trans second.1, first.2.trans plain second.2 second.1.formed⟩

end Session

section
variable {s : Session (σ × List Moment)} {places : Location → Prop} (formed : s.tree.WellFormed)
include formed

theorem Act.info_traced (message : String) : (Act.info message : Act (σ × List Moment) Unit).Ensures s
    (fun _ s' => s.Traced places s' ∧ s'.tree = s.tree) fun _ s' => s.Traced places s' :=
  Act.ensures_info.mpr ⟨.of_quiet rfl (.refl s.tree) formed, rfl⟩

theorem Act.info_works (cwd : String) (plt : Path) (message : String) :
    (Act.info message : Act (σ × List Moment) Unit).Ensures s
      (fun _ s' => s.Works places cwd plt s' ∧ s'.tree = s.tree) fun _ s' => s.Works places cwd plt s' :=
  Act.ensures_info.mpr ⟨⟨.of_quiet rfl (.refl s.tree) formed, (Quiet.refl s.tree).touches⟩, rfl⟩

theorem Act.makeDirs_traced (places : Location → Prop) (cwd : String) (p : Path) :
    (Act.changePartly fun t => t.makeDirs cwd p : Act (σ × List Moment) Unit).Ensures s
      (fun _ s' => s.Traced places s' ∧ s.tree.Quiet s'.tree)
      fun _ s' => s.Traced places s' ∧ s.tree.Quiet s'.tree := by
  have quiet := quiet_makeDirs s.tree cwd p
  have traced : s.Traced places { s with tree := (s.tree.makeDirs cwd p).2 } := .of_quiet rfl quiet formed
  exact Act.ensures_changePartly.mpr ⟨fun _ => ⟨traced, quiet⟩, fun _ _ => ⟨traced, quiet⟩⟩

/-- An action that only logs leaves the tree. -/
theorem Act.Ensures.traced {α : Type} {act : Act (σ × List Moment) α}
    {post : α → Session (σ × List Moment) → Prop}
    (logs : act.Ensures s (fun a s' => s.LoggedSince s' ∧ post a s') fun _ s' => s.LoggedSince s') :
    act.Ensures s (fun _ s' => s.Traced places s' ∧ s'.tree = s.tree) fun _ s' => s.Traced places s' := by
  have done : ∀ {s'}, s.LoggedSince s' → s.Traced places s' ∧ s'.tree = s.tree := by
    rintro _ ⟨records, rfl⟩
    exact ⟨.of_quiet rfl (.refl s.tree) formed, rfl⟩
  exact logs.mono (fun _ _ logged => done logged.1) fun _ _ logged => (done logged).1

end

/-! ## Calls -/

/-- What is noted down of one call, where a build is asked for only if there is no PLT yet. -/
theorem Backend.Conserves.moment {places : Location → Prop} {b : Backend σ} {cwd : String} {plt : Path}
    {o : Options} {t : FileTree} (conserves : b.Conserves cwd) (formed : t.WellFormed) (st : σ)
    (place : places (placeOf cwd plt)) (output : o.analysis.writesPlt = true → o.outputPlt = some plt)
    (only : ∀ other, o.outputPlt = some other → other = plt) (plain : ".." ∉ plt.parts)
    (named : plt.EndsWith pltEnding) (fresh : o.analysis = .build → t.bytesAt? cwd plt = none) :
    (⟨cwd, o, t, (b.analyze o t st).tree, succeeds (b.analyze o t st).result⟩ : Moment).Sound places ∧
      t.Touches cwd plt (b.analyze o t st).tree := by
  have anew : ∀ after succeeded, (⟨cwd, o, t, after, succeeded⟩ : Moment).BuildsAnew := by
    intro after succeeded build other given
    rw [only other given]
    exact fresh build
  have sparing : ∀ succeeded, (∀ l, IsPlt l → (b.analyze o t st).tree.fileAt? l = t.fileAt? l) →
      succeeded = false ∨ o.analysis.writesPlt = false →
      (⟨cwd, o, t, (b.analyze o t st).tree, succeeded⟩ : Moment).Sound places ∧
        t.Touches cwd plt (b.analyze o t st).tree := by
    intro succeeded same idle
    refine ⟨⟨anew _ _, fun l named there => (congrArg Option.isSome (same l named)).trans there, ?_⟩,
      fun l named => .inl (same l named)⟩
    rintro l ⟨build, came, -⟩
    rcases idle with failed | reading
    · exact nomatch failed.symm.trans came
    · have build : o.analysis = .build := build
      rw [build] at reading
      cases reading
  cases ran : (b.analyze o t st).result with
  | error e => exact sparing _ (conserves.fails o t st e ran) (.inl rfl)
  | ok ds =>
    cases writing : o.analysis.writesPlt with
    | false => exact sparing _ (conserves.spares o t st ds ran writing) (.inr writing)
    | true =>
      obtain ⟨there, others⟩ := conserves.writes o t st ds plt formed ran writing (output writing) plain
      obtain ⟨bytes, found⟩ := Option.ne_none_iff_exists'.mp there
      obtain ⟨here, reached, -⟩ := bytesAt?_eq_some_iff.mp found
      have present := fileAt?_of_bytesAt? plain found
      refine ⟨⟨anew _ _, ?_, ?_⟩, ?_⟩
      · intro l named before
        by_cases here : l = placeOf cwd plt
        · subst here
          exact Option.isSome_iff_exists.mpr ⟨bytes, present⟩
        · exact (congrArg Option.isSome (others l named here)).trans before
      · rintro l ⟨build, -, other, given, rfl⟩
        obtain rfl := only other given
        refine ⟨place, isPlt_placeOf named, ?_, Option.isSome_iff_exists.mpr ⟨bytes, present⟩⟩
        show t.fileAt? (placeOf cwd other) = none
        cases before : t.fileAt? (placeOf cwd other) with
        | none => rfl
        | some bytes => exact nomatch (fresh build).symm.trans (bytesAt?_of_fileAt? formed plain reached before)
      · intro l named
        by_cases here : l = placeOf cwd plt
        · exact .inr ⟨here, there⟩
        · exact .inl (others l named here)

namespace Keeper

variable {k : Keeper σ} {plts : List Path} {plt : Path} {s : Session (σ × List Moment)}

/-- The keeper, with each call of its backend noted down. -/
def watched (k : Keeper σ) : Keeper (σ × List Moment) := k.on (k.backend.watched k.cwd)

/-- Where these PLTs are kept. -/
def places (k : Keeper σ) (plts : List Path) (l : Location) : Prop := ∃ plt ∈ plts, placeOf k.cwd plt = l

/-- What PLTs are conserved by. -/
structure Guards (k : Keeper σ) (plts : List Path) : Prop where
  /-- The backend conserves them. -/
  conserves : k.backend.Conserves k.cwd
  /-- Their paths do not go up, -/
  plain : ∀ plt ∈ plts, ".." ∉ plt.parts
  /-- and have the names of PLTs, -/
  named : ∀ plt ∈ plts, plt.EndsWith pltEnding
  /-- while the warnings file has the name of one. -/
  report : k.output.EndsWith reportEnding

/-- The beginning of a report does not touch a PLT. -/
theorem beginReport_quiet {τ : Type} {k : Keeper τ} {s : Session τ} (named : k.output.EndsWith reportEnding) :
    k.beginReport.Ensures s (fun _ s' => ∃ t, s' = { s with tree := t } ∧ s.tree.Quiet t)
      fun _ s' => ∃ t, s' = { s with tree := t } ∧ s.tree.Quiet t := by
  have made := quiet_makeDirs s.tree k.cwd k.output.parent
  exact ensures_beginReport (fun t written => ⟨t, rfl, made.trans (quiet_modify named written)⟩)
    fun _ => ⟨_, rfl, made⟩

section
variable (guards : k.Guards plts) (formed : s.tree.WellFormed)
include guards formed

/-- A question; what is said not to be there is not. -/
theorem read_works (plt : Path) :
    (k.watched.read plt).Ensures s
      (fun answer s' => s.Works (k.places plts) k.cwd plt s' ∧
        (answer = none → s'.tree.bytesAt? k.cwd plt = none))
      fun _ s' => s.Works (k.places plts) k.cwd plt s' := by
  let reply := k.watched.backend.query plt s.tree s.backend
  have same : (answered s (.query plt) reply).tree = s.tree := guards.conserves.asks plt s.tree s.backend.1
  have works : s.Works (k.places plts) k.cwd plt (answered s (.query plt) reply) := by
    have quiet : s.tree.Quiet (answered s (.query plt) reply).tree := same ▸ .refl s.tree
    exact ⟨.of_quiet rfl quiet formed, quiet.touches⟩
  show (accept (.query plt) reply).Ensures s _ _
  rw [ensures_accept]
  refine ⟨fun answer given => ⟨works, ?_⟩, fun _ _ => works⟩
  rintro rfl
  rw [same]
  exact guards.conserves.absent plt s.tree s.backend.1 given

/-- Reporting touches the warnings file only. -/
theorem report_traced (ds : List Diagnostic) :
    (k.watched.report ds).Ensures s (fun _ s' => s.Traced (k.places plts) s' ∧ s.tree.Quiet s'.tree)
      fun _ s' => s.Traced (k.places plts) s' ∧ s.tree.Quiet s'.tree := by
  have calm : ∀ {s' : Session (σ × List Moment)}, s'.backend = s.backend → s.tree.Quiet s'.tree →
      s.Traced (k.places plts) s' ∧ s.tree.Quiet s'.tree :=
    fun same quiet => ⟨.of_quiet (congrArg Prod.snd same) quiet formed, quiet⟩
  have left {t : FileTree} {r : Except Failure Unit} (filed : k.watched.filing ds s.tree = (r, t)) :
      s.tree.Quiet t := by
    obtain rfl | ⟨added, appended⟩ := tree_of_filing filed
    · exact .refl _
    · exact quiet_modify guards.report appended
  exact ensures_report (fun _ => calm rfl (.refl _)) (fun t filed => calm rfl (left filed))
    fun e t failed => calm rfl (left failed)

variable (member : plt ∈ plts)
include member

theorem analyze_traced (a : Analysis) (files : List String)
    (fresh : a = .build → s.tree.bytesAt? k.cwd plt = none) :
    (k.watched.analyze a files plt).Ensures s
      (fun _ s' => s.Traced (k.places plts) s' ∧ s.tree.Touches k.cwd plt s'.tree)
      fun _ s' => s.Traced (k.places plts) s' ∧ s.tree.Touches k.cwd plt s'.tree := by
  let options := k.wishes.optionsFor a files plt
  let reply := k.watched.backend.analyze options s.tree s.backend
  have output : options.analysis.writesPlt = true → options.outputPlt = some plt := by
    intro writing
    have writing : a.writesPlt = true := writing
    cases a <;> first | rfl | exact absurd writing (by decide)
  have only : ∀ other, options.outputPlt = some other → other = plt := by
    intro other given
    cases a <;> cases given <;> rfl
  have place : k.places plts (placeOf k.cwd plt) := ⟨plt, member, rfl⟩
  obtain ⟨sound, touches⟩ := guards.conserves.moment formed s.backend.1 place output only (guards.plain plt member)
    (guards.named plt member) fresh
  have traced : s.Traced (k.places plts) (answered s (.analyze options) reply) := by
    refine ⟨[_], rfl, ?_, .one (.refl _ s.tree), guards.conserves.formed _ _ _ formed⟩
    intro m member
    obtain rfl := List.mem_singleton.mp member
    exact sound
  rw [ensures_analyze (k := k.watched) (rfl : _ = options) (rfl : _ = reply)]
  exact ⟨fun _ _ => ⟨traced, touches⟩, fun _ _ => ⟨traced, touches⟩⟩

/-- A phase; one that builds needs to be told that there is no PLT yet. -/
theorem runPhase_works (a : Analysis) (files : List String)
    (fresh : a = .build → s.tree.bytesAt? k.cwd plt = none) :
    (k.watched.runPhase a plt files).Moves (Session.Works (k.places plts) k.cwd plt) s := by
  unfold runPhase
  simp only
  refine Act.ensures_ite.mpr ⟨fun _ => Act.ensures_pure.mpr (.refl formed), fun _ => ?_⟩
  rw [ensures_recordPhase]
  refine (analyze_traced guards formed member a _ fresh).bind (fun _ _ worked => worked) ?_
  rintro ds s₁ ⟨traced, touches⟩
  have done : ∀ {s'}, s₁.Traced (k.places plts) s' ∧ s₁.tree.Quiet s'.tree →
      s.Works (k.places plts) k.cwd plt s' := fun ⟨later, quiet⟩ =>
    ⟨traced.trans later, touches.trans (guards.plain plt member) quiet.touches later.formed⟩
  exact (report_traced guards traced.formed _).mono (fun _ _ reported => done reported) fun _ _ reported =>
    done reported

theorem part_works {a : Analysis} (notBuild : a ≠ .build) (files : FileSet) (message : String) :
    (k.watched.part a plt files message).Moves (Session.Works (k.places plts) k.cwd plt) s := by
  unfold part
  refine Act.ensures_ite.mpr ⟨fun _ => Act.ensures_pure.mpr (.refl formed), fun _ => ?_⟩
  refine (Act.info_works formed k.cwd plt message).bind_moves (.trans (guards.plain plt member)) ?_
  intro _ s₁ logged _
  exact runPhase_works guards logged.1.formed member a _ (absurd · notBuild)

theorem sync_works (held required : FileSet) :
    (k.watched.sync plt held required).Moves (Session.Works (k.places plts) k.cwd plt) s := by
  have plain := guards.plain plt member
  unfold sync
  refine (part_works guards formed member (by decide) _ _).bind (.trans plain) fun _ s₁ removed => ?_
  refine (part_works guards removed.1.formed member (by decide) _ _).bind (.trans plain) fun _ s₂ checked => ?_
  refine (part_works guards checked.1.formed member (by decide) _ _).bind (.trans plain) fun _ s₃ added => ?_
  exact Act.ensures_pure.mpr (.refl added.1.formed)

theorem build_works (files : List String) (absent : s.tree.bytesAt? k.cwd plt = none) :
    (k.watched.build plt files).Moves (Session.Works (k.places plts) k.cwd plt) s := by
  have plain := guards.plain plt member
  have made : (Act.restate (Act.changePartly fun t => t.makeDirs k.cwd plt.parent : Act (σ × List Moment) Unit)
      fun e => .inaccessible plt.parent (.system e)).Ensures s
        (fun _ s' => s.Works (k.places plts) k.cwd plt s' ∧ s'.tree.bytesAt? k.cwd plt = none)
        fun _ s' => s.Works (k.places plts) k.cwd plt s' := by
    refine Act.ensures_restate ((Act.makeDirs_traced formed (k.places plts) k.cwd plt.parent).mono ?_ ?_)
    · rintro _ s₁ ⟨traced, quiet⟩
      exact ⟨⟨traced, quiet.touches⟩, (quiet.bytesAt? formed plain (guards.named plt member)).trans absent⟩
    · exact fun _ _ made _ => ⟨made.1, made.2.touches⟩
  unfold build
  refine made.bind_moves (.trans plain) fun _ s₁ before still => ?_
  refine (Act.info_works before.1.formed k.cwd plt _).bind_moves (.trans plain) fun _ s₂ logged sameTree => ?_
  exact runPhase_works guards logged.1.formed member .build _ fun _ => sameTree ▸ still

end

end Keeper

/-! ## Runs -/

namespace Job

variable {j : Job σ} {s : Session (σ × List Moment)}

/-- The run, with each call of its backend noted down. -/
def watched (j : Job σ) : Job (σ × List Moment) := j.on (j.keeper.backend.watched j.keeper.cwd)

/-- Where the PLTs of a run are kept. -/
abbrev places (j : Job σ) : Location → Prop := j.keeper.places j.plts

section
variable (guards : j.keeper.Guards j.plts) (formed : s.tree.WellFormed)
include guards formed

theorem updateBase_works (files : FileSet) :
    (j.watched.updateBase files).Moves (Session.Works j.places j.keeper.cwd j.basePlt) s := by
  unfold updateBase
  refine (Keeper.read_works guards formed j.basePlt).bind_moves (.trans (guards.plain j.basePlt j.basePlt_mem)) ?_
  intro answer s₁ asked absent
  cases answer with
  | none => exact Keeper.build_works guards asked.1.formed j.basePlt_mem files.toList (absent rfl)
  | some held => exact Keeper.sync_works guards asked.1.formed j.basePlt_mem held files

/-- A copy is made only where no project PLT is: one that has appeared since it was looked for is the
base PLT itself, and this is not copied onto itself. -/
theorem copyBase_traced {t : FileTree} (before : t.WellFormed)
    (absent : t.bytesAt? j.keeper.cwd j.plt = none) (touches : t.Touches j.keeper.cwd j.basePlt s.tree) :
    (j.watched.copyBase).Moves (Session.Traced j.places) s := by
  have plain := guards.plain j.plt j.plt_mem
  have basePlain := guards.plain j.basePlt j.basePlt_mem
  unfold copyBase
  refine (Act.info_traced formed _).bind_moves .trans fun _ s₁ logged sameTree => ?_
  rw [← sameTree] at touches
  refine Act.ensures_restate ?_
  refine (Act.makeDirs_traced logged.formed j.places j.keeper.cwd j.plt.parent).bind (fun _ _ made _ => made.1) ?_
  rintro _ s₂ ⟨made, quiet⟩
  have touches := touches.trans basePlain quiet.touches made.formed
  refine Act.ensures_change.mpr ⟨?_, fun _ _ _ => made⟩
  intro t' copied
  refine made.trans (.of_keeps rfl (keeps_copy copied ?_ _) ?_)
  · intro l reached apart
    rcases touches.absent before plain (guards.named j.plt j.plt_mem) absent reached with free | ⟨rfl, there⟩
    · exact free
    · obtain ⟨bytes, found⟩ := Option.ne_none_iff_exists'.mp there
      obtain ⟨here, reachedBase, -⟩ := bytesAt?_eq_some_iff.mp found
      obtain rfl := reach_plain basePlain reachedBase
      exact absurd ⟨_, reachedBase, reached⟩ apart
  · obtain ⟨bytes, -, written, -⟩ := copy_eq_ok copied
    exact made.formed.modify written

theorem makeProjectPlt_traced (files : FileSet) (absent : s.tree.bytesAt? j.keeper.cwd j.plt = none) :
    (j.watched.makeProjectPlt files).Moves (Session.Traced j.places) s := by
  unfold makeProjectPlt
  refine (Act.info_traced formed _).bind_moves .trans fun _ s₁ logged sameTree => ?_
  refine ((j.watched.baseFiles_ends s₁).traced logged.formed).bind_moves .trans fun base s₂ resolved sameTree₂ => ?_
  have updates := (updateBase_works guards resolved.formed base).mono (fun _ _ worked => worked) fun _ _ worked =>
    worked.1
  refine updates.bind_moves .trans fun warnings s₃ updated touches => ?_
  rw [sameTree₂, sameTree] at touches
  have unmoved : s₃.Traced j.places s₃ := .of_quiet rfl (.refl s₃.tree) updated.formed
  refine Act.ensures_bind.mpr (Act.ensures_ofTree.mpr ⟨fun there answered => ?_, fun _ _ => unmoved⟩)
  refine Act.ensures_ite.mpr ⟨fun _ => ?_, fun notThere => ?_⟩
  · refine (copyBase_traced guards updated.formed formed absent touches).bind .trans fun _ s₄ copied => ?_
    have syncs := Keeper.sync_works guards copied.formed j.plt_mem base files
    exact Act.Ensures.bind syncs (fun _ _ worked => worked.1) fun _ _ worked => Act.ensures_pure.mpr worked.1
  · have noBase : s₃.tree.bytesAt? j.keeper.cwd j.basePlt = none := by
      have said : there = (s₃.tree.bytesAt? j.keeper.cwd j.basePlt).isSome := isFile_eq_ok answered
      cases found : s₃.tree.bytesAt? j.keeper.cwd j.basePlt with
      | none => rfl
      | some bytes => exact absurd (said.trans (by rw [found]; rfl)) notThere
    have still : s₃.tree.bytesAt? j.keeper.cwd j.plt = none := by
      cases found : s₃.tree.bytesAt? j.keeper.cwd j.plt with
      | none => rfl
      | some bytes =>
        obtain ⟨l, reached, entry⟩ := bytesAt?_eq_some_iff.mp found
        rcases touches.absent formed (guards.plain j.plt j.plt_mem) (guards.named j.plt j.plt_mem) absent reached
          with free | ⟨-, there⟩
        · exact nomatch free.symm.trans (fileAt?_eq_some_iff.mpr entry)
        · exact absurd noBase there
    have builds := Keeper.build_works guards updated.formed j.plt_mem files.toList still
    exact Act.Ensures.bind builds (fun _ _ worked => worked.1) fun _ _ worked => Act.ensures_pure.mpr worked.1

theorem updateProject_traced : (j.watched.updateProject).Moves (Session.Traced j.places) s := by
  unfold updateProject
  refine Act.ensures_ite.mpr ⟨fun _ => Act.ensures_pure.mpr (.of_quiet rfl (.refl s.tree) formed), fun _ => ?_⟩
  refine (Act.info_traced formed _).bind_moves .trans fun _ s₁ logged _ => ?_
  refine ((j.watched.requiredFiles_ends s₁).traced logged.formed).bind_moves .trans fun required s₂ resolved _ => ?_
  have reads := (Keeper.read_works guards resolved.formed j.plt).mono
    (fun _ _ asked => And.intro asked.1.1 asked.2) fun _ _ asked => asked.1
  refine reads.bind_moves .trans fun answer s₃ asked absent => ?_
  cases answer with
  | none => exact makeProjectPlt_traced guards asked.formed required (absent rfl)
  | some held =>
    exact (Keeper.sync_works guards asked.formed j.plt_mem held required).mono (fun _ _ worked => worked.1)
      fun _ _ worked => worked.1

theorem successTyping_traced : (j.watched.successTyping).Moves (Session.Traced j.places) s := by
  unfold successTyping
  refine Act.ensures_ite.mpr ⟨fun _ => Act.ensures_pure.mpr (.of_quiet rfl (.refl s.tree) formed), fun _ => ?_⟩
  refine (Act.info_traced formed _).bind_moves .trans fun _ s₁ logged _ => ?_
  refine ((j.watched.ownFiles_ends s₁).traced logged.formed).bind_moves .trans fun own s₂ resolved _ => ?_
  refine (Act.info_traced resolved.formed _).bind_moves .trans fun _ s₃ announced _ => ?_
  exact (Keeper.runPhase_works guards announced.formed j.plt_mem .successTyping _ (absurd · (by decide))).mono
    (fun _ _ worked => worked.1) fun _ _ worked => worked.1

theorem steps_traced : (j.watched.steps).Moves (Session.Traced j.places) s := by
  have begins : (j.watched.keeper.beginReport).Moves (Session.Traced j.places) s := by
    have done : ∀ s', (∃ t, s' = { s with tree := t } ∧ s.tree.Quiet t) → s.Traced j.places s' := by
      rintro _ ⟨t, rfl, quiet⟩
      exact .of_quiet rfl quiet formed
    exact (Keeper.beginReport_quiet (k := j.watched.keeper) guards.report).mono (fun _ => done) fun _ => done
  unfold steps
  refine begins.bind .trans fun output s₁ begun => ?_
  refine (updateProject_traced guards begun.formed).bind .trans fun maintenance s₂ updated => ?_
  refine (successTyping_traced guards updated.formed).bind .trans fun analysis s₃ typed => ?_
  exact Act.ensures_pure.mpr (.of_quiet rfl (.refl s₃.tree) typed.formed)

end

/-- The calls of a run, in order. -/
def moments (j : Job σ) (s : Session σ) : List Moment := (j.watched.run.after (s.on (s.backend, []))).backend.2

/-- A run does the same whether it is watched or not. -/
theorem watched_run (j : Job σ) (s : Session σ) :
    (j.watched.run.after (s.on (s.backend, []))).tree = (j.run.after s).tree := by
  have same : j.keeper.backend.Mirrors (j.keeper.backend.watched j.keeper.cwd) (fun st st' => st'.1 = st) Eq
      j.plts fun _ => Eq := by
    constructor
    · rintro plt - t st ⟨_, seen⟩ - rfl
      exact .of_result rfl ⟨rfl, rfl⟩ rfl
    · rintro o t _ st ⟨_, seen⟩ - rfl rfl
      exact .of_result rfl rfl rfl
  have alike : Session.Alike (fun st st' => st'.1 = st) s (s.on (s.backend, ([] : List Moment))) := ⟨_, rfl, rfl⟩
  rcases (run_on same (fun _ _ _ _ _ => congrArg _) alike).alike with
    ⟨o, s', r', ran, ran', _, _, rfl⟩ | ⟨e, s', r', failed, failed', _, _, rfl⟩
  · rw [Act.after_of_ok ran]
    exact congrArg Session.tree (Act.after_of_ok ran')
  · rw [Act.after_of_error failed]
    exact congrArg Session.tree (Act.after_of_error failed')

/-- The calls of a run are sound, and no file but warnings files is touched between them. -/
theorem run_traced (guards : j.keeper.Guards j.plts) {s : Session σ} (formed : s.tree.WellFormed) :
    (∀ m ∈ j.moments s, m.Sound j.places) ∧
      Unbroken (fun l => ¬ IsReport l) s.tree (j.moments s) (j.run.after s).tree ∧
      (j.run.after s).tree.WellFormed := by
  let opened := j.watched.opened (s.on (s.backend, []))
  have traced : opened.Traced j.places (j.watched.steps.after opened) :=
    (steps_traced guards (s := opened) formed).after
  obtain ⟨path, log, handedOn⟩ := j.watched.after_run (s.on (s.backend, []))
  have sameMoments : j.moments s = (j.watched.steps.after opened).backend.2 := by rw [moments, handedOn]
  have sameTree : (j.run.after s).tree = (j.watched.steps.after opened).tree := by
    rw [← watched_run, handedOn]
  obtain ⟨ms, seen, sound, unbroken, formed⟩ := traced
  have seen : (j.watched.steps.after opened).backend.2 = ms := seen
  rw [sameMoments, sameTree, seen]
  exact ⟨sound, unbroken, formed⟩

end Job

end PltKeeper
