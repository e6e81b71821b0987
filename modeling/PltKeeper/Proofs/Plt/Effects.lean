import PltKeeper.Proofs.Backend.SetSemantics

/-! What an analysis does to PLTs, told from the trees before and after it. The PLT that is written
holds what the sets of files say, and so does every PLT at the same place; all others are what they
were. Work on a PLT that is there does therefore no harm to any. -/
namespace PltKeeper

namespace FileTree

/-- Every PLT is what it was. -/
def SamePlts (format : PltFormat) (cwd : String) (plts : List Path) (t t' : FileTree) : Prop :=
  ∀ plt ∈ plts, t'.pltAt format cwd plt = t.pltAt format cwd plt

/-- A PLT holds these files now, and every other one at another place is what it was. -/
structure Written (format : PltFormat) (cwd : String) (plts : List Path) (plt : Path) (files : FileSet)
    (t t' : FileTree) : Prop where
  /-- The PLT holds the files. -/
  here : t'.pltAt format cwd plt = .holds files
  /-- So does every PLT at the same place. -/
  together : ∀ other ∈ plts, t.SameFile cwd other plt → t'.pltAt format cwd other = .holds files
  /-- A PLT at another place is what it was. -/
  elsewhere : ∀ other ∈ plts, ¬ t.SameFile cwd other plt →
    t'.pltAt format cwd other = t.pltAt format cwd other

/-- What an analysis that came through has done to the PLTs. -/
inductive Analysed (format : PltFormat) (cwd : String) (plts : List Path) (a : Analysis) (plt : Path)
    (files : FileSet) (t t' : FileTree) : Prop
  | spared (reading : a.writesPlt = false) (same : SamePlts format cwd plts t t')
  | written {held : FileSet} (made : a.product (t.pltAt format cwd plt) files = some held)
      (done : Written format cwd plts plt held t t')

/-- Work on a PLT that is there does no harm to any: none appears that was not there, and none
becomes unreadable. -/
structure Unharmed (format : PltFormat) (cwd : String) (plts : List Path) (t t' : FileTree) : Prop where
  /-- No PLT appears. -/
  absent : ∀ plt ∈ plts, t.pltAt format cwd plt = .absent → t'.pltAt format cwd plt = .absent
  /-- None becomes unreadable. -/
  readable : ∀ plt ∈ plts, t.pltAt format cwd plt ≠ .unreadable → t'.pltAt format cwd plt ≠ .unreadable

variable {format : PltFormat} {cwd : String} {plts : List Path} {a : Analysis} {plt : Path}
  {files held : FileSet} {t t' t'' : FileTree}

theorem SamePlts.refl (t : FileTree) : SamePlts format cwd plts t t := fun _ _ => rfl

theorem SamePlts.trans (first : SamePlts format cwd plts t t') (second : SamePlts format cwd plts t' t'') :
    SamePlts format cwd plts t t'' :=
  fun plt member => (second plt member).trans (first plt member)

theorem SamePlts.unharmed (same : SamePlts format cwd plts t t') : Unharmed format cwd plts t t' where
  absent plt member before := (same plt member).trans before
  readable plt member before after := before ((same plt member).symm.trans after)

theorem Unharmed.trans (first : Unharmed format cwd plts t t') (second : Unharmed format cwd plts t' t'') :
    Unharmed format cwd plts t t'' where
  absent plt member before := second.absent plt member (first.absent plt member before)
  readable plt member before := second.readable plt member (first.readable plt member before)

/-- Writing to a file that is no PLT changes none. -/
theorem samePlts_modify {output : Path} {change : List UInt8 → List UInt8}
    (apart : ∀ plt ∈ plts, ¬ t.SameFile cwd plt output) (done : t.modify cwd output change = .ok t') :
    SamePlts format cwd plts t t' :=
  fun plt member => pltAt_modify_of_apart done (apart plt member)

/-- What is done after an analysis and changes no PLT takes nothing back. -/
theorem Analysed.trans_same (analysed : Analysed format cwd plts a plt files t t') (member : plt ∈ plts)
    (same : SamePlts format cwd plts t' t'') : Analysed format cwd plts a plt files t t'' := by
  cases analysed with
  | spared reading spared => exact .spared reading (spared.trans same)
  | written made done =>
    refine .written made ⟨(same plt member).trans done.here, ?_, ?_⟩
    · intro other inPlts together
      exact (same other inPlts).trans (done.together other inPlts together)
    · intro other inPlts elsewhere
      exact (same other inPlts).trans (done.elsewhere other inPlts elsewhere)

theorem Written.unharmed (written : Written format cwd plts plt files t t')
    (there : t.pltAt format cwd plt ≠ .absent) : Unharmed format cwd plts t t' := by
  constructor
  · intro other member absent
    have elsewhere : ¬ t.SameFile cwd other plt := fun together =>
      there ((pltAt_eq_of_sameFile together).symm.trans absent)
    exact (written.elsewhere other member elsewhere).trans absent
  · intro other member readable
    by_cases together : t.SameFile cwd other plt
    · simp [written.together other member together]
    · exact (written.elsewhere other member together).symm ▸ readable

/-- A build makes a PLT of just the files given. -/
theorem Analysed.built (analysed : Analysed format cwd plts .build plt files t t') :
    Written format cwd plts plt files t t' := by
  cases analysed with
  | spared reading _ => exact absurd reading (by decide)
  | written made done =>
    cases Option.some.inj made
    exact done

end FileTree

/-- The files that a PLT holds after an analysis that came through. -/
def Analysis.outcome : Analysis → FileSet → FileSet → FileSet
  | build, _, files => files
  | add, held, files => held ∪ files
  | remove, held, files => held \ files
  | check, held, _ | successTyping, held, _ => held

/-- An analysis of no files would change nothing of a PLT. -/
theorem Analysis.outcome_empty {a : Analysis} (notBuild : a ≠ .build) (held : FileSet) :
    a.outcome held ∅ = held := by
  cases a with
  | build => exact absurd rfl notBuild
  | add => exact FileSet.ext fun file => by simp [outcome]
  | remove => exact FileSet.ext fun file => by simp [outcome]
  | check => rfl
  | successTyping => rfl

namespace FileTree

/-! ## Phases and syncs -/

/-- A phase that came through: without files it changed nothing. -/
def Phased (format : PltFormat) (cwd : String) (plts : List Path) (a : Analysis) (plt : Path)
    (files : FileSet) (t t' : FileTree) : Prop :=
  (files = ∅ → t' = t) ∧ (files ≠ ∅ → Analysed format cwd plts a plt files t t')

/-- A phase that failed: either its analysis failed, or only its warnings could not be reported. -/
def Halted (format : PltFormat) (cwd : String) (plts : List Path) (a : Analysis) (plt : Path)
    (files : FileSet) (t t' : FileTree) : Prop :=
  SamePlts format cwd plts t t' ∨ Analysed format cwd plts a plt files t t'

/-- A sync that came through. -/
def Synced (format : PltFormat) (cwd : String) (plts : List Path) (plt : Path) (held required : FileSet)
    (t t' : FileTree) : Prop :=
  ∃ t₁ t₂, Phased format cwd plts .remove plt (held \ required) t t₁ ∧
    Phased format cwd plts .check plt (held ∩ required) t₁ t₂ ∧
    Phased format cwd plts .add plt (required \ held) t₂ t'

/-- A sync that failed in one of its phases. -/
inductive SyncHalted (format : PltFormat) (cwd : String) (plts : List Path) (plt : Path)
    (held required : FileSet) (t t' : FileTree) : Prop
  | remove (halted : Halted format cwd plts .remove plt (held \ required) t t')
  | check {t₁ : FileTree} (removed : Phased format cwd plts .remove plt (held \ required) t t₁)
      (halted : Halted format cwd plts .check plt (held ∩ required) t₁ t')
  | add {t₁ t₂ : FileTree} (removed : Phased format cwd plts .remove plt (held \ required) t t₁)
      (checked : Phased format cwd plts .check plt (held ∩ required) t₁ t₂)
      (halted : Halted format cwd plts .add plt (required \ held) t₂ t')

variable {format : PltFormat} {cwd : String} {plts : List Path} {a : Analysis} {plt : Path}
  {files held required : FileSet} {t t' : FileTree}

theorem Analysed.of_holds (analysed : Analysed format cwd plts a plt files t t') (member : plt ∈ plts)
    (holds : t.pltAt format cwd plt = .holds held) :
    t'.pltAt format cwd plt = .holds (a.outcome held files) ∧ Unharmed format cwd plts t t' := by
  cases analysed with
  | spared reading same =>
    refine ⟨?_, same.unharmed⟩
    rw [same plt member, holds]
    cases a <;> first | rfl | exact absurd reading (by decide)
  | written made done =>
    refine ⟨?_, done.unharmed (by simp [holds])⟩
    rw [done.here]
    cases a <;> simp [Analysis.product, holds] at made <;> simp [Analysis.outcome, made]

/-- An analysis that writes no PLT changes none. -/
theorem Analysed.same (analysed : Analysed format cwd plts a plt files t t') (reading : a.writesPlt = false) :
    SamePlts format cwd plts t t' := by
  cases analysed with
  | spared _ same => exact same
  | written made _ => cases a <;> simp [Analysis.writesPlt, Analysis.product] at reading made

theorem Phased.same (phased : Phased format cwd plts a plt files t t') (reading : a.writesPlt = false) :
    SamePlts format cwd plts t t' := by
  by_cases none : files = ∅
  · rw [phased.1 none]
    exact .refl t
  · exact (phased.2 none).same reading

theorem Phased.of_holds (phased : Phased format cwd plts a plt files t t') (member : plt ∈ plts)
    (notBuild : a ≠ .build) (holds : t.pltAt format cwd plt = .holds held) :
    t'.pltAt format cwd plt = .holds (a.outcome held files) ∧ Unharmed format cwd plts t t' := by
  by_cases none : files = ∅
  · rw [phased.1 none, none, Analysis.outcome_empty notBuild]
    exact ⟨holds, (SamePlts.refl t).unharmed⟩
  · exact (phased.2 none).of_holds member holds

theorem Halted.of_holds (halted : Halted format cwd plts a plt files t t') (member : plt ∈ plts)
    (holds : t.pltAt format cwd plt = .holds held) :
    (t'.pltAt format cwd plt = .holds held ∨ t'.pltAt format cwd plt = .holds (a.outcome held files)) ∧
      Unharmed format cwd plts t t' := by
  rcases halted with same | analysed
  · exact ⟨.inl ((same plt member).trans holds), same.unharmed⟩
  · have turned := analysed.of_holds member holds
    exact ⟨.inr turned.1, turned.2⟩

/-- A sync that is told what a PLT holds leads it to exactly the files required. -/
theorem Synced.of_holds (synced : Synced format cwd plts plt held required t t') (member : plt ∈ plts)
    (holds : t.pltAt format cwd plt = .holds held) :
    t'.pltAt format cwd plt = .holds required ∧ Unharmed format cwd plts t t' := by
  obtain ⟨t₁, t₂, removed, checked, added⟩ := synced
  obtain ⟨holds, first⟩ := removed.of_holds member (by decide) holds
  obtain ⟨holds, second⟩ := checked.of_holds member (by decide) holds
  obtain ⟨holds, third⟩ := added.of_holds member (by decide) holds
  refine ⟨?_, (first.trans second).trans third⟩
  rw [holds]
  show PltState.holds ((held \ (held \ required)) ∪ (required \ held)) = _
  rw [FileSet.diff_diff_self, FileSet.inter_union_diff]

/-- A sync that is told a PLT is empty adds what is required to whatever the PLT holds. -/
theorem Synced.of_empty (synced : Synced format cwd plts plt ∅ required t t') (some : required ≠ ∅) :
    ∃ actual, t.pltAt format cwd plt = .holds actual ∧
      t'.pltAt format cwd plt = .holds (actual ∪ required) := by
  obtain ⟨t₁, t₂, removed, checked, added⟩ := synced
  obtain rfl := removed.1 (FileSet.ext fun file => by simp)
  obtain rfl := checked.1 (FileSet.ext fun file => by simp)
  have all : required \ (∅ : FileSet) = required := FileSet.ext fun file => by simp
  rw [all] at added
  cases added.2 some with
  | spared reading _ => exact absurd reading (by decide)
  | written made done =>
    cases state : t₂.pltAt format cwd plt with
    | holds actual =>
      rw [state] at made
      cases made
      exact ⟨actual, rfl, done.here⟩
    | absent => simp [state, Analysis.product] at made
    | unreadable => simp [state, Analysis.product] at made

/-- Wherever a sync stops, the PLT is as it was, without what is not required, or complete. -/
theorem SyncHalted.of_holds (halted : SyncHalted format cwd plts plt held required t t')
    (member : plt ∈ plts) (holds : t.pltAt format cwd plt = .holds held) :
    (t'.pltAt format cwd plt = .holds held ∨ t'.pltAt format cwd plt = .holds (held ∩ required) ∨
      t'.pltAt format cwd plt = .holds required) ∧ Unharmed format cwd plts t t' := by
  have kept : Analysis.outcome .remove held (held \ required) = held ∩ required := FileSet.diff_diff_self
  cases halted with
  | remove halted =>
    have ⟨state, unharmed⟩ := halted.of_holds member holds
    rw [kept] at state
    exact ⟨state.imp id .inl, unharmed⟩
  | check removed halted =>
    obtain ⟨holds, first⟩ := removed.of_holds member (by decide) holds
    have ⟨state, second⟩ := halted.of_holds member (holds.trans (congrArg _ kept))
    exact ⟨.inr (.inl (state.elim id id)), first.trans second⟩
  | add removed checked halted =>
    obtain ⟨holds, first⟩ := removed.of_holds member (by decide) holds
    obtain ⟨holds, second⟩ := checked.of_holds member (by decide) (holds.trans (congrArg _ kept))
    have ⟨state, third⟩ := halted.of_holds member holds
    have complete : Analysis.outcome .add (held ∩ required) (required \ held) = required :=
      FileSet.inter_union_diff
    exact ⟨.inr (state.imp id fun added => added.trans (congrArg _ complete)),
      (first.trans second).trans third⟩

end FileTree

end PltKeeper
