import PltKeeper.Proofs.Plt.Upkeep

/-! When the maintenance of PLTs comes through. With a backend that does what it can, and with room
for all files, no step of it fails: a PLT that is there can be synced, and one that is not can be
built. Each step leaves room for the next. -/
namespace PltKeeper.Keeper

variable {σ : Type} {k : Keeper σ} {format : PltFormat} {plts : List Path} {plt : Path} {room t t' : FileTree}
  {files held required : FileSet} {s : Session σ} {a : Analysis}

/-- What the analyses find can be filed: its lines can be encoded, and the system takes all of them. -/
structure Legible (k : Keeper σ) : Prop where
  encodable : k.FindsEncodable
  unstopped : ∀ t bytes, k.stops? t bytes = none

/-- A tree in which the report can go on, with room for it and for all PLTs. -/
structure Sturdy (k : Keeper σ) (room : FileTree) (plts : List Path) (t : FileTree) : Prop where
  roomy : FileTree.Roomy room k.cwd (k.output :: plts) t
  reports : t.Writable k.cwd k.output

theorem Sturdy.makeDirs (sturdy : k.Sturdy room plts t) (member : plt ∈ plts) :
    ∃ t', t.makeDirs k.cwd plt.parent = (.ok (), t') ∧ k.Sturdy room plts t' ∧ t'.Writable k.cwd plt := by
  obtain ⟨t', made, roomy, grown, writable⟩ := sturdy.roomy.makeDirs (List.mem_cons_of_mem _ member)
  have reports := sturdy.reports.later roomy List.mem_cons_self fun _ dir => grown.kept dir
  exact ⟨t', made, ⟨roomy, reports⟩, writable⟩

theorem Sturdy.modify {p : Path} {change : List UInt8 → List UInt8} (sturdy : k.Sturdy room plts t)
    (member : p ∈ k.output :: plts) (done : t.modify k.cwd p change = .ok t') : k.Sturdy room plts t' := by
  have roomy := sturdy.roomy.modify member done
  exact ⟨roomy, sturdy.reports.later roomy List.mem_cons_self (FileTree.dirs_of_modify done)⟩

/-- A report begins where there is room for it. -/
theorem beginReport_succeeds (roomy : FileTree.Roomy room k.cwd (k.output :: plts) s.tree) :
    k.beginReport.Succeeds s fun _ s' => k.Sturdy room plts s'.tree := by
  obtain ⟨t, made, roomy, -, writable⟩ := roomy.makeDirs List.mem_cons_self
  obtain ⟨t', written⟩ := writable.modify fun _ => []
  have sturdy : k.Sturdy room plts t := ⟨roomy, writable⟩
  unfold beginReport
  refine Act.ensures_bind.mpr (Act.succeeds_restate (Act.ensures_bind.mpr ?_))
  refine Act.succeeds_changePartly made (Act.succeeds_change written (Act.ensures_pure.mpr ?_))
  exact sturdy.modify List.mem_cons_self written

theorem report_succeeds (sturdy : k.Sturdy room plts s.tree) (unstopped : ∀ t bytes, k.stops? t bytes = none)
    {ds : List Diagnostic} (encodable : ∀ d ∈ ds, d.IsEncodable) :
    (k.report ds).Succeeds s fun _ s' => k.Sturdy room plts s'.tree := by
  obtain ⟨t, appended⟩ := sturdy.reports.modify fun old => old ++ reportBytes (ds.map Diagnostic.reported)
  have filed := filing_of_append unstopped encodable appended
  refine ensures_report (fun _ => sturdy) (fun t' again => ?_) fun e t' failed => nomatch filed.symm.trans failed
  cases filed.symm.trans again
  exact sturdy.modify List.mem_cons_self appended

/-- An analysis that can be carried out is, and leaves room for the next. -/
theorem analyze_succeeds (serves : k.backend.Serves format k.cwd plts)
    (member : plt ∈ plts) (sturdy : k.Sturdy room plts s.tree)
    (writable : a.writesPlt = true → s.tree.Writable k.cwd plt)
    (holds : a ≠ .build → a ≠ .successTyping → ∃ held, s.tree.pltAt format k.cwd plt = .holds held) :
    (k.analyze a files.toList plt).Succeeds s fun _ s' => k.Sturdy room plts s'.tree := by
  let options := k.wishes.optionsFor a files.toList plt
  let reply := k.backend.analyze options s.tree s.backend
  have feasible : options.Feasible format k.cwd s.tree := by
    constructor
    · intro writing
      have writing : a.writesPlt = true := writing
      refine ⟨plt, ?_, writable writing⟩
      cases a <;> first | rfl | exact absurd writing (by decide)
    · intro notBuild notTyping
      obtain ⟨held, state⟩ := holds notBuild notTyping
      have read : options.initPlt = some plt := if_neg notBuild
      exact ⟨held, by simpa only [Options.initial, read] using state⟩
  obtain ⟨ds, ran⟩ := serves.analyses options s.tree s.backend feasible
  have left : k.Sturdy room plts reply.tree := by
    rcases serves.confined options s.tree s.backend ds ran with same | ⟨target, bytes, output, written⟩
    · exact same.symm ▸ sturdy
    · have target : target = plt := by
        cases a <;> cases output <;> rfl
      exact sturdy.modify (List.mem_cons_of_mem _ (target ▸ member)) written
  unfold Act.Succeeds
  rw [ensures_analyze (rfl : _ = options) (rfl : _ = reply)]
  refine ⟨fun _ _ => left, fun e failed => ?_⟩
  exact nomatch ran.symm.trans failed

theorem runPhase_succeeds (serves : k.backend.Serves format k.cwd plts) (legible : k.Legible)
    (canonical : files.Canonical k.cwd) (member : plt ∈ plts) (sturdy : k.Sturdy room plts s.tree)
    (writable : a.writesPlt = true → s.tree.Writable k.cwd plt)
    (holds : a ≠ .build → a ≠ .successTyping → ∃ held, s.tree.pltAt format k.cwd plt = .holds held) :
    (k.runPhase a plt files.toList).Succeeds s fun _ s' => k.Sturdy room plts s'.tree := by
  unfold runPhase
  simp only [FileSet.of_toList canonical, FileSet.isEmpty_toList]
  refine Act.ensures_ite.mpr ⟨fun _ => Act.ensures_pure.mpr sturdy, fun _ => ?_⟩
  rw [ensures_recordPhase]
  have analyzes := (Act.ensures_ran (k.analyze a files.toList plt) s).and
    (analyze_succeeds serves member sturdy writable holds)
  refine Act.ensures_bind.mpr (analyzes.mono ?_ fun _ _ both => both.2)
  rintro ds s' ⟨ran, left⟩
  exact report_succeeds left legible.unstopped (legible.encodable _ _ _ _ _ _ ran)

/-- A part of a delta is carried out on a PLT that is there. -/
theorem part_succeeds (keeps : k.Keeps format plts) (serves : k.backend.Serves format k.cwd plts) (legible : k.Legible)
    (canonical : files.Canonical k.cwd) (member : plt ∈ plts) (notBuild : a ≠ .build) (message : String)
    (sturdy : k.Sturdy room plts s.tree) (there : s.tree.pltAt format k.cwd plt = .holds held) :
    (k.part a plt files message).Succeeds s fun _ s' => k.Sturdy room plts s'.tree ∧
      s'.tree.pltAt format k.cwd plt = .holds (a.outcome held files) := by
  have comesThrough : (k.part a plt files message).Succeeds s fun _ s' => k.Sturdy room plts s'.tree := by
    unfold part
    refine Act.ensures_ite.mpr ⟨fun _ => Act.ensures_pure.mpr sturdy, fun _ => ?_⟩
    refine Act.ensures_bind.mpr (Act.ensures_info.mpr ?_)
    have present : s.tree.pltAt format k.cwd plt ≠ .absent := by simp [there]
    have writable := sturdy.roomy.formed.writable_plt present
    exact runPhase_succeeds serves legible canonical member sturdy (fun _ => writable) fun _ _ => ⟨held, there⟩
  refine (comesThrough.and (part_ends keeps canonical member a message s)).mono ?_ fun _ _ never => never
  rintro n s' ⟨left, -, phased⟩
  exact ⟨left, (phased.of_holds member notBuild there).1⟩

/-- A PLT that is there is synced. -/
theorem sync_succeeds (keeps : k.Keeps format plts) (serves : k.backend.Serves format k.cwd plts)
    (legible : k.Legible) (heldKeys : held.Canonical k.cwd) (keys : required.Canonical k.cwd) (member : plt ∈ plts)
    (sturdy : k.Sturdy room plts s.tree) (there : s.tree.pltAt format k.cwd plt = .holds held) :
    (k.sync plt held required).Succeeds s fun _ s' => k.Sturdy room plts s'.tree := by
  unfold sync Delta.between
  refine Act.Succeeds.bind (part_succeeds keeps serves legible (heldKeys.diff required) member (by decide) _ sturdy
    there) ?_
  rintro _ s₁ ⟨sturdy, there⟩
  refine Act.Succeeds.bind (part_succeeds keeps serves legible (heldKeys.inter required) member (by decide) _ sturdy
    there) ?_
  rintro _ s₂ ⟨sturdy, there⟩
  refine Act.Succeeds.bind (part_succeeds keeps serves legible (keys.diff held) member (by decide) _ sturdy there) ?_
  rintro _ s₃ ⟨sturdy, -⟩
  exact Act.ensures_pure.mpr sturdy

/-- A PLT that is not there is built. -/
theorem build_succeeds (serves : k.backend.Serves format k.cwd plts) (legible : k.Legible)
    (canonical : files.Canonical k.cwd) (member : plt ∈ plts) (sturdy : k.Sturdy room plts s.tree) :
    (k.build plt files.toList).Succeeds s fun _ s' => k.Sturdy room plts s'.tree := by
  obtain ⟨t, made, sturdy, writable⟩ := sturdy.makeDirs member
  unfold build
  simp only [FileSet.of_toList canonical]
  refine Act.ensures_bind.mpr (Act.succeeds_restate (Act.succeeds_changePartly made ?_))
  refine Act.ensures_bind.mpr (Act.ensures_info.mpr ?_)
  exact runPhase_succeeds serves legible canonical member sturdy (fun _ => writable)
    fun notBuild _ => absurd rfl notBuild

/-- A question about a PLT that can be read is answered. -/
theorem read_succeeds (keeps : k.Keeps format plts) (serves : k.backend.Serves format k.cwd plts)
    (member : plt ∈ plts) (readable : s.tree.pltAt format k.cwd plt ≠ .unreadable) :
    (k.read plt).Succeeds s fun answer s' => s.Follows s' [.query plt] ∧ s'.tree = s.tree ∧
      s.tree.pltAt format k.cwd plt = .ofAnswer answer := by
  obtain ⟨answer, given⟩ := serves.answers plt member s.tree s.backend readable
  have answered : (k.read plt).Succeeds s fun _ _ => True := by
    show (accept (.query plt) (k.backend.query plt s.tree s.backend)).Ensures s _ _
    rw [ensures_accept]
    exact ⟨fun _ _ => trivial, fun e failed => nomatch given.symm.trans failed⟩
  exact (answered.and (read_ends keeps member s)).mono (fun _ _ both => both.2) fun _ _ never => never

end PltKeeper.Keeper
