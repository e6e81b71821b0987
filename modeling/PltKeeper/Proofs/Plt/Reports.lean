import PltKeeper.Plt.Keeper
import PltKeeper.Proofs.Ending
import PltKeeper.Proofs.Tree.Refusals
import Mathlib.Algebra.Ring.Nat

/-! How warnings are reported. A report begins with an empty file and only adds to it. Warnings are shown first and
counted last, so what cannot be filed has been shown and is not counted. Nothing is remembered of the file between
two reports, and others may do with it what they like; each report adds its lines to whatever it finds there, and
the total is what all reports have returned. A report that fails may have added some of its lines all the same. Where
the file cannot be written, the failure names it; the exceptions are a path that holds a character that no name may
hold, and a line that cannot be encoded. -/
namespace PltKeeper

variable {σ : Type}

/-- The line of a warning can be encoded. -/
def Diagnostic.IsEncodable (d : Diagnostic) : Prop := Text.IsEncodable d.reported

instance (d : Diagnostic) : Decidable d.IsEncodable := inferInstanceAs (Decidable (Text.IsEncodable _))

namespace Keeper

variable {k : Keeper σ} {s s' : Session σ} {ds : List Diagnostic} {e : Failure}

/-! ## What reporting does -/

theorem reportBytes_append (first second : List String) :
    reportBytes (first ++ second) = reportBytes first ++ reportBytes second := by
  simp [reportBytes]

theorem reportBytes_eq_flatMap (lines : List String) : (fileLines lines).flatMap Text.Utf8.encode = reportBytes lines := by
  simp [fileLines, reportBytes, List.flatMap_map]

/-- What comes of adding warnings to their file. -/
def filing (k : Keeper σ) (ds : List Diagnostic) (t : FileTree) : Except Failure Unit × FileTree :=
  t.appendTexts k.cwd k.output k.stops? (fileLines (ds.map Diagnostic.reported))

/-- A report that begins makes the directories of its file, and then empties it. -/
theorem ensures_beginReport_iff {post : Path → Session σ → Prop} {stopped : Failure → Session σ → Prop} :
    k.beginReport.Ensures s post stopped ↔
      ((s.tree.makeDirs k.cwd k.output.parent).1 = .ok () →
        (∀ t, (s.tree.makeDirs k.cwd k.output.parent).2.write k.cwd k.output [] = .ok t →
          post k.output { s with tree := t }) ∧
        ∀ e, (s.tree.makeDirs k.cwd k.output.parent).2.write k.cwd k.output [] = .error e →
          stopped (Act.restated k.outputFailed e) { s with tree := (s.tree.makeDirs k.cwd k.output.parent).2 }) ∧
      ∀ e, (s.tree.makeDirs k.cwd k.output.parent).1 = .error e →
        stopped (Act.restated k.outputFailed e) { s with tree := (s.tree.makeDirs k.cwd k.output.parent).2 } := by
  unfold beginReport
  rw [Act.ensures_bind, Act.ensures_restate_iff, Act.ensures_bind, Act.ensures_changePartly]
  simp only [Act.ensures_change, Act.ensures_pure]

/-- A report begins with an empty file; one that fails to has made directories at most. -/
theorem ensures_beginReport {post : Path → Session σ → Prop} {stopped : Failure → Session σ → Prop}
    (begun : ∀ t, (s.tree.makeDirs k.cwd k.output.parent).2.write k.cwd k.output [] = .ok t →
      post k.output { s with tree := t })
    (failed : ∀ e, stopped e { s with tree := (s.tree.makeDirs k.cwd k.output.parent).2 }) :
    k.beginReport.Ensures s post stopped :=
  ensures_beginReport_iff.mpr ⟨fun _ => ⟨begun, fun _ _ => failed _⟩, fun _ _ => failed _⟩

/-- Warnings are shown, then filed and counted. Where there are none, nothing is done. -/
theorem ensures_report_iff {post : Nat → Session σ → Prop} {stopped : Failure → Session σ → Prop} :
    (k.report ds).Ensures s post stopped ↔ (ds = [] → post 0 s) ∧
      (ds ≠ [] →
        ((k.filing ds s.tree).1 = .ok () →
          post ds.length { s with
            tree := (k.filing ds s.tree).2
            console := s.console ++ ds.map Diagnostic.reported
            total := s.total + ds.length }) ∧
        ∀ e, (k.filing ds s.tree).1 = .error e →
          stopped (Act.restated k.outputFailed e) { s with
            tree := (k.filing ds s.tree).2
            console := s.console ++ ds.map Diagnostic.reported }) := by
  unfold report
  rw [Act.ensures_bind, Act.ensures_modify, Act.ensures_ite]
  simp only [Act.ensures_bind, Act.ensures_restate_iff, Act.ensures_changePartly, Act.ensures_modify, Act.ensures_pure]
  by_cases none : ds = []
  · subst none
    simp
  · simp [none, filing]

/-- Warnings are shown, filed and counted. If they cannot be filed they have been shown all the same. -/
theorem ensures_report {post : Nat → Session σ → Prop} {stopped : Failure → Session σ → Prop}
    (silent : ds = [] → post 0 s)
    (filed : ∀ t, k.filing ds s.tree = (.ok (), t) →
      post ds.length { s with
        tree := t
        console := s.console ++ ds.map Diagnostic.reported
        total := s.total + ds.length })
    (unfiled : ∀ e t, k.filing ds s.tree = (.error e, t) →
      stopped (Act.restated k.outputFailed e)
        { s with tree := t, console := s.console ++ ds.map Diagnostic.reported }) :
    (k.report ds).Ensures s post stopped :=
  ensures_report_iff.mpr ⟨silent, fun _ => ⟨fun came => filed _ (Prod.ext came rfl),
    fun e failed => unfiled e _ (Prod.ext failed rfl)⟩⟩

/-- A report that has begun has emptied its file and counted nothing. -/
theorem beginReport_clears {output : Path} (begun : k.beginReport s = .ok output s') : s'.total = s.total ∧
    s'.phases = s.phases ∧ s'.console = s.console ∧ s'.tree.bytesAt? k.cwd k.output = some [] := by
  have ends : k.beginReport.Ensures s (fun _ s' => s'.total = s.total ∧ s'.phases = s.phases ∧
      s'.console = s.console ∧ s'.tree.bytesAt? k.cwd k.output = some []) fun _ _ => True :=
    ensures_beginReport (fun t written => ⟨rfl, rfl, rfl, (FileTree.bytesAt?_modify written).1⟩) fun _ => trivial
  exact ends.of_ok begun

/-! ## How reporting fails -/

/-- A failure of a report: its file could not be written, its path cannot be used at all, or a line of what is
reported cannot be encoded. -/
inductive Unreported (k : Keeper σ) (ds : List Diagnostic) : Failure → Prop
  | unwritten (cause : SystemError) : Unreported k ds (.tool (k.outputFailed cause))
  | unusable (unusable : ¬ k.output.Usable) (name : String) : Unreported k ds (.unusable name)
  | spoiled {d : Diagnostic} (member : d ∈ ds) (spoils : ¬ d.IsEncodable) (fault : Text.EncodeFault) :
    Unreported k ds (.notEncodable fault "")

theorem restated_unusable (name : String) : Act.restated k.outputFailed (.unusable name) = .unusable name := by
  obtain ⟨text, same⟩ | ⟨fault, same⟩ := Failure.unusable_cases name <;> rw [same] <;> rfl

theorem unreported_restated (access : e.OfAccess k.output) : k.Unreported ds (Act.restated k.outputFailed e) := by
  cases access with
  | refused cause => exact .unwritten cause
  | unusable unusable name =>
    rw [restated_unusable]
    exact .unusable unusable name

theorem Unreported.of_usable (unreported : k.Unreported ds e) (usable : k.output.Usable)
    (encodable : ∀ d ∈ ds, d.IsEncodable) : ∃ cause, e = .tool (k.outputFailed cause) := by
  cases unreported with
  | unwritten cause => exact ⟨cause, rfl⟩
  | unusable unusable => exact absurd usable unusable
  | spoiled member spoils => exact absurd (encodable _ member) spoils

/-- A line can be filed just where it can be encoded. -/
theorem isEncodable_fileLine {line : String} : Text.IsEncodable (line ++ "\n") ↔ Text.IsEncodable line := by
  have feed : Text.isHalf '\n' = false := rfl
  simp [Text.IsEncodable, or_imp, forall_and, feed]

theorem isEncodable_fileLines (encodable : ∀ d ∈ ds, d.IsEncodable) :
    ∀ line ∈ fileLines (ds.map Diagnostic.reported), Text.IsEncodable line := by
  simp only [fileLines, List.mem_map]
  rintro _ ⟨_, ⟨d, member, rfl⟩, rfl⟩
  exact isEncodable_fileLine.mpr (encodable d member)

/-- Where warnings are filed all their lines are added to the file. -/
theorem append_of_filing {t t' : FileTree} (filed : k.filing ds t = (.ok (), t')) :
    t.append k.cwd k.output (reportBytes (ds.map Diagnostic.reported)) = .ok t' := by
  have appends := t.appendTexts_appends k.cwd k.output k.stops? (fileLines (ds.map Diagnostic.reported))
  rw [show t.appendTexts k.cwd k.output k.stops? (fileLines (ds.map Diagnostic.reported)) = _ from filed] at appends
  cases appends with
  | all _ added => rwa [reportBytes_eq_flatMap] at added

/-- Where they are not, the lines at the front may have been added. -/
theorem part_of_filing {t t' : FileTree} (failed : k.filing ds t = (.error e, t')) :
    k.Unreported ds (Act.restated k.outputFailed e) ∧
      (t' = t ∨ ∃ front, front <+: reportBytes (ds.map Diagnostic.reported) ∧
        t.append k.cwd k.output front = .ok t') := by
  have appends := t.appendTexts_appends k.cwd k.output k.stops? (fileLines (ds.map Diagnostic.reported))
  rw [show t.appendTexts k.cwd k.output k.stops? (fileLines (ds.map Diagnostic.reported)) = _ from failed] at appends
  refine ⟨?_, by simpa only [reportBytes_eq_flatMap] using appends.added⟩
  cases appends with
  | refused access => exact unreported_restated access
  | stopped _ _ cause => exact .unwritten cause
  | @spoiled _ whole more line fault cut _ spoils _ =>
    have member : line ∈ fileLines (ds.map Diagnostic.reported) := by
      rw [cut]
      exact List.mem_append_right _ List.mem_cons_self
    simp only [fileLines, List.mem_map] at member
    obtain ⟨_, ⟨d, inBatch, rfl⟩, rfl⟩ := member
    refine .spoiled inBatch (fun encodable => ?_) fault
    rw [Text.fault?_isHalf_iff.mpr (isEncodable_fileLine.mpr encodable)] at spoils
    cases spoils

/-- Where the system does not stop, lines that can be encoded are filed as far as the file can be added to. -/
theorem filing_of_append {t t' : FileTree} (unstopped : ∀ t bytes, k.stops? t bytes = none)
    (encodable : ∀ d ∈ ds, d.IsEncodable)
    (added : t.append k.cwd k.output (reportBytes (ds.map Diagnostic.reported)) = .ok t') :
    k.filing ds t = (.ok (), t') := by
  rw [filing, FileTree.appendTexts, Text.encodeAll_of_encodable (isEncodable_fileLines encodable)]
  simp only [unstopped, reportBytes_eq_flatMap, added]

/-- Whatever comes of it, nothing but the file is touched, and that only added to. -/
theorem tree_of_filing {t t' : FileTree} {r : Except Failure Unit} (filed : k.filing ds t = (r, t')) :
    t' = t ∨ ∃ added, t.append k.cwd k.output added = .ok t' := by
  cases r with
  | ok => exact .inr ⟨_, append_of_filing filed⟩
  | error e =>
    obtain ⟨-, same | ⟨front, -, added⟩⟩ := part_of_filing filed
    · exact .inl same
    · exact .inr ⟨front, added⟩

/-- Where the system does not stop and every line can be encoded, nothing is added of what is not filed. -/
theorem unchanged_of_filing {t t' : FileTree} (unstopped : ∀ t bytes, k.stops? t bytes = none)
    (encodable : ∀ d ∈ ds, d.IsEncodable) (failed : k.filing ds t = (.error e, t')) : t' = t := by
  rw [filing, FileTree.appendTexts, Text.encodeAll_of_encodable (isEncodable_fileLines encodable)] at failed
  simp only [unstopped] at failed
  split at failed <;> cases failed
  rfl

/-- A report that does not begin has made directories. -/
theorem beginReport_unreported (failed : k.beginReport s = .error e s') : k.Unreported [] e ∧
    s' = { s with tree := (s.tree.makeDirs k.cwd k.output.parent).2 } := by
  have ends : k.beginReport.Ensures s (fun _ _ => True) fun e s' => k.Unreported [] e ∧
      s' = { s with tree := (s.tree.makeDirs k.cwd k.output.parent).2 } := by
    refine ensures_beginReport_iff.mpr ⟨fun _ => ⟨fun _ _ => trivial, fun e refused => ⟨?_, rfl⟩⟩,
      fun e refused => ⟨?_, rfl⟩⟩
    · exact unreported_restated (FileTree.modify_access refused)
    · exact unreported_restated ((FileTree.makeDirs_access refused).mono fun _ member => List.dropLast_subset _ member)
  exact ends.of_error failed

/-- What reporting does in a session, whatever has become of its file. -/
structure KeepsReport (k : Keeper σ) (s : Session σ) : Prop where
  /-- A report that begins leaves its file empty and the total as it is. -/
  begins : ∀ output s', k.beginReport s = .ok output s' →
    output = k.output ∧ s'.tree.bytesAt? k.cwd k.output = some [] ∧ s'.total = s.total
  /-- One that does not leaves the total as it is, too. -/
  notBegun : ∀ e s', k.beginReport s = .error e s' → k.Unreported [] e ∧ s'.total = s.total
  /-- Without warnings nothing is touched. -/
  silent : k.report [] s = .ok 0 s
  /-- Warnings that are filed stand after what was in the file, line by line, and are counted. -/
  files : ∀ ds n s', ds ≠ [] → k.report ds s = .ok n s' → n = ds.length ∧ s'.total = s.total + n ∧
    s'.tree.bytesAt? k.cwd k.output =
      some ((s.tree.bytesAt? k.cwd k.output).getD [] ++ reportBytes (ds.map Diagnostic.reported))
  /-- Warnings that are not filed are not counted; what may stand of them in the file is the front of their lines. -/
  notFiled : ∀ ds e s', k.report ds s = .error e s' → k.Unreported ds e ∧ s'.total = s.total ∧
    (s'.tree = s.tree ∨ ∃ front, front <+: reportBytes (ds.map Diagnostic.reported) ∧
      s'.tree.bytesAt? k.cwd k.output = some ((s.tree.bytesAt? k.cwd k.output).getD [] ++ front))
  /-- Either way they are shown. -/
  shows : ∀ ds, ((k.report ds).after s).console = s.console ++ ds.map Diagnostic.reported

theorem keepsReport (k : Keeper σ) (s : Session σ) : k.KeepsReport s where
  begins := by
    intro output s' begun
    obtain ⟨total, -, -, empty⟩ := beginReport_clears begun
    have ends : k.beginReport.Ensures s (fun output _ => output = k.output) fun _ _ => True :=
      ensures_beginReport (fun _ _ => rfl) fun _ => trivial
    exact ⟨ends.of_ok begun, empty, total⟩
  notBegun := by
    intro e s' failed
    obtain ⟨unreported, rfl⟩ := beginReport_unreported failed
    exact ⟨unreported, rfl⟩
  silent := by
    obtain ⟨n, s', ran, rfl, rfl⟩ : ∃ n s', k.report [] s = .ok n s' ∧ n = 0 ∧ s' = s := by
      have ends : (k.report []).Succeeds s fun n s' => n = 0 ∧ s' = s :=
        ensures_report_iff.mpr ⟨fun _ => ⟨rfl, rfl⟩, fun some => absurd rfl some⟩
      exact ends.eq_ok
    exact ran
  files := by
    intro ds n s' some ran
    have ends : (k.report ds).Ensures s (fun n s' => n = ds.length ∧ s'.total = s.total + n ∧
        s'.tree.bytesAt? k.cwd k.output =
          Option.some ((s.tree.bytesAt? k.cwd k.output).getD [] ++ reportBytes (ds.map Diagnostic.reported)))
        fun _ _ => True := by
      refine ensures_report (fun none => absurd none some) (fun t filed => ?_) fun _ _ _ => trivial
      exact ⟨rfl, rfl, (FileTree.bytesAt?_modify (append_of_filing filed)).1⟩
    exact ends.of_ok ran
  notFiled := by
    intro ds e s' failed
    have ends : (k.report ds).Ensures s (fun _ _ => True) fun e s' => k.Unreported ds e ∧ s'.total = s.total ∧
        (s'.tree = s.tree ∨ ∃ front, front <+: reportBytes (ds.map Diagnostic.reported) ∧
          s'.tree.bytesAt? k.cwd k.output = some ((s.tree.bytesAt? k.cwd k.output).getD [] ++ front)) := by
      refine ensures_report (fun _ => trivial) (fun _ _ => trivial) fun e t failed => ?_
      obtain ⟨unreported, same | ⟨front, within, added⟩⟩ := part_of_filing failed
      · exact ⟨unreported, rfl, .inl same⟩
      · exact ⟨unreported, rfl, .inr ⟨front, within, (FileTree.bytesAt?_modify added).1⟩⟩
    exact ends.of_error failed
  shows := by
    intro ds
    have ends : (k.report ds).Ensures s (fun _ s' => s'.console = s.console ++ ds.map Diagnostic.reported)
        fun _ s' => s'.console = s.console ++ ds.map Diagnostic.reported := by
      refine ensures_report ?_ (fun _ _ => rfl) fun _ _ _ => rfl
      rintro rfl
      exact (List.append_nil _).symm
    exact ends.after

/-! ## A course of events -/

/-- What is done with a report, or by others to its file. -/
inductive ReportEvent
  | create
  | report (ds : List Diagnostic)
  /-- Others change the tree, in whatever way. -/
  | disturb (change : FileTree → FileTree)

/-- The session after an event, whether it came through or failed. -/
def afterEvent (k : Keeper σ) (s : Session σ) : ReportEvent → Session σ
  | .create => k.beginReport.after s
  | .report ds => (k.report ds).after s
  | .disturb change => { s with tree := change s.tree }

/-- What an event returns that came through and reported warnings. -/
def returned (k : Keeper σ) (s : Session σ) : ReportEvent → List Nat
  | .report ds =>
    match k.report ds s with
    | .ok n _ => [n]
    | .error _ _ => []
  | _ => []

/-- The session after a course of events. -/
def course (k : Keeper σ) (events : List ReportEvent) (s : Session σ) : Session σ := events.foldl k.afterEvent s

/-- What all reports of a course have returned. -/
def returns (k : Keeper σ) : List ReportEvent → Session σ → List Nat
  | [], _ => []
  | event :: events, s => k.returned s event ++ returns k events (k.afterEvent s event)

/-- A report whose file has a name that none may have. -/
def unnamed : Keeper Unit where
  backend := ⟨fun _ t s => ⟨.ok none, t, s⟩, fun _ t s => ⟨.ok [], t, s⟩⟩
  cwd := "/w"
  wishes := ⟨[], default, none⟩
  output := ⟨.relative, ["a\x00b"]⟩

end Keeper

end PltKeeper
