import PltKeeper.Proofs.Backend.Dialyzer.Counting
import PltKeeper.Proofs.Plt.Reports

/-! The lines of a warnings file. Warnings that have been read from what processes printed hold no line boundary, so
what is filed of them is one line each. Once a report has begun its file therefore has a line for every warning that
has been filed since, in the order of the reports, and the total has grown by as many lines. -/
namespace PltKeeper

variable {σ : Type}

namespace Keeper

open Dialyzer Text

variable {k : Keeper σ} {s s₁ : Session σ} {event : ReportEvent} {events : List ReportEvent} {ds : List Diagnostic}
  {before : Nat}

/-- Lines are filed as they are printed. -/
theorem reportBytes_eq (all : List String) : reportBytes all = Utf8.encode (String.ofList (printLines all)) := by
  simp [reportBytes, Utf8.encode, printLines, List.flatMap_assoc]

/-! ## What is filed -/

/-- The warnings that an event files. -/
def filed (k : Keeper σ) (s : Session σ) : ReportEvent → List Diagnostic
  | .report ds =>
    match k.report ds s with
    | .ok _ _ => ds
    | .error _ _ => []
  | .create | .disturb _ => []

/-- The warnings that a course of events files. -/
def filings (k : Keeper σ) : List ReportEvent → Session σ → List Diagnostic
  | [], _ => []
  | event :: events, s => k.filed s event ++ filings k events (k.afterEvent s event)

/-- Whether an event is a report that fails and leaves something in the file all the same. -/
def tears (k : Keeper σ) (s : Session σ) : ReportEvent → Bool
  | .report ds =>
    match k.report ds s with
    | .ok _ _ => false
    | .error _ s' => s'.tree.bytesAt? k.cwd k.output ≠ s.tree.bytesAt? k.cwd k.output
  | .create | .disturb _ => false

/-- Whether some event of a course does. -/
def torn (k : Keeper σ) : List ReportEvent → Session σ → Bool
  | [], _ => false
  | event :: events, s => k.tears s event || torn k events (k.afterEvent s event)

/-- What happens to a report that has begun: warnings are reported that were read from texts, and others leave the
file as it is. -/
inductive Collects (k : Keeper σ) : ReportEvent → Prop
  | report {ds : List Diagnostic} (read : ∀ d ∈ ds, ∃ output found, warnings output = .ok found ∧ d ∈ found) :
    Collects k (.report ds)
  | aside {change : FileTree → FileTree} (spared : ∀ t, (change t).bytesAt? k.cwd k.output = t.bytesAt? k.cwd k.output) :
    Collects k (.disturb change)

/-- The file holds these warnings, on a line each, and all of them have been counted. -/
structure Tallies (k : Keeper σ) (before : Nat) (ds : List Diagnostic) (s : Session σ) : Prop where
  file : s.tree.bytesAt? k.cwd k.output = some (reportBytes (ds.map Diagnostic.reported))
  total : s.total = before + ds.length
  lines : ∀ d ∈ ds, OneLine d.reported.toList

/-- A report tears nothing where its lines can be encoded and the system takes all of them. -/
theorem tears_of_encodable {batch : List Diagnostic} (unstopped : ∀ t bytes, k.stops? t bytes = none)
    (encodable : ∀ d ∈ batch, d.IsEncodable) : k.tears s (.report batch) = false := by
  have ends : (k.report batch).Ensures s (fun _ _ => True) fun _ s' => s'.tree = s.tree :=
    ensures_report (fun _ => trivial) (fun _ _ => trivial) fun _ _ failed =>
      unchanged_of_filing unstopped encodable failed
  cases told : k.report batch s with
  | ok n s' => simp [tears, told]
  | error e s' =>
    have same : s'.tree = s.tree := ends.of_error told
    simp [tears, told, same]

theorem torn_of_encodable (unstopped : ∀ t bytes, k.stops? t bytes = none)
    (encodable : ∀ batch, .report batch ∈ events → ∀ d ∈ batch, d.IsEncodable) : k.torn events s = false := by
  induction events generalizing s with
  | nil => rfl
  | cons event events ih =>
    refine Bool.or_eq_false_iff.mpr ⟨?_, ih fun batch later => encodable batch (List.mem_cons_of_mem _ later)⟩
    cases event with
    | create | disturb => rfl
    | report batch => exact tears_of_encodable unstopped (encodable batch List.mem_cons_self)

/-- Each event that tears nothing adds what it files. -/
theorem Tallies.afterEvent (tallies : k.Tallies before ds s) (collects : k.Collects event)
    (whole : k.tears s event = false) :
    k.Tallies before (ds ++ k.filed s event) (k.afterEvent s event) := by
  have keeps := k.keepsReport s
  cases collects with
  | aside spared =>
    rw [filed, List.append_nil]
    exact ⟨(spared s.tree).trans tallies.file, tallies.total, tallies.lines⟩
  | @report batch read =>
    rw [filed, Keeper.afterEvent]
    cases told : k.report batch s with
    | error e s' =>
      obtain ⟨-, total, -⟩ := keeps.notFiled batch e s' told
      have same : s'.tree.bytesAt? k.cwd k.output = s.tree.bytesAt? k.cwd k.output := by
        simpa [tears, told] using whole
      rw [List.append_nil, Act.after_of_error told]
      exact ⟨same.trans tallies.file, total.trans tallies.total, tallies.lines⟩
    | ok n s' =>
      rw [Act.after_of_ok told]
      by_cases none : batch = []
      · subst none
        cases keeps.silent.symm.trans told
        simpa using tallies
      · obtain ⟨rfl, total, file⟩ := keeps.files batch n s' none told
        refine ⟨?_, ?_, fun d member => ?_⟩
        · rw [file, tallies.file, List.map_append, reportBytes_append]
          rfl
        · rw [total, tallies.total, List.length_append, Nat.add_assoc]
        · rcases List.mem_append.mp member with member | member
          · exact tallies.lines d member
          · obtain ⟨output, found, parsed, inFound⟩ := read d member
            exact oneLine_of_warnings parsed inFound

theorem Tallies.course (tallies : k.Tallies before ds s) (collects : ∀ event ∈ events, k.Collects event)
    (whole : k.torn events s = false) :
    k.Tallies before (ds ++ k.filings events s) (k.course events s) := by
  induction events generalizing ds s with
  | nil =>
    rw [filings, List.append_nil]
    exact tallies
  | cons event events ih =>
    obtain ⟨here, collects⟩ := List.forall_mem_cons.mp collects
    obtain ⟨wholeHere, whole⟩ := Bool.or_eq_false_iff.mp whole
    rw [filings, ← List.append_assoc]
    exact ih (tallies.afterEvent here wholeHere) collects whole

/-! ## The whole of it -/

/-- Each line that a process prints gives one warning or continues one, and each warning is filed on one line: after
its beginning a report has as many lines as it has counted, as long as none that fails has left some of its own. None
does where the lines can be encoded and the system takes all of them. -/
theorem one_line_each (k : Keeper σ) (s s₁ : Session σ) (output : Path) (events : List ReportEvent)
    (begun : k.beginReport s = .ok output s₁) (collects : ∀ event ∈ events, k.Collects event)
    (whole : k.torn events s₁ = false) :
    (∀ printed, Counted printed) ∧ (∃ text : String,
      (k.course events s₁).tree.bytesAt? k.cwd k.output = some (Utf8.encode text) ∧
      text.toList = (lines text.toList).flatMap (· ++ ['\n']) ∧
      lines text.toList = (k.filings events s₁).map (·.reported.toList) ∧
      (k.course events s₁).total = s.total + (lines text.toList).length) ∧
    ((∀ t bytes, k.stops? t bytes = none) →
      ∀ events s, (∀ batch, .report batch ∈ events → ∀ d ∈ batch, d.IsEncodable) → k.torn events s = false) := by
  obtain ⟨total, -, -, empty⟩ := beginReport_clears begun
  have start : k.Tallies s.total [] s₁ := ⟨empty, total, nofun⟩
  obtain ⟨file, total, inner⟩ := start.course collects whole
  rw [List.nil_append] at file total inner
  let filed := k.filings events s₁
  have printed : printLines (filed.map Diagnostic.reported) =
      (filed.map (·.reported.toList)).flatMap (· ++ ['\n']) := by
    simp [printLines, List.flatMap_map]
  have cut : lines (printLines (filed.map Diagnostic.reported)) = filed.map (·.reported.toList) := by
    rw [printed]
    refine lines_flatMap fun line member => ?_
    obtain ⟨d, inFiled, rfl⟩ := List.mem_map.mp member
    exact inner d inFiled
  refine ⟨counted, ⟨String.ofList (printLines (filed.map Diagnostic.reported)), ?_⟩,
    fun unstopped events s encodable => torn_of_encodable unstopped encodable⟩
  rw [String.toList_ofList, cut, ← printed, ← reportBytes_eq, List.length_map]
  exact ⟨file, rfl, rfl, total⟩

/-- A report in a directory that is not there yet. -/
def sampleReport : Keeper Unit where
  backend := ⟨fun _ t s => ⟨.ok none, t, s⟩, fun _ t s => ⟨.ok [], t, s⟩⟩
  cwd := "/w"
  wishes := ⟨[], default, none⟩
  output := Path.parse "out/26.warnings"

/-- Three warnings from two processes, the second of which continues itself, and something else in between. -/
def sampleEvents : List ReportEvent :=
  [.report [⟨"a.erl", 3, "no return", some 7, none⟩, ⟨"", 0, "unknown types: x, y", none, none⟩],
    .disturb id, .report [], .report [⟨"b.erl", 12, "dead code", none, none⟩]]

theorem one_line_each_of_three : ∃ s₁ : Session Unit,
    sampleReport.beginReport { tree := ⟨[(["w"], .dir)]⟩, backend := () } = .ok sampleReport.output s₁ ∧
    (∀ event ∈ sampleEvents, sampleReport.Collects event) ∧ sampleReport.torn sampleEvents s₁ = false ∧
    (∃ text : String, (sampleReport.course sampleEvents s₁).tree.bytesAt? "/w" sampleReport.output =
        some (Utf8.encode text) ∧
      text.toList = (lines text.toList).flatMap (· ++ ['\n']) ∧
      lines text.toList = (sampleReport.filings sampleEvents s₁).map (·.reported.toList) ∧
      (sampleReport.course sampleEvents s₁).total = 0 + (lines text.toList).length) ∧
    (sampleReport.course sampleEvents s₁).total = 3 ∧
    (sampleReport.filings sampleEvents s₁).map Diagnostic.reported =
      ["a.erl:3:7: no return", "unknown types: x, y", "b.erl:12: dead code"] := by
  have first : warnings "\na.erl:3:7: no return\nunknown types: x,\n\n  y\n" =
      .ok [⟨"a.erl", 3, "no return", some 7, none⟩, ⟨"", 0, "unknown types: x, y", none, none⟩] := by decide +kernel
  have second : warnings "b.erl:12: dead code" = .ok [⟨"b.erl", 12, "dead code", none, none⟩] := by decide +kernel
  have collects : ∀ event ∈ sampleEvents, sampleReport.Collects event := by
    simp only [sampleEvents, List.forall_mem_cons]
    exact ⟨.report fun d member => ⟨_, _, first, member⟩, .aside fun _ => rfl, .report nofun,
      .report fun d member => ⟨_, _, second, member⟩, nofun⟩
  let s : Session Unit := { tree := ⟨[(["w"], .dir)]⟩, backend := () }
  have begun : sampleReport.beginReport s = .ok sampleReport.output (sampleReport.beginReport.after s) := by rfl
  have whole : sampleReport.torn sampleEvents (sampleReport.beginReport.after s) = false := by decide +kernel
  exact ⟨_, begun, collects, whole, (one_line_each sampleReport s _ _ sampleEvents begun collects whole).2.1,
    by decide +kernel, by decide +kernel⟩

end Keeper

end PltKeeper
