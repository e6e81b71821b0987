import PltKeeper.Proofs.Backend.Failures

/-! What is made of a process that has finished. Its status decides whether the analysis was completed, and then
only its output counts. Of a failed one the text counts that it reported or, without a report, printed: a PLT that
was to be read is unreadable if one of the known phrases is found in this text, and otherwise its last line is the
detail. The phrases are searched for in the lines of the text put together again, which makes no difference, since
no boundary of lines is in them. -/
namespace PltKeeper.Dialyzer

open Text

variable {d : Dialyzer} {t : FileTree} {sh : Shell} {o : Options} {f : Finished}

/-! ## What a process says -/

/-- The analysis was completed, without warnings or with some. -/
def Finished.Completed (f : Finished) : Prop := f.status = 0 ∨ f.status = 2

instance (f : Finished) : Decidable f.Completed := inferInstanceAs (Decidable (_ ∨ _))

/-- The text in which a failed process says what is wrong. -/
def Finished.reason (f : Finished) : List Char :=
  if strip f.err.toList = [] then strip f.out.toList else strip f.err.toList

/-- It says that a PLT could not be read. -/
def Finished.BlamesPlt (f : Finished) : Prop := ∃ phrase ∈ readFailureMarkers, phrase.toList <:+: f.reason

instance (f : Finished) : Decidable f.BlamesPlt := inferInstanceAs (Decidable (∃ _ ∈ _, _))

/-- What a failure says of a process. -/
def Finished.detail (f : Finished) : List Char :=
  if f.reason = [] then "dialyzer exited with status ".toList ++ (toString f.status).toList else lastLine f.reason

theorem complaint_eq (f : Finished) : complaint f = lines f.reason := by
  unfold complaint Finished.reason
  simp only [List.isEmpty_iff]

/-- What a process says ends visibly. -/
theorem getLast?_reason : ∀ c ∈ f.reason.getLast?, isBlank c = false := by
  unfold Finished.reason
  split <;> exact getLast?_strip

/-- A text that something says, on one line and without white space at its end. -/
structure IsPhrase (detail : List Char) : Prop where
  /-- It is not empty, -/
  nonempty : detail ≠ []
  /-- has no boundary in it, -/
  oneLine : OneLine detail
  /-- and ends visibly. -/
  ends : ∀ c ∈ detail.getLast?, isBlank c = false

theorem IsPhrase.of_last {detail : List Char} {c : Char} (inner : OneLine detail) (last : detail.getLast? = some c)
    (visible : isBlank c = false) : IsPhrase detail where
  nonempty none := by
    rw [none] at last
    exact nomatch last
  oneLine := inner
  ends d last' := by
    cases last.symm.trans last'
    exact visible

/-- The last of the lines that it says, if there is one, is the end of it. -/
theorem last_of_reason (speaks : f.reason ≠ []) :
    (lines f.reason).getLast? = some (lastLine f.reason) ∧ IsPhrase (lastLine f.reason) := by
  obtain ⟨c, last⟩ := Option.isSome_iff_exists.mp (List.getLast?_isSome.mpr speaks)
  have visible := getLast?_reason c last
  have inner := isBoundary_of_visible visible
  exact ⟨getLast?_lines last inner, .of_last oneLine_lastLine (getLast?_lastLine last inner) visible⟩

theorem lastLine_eq (f : Finished) : verdict.lastLine (complaint f) f = .ofList f.detail := by
  rw [complaint_eq, Finished.detail]
  split
  · rename_i none
    rw [none, String.ofList_append, String.ofList_toList, String.ofList_toList]
    rfl
  · rename_i speaks
    rw [verdict.lastLine, (last_of_reason speaks).1]

/-- The text of a number ends with a digit. -/
theorem getLast?_toString (n : Int) : ∃ c, c.isDigit = true ∧ (toString n).toList.getLast? = some c := by
  have digits (n : Nat) : ∃ c, c.isDigit = true ∧ (Nat.toDigits 10 n).getLast? = some c := by
    obtain ⟨c, last⟩ := Option.isSome_iff_exists.mp (List.getLast?_isSome.mpr (Nat.toDigits_ne_nil (n := n) (b := 10)))
    exact ⟨c, Nat.isDigit_of_mem_toDigits (by decide) (by decide) (List.mem_of_getLast? last), last⟩
  cases n with
  | ofNat n => exact toList_toString n ▸ digits n
  | negSucc n =>
    obtain ⟨c, digit, last⟩ := digits (n + 1)
    refine ⟨c, digit, ?_⟩
    rw [toList_toString_negSucc, List.getLast?_cons, last, Option.getD_some]

theorem isPhrase_detail (f : Finished) : IsPhrase f.detail := by
  rw [Finished.detail]
  split
  · obtain ⟨c, digit, last⟩ := getLast?_toString f.status
    have inner : OneLine ("dialyzer exited with status ".toList ++ (toString f.status).toList) :=
      oneLine_append.mpr ⟨by decide, oneLine_toString f.status⟩
    exact .of_last inner (by rw [List.getLast?_append, last, Option.some_or]) (isBlank_of_ascii_digit digit)
  · rename_i speaks
    exact (last_of_reason speaks).2

/-! ## Phrases -/

theorem occurs_iff {part s : List Char} : occurs part s = true ↔ part <:+: s := by
  induction s with
  | nil => simp [occurs]
  | cons c rest ih => rw [occurs, Bool.or_eq_true, List.isPrefixOf_iff_prefix, ih, List.infix_cons_iff]

theorem oneLine_phrase : ∀ phrase ∈ readFailureMarkers, phrase.toList ≠ [] ∧ OneLine phrase.toList := by decide +kernel

/-- The phrases are found in the lines put together where they are found in the text. -/
theorem blamesPlt_iff : (readFailureMarkers.any fun m => occurs m.toList (['\n'].intercalate (complaint f))) = true ↔
    f.BlamesPlt := by
  simp only [List.any_eq_true, occurs_iff, Finished.BlamesPlt]
  refine exists_congr fun phrase => and_congr_right fun known => ?_
  obtain ⟨some, inner⟩ := oneLine_phrase phrase known
  have without : '\n' ∉ phrase.toList := fun member => nomatch inner '\n' member
  rw [infix_joined_iff some without, complaint_eq]
  exact infix_linesFrom_iff some inner

/-! ## What is made of it -/

theorem verdict_of_completed (completed : f.Completed) : verdict o f = warnings f.out := by
  have status : (f.status = 0 || f.status = 2) = true := by simpa [Finished.Completed] using completed
  rw [verdict, if_pos status]

theorem verdict_of_blamed {plt : Path} (failed : ¬ f.Completed) (given : o.initPlt = some plt) (blamed : f.BlamesPlt) :
    verdict o f = .error (.tool (.unreadablePlt plt)) := by
  have status : ¬ (f.status = 0 || f.status = 2) = true := by simpa [Finished.Completed] using failed
  simp only [verdict, if_neg status, given, if_pos (blamesPlt_iff.mpr blamed)]

theorem verdict_of_other (failed : ¬ f.Completed) (other : o.initPlt = none ∨ ¬ f.BlamesPlt) :
    verdict o f = .error (.tool (.backend (.ofList f.detail))) := by
  have status : ¬ (f.status = 0 || f.status = 2) = true := by simpa [Finished.Completed] using failed
  simp only [verdict, if_neg status, lastLine_eq]
  cases given : o.initPlt with
  | none => rfl
  | some plt =>
    have silent : ¬ f.BlamesPlt := other.resolve_left (by simp [given])
    dsimp only
    rw [if_neg fun blamed => silent (blamesPlt_iff.mp blamed)]
    rfl

/-- What is made of a process that has finished. -/
structure Classified (o : Options) (f : Finished) (result : Except Failure (List Diagnostic)) : Prop where
  /-- It is what the output alone is read as just where the analysis was completed. -/
  completed : result = warnings f.out ↔ f.Completed
  /-- Then it is a list of warnings unless a number in the output is too long. -/
  returned : (∃ found, result = .ok found) ↔
    f.Completed ∧ ∀ raw ∈ openings (said f.out), ∀ split ∈ splitWarning [] (stripBack raw), split.2.Measured
  /-- A PLT is unreadable just where one was to be read and the process, having failed, blames it. -/
  unreadable : ∀ plt, result = .error (.tool (.unreadablePlt plt)) ↔
    ¬ f.Completed ∧ o.initPlt = some plt ∧ f.BlamesPlt
  /-- Otherwise a failed process has a detail, which is the last line of what it says or names its status. -/
  failed : ∀ detail, result = .error (.tool (.backend detail)) ↔
    ¬ f.Completed ∧ ¬ (o.initPlt.isSome = true ∧ f.BlamesPlt) ∧ detail = .ofList f.detail
  /-- The detail is a phrase. -/
  isPhrase : IsPhrase f.detail

theorem warnings_ne_tool {output : String} {e : ToolError} : warnings output ≠ .error (.tool e) := fun failed => by
  obtain ⟨reason, number⟩ := warnings_onlyFails output _ failed
  exact nomatch number

theorem classified_verdict (o : Options) (f : Finished) : Classified o f (verdict o f) := by
  -- No way that an analysis ends is taken for another, since reading its output is no failure of the tool.
  by_cases completed : f.Completed
  · rw [verdict_of_completed completed]
    exact {
      completed := iff_of_true rfl completed
      returned := warnings_ok_iff.trans (and_iff_right completed).symm
      unreadable := fun _ => iff_of_false warnings_ne_tool fun other => other.1 completed
      failed := fun _ => iff_of_false warnings_ne_tool fun other => other.1 completed
      isPhrase := isPhrase_detail f }
  by_cases blamed : o.initPlt.isSome = true ∧ f.BlamesPlt
  · obtain ⟨given, blames⟩ := blamed
    obtain ⟨plt, given⟩ := Option.isSome_iff_exists.mp given
    rw [verdict_of_blamed completed given blames]
    exact {
      completed := iff_of_false warnings_ne_tool.symm completed
      returned := iff_of_false (fun ⟨_, ran⟩ => nomatch ran) fun other => completed other.1
      unreadable := fun plt' => by simp [given, blames, completed]
      failed := fun detail => by simp [given, blames]
      isPhrase := isPhrase_detail f }
  · have other : o.initPlt = none ∨ ¬ f.BlamesPlt := by
      rwa [not_and_or, Option.not_isSome_iff_eq_none] at blamed
    rw [verdict_of_other completed other]
    exact {
      completed := iff_of_false warnings_ne_tool.symm completed
      returned := iff_of_false (fun ⟨_, ran⟩ => nomatch ran) fun other => completed other.1
      unreadable := fun plt => iff_of_false nofun fun ⟨_, given, blames⟩ => blamed ⟨by simp [given], blames⟩
      failed := fun detail => by
        rw [and_iff_right completed, and_iff_right blamed]
        exact ⟨fun same => by cases same; rfl, fun same => same ▸ rfl⟩
      isPhrase := isPhrase_detail f }

/-- An analysis whose launch came to a process that has finished is classified by its status and by what the process
says. -/
theorem analysis_classified {program : String} (o : Options) (t : FileTree) (f : Finished)
    (found : d.programs.find? d.executable = some program)
    (finished : (sh.launch d.programs (d.launchOf (arguments o) o.homePlt program) t).1 =
      .ok (.finished f.status f.out f.err)) : Classified o f (d.analyze o t sh).result := by
  have result : (d.analyze o t sh).result = verdict o f := by
    simp only [analyze, launch, found, finished]
    rfl
  exact result ▸ classified_verdict o f

/-- A process that failed with nothing but white space reported, and printed three lines. -/
def mute : Finished := { status := 1, out := "first\u2028 Old PLT file p\n\tcut short \n", err := " \r\n" }

/-- The check of a PLT. -/
def checkOfOne : Options := { question with analysis := .check, initPlt := some (Path.parse "p") }

/-- The build of a PLT, which reads none. -/
def buildOfOne : Options := { question with analysis := .build }

/-- What it printed tells that the PLT of a check is unreadable; of a build it is the detail. -/
theorem analysis_of_mute :
    installed.programs.find? installed.executable = some "/usr/bin/dialyzer" ∧
      (∀ o ∈ [checkOfOne, buildOfOne],
        ((awaiting (.finished mute.status mute.out mute.err)).launch installed.programs
          (installed.launchOf (arguments o) o.homePlt "/usr/bin/dialyzer") .empty).1 =
            .ok (.finished mute.status mute.out mute.err)) ∧
      (installed.analyze checkOfOne .empty (awaiting (.finished mute.status mute.out mute.err))).result =
        .error (.tool (.unreadablePlt (Path.parse "p"))) ∧
      (installed.analyze buildOfOne .empty (awaiting (.finished mute.status mute.out mute.err))).result =
        .error (.tool (.backend "\tcut short")) := by
  have found : installed.programs.find? installed.executable = some "/usr/bin/dialyzer" := by decide +kernel
  have failed : ¬ mute.Completed := by decide
  have blames : mute.BlamesPlt := by decide +kernel
  refine ⟨found, by simp only [List.forall_mem_cons, List.not_mem_nil]; exact ⟨rfl, rfl, nofun⟩, ?_, ?_⟩
  · exact ((analysis_classified checkOfOne .empty mute found rfl).unreadable _).mpr ⟨failed, rfl, blames⟩
  · exact ((analysis_classified buildOfOne .empty mute found rfl).failed _).mpr
      ⟨failed, by simp [buildOfOne, question], by decide +kernel⟩

end PltKeeper.Dialyzer
