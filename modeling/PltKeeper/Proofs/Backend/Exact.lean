import PltKeeper.Proofs.Backend.SetSemantics
import PltKeeper.Run.Job

/-! A backend that does what is expected of one, for every name that a file may have: each character
is kept in a group of four bytes, and a group that starts with a zero ends a name. Which of its calls
fail is planned by their numbers. So what is expected can be met; and with a project of one
application and one dependency a run can be carried out. -/
namespace PltKeeper.Exact

/-- The group of a character. -/
def charBytes (c : Char) : List UInt8 :=
  [1, .ofNat (c.toNat / 65536), .ofNat (c.toNat / 256 % 256), .ofNat (c.toNat % 256)]

/-- The groups of a name. -/
def nameBytes (name : String) : List UInt8 := name.toList.flatMap charBytes ++ [0, 0, 0, 0]

/-- The bytes of a PLT that holds these files. -/
def encode (files : List String) : List UInt8 := files.flatMap nameBytes

/-- The names in groups of four bytes; `read` is what has been read of the first, last character
first. -/
def decode : List UInt8 → List Char → Option (List String)
  | [], [] => some []
  | mark :: a :: b :: c :: rest, read =>
    if mark = 0 then (decode rest []).map (String.ofList read.reverse :: ·)
    else decode rest (Char.ofNat (a.toNat * 65536 + b.toNat * 256 + c.toNat) :: read)
  | _, _ => none

theorem decode_chars (chars : List Char) (rest : List UInt8) (read : List Char) :
    decode (chars.flatMap charBytes ++ rest) read = decode rest (chars.reverse ++ read) := by
  induction chars generalizing read with
  | nil => rfl
  | cons c chars ih =>
    have small : c.toNat < 16777216 := by
      have valid : c.toNat < 0xd800 ∨ 0xdfff < c.toNat ∧ c.toNat < 0x110000 := c.valid
      omega
    have same : Char.ofNat ((UInt8.ofNat (c.toNat / 65536)).toNat * 65536 +
        (UInt8.ofNat (c.toNat / 256 % 256)).toNat * 256 + (UInt8.ofNat (c.toNat % 256)).toNat) = c := by
      have number : (UInt8.ofNat (c.toNat / 65536)).toNat * 65536 +
          (UInt8.ofNat (c.toNat / 256 % 256)).toNat * 256 + (UInt8.ofNat (c.toNat % 256)).toNat =
          c.toNat := by
        simp only [UInt8.toNat_ofNat']
        omega
      rw [number, Char.ofNat_toNat]
    simp only [List.flatMap_cons, charBytes, List.cons_append, List.nil_append]
    rw [decode, if_neg (by decide), same, ih]
    simp

theorem decode_encode (files : List String) : decode (encode files) [] = some files := by
  induction files with
  | nil => rfl
  | cons name files ih =>
    rw [encode, List.flatMap_cons, nameBytes, List.append_assoc, decode_chars]
    simp only [List.append_nil, List.cons_append, List.nil_append]
    rw [decode, if_pos rfl, List.reverse_reverse, String.ofList_toList]
    show (decode (encode files) []).map _ = _
    rw [ih]
    rfl

/-- The files in the bytes of a PLT. -/
def contents (cwd : String) : PltFormat := fun bytes => (decode bytes []).map (FileSet.of cwd)

theorem contents_encode {cwd : String} {files : FileSet} (canonical : files.Canonical cwd) :
    contents cwd (encode files.toList) = some files := by
  unfold contents
  rw [decode_encode, Option.map_some, FileSet.of_toList canonical]

/-- The answer to a question about a PLT in this state. -/
def answer (plt : Path) : PltState → Except Failure (Option FileSet)
  | .absent => .ok none
  | .unreadable => .error (.tool (.unreadablePlt plt))
  | .holds files => .ok (some files)

/-- Writes what an analysis makes of the PLT it reads. -/
def store (cwd : String) (o : Options) (t : FileTree) : Except Failure FileTree :=
  match o.outputPlt, o.analysis.product (o.initial (contents cwd) cwd t) (.of cwd o.files) with
  | some plt, some held => t.write cwd plt (encode held.toList)
  | plt, _ => .error (.tool (.unreadablePlt (plt.getD Path.here)))

/-- The backend. It finds the same warnings in every analysis. -/
def backend (cwd : String) (fails : Nat → Option Failure) (finds : List Diagnostic) : Backend Nat where
  query plt t calls := ⟨answer plt (t.pltAt (contents cwd) cwd plt), t, calls⟩
  analyze o t calls :=
    match fails calls with
    | some e => ⟨.error e, t, calls + 1⟩
    | none =>
      if o.analysis.writesPlt then
        match store cwd o t with
        | .ok t => ⟨.ok finds, t, calls + 1⟩
        | .error e => ⟨.error e, t, calls + 1⟩
      else ⟨.ok finds, t, calls + 1⟩

variable {cwd : String} {fails : Nat → Option Failure} {finds : List Diagnostic} {plts : List Path}

theorem canonical_contents (rooted : Path.Rooted cwd) {bytes : List UInt8} {files : FileSet}
    (held : contents cwd bytes = some files) : files.Canonical cwd := by
  obtain ⟨names, _, rfl⟩ := Option.map_eq_some_iff.mp held
  exact FileSet.canonical_of rooted names

/-- The state of a PLT speaks of keys only. -/
theorem canonical_pltAt (rooted : Path.Rooted cwd) {t : FileTree} {plt : Path} {files : FileSet}
    (holds : t.pltAt (contents cwd) cwd plt = .holds files) : files.Canonical cwd := by
  unfold FileTree.pltAt PltState.ofBytes at holds
  split at holds
  · cases holds
  · rename_i bytes _
    cases held : contents cwd bytes with
    | none => simp [held] at holds
    | some names =>
      simp only [held, PltState.holds.injEq] at holds
      exact canonical_contents rooted (holds ▸ held)

/-- So does what an analysis makes of it. -/
theorem canonical_product (rooted : Path.Rooted cwd) {o : Options} {t : FileTree} {held : FileSet}
    (made : o.analysis.product (o.initial (contents cwd) cwd t) (.of cwd o.files) = some held) :
    held.Canonical cwd := by
  have given := FileSet.canonical_of rooted o.files
  have before : ∀ files, o.initial (contents cwd) cwd t = .holds files → files.Canonical cwd := by
    intro files holds
    unfold Options.initial at holds
    cases read : o.initPlt with
    | none => simp [read] at holds
    | some plt => exact canonical_pltAt rooted (by simpa only [read] using holds)
  cases kind : o.analysis <;> cases state : o.initial (contents cwd) cwd t <;>
    simp only [kind, state, Analysis.product, Option.some.injEq, reduceCtorEq] at made <;> subst made
  · exact given
  · exact given
  · exact given
  · exact (before _ state).union given
  · exact (before _ state).diff _

/-- What a stored PLT amounts to. -/
theorem store_eq_ok {o : Options} {t t' : FileTree} (stored : store cwd o t = .ok t') :
    ∃ plt held, o.outputPlt = some plt ∧
      o.analysis.product (o.initial (contents cwd) cwd t) (.of cwd o.files) = some held ∧
      t.write cwd plt (encode held.toList) = .ok t' := by
  unfold store at stored
  split at stored
  · rename_i plt held output made
    exact ⟨plt, held, output, made, stored⟩
  · cases stored

/-- The backend has set semantics, whatever the PLTs. -/
theorem setSemantics (rooted : Path.Rooted cwd) :
    (backend cwd fails finds).SetSemantics (contents cwd) cwd plts where
  canonical bytes files held := canonical_contents rooted held
  asks plt t st := rfl
  answers := by
    intro plt _ t st given answered
    show t.pltAt (contents cwd) cwd plt = _
    have answered : answer plt (t.pltAt (contents cwd) cwd plt) = .ok given := answered
    cases state : t.pltAt (contents cwd) cwd plt <;> rw [state] at answered <;> cases answered <;> rfl
  formed := by
    intro o t st formed
    simp only [backend]
    split
    · exact formed
    · split
      · split
        · rename_i stored
          unfold store at stored
          split at stored
          · exact formed.modify stored
          · cases stored
        · exact formed
      · exact formed
  writes := by
    intro o t st ds plt ran writing output _
    simp only [backend] at ran ⊢
    split at ran
    · cases ran
    · rw [if_pos writing] at ran ⊢
      split at ran
      · rename_i t' stored
        obtain ⟨target, held, sameOutput, made, written⟩ := store_eq_ok stored
        obtain rfl : plt = target := Option.some.inj (output.symm.trans sameOutput)
        obtain ⟨here, same, apart⟩ := FileTree.bytesAt?_modify written
        have state : t'.pltAt (contents cwd) cwd plt = .holds held := by
          simp only [FileTree.pltAt, here, PltState.ofBytes, contents_encode (canonical_product rooted made)]
        refine ⟨held, made, state, ?_, ?_⟩
        · intro other _ together
          rw [← state]
          simp only [FileTree.pltAt, same other together]
        · intro other _ elsewhere
          simp only [FileTree.pltAt, apart other elsewhere]
      · cases ran
  spares := by
    intro o t st ds ran reading plt _
    simp only [backend] at ran ⊢
    split at ran
    · cases ran
    · simp [reading]

/-- An analysis leaves the tree, unless it comes through and writes its PLT. -/
theorem analyze_cases (o : Options) (t : FileTree) (calls : Nat) :
    ((backend cwd fails finds).analyze o t calls).tree = t ∧
        (o.analysis.writesPlt = true → ∃ e, ((backend cwd fails finds).analyze o t calls).result = .error e) ∨
      o.analysis.writesPlt = true ∧ ((backend cwd fails finds).analyze o t calls).result = .ok finds ∧
        ∃ plt bytes, o.outputPlt = some plt ∧
          t.write cwd plt bytes = .ok ((backend cwd fails finds).analyze o t calls).tree := by
  simp only [backend]
  cases fails calls with
  | some e => exact .inl ⟨rfl, fun _ => ⟨e, rfl⟩⟩
  | none =>
    cases writing : o.analysis.writesPlt with
    | false => exact .inl ⟨rfl, fun never => nomatch never⟩
    | true =>
      simp only [if_true]
      cases stored : store cwd o t with
      | error e => exact .inl ⟨rfl, fun _ => ⟨e, rfl⟩⟩
      | ok t' =>
        obtain ⟨plt, held, output, -, written⟩ := store_eq_ok stored
        exact .inr ⟨trivial, rfl, plt, _, output, written⟩

/-- An analysis that comes through finds what it always finds. -/
theorem found_of_analyze {o : Options} {t : FileTree} {calls : Nat} {ds : List Diagnostic}
    (ran : ((backend cwd fails finds).analyze o t calls).result = .ok ds) : ds = finds := by
  simp only [backend] at ran
  split at ran
  · cases ran
  · split at ran
    · split at ran <;> cases ran
      rfl
    · cases ran
      rfl

theorem failsCleanly : (backend cwd fails finds).FailsCleanly (contents cwd) cwd plts := by
  intro o t st e failed plt _
  rcases analyze_cases o t st with ⟨same, -⟩ | ⟨-, ran, -⟩
  · rw [same]
  · exact nomatch failed.symm.trans ran

/-- Without planned failures the backend does all it can. -/
theorem serves : (backend cwd (fun _ => none) finds).Serves (contents cwd) cwd plts where
  answers := by
    intro plt _ t st readable
    show ∃ given, answer plt (t.pltAt (contents cwd) cwd plt) = .ok given
    cases state : t.pltAt (contents cwd) cwd plt with
    | absent => exact ⟨none, rfl⟩
    | unreadable => exact absurd state readable
    | holds files => exact ⟨some files, rfl⟩
  analyses := by
    intro o t st feasible
    simp only [backend]
    cases writing : o.analysis.writesPlt with
    | false => exact ⟨finds, rfl⟩
    | true =>
      obtain ⟨plt, output, writable⟩ := feasible.writes writing
      obtain ⟨held, made⟩ : ∃ held,
          o.analysis.product (o.initial (contents cwd) cwd t) (.of cwd o.files) = some held := by
        cases kind : o.analysis with
        | build => exact ⟨_, rfl⟩
        | add =>
          obtain ⟨held, state⟩ := feasible.reads (by simp [kind]) (by simp [kind])
          exact ⟨_, by rw [state]; rfl⟩
        | remove =>
          obtain ⟨held, state⟩ := feasible.reads (by simp [kind]) (by simp [kind])
          exact ⟨_, by rw [state]; rfl⟩
        | check => simp [kind, Analysis.writesPlt] at writing
        | successTyping => simp [kind, Analysis.writesPlt] at writing
      obtain ⟨t', written⟩ := writable.modify fun _ => encode held.toList
      have stored : store cwd o t = .ok t' := by
        unfold store
        rw [made, output]
        exact written
      exact ⟨finds, by simp [stored]⟩
  confined := by
    intro o t st ds ran
    rcases analyze_cases o t st with ⟨same, -⟩ | ⟨-, -, plt, bytes, output, written⟩
    · exact .inl same
    · exact .inr ⟨plt, bytes, output, written⟩

/-- The backend writes nothing but the PLT it is given to write. -/
theorem spares {output : Path} (apart : ∀ plt ∈ plts, ∀ t : FileTree, ¬ t.SameFile cwd plt output) :
    (backend cwd fails finds).Spares cwd plts output where
  query plt t st := rfl
  analyze := by
    intro o t st outputs
    rcases analyze_cases o t st with ⟨same, -⟩ | ⟨-, -, plt, bytes, given, written⟩
    · rw [same]
    · have away := apart plt (outputs plt given) t
      exact (FileTree.bytesAt?_modify written).2.2 output fun ⟨l, first, second⟩ => away ⟨l, second, first⟩

/-! ## A project to run it on -/

/-- The machine. -/
def host : Host where
  cwd := "/w"
  home := "/h"
  users := []
  environment := []

/-- The settings: no base application, and the base PLT where it is said to be. -/
def settings (baseLocation : String) : Settings where
  getWarnings := .bool true
  baseApps := .arr []
  baseLocation := .directory (.path (Path.parse baseLocation))
  baseDir := .path (Path.parse "/w/b")
  cacheDir := .path (Path.parse "/w/s")

/-- The project. -/
def project : Project where
  apps := [⟨"app", Path.parse "/w/a", ["dep"]⟩]
  codePaths := [Path.parse "/w/dep/ebin"]

/-- The tree, with a base PLT of earlier days. -/
def tree : FileTree where
  entries := [
    (["w"], .dir),
    (["w", "a"], .dir),
    (["w", "a", "m.beam"], .file []),
    (["w", "dep"], .dir),
    (["w", "dep", "ebin"], .dir),
    (["w", "dep", "ebin", "d.beam"], .file []),
    (["w", "s"], .dir),
    (["w", "s", "rebar3_26_plt"], .file (encode ["/old.beam"]))]

/-- The session. -/
def session : Session Nat where
  tree := tree
  backend := 0

/-- A new session, in a tree that has changed. -/
def sessionIn (t : FileTree) : Session Nat := { session with tree := t }

/-- The run. -/
def job (baseLocation : String) (fails : Nat → Option Failure) (finds : List Diagnostic) :
    Except Failure (Job Nat) :=
  Job.of host (backend "/w" fails finds) (settings baseLocation) project ⟨"26", Path.parse "/otp"⟩

theorem wellFormed_tree : tree.WellFormed := FileTree.wellFormed_of_entries (by decide)

theorem rooted_host : Path.Rooted host.cwd := by decide +kernel

end PltKeeper.Exact
