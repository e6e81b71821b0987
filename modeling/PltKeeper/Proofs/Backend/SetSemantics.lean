import PltKeeper.Backend.Basic
import PltKeeper.Proofs.FileSet.Keys
import PltKeeper.Proofs.Tree.Room

/-! What the maintenance of PLTs may expect of a backend, and no more: that it tells the truth about
a PLT, and that the analyses work on the set of files that a PLT holds. How a PLT is written, what
else the backend does to the tree, and when it fails, is its own affair. -/
namespace PltKeeper

/-- How the bytes of a PLT are read: as the files it holds, or not at all. -/
abbrev PltFormat := List UInt8 → Option FileSet

/-- What there is where a PLT is kept. -/
inductive PltState
  /-- No regular file. -/
  | absent
  /-- A file that is no PLT. -/
  | unreadable
  /-- A PLT that holds these files. -/
  | holds (files : FileSet)
  deriving DecidableEq

namespace PltState

/-- The state that bytes amount to, where there are any. -/
def ofBytes (format : PltFormat) : Option (List UInt8) → PltState
  | none => absent
  | some bytes =>
    match format bytes with
    | none => unreadable
    | some files => holds files

/-- The state that the answer to a question speaks of. -/
def ofAnswer : Option FileSet → PltState
  | none => absent
  | some files => holds files

theorem ofAnswer_eq_holds_iff {answer : Option FileSet} {files : FileSet} :
    ofAnswer answer = .holds files ↔ answer = some files := by
  cases answer <;> simp [ofAnswer]

theorem ofBytes_eq_absent_iff {format : PltFormat} {bytes : Option (List UInt8)} :
    ofBytes format bytes = .absent ↔ bytes = none := by
  cases bytes with
  | none => simp [ofBytes]
  | some bytes => cases read : format bytes <;> simp [ofBytes, read]

end PltState

/-- What a tree holds where a PLT is kept. -/
def FileTree.pltAt (t : FileTree) (format : PltFormat) (cwd : String) (plt : Path) : PltState :=
  .ofBytes format (t.bytesAt? cwd plt)

/-- Whether an analysis writes the PLT it is given to write. A check and success typing do not. -/
def Analysis.writesPlt : Analysis → Bool
  | build | add | remove => true
  | check | successTyping => false

/-- The files that the written PLT holds, from the PLT read and the files given. -/
def Analysis.product : Analysis → PltState → FileSet → Option FileSet
  | build, _, files => some files
  | add, .holds held, files => some (held ∪ files)
  | remove, .holds held, files => some (held \ files)
  | _, _, _ => none

/-- The state of the PLT that an analysis reads. -/
def Options.initial (o : Options) (format : PltFormat) (cwd : String) (t : FileTree) : PltState :=
  match o.initPlt with
  | some plt => t.pltAt format cwd plt
  | none => .absent

variable {σ : Type}

/-- A backend whose analyses work on the sets of files that the given PLTs hold. -/
structure Backend.SetSemantics (b : Backend σ) (format : PltFormat) (cwd : String) (plts : List Path) :
    Prop where
  /-- A PLT holds files under their keys. -/
  canonical : ∀ bytes files, format bytes = some files → files.Canonical cwd
  /-- A question changes nothing. -/
  asks : ∀ plt t st, (b.query plt t st).tree = t
  /-- An answer is true. -/
  answers : ∀ plt ∈ plts, ∀ t st answer, (b.query plt t st).result = .ok answer →
    t.pltAt format cwd plt = .ofAnswer answer
  /-- An analysis leaves a tree in which every entry stands in a directory. -/
  formed : ∀ o t st, t.WellFormed → (b.analyze o t st).tree.WellFormed
  /-- A build writes the files given, an addition and a removal write the union and the difference of
  the files of the PLT read and the files given. -/
  writes : ∀ o t st ds plt, (b.analyze o t st).result = .ok ds → o.analysis.writesPlt = true →
    o.outputPlt = some plt → plt ∈ plts → ∃ held,
      o.analysis.product (o.initial format cwd t) (.of cwd o.files) = some held ∧
      (b.analyze o t st).tree.pltAt format cwd plt = .holds held ∧
      (∀ other ∈ plts, t.SameFile cwd other plt →
        (b.analyze o t st).tree.pltAt format cwd other = .holds held) ∧
      ∀ other ∈ plts, ¬ t.SameFile cwd other plt →
        (b.analyze o t st).tree.pltAt format cwd other = t.pltAt format cwd other
  /-- Any other analysis changes no PLT. -/
  spares : ∀ o t st ds, (b.analyze o t st).result = .ok ds → o.analysis.writesPlt = false →
    ∀ plt ∈ plts, (b.analyze o t st).tree.pltAt format cwd plt = t.pltAt format cwd plt

/-- A backend whose analyses leave the PLTs as they were where they fail. -/
def Backend.FailsCleanly (b : Backend σ) (format : PltFormat) (cwd : String) (plts : List Path) : Prop :=
  ∀ o t st e, (b.analyze o t st).result = .error e →
    ∀ plt ∈ plts, (b.analyze o t st).tree.pltAt format cwd plt = t.pltAt format cwd plt

/-- An analysis that can be carried out: what it writes can be written, and the PLT it works on is
there. Success typing may do without one. -/
structure Options.Feasible (o : Options) (format : PltFormat) (cwd : String) (t : FileTree) : Prop where
  writes : o.analysis.writesPlt = true → ∃ plt, o.outputPlt = some plt ∧ t.Writable cwd plt
  reads : o.analysis ≠ .build → o.analysis ≠ .successTyping →
    ∃ held, o.initial format cwd t = .holds held

/-- A backend that fails at nothing that it can do, and does nothing else. -/
structure Backend.Serves (b : Backend σ) (format : PltFormat) (cwd : String) (plts : List Path) : Prop where
  /-- A question about a PLT is answered, unless the file is no PLT. -/
  answers : ∀ plt ∈ plts, ∀ t st, t.pltAt format cwd plt ≠ .unreadable →
    ∃ answer, (b.query plt t st).result = .ok answer
  /-- An analysis that can be carried out is. -/
  analyses : ∀ o t st, o.Feasible format cwd t → ∃ ds, (b.analyze o t st).result = .ok ds
  /-- It changes at most the PLT that it is given to write. -/
  confined : ∀ o t st ds, (b.analyze o t st).result = .ok ds → (b.analyze o t st).tree = t ∨
    ∃ plt bytes, o.outputPlt = some plt ∧ t.write cwd plt bytes = .ok (b.analyze o t st).tree

/-- A backend that leaves the warnings file alone, whatever it does to the PLTs. -/
structure Backend.Spares (b : Backend σ) (cwd : String) (plts : List Path) (output : Path) : Prop where
  query : ∀ plt t st, (b.query plt t st).tree.bytesAt? cwd output = t.bytesAt? cwd output
  analyze : ∀ o t st, (∀ plt, o.outputPlt = some plt → plt ∈ plts) →
    (b.analyze o t st).tree.bytesAt? cwd output = t.bytesAt? cwd output

/-! ## States of PLTs -/

variable {t t' : FileTree} {format : PltFormat} {cwd : String} {plt other : Path} {files : FileSet}

theorem FileTree.pltAt_eq_absent_iff : t.pltAt format cwd plt = .absent ↔ t.bytesAt? cwd plt = none :=
  PltState.ofBytes_eq_absent_iff

/-- A regular file is where a PLT is kept just where the PLT is not absent. -/
theorem FileTree.isFile_iff_pltAt (format : PltFormat) {there : Bool}
    (answered : t.isFile cwd plt = .ok there) : there = true ↔ t.pltAt format cwd plt ≠ .absent := by
  rw [isFile_eq_ok answered, ne_eq, pltAt_eq_absent_iff, Option.isSome_iff_ne_none]

/-- A PLT that is there can be written again. -/
theorem FileTree.WellFormed.writable_plt (formed : t.WellFormed) (there : t.pltAt format cwd plt ≠ .absent) :
    t.Writable cwd plt := by
  cases found : t.bytesAt? cwd plt with
  | none => exact absurd (pltAt_eq_absent_iff.mpr found) there
  | some bytes => exact formed.writable found

/-- Two ways to one location find one PLT. -/
theorem FileTree.pltAt_eq_of_sameFile (same : t.SameFile cwd plt other) :
    t.pltAt format cwd plt = t.pltAt format cwd other := by
  unfold FileTree.pltAt
  rw [bytesAt?_eq_of_sameFile same]

/-- A PLT that is there stays what it is when directories are made. -/
theorem FileTree.Grows.pltAt (grown : t.Grows t') (there : t.pltAt format cwd plt ≠ .absent) :
    t'.pltAt format cwd plt = t.pltAt format cwd plt := by
  cases found : t.bytesAt? cwd plt with
  | none => exact absurd (pltAt_eq_absent_iff.mpr found) there
  | some bytes => simp only [FileTree.pltAt, found, grown.bytesAt? found]

/-- Writing a file leaves every PLT at another location. -/
theorem FileTree.pltAt_modify_of_apart {change : List UInt8 → List UInt8}
    (done : t.modify cwd other change = .ok t') (apart : ¬ t.SameFile cwd plt other) :
    t'.pltAt format cwd plt = t.pltAt format cwd plt := by
  unfold FileTree.pltAt
  rw [(bytesAt?_modify done).2.2 plt apart]

/-- A PLT that is read holds keys. -/
theorem Backend.SetSemantics.canonical_of_pltAt {b : Backend σ} {plts : List Path}
    (semantics : b.SetSemantics format cwd plts) (holds : t.pltAt format cwd plt = .holds files) :
    files.Canonical cwd := by
  unfold FileTree.pltAt PltState.ofBytes at holds
  split at holds
  · cases holds
  · rename_i bytes _
    cases read : format bytes with
    | none => simp [read] at holds
    | some held =>
      simp only [read, PltState.holds.injEq] at holds
      exact semantics.canonical bytes files (holds ▸ read)

end PltKeeper
