import PltKeeper.Proofs.Run.Records

/-! The books that a session keeps: what was asked of the backend, the records of the phases, and the total.
They grow together. Each analysis that is asked for has one record, in the order in which they were asked, the
total grows by what the records say, and only the record of a part that failed may be marked. -/
namespace PltKeeper

open Act

variable {σ : Type}

/-- From the first session to the second the books have grown together, by records that are marked like this. -/
def Session.Books (s s' : Session σ) (marked : List Phase → Prop) : Prop :=
  ∃ asked phases, s'.requests = s.requests ++ asked ∧ s'.phases = s.phases ++ phases ∧
    List.Forall₂ Phase.Tells phases (asked.filterMap Request.analyze?) ∧
    (s'.total : Int) = s.total + (phases.map (·.warnings)).sum ∧ marked phases

/-- None of the records is marked as failed. -/
def Clean (phases : List Phase) : Prop := ∀ p ∈ phases, p.status = .success

/-- None but the last one is. -/
def CleanBefore (phases : List Phase) : Prop := Clean phases.dropLast

theorem Clean.append {phases later : List Phase} (first : Clean phases) (second : Clean later) :
    Clean (phases ++ later) :=
  fun p member => (List.mem_append.mp member).elim (first p) (second p)

theorem CleanBefore.after {phases later : List Phase} (first : Clean phases) (second : CleanBefore later) :
    CleanBefore (phases ++ later) := by
  cases later with
  | nil =>
    rw [List.append_nil]
    exact fun p member => first p (List.dropLast_subset _ member)
  | cons p later =>
    rw [CleanBefore, List.dropLast_append_of_ne_nil (List.cons_ne_nil p later)]
    exact first.append second

namespace Session.Books

variable {s s' s'' : Session σ} {marked marked' marked'' : List Phase → Prop}

/-- Where the books are the same they have grown by nothing. -/
theorem of_same (none : marked []) (requests : s'.requests = s.requests) (phases : s'.phases = s.phases)
    (total : s'.total = s.total) : s.Books s' marked :=
  ⟨[], [], by simp [requests], by simp [phases], .nil, by simp [total], none⟩

theorem of_analysis {o : Options} {p : Phase} (requests : s'.requests = s.requests ++ [.analyze o])
    (phases : s'.phases = s.phases ++ [p]) (told : p.Tells o) (total : (s'.total : Int) = s.total + p.warnings)
    (mark : marked [p]) : s.Books s' marked :=
  ⟨[.analyze o], [p], requests, phases, .cons told .nil, by simpa using total, mark⟩

theorem trans (first : s.Books s' marked) (second : s'.Books s'' marked')
    (both : ∀ {phases later}, marked phases → marked' later → marked'' (phases ++ later)) : s.Books s'' marked'' := by
  obtain ⟨asked, phases, requests, recorded, told, total, mark⟩ := first
  obtain ⟨more, later, requestsToo, recordedToo, toldToo, totalToo, markToo⟩ := second
  refine ⟨asked ++ more, phases ++ later, ?_, ?_, ?_, ?_, both mark markToo⟩
  · rw [requestsToo, requests, List.append_assoc]
  · rw [recordedToo, recorded, List.append_assoc]
  · rw [List.filterMap_append]
    exact List.rel_append told toldToo
  · rw [totalToo, total, List.map_append, List.sum_append, add_assoc]

end Session.Books

namespace Keeper

variable {k : Keeper σ}

end Keeper

end PltKeeper
