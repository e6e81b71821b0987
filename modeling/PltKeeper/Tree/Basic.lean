/-!
A file tree as a finite map from locations to entries. A location is the list of names that leads to
it from the root. `at?_put` and `at?_erase` say what the two updates do, location by location.
-/

namespace PltKeeper

/-- The names that lead to an entry from the root. -/
abbrev Location := List String

/-- What a location holds. -/
inductive Entry
  | dir
  | file (bytes : List UInt8)
  deriving DecidableEq, Repr

/-- The bytes of a file; a directory has none. -/
def Entry.bytes? : Entry → Option (List UInt8)
  | dir => none
  | file bytes => some bytes

/-- A file tree. The root is a directory and needs no entry of its own. -/
structure FileTree where
  /-- The entries below the root. -/
  entries : List (Location × Entry)
  deriving DecidableEq, Repr, Inhabited

namespace FileTree

/-- The tree that holds nothing. -/
def empty : FileTree := ⟨[]⟩

/-- What a location holds. -/
def at? (t : FileTree) (l : Location) : Option Entry :=
  if l = [] then some .dir else t.entries.lookup l

/-- Puts an entry at a location, in place of what was there. -/
def put (t : FileTree) (l : Location) (e : Entry) : FileTree :=
  ⟨(l, e) :: t.entries.filter (·.1 ≠ l)⟩

/-- Removes a location with everything below it. -/
def erase (t : FileTree) (l : Location) : FileTree :=
  ⟨t.entries.filter fun e => !l.isPrefixOf e.1⟩

/-- The names directly below a location. -/
def names (t : FileTree) (l : Location) : List String :=
  t.entries.filterMap fun e =>
    if e.1.dropLast = l then e.1.getLast? else none

theorem lookup_filter {p : Location × Entry → Bool} {l : Location} {b : Bool}
    (same : ∀ e, p (l, e) = b) (entries : List (Location × Entry)) :
    (entries.filter p).lookup l = if b then entries.lookup l else none := by
  induction entries with
  | nil => cases b <;> rfl
  | cons x xs ih =>
    obtain ⟨k, e⟩ := x
    by_cases h : l = k
    · subst h
      have here := same e
      cases b <;> simp [List.filter, here, ih]
    · have hk : (l == k) = false := by simpa using h
      by_cases hp : p (k, e) = true
      · simp [List.filter, hp, List.lookup_cons, hk, ih]
      · simp [List.filter, hp, List.lookup_cons, hk, ih]

/-- After an update the location holds the new entry and every other one what it held. -/
theorem at?_put (t : FileTree) (l l' : Location) (e : Entry) (below : l ≠ []) :
    (t.put l e).at? l' = if l' = l then some e else t.at? l' := by
  unfold at? put
  by_cases h : l' = l
  · subst h
    simp [below]
  · have hk : (l' == l) = false := by simpa using h
    have same : ∀ e : Entry, decide ((l', e).1 ≠ l) = true := fun _ => by simpa using h
    simp only [List.lookup_cons, hk, h, if_false]
    rw [lookup_filter same]
    simp

/-- After a removal nothing is left at or below the location; every other one holds what it held. -/
theorem at?_erase (t : FileTree) (l l' : Location) (below : l ≠ []) :
    (t.erase l).at? l' = if l.isPrefixOf l' then none else t.at? l' := by
  unfold at? erase
  by_cases h : l' = []
  · subst h
    cases l with
    | nil => exact absurd rfl below
    | cons x xs => simp [List.isPrefixOf]
  · cases hp : l.isPrefixOf l' with
    | true =>
      have same : ∀ e : Entry, (!l.isPrefixOf (l', e).1) = false := fun _ => by simp [hp]
      rw [lookup_filter same]
      simp [h]
    | false =>
      have same : ∀ e : Entry, (!l.isPrefixOf (l', e).1) = true := fun _ => by simp [hp]
      rw [lookup_filter same]
      simp [h]

end FileTree

end PltKeeper
