import PltKeeper.FileSet.Basic

/-!
What stands between the files a PLT holds and the files it must hold. The three parts of a delta are
pairwise disjoint and together cover both sets. Either side may be given as a set, which is taken as
it is, or by texts, of which the keys count.
-/

namespace PltKeeper

/-- Files as they are given. -/
inductive Files
  /-- A set of files. -/
  | set (files : FileSet)
  /-- Texts in any spelling, in any order, some of them more than once. -/
  | texts (files : List String)

namespace Files

/-- The set that is given, seen from the working directory. -/
def toSet (cwd : String) : Files → FileSet
  | set files => files
  | texts files => .of cwd files

/-- Held, and no longer required. -/
def toRemove (cwd : String) (held required : Files) : FileSet := held.toSet cwd \ required.toSet cwd

/-- Held and still required. -/
def toCheck (cwd : String) (held required : Files) : FileSet := held.toSet cwd ∩ required.toSet cwd

/-- Required and not yet held. -/
def toAdd (cwd : String) (held required : Files) : FileSet := required.toSet cwd \ held.toSet cwd

end Files

/-- The difference between two file sets. -/
structure Delta where
  /-- Held, and no longer required. -/
  remove : FileSet
  /-- Held and still required. -/
  check : FileSet
  /-- Required and not yet held. -/
  add : FileSet
  deriving DecidableEq

namespace Delta

/-- The delta that leads from the files held to the files required. -/
def between (held required : FileSet) : Delta where
  remove := held \ required
  check := held ∩ required
  add := required \ held

/-- The delta between files, however they are given. -/
def ofFiles (cwd : String) (held required : Files) : Delta :=
  let held := Files.set (held.toSet cwd)
  let required := Files.set (required.toSet cwd)
  ⟨held.toRemove cwd required, held.toCheck cwd required, held.toAdd cwd required⟩

/-- Whether there is nothing to remove, to check or to add. -/
def isEmpty (d : Delta) : Bool := d.remove.isEmpty && d.check.isEmpty && d.add.isEmpty

/-- Whether following the delta changes which files are held. -/
def changesContents (d : Delta) : Bool := !d.remove.isEmpty || !d.add.isEmpty

/-- All files that the delta speaks of. -/
def union (d : Delta) : FileSet := d.remove ∪ d.check ∪ d.add

end Delta

end PltKeeper
