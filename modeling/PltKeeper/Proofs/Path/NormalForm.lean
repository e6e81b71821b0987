import PltKeeper.Proofs.FileSet.Partition
import Mathlib.Logic.Relation

/-! The key of a file is the normal form of its path. Pieces of a path that lead nowhere are left out one after the
other; however that is done, the same ordinary components remain. So a key does not change when such pieces are put
into a path, unless they change how many slashes it starts with. -/
namespace PltKeeper.Path

open Relation

variable {cwd file path key : String} {front back parts inserted : List String}

/-- A component that leads to what it names. -/
structure Ordinary (part : String) : Prop extends IsComponent part where
  /-- It does not lead up. -/
  notUp : part ≠ ".."

instance (part : String) : Decidable (Ordinary part) :=
  decidable_of_iff (IsComponent part ∧ part ≠ "..") ⟨fun ⟨c, notUp⟩ => ⟨c, notUp⟩, fun o => ⟨o.toIsComponent, o.notUp⟩⟩

/-- A path as it is seen from the working directory. -/
def seenFrom (cwd file : String) : String :=
  if file.toList.head? = some '/' then file
  else if cwd.toList.getLast? = some '/' then cwd ++ file
  else cwd ++ "/" ++ file

/-! ## The normal form of a path -/

/-- Pieces that lead nowhere, wherever they stand. -/
inductive Idle : List String → Prop
  | gap : Idle [""]
  | here : Idle ["."]
  | detour {name : String} (ordinary : Ordinary name) : Idle [name, ".."]

/-- One step towards the normal form: pieces that lead nowhere are left out, or a `..` at the root is. -/
inductive Simplifies : List String → List String → Prop
  | idle {front part back : List String} (idle : Idle part) : Simplifies (front ++ (part ++ back)) (front ++ back)
  | atRoot {back : List String} : Simplifies (".." :: back) back

/-- The slashes of a path in normal form. -/
def rootOf (path : String) : String := if slashes path = 2 then "//" else "/"

/-- An absolute path in normal form: ordinary components, which are what remains of the pieces of the path. -/
def IsNormalForm (path key : String) : Prop :=
  ∃ parts, ReflTransGen Simplifies (pieces path) parts ∧ (∀ part ∈ parts, Ordinary part) ∧
    key = rootOf path ++ "/".intercalate parts

/-- The components that remain of pieces. -/
def reduced (pieces : List String) : List String := collapse (pieces.filter fun part => part ≠ "" && part ≠ ".")

theorem collapse_detour {name : String} (notUp : name ≠ "..") :
    collapse (front ++ (name :: ".." :: back)) = collapse (front ++ back) := by
  simp [collapse, List.foldl_append, notUp]

theorem reduced_idle (front back : List String) (idle : Idle inserted) :
    reduced (front ++ (inserted ++ back)) = reduced (front ++ back) := by
  unfold reduced
  cases idle with
  | gap => simp
  | here => simp
  | @detour name ordinary =>
    simp only [List.filter_append]
    have kept : [name, ".."].filter (fun part => part ≠ "" && part ≠ ".") = [name, ".."] := by
      simp [ordinary.nonempty, ordinary.notHere]
    rw [kept]
    exact collapse_detour ordinary.notUp

theorem Simplifies.reduced_eq {parts' : List String} (step : Simplifies parts parts') :
    reduced parts' = reduced parts := by
  cases step with
  | idle idle => exact (reduced_idle _ _ idle).symm
  | atRoot => simp [reduced, collapse]

/-- Whatever is left out in whatever order, the same components remain. -/
theorem reduced_of_simplifies {parts' : List String} (steps : ReflTransGen Simplifies parts parts') :
    reduced parts' = reduced parts := by
  induction steps with
  | refl => rfl
  | tail _ step ih => exact step.reduced_eq.trans ih

theorem reduced_of_ordinary (ordinary : ∀ part ∈ parts, Ordinary part) : reduced parts = parts := by
  rw [reduced, filter_components fun part member => (ordinary part member).toIsComponent]
  exact collapse_plain fun member => (ordinary ".." member).notUp rfl

/-- Going through the pieces one by one, with the components kept so far, leaves out what leads nowhere. -/
theorem simplifies_fold {kept : List String} (ordinary : ∀ part ∈ kept, Ordinary part)
    (noSlash : ∀ part ∈ parts, '/' ∉ part.toList) :
    ReflTransGen Simplifies (kept.reverse ++ parts)
      ((parts.filter fun part => part ≠ "" && part ≠ ".").foldl
        (fun kept part => if part = ".." then kept.tail else part :: kept) kept).reverse := by
  induction parts generalizing kept with
  | nil => simp [ReflTransGen.refl]
  | cons part rest ih =>
    have later : ∀ part ∈ rest, '/' ∉ part.toList := fun part member => noSlash part (.tail _ member)
    by_cases idle : part = "" ∨ part = "."
    · have leads : Idle [part] := by rcases idle with rfl | rfl; exacts [.gap, .here]
      have left : (part ≠ "" && part ≠ ".") = false := by rcases idle with rfl | rfl <;> rfl
      rw [List.filter_cons, left]
      exact .head (.idle leads) (ih ordinary later)
    · obtain ⟨nonempty, notHere⟩ := not_or.mp idle
      have stays : (part ≠ "" && part ≠ ".") = true := by simp [nonempty, notHere]
      rw [List.filter_cons, stays, if_pos rfl, List.foldl_cons]
      by_cases up : part = ".."
      · rw [if_pos up, up]
        cases kept with
        | nil => exact .head .atRoot (ih ordinary later)
        | cons name others =>
          obtain ⟨here, above⟩ := List.forall_mem_cons.mp ordinary
          have step : Simplifies (others.reverse ++ ([name, ".."] ++ rest)) (others.reverse ++ rest) :=
            .idle (.detour here)
          simpa using ReflTransGen.head step (ih above later)
      · rw [if_neg up]
        have next : Ordinary part := ⟨⟨nonempty, notHere, noSlash part List.mem_cons_self⟩, up⟩
        simpa using ih (List.forall_mem_cons.mpr ⟨next, ordinary⟩) later

theorem simplifies_reduced (noSlash : ∀ part ∈ parts, '/' ∉ part.toList) :
    ReflTransGen Simplifies parts (reduced parts) := by
  have fromFirst : ReflTransGen Simplifies (List.reverse [] ++ parts) (reduced parts) := simplifies_fold nofun noSlash
  exact fromFirst

theorem ordinary_of_mem_reduced {part : String} (noSlash : ∀ part ∈ parts, '/' ∉ part.toList)
    (member : part ∈ reduced parts) : Ordinary part := by
  obtain ⟨stays, notUp⟩ := mem_of_mem_collapse member
  simp only [List.mem_filter, Bool.and_eq_true, decide_eq_true_eq] at stays
  exact ⟨⟨stays.2.1, stays.2.2, noSlash part stays.1⟩, notUp⟩

/-! ## Keys -/

theorem text_settled (away : slashes path ≠ 0) :
    (parse path).settled.text = rootOf path ++ "/".intercalate (reduced (pieces path)) := by
  have anchor : Anchor.text (Anchor.ofSlashes (slashes path)) = rootOf path := by
    unfold Anchor.ofSlashes rootOf
    split <;> simp_all [Anchor.text]
  have rooted : Anchor.ofSlashes (slashes path) ≠ .relative := by
    unfold Anchor.ofSlashes
    split <;> simp_all
  simp only [text, settled, parse, anchorOf_eq, rooted, decide_false, Bool.false_and, anchor]
  rfl

/-- An absolute path has one normal form. -/
theorem isNormalForm_iff (away : slashes path ≠ 0) : IsNormalForm path key ↔ key = (parse path).settled.text := by
  rw [text_settled away]
  constructor
  · rintro ⟨parts, steps, ordinary, rfl⟩
    rw [← reduced_of_simplifies steps, reduced_of_ordinary ordinary]
  · rintro rfl
    have noSlash : ∀ part ∈ pieces path, '/' ∉ part.toList := fun _ => noSlash_of_mem_pieces
    exact ⟨_, simplifies_reduced noSlash, fun _ => ordinary_of_mem_reduced noSlash, rfl⟩

/-- What a path names, seen from the working directory, is what the text names that leads there. -/
theorem parse_seenFrom (rooted : Rooted cwd) (file : String) : parse (seenFrom cwd file) = absolute cwd file := by
  show _ = Path.join (parse cwd) (parse file)
  unfold seenFrom Path.join
  by_cases away : file.toList.head? = some '/'
  · rw [if_pos away, if_pos (isAbsolute_iff_head.mpr away)]
  · rw [if_neg away, if_neg (mt isAbsolute_iff_head.mp away)]
    split
    · rename_i ends
      obtain ⟨front, chars⟩ := List.getLast?_eq_some_iff.mp ends
      obtain rfl : cwd = String.ofList front ++ "/" := String.toList_injective (by simp [chars])
      have parts : components (String.ofList front ++ "/") = components (String.ofList front) := by
        simpa [components] using components_slash (String.ofList front) ""
      rw [parse, anchorOf_eq, slashes_append (.inl away), ← anchorOf_eq, components_slash, parse, parts]
      rfl
    · rename_i noEnd
      have inside : ∃ c ∈ cwd.toList, c ≠ '/' := by
        cases last : cwd.toList.getLast? with
        | none =>
          have first : cwd.toList.head? = some '/' := isAbsolute_iff_head.mp rooted
          simp [List.getLast?_eq_none_iff.mp last] at first
        | some c => exact ⟨c, List.mem_of_getLast? last, fun slash => noEnd (slash ▸ last)⟩
      rw [parse, anchorOf_eq, String.append_assoc, slashes_append (.inr inside), ← anchorOf_eq, ← String.append_assoc,
        components_slash]
      rfl

theorem canonical_eq (rooted : Rooted cwd) (file : String) :
    canonical cwd file = (parse (seenFrom cwd file)).settled.text := by
  rw [parse_seenFrom rooted]
  rfl

theorem slashes_seenFrom (rooted : Rooted cwd) (file : String) : slashes (seenFrom cwd file) ≠ 0 := by
  rw [← isAbsolute_iff, parse_seenFrom rooted]
  exact isAbsolute_join rooted (parse file)

/-- How a key looks that a path has. -/
structure Neat (path key : String) : Prop where
  /-- It starts with one slash, with two where the path starts with just two. -/
  root : slashes key = if slashes path = 2 then 2 else 1
  /-- Ordinary components follow, unless it is the root. -/
  parts : key ≠ rootOf path → ∀ part ∈ (pieces key).drop (slashes key), Ordinary part
  /-- Only the root ends with a slash. -/
  ending : key.toList.getLast? = some '/' → key = rootOf path

theorem pieces_root (path s : String) :
    pieces (rootOf path ++ s) = List.replicate (slashes (rootOf path)) "" ++ pieces s := by
  have one : pieces ("/" ++ s) = "" :: pieces s := by simpa [pieces] using pieces_slash "" s
  have two : pieces ("//" ++ s) = "" :: "" :: pieces s := by
    rw [← one]
    simpa [pieces] using pieces_slash "" ("/" ++ s)
  unfold rootOf
  split
  · exact two
  · exact one

theorem IsNormalForm.neat (normal : IsNormalForm path key) : Neat path key := by
  obtain ⟨parts, -, ordinary, rfl⟩ := normal
  have proper : ∀ part ∈ parts, IsComponent part := fun part member => (ordinary part member).toIsComponent
  have root : slashes (rootOf path ++ "/".intercalate parts) = slashes (rootOf path) :=
    slashes_append (.inl (head_joined proper))
  have counted : slashes (rootOf path ++ "/".intercalate parts) = if slashes path = 2 then 2 else 1 := by
    rw [root, rootOf]
    split <;> rfl
  by_cases none : parts = []
  · have bare : rootOf path ++ "/".intercalate parts = rootOf path := by simp [none]
    exact ⟨counted, fun other => absurd bare other, fun _ => bare⟩
  · have split : pieces (rootOf path ++ "/".intercalate parts) =
        List.replicate (slashes (rootOf path)) "" ++ parts := by
      rw [pieces_root, pieces_joined none fun part member => (ordinary part member).noSlash]
    refine ⟨counted, fun _ part member => ?_, fun ends => ?_⟩
    · rw [split, root, List.drop_left' (List.length_replicate ..)] at member
      exact ordinary part member
    · -- A slash at the end would be followed by an empty component.
      obtain ⟨front, chars⟩ := List.getLast?_eq_some_iff.mp ends
      have whole : rootOf path ++ "/".intercalate parts = String.ofList front ++ "/" ++ "" :=
        String.toList_injective (by simpa using chars)
      have gap : (List.replicate (slashes (rootOf path)) "" ++ parts).getLast? = some "" := by
        rw [← split, whole, pieces_slash]
        simp [pieces]
      rw [List.getLast?_append_of_ne_nil _ none] at gap
      exact absurd rfl (ordinary "" (List.mem_of_getLast? gap)).nonempty

/-! ## Putting in what leads nowhere -/

/-- Between the pieces of a path others are put that lead nowhere: anywhere behind a component, or right ahead
of one, if they are more than a gap. -/
inductive Inserts (file file' : String) : Prop
  | behind {front inserted back : List String} (idle : Idle inserted) (component : ∃ piece ∈ front, piece ≠ "")
      (before : pieces file = front ++ back) (now : pieces file' = front ++ (inserted ++ back)) : Inserts file file'
  | ahead {front inserted back : List String} {first : String} (idle : Idle inserted) (noGap : inserted ≠ [""])
      (component : first ≠ "") (before : pieces file = front ++ first :: back)
      (now : pieces file' = front ++ (inserted ++ first :: back)) : Inserts file file'

theorem Idle.visible (idle : Idle inserted) (noGap : inserted ≠ [""]) :
    ∃ first rest, inserted = first :: rest ∧ first ≠ "" := by
  cases idle with
  | gap => exact absurd rfl noGap
  | here => exact ⟨_, _, rfl, by decide⟩
  | detour ordinary => exact ⟨_, _, rfl, ordinary.nonempty⟩

namespace Inserts

variable {file' : String} (inserts : Inserts file file')
include inserts

/-- The text starts as it did. -/
theorem slashes_eq : slashes file' = slashes file := by
  cases inserts with
  | behind idle component before now =>
    rw [slashes_of_pieces before (.inl component), slashes_of_pieces now (.inl component)]
  | ahead idle noGap component before now =>
    obtain ⟨next, rest, rfl, visible⟩ := idle.visible noGap
    rw [slashes_of_pieces before (.inr ⟨_, _, rfl, component⟩), slashes_of_pieces now (.inr ⟨next, _, rfl, visible⟩)]

/-- The same components remain, also below others. -/
theorem reduced_eq (above : List String) : reduced (above ++ pieces file') = reduced (above ++ pieces file) := by
  cases inserts with
  | behind idle _ before now => simpa [before, now] using reduced_idle (above ++ _) _ idle
  | ahead idle _ _ before now => simpa [before, now] using reduced_idle (above ++ _) _ idle

theorem canonical_eq (cwd : String) : canonical cwd file' = canonical cwd file := by
  have anchor : (parse file').anchor = (parse file).anchor := by
    rw [parse, parse, anchorOf_eq, anchorOf_eq, inserts.slashes_eq]
  have alone : collapse (parse file').parts = collapse (parse file).parts := inserts.reduced_eq []
  have below : collapse ((parse cwd).parts ++ (parse file').parts) =
      collapse ((parse cwd).parts ++ (parse file).parts) := by
    simp only [parse, components_eq, ← List.filter_append]
    exact inserts.reduced_eq (pieces cwd)
  show (Path.join (parse cwd) (parse file')).settled.text = (Path.join (parse cwd) (parse file)).settled.text
  unfold Path.join isAbsolute
  rw [anchor]
  split
  · rw [settled, settled, anchor, alone]
  · rw [settled, settled, below]

end Inserts

/-- The key of a file is the one normal form of its path, seen from the working directory; it starts and ends as
absolute paths do and has nothing in it but ordinary components. Keys are their own keys, so the set of files that
a set lists is that set, and a path may be spelled with any pieces in it that lead nowhere. -/
theorem key_is_normalForm (rooted : Rooted cwd) (file : String) :
    (∀ key, IsNormalForm (seenFrom cwd file) key ↔ key = canonical cwd file) ∧
      Neat (seenFrom cwd file) (canonical cwd file) ∧
      canonical cwd (canonical cwd file) = canonical cwd file ∧
      (∀ files listed : List String, (∀ name, name ∈ listed ↔ name ∈ FileSet.of cwd files) →
        FileSet.of cwd listed = FileSet.of cwd files) ∧
      ∀ file', ReflTransGen Inserts file file' → canonical cwd file' = canonical cwd file := by
  have unique (key : String) : IsNormalForm (seenFrom cwd file) key ↔ key = canonical cwd file := by
    rw [isNormalForm_iff (slashes_seenFrom rooted file), canonical_eq rooted]
  refine ⟨unique, ((unique _).mpr rfl).neat, canonical_canonical rooted file, fun files listed same => ?_,
    fun file' steps => ?_⟩
  · exact FileSet.of_eq_of_mem_iff (FileSet.canonical_of rooted files) same
  · induction steps with
    | refl => rfl
    | tail _ inserts ih => exact (inserts.canonical_eq cwd).trans ih

/-- A file beside a working directory at two slashes, which may be spelled with a detour. -/
theorem key_of_neighbour :
    Rooted "//w" ∧ IsNormalForm "//w/../b" "//b" ∧ Neat "//w/../b" "//b" ∧ canonical "//w" "../x/../b" = "//b" := by
  have rooted : Rooted "//w" := by decide +kernel
  have key : canonical "//w" "../b" = "//b" := by decide +kernel
  obtain ⟨unique, neat, -, -, spelled⟩ := key_is_normalForm rooted "../b"
  have seen : seenFrom "//w" "../b" = "//w/../b" := by decide +kernel
  rw [seen] at unique neat
  have ordinary : Ordinary "x" := by decide +kernel
  have before : pieces "../b" = [".."] ++ ["b"] := by decide +kernel
  have now : pieces "../x/../b" = [".."] ++ (["x", ".."] ++ ["b"]) := by decide +kernel
  have detour : Inserts "../b" "../x/../b" := .behind (.detour ordinary) ⟨"..", by decide, by decide⟩ before now
  exact ⟨rooted, (unique _).mpr key.symm, key ▸ neat, (spelled _ (.single detour)).trans key⟩

end PltKeeper.Path
