import PltKeeper.Text.Quoted
import Mathlib.Data.List.Basic

/-! Texts and the halves of surrogate pairs in them. A half keeps its unit. A text without halves has
its bytes, and of texts that are written one after the other those before the first with a half are
written; a text without characters at fault can be printed, or given as a name. -/
namespace PltKeeper.Text

variable {spoils : Char → Bool} {start : Nat} {s : String} {cs : List Char} {texts : List String}

/-- A text without halves. -/
def IsEncodable (s : String) : Prop := ∀ c ∈ s.toList, isHalf c = false

instance (s : String) : Decidable (IsEncodable s) := List.decidableBAll _ _

/-- A text without characters that no name may hold. -/
def IsUsable (s : String) : Prop := ∀ c ∈ s.toList, isUnusable c = false

instance (s : String) : Decidable (IsUsable s) := List.decidableBAll _ _

theorem not_isUsable_iff : ¬ IsUsable s ↔ s.toList.any isUnusable = true := by
  simp [IsUsable]

/-! ## Halves -/

section
variable {unit : Nat} (isUnit : 0xd800 ≤ unit ∧ unit ≤ 0xdfff)
include isUnit

theorem toNat_half : (half unit).toNat = firstHalf + (unit - 0xd800) := by
  have valid : (firstHalf + (unit - 0xd800)).isValidChar := by
    unfold Nat.isValidChar firstHalf
    omega
  rw [half, Char.ofNat, dif_pos valid]
  rfl

theorem isHalf_half : isHalf (half unit) = true := by
  simp only [isHalf, toNat_half isUnit, Bool.and_eq_true, decide_eq_true_eq]
  omega

/-- Each unit is kept as a half of its own. -/
theorem unitOf_half : unitOf (half unit) = unit := by
  rw [unitOf, toNat_half isUnit]
  omega

end

/-! ## The first fault -/

theorem faultFrom_eq_none_iff : faultFrom spoils start cs = none ↔ ∀ c ∈ cs, spoils c = false := by
  induction cs generalizing start with
  | nil => simp [faultFrom]
  | cons c cs ih =>
    rw [faultFrom]
    cases spoiled : spoils c <;> simp [spoiled, ih]

theorem fault?_eq_none_iff : fault? spoils s = none ↔ ∀ c ∈ s.toList, spoils c = false := faultFrom_eq_none_iff

theorem fault?_isHalf_iff : fault? isHalf s = none ↔ IsEncodable s := fault?_eq_none_iff

/-! ## Texts that are written one after the other -/

/-- Of texts that are written those before the first with a half are written, and a fault is one in that. -/
theorem encodeAll_front (texts : List String) : ∃ front back, texts = front ++ back ∧
    (∀ s ∈ front, IsEncodable s) ∧ (encodeAll texts).1 = front.flatMap Utf8.encode ∧
    (back = [] ∧ (encodeAll texts).2 = none ∨
      ∃ s more fault, back = s :: more ∧ fault? isHalf s = some fault ∧ (encodeAll texts).2 = some fault) := by
  induction texts with
  | nil => exact ⟨[], [], rfl, nofun, rfl, .inl ⟨rfl, rfl⟩⟩
  | cons s texts ih =>
    cases here : fault? isHalf s with
    | some fault =>
      refine ⟨[], s :: texts, rfl, nofun, ?_, .inr ⟨s, texts, fault, rfl, here, ?_⟩⟩ <;>
        simp [encodeAll, here]
    | none =>
      obtain ⟨front, back, rfl, clean, bytes, ends⟩ := ih
      refine ⟨s :: front, back, rfl, List.forall_mem_cons.mpr ⟨fault?_isHalf_iff.mp here, clean⟩, ?_, ?_⟩
      · simp [encodeAll, here, bytes]
      · simpa [encodeAll, here] using ends

theorem encodeAll_of_encodable (clean : ∀ s ∈ texts, IsEncodable s) :
    encodeAll texts = (texts.flatMap Utf8.encode, none) := by
  induction texts with
  | nil => rfl
  | cons s texts ih =>
    obtain ⟨here, clean⟩ := List.forall_mem_cons.mp clean
    simp [encodeAll, fault?_isHalf_iff.mpr here, ih clean]

end PltKeeper.Text
