import PltKeeper.Json.Access

/-! Objects whose text repeats a name. `settled` is a document with every member as written made into
the one that is understood: of the members of one name the last counts, in the place of the first. -/
namespace PltKeeper.Json

variable {fields members : List (String × Json)} {key other : String} {value : Json}

/-! ## Setting a field -/

theorem any_name_iff : (fields.any fun f => decide (f.1 = key)) = true ↔ key ∈ fields.map (·.1) := by
  simp [List.any_eq_true]

theorem lookup_isSome_iff_mem : (fields.lookup key).isSome = true ↔ key ∈ fields.map (·.1) := by
  rw [List.lookup_isSome_iff, List.mem_map]
  exact exists_congr fun f => and_congr_right fun _ => beq_iff_eq.trans eq_comm

theorem lookup_eq_none_iff_notMem : fields.lookup key = none ↔ key ∉ fields.map (·.1) := by
  rw [← lookup_isSome_iff_mem, Bool.not_eq_true, Option.isSome_eq_false_iff, Option.isNone_iff_eq_none]

theorem lookup_of_mem {β : Type} {entries : List (String × β)} {value : β} (unique : (entries.map (·.1)).Nodup)
    (member : (key, value) ∈ entries) : entries.lookup key = some value := by
  induction entries with
  | nil => cases member
  | cons f rest ih =>
    obtain ⟨name, held⟩ := f
    rw [List.map_cons, List.nodup_cons] at unique
    rcases List.mem_cons.mp member with first | later
    · cases first
      simp
    · have apart : (key == name) = false := by
        rw [beq_eq_false_iff_ne]
        rintro rfl
        exact unique.1 (List.mem_map.mpr ⟨_, later, rfl⟩)
      rw [List.lookup_cons, apart]
      exact ih unique.2 later

/-- A change of values alone reaches a lookup as a change of the value found. -/
theorem lookup_map {β γ : Type} {entries : List (String × β)} (change : String → β → γ) :
    (entries.map fun f => (f.1, change f.1 f.2)).lookup key = (entries.lookup key).map (change key) := by
  induction entries with
  | nil => rfl
  | cons f rest ih =>
    obtain ⟨name, value⟩ := f
    by_cases same : key = name
    · simp [same]
    · have apart : (key == name) = false := by simpa using same
      simpa only [List.map_cons, List.lookup_cons, apart] using ih

theorem putField_known (known : key ∈ fields.map (·.1)) :
    putField fields key value = fields.map fun f => (f.1, if f.1 = key then value else f.2) := by
  rw [putField, if_pos (any_name_iff.mpr known)]
  refine List.map_congr_left fun f _ => ?_
  by_cases same : f.1 = key
  · simp [same]
  · simp [same]

theorem putField_new (new : key ∉ fields.map (·.1)) :
    putField fields key value = fields ++ [(key, value)] := by
  rw [putField, if_neg (mt any_name_iff.mp new)]

/-- Setting a field changes that field alone. -/
theorem lookup_putField :
    (putField fields key value).lookup other =
      if other = key then some value else fields.lookup other := by
  by_cases known : key ∈ fields.map (·.1)
  · rw [putField_known known, lookup_map fun name old => if name = key then value else old]
    by_cases same : other = key
    · subst same
      obtain ⟨old, found⟩ := Option.isSome_iff_exists.mp (lookup_isSome_iff_mem.mpr known)
      simp [found]
    · simp [same]
  · rw [putField_new known, List.lookup_append]
    by_cases same : other = key
    · subst same
      simp [lookup_eq_none_iff_notMem.mpr known]
    · have apart : (other == key) = false := by simpa using same
      simp [List.lookup_cons, apart, same]

/-- Setting a field gives no name a second place. -/
theorem nodup_putField (unique : (fields.map (·.1)).Nodup) :
    ((putField fields key value).map (·.1)).Nodup := by
  by_cases known : key ∈ fields.map (·.1)
  · rw [putField_known known, List.map_map]
    exact unique
  · rw [putField_new known, List.map_append, List.nodup_append]
    refine ⟨unique, by simp, ?_⟩
    rintro name present _ new rfl
    exact known (by simpa [List.mem_singleton.mp new] using present)

/-! ## Documents as written -/

mutual

/-- The document that one with every member as written is understood as. -/
def settled : Json → Json
  | arr items => arr (settledItems items)
  | obj members => obj (settledMembers [] members)
  | value => value

/-- The items of a list as they are understood. -/
def settledItems : List Json → List Json
  | [] => []
  | item :: rest => settled item :: settledItems rest

/-- The fields that `known` ones become with further members. -/
def settledMembers (known : List (String × Json)) : List (String × Json) → List (String × Json)
  | [] => known
  | (key, value) :: rest => settledMembers (putField known key (settled value)) rest

end

/-- The last member of a name in an object as written. -/
def last? (written : Json) (key : String) : Option Json :=
  match written with
  | obj members => members.reverse.lookup key
  | _ => none

/-- The last member of a name counts; a name that no member has keeps what was known. -/
theorem lookup_settledMembers :
    (settledMembers fields members).lookup key =
      ((members.reverse.lookup key).map settled).or (fields.lookup key) := by
  induction members generalizing fields with
  | nil => simp [settledMembers]
  | cons member rest ih =>
    obtain ⟨name, value⟩ := member
    rw [settledMembers, ih, lookup_putField, List.reverse_cons, List.lookup_append]
    cases rest.reverse.lookup key with
    | some found => rfl
    | none =>
      by_cases same : key = name
      · simp [same]
      · have apart : (key == name) = false := by simpa using same
        simp [List.lookup_cons, apart, same]

theorem nodup_settledMembers (unique : (fields.map (·.1)).Nodup) :
    ((settledMembers fields members).map (·.1)).Nodup := by
  induction members generalizing fields with
  | nil => exact unique
  | cons member rest ih => exact ih (nodup_putField unique)

/-- What is understood under a name is the last value written under it. -/
theorem get?_settled (written : Json) : written.settled.get? key = (written.last? key).map settled := by
  cases written with
  | obj members =>
    rw [settled, get?, field?, lookup_settledMembers, last?]
    simp
  | _ => rfl

/-- A document that is understood writes no name twice. -/
theorem nodup_of_settled {written : Json} (understood : written.settled = .obj fields) :
    (fields.map (·.1)).Nodup := by
  cases written with
  | obj members =>
    rw [settled, obj.injEq] at understood
    exact understood ▸ nodup_settledMembers (by simp)
  | _ => simp [settled] at understood

end PltKeeper.Json
