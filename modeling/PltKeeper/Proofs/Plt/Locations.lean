import PltKeeper.Proofs.Path.Canonical
import PltKeeper.Proofs.Config.Layering

/-! Where PLTs are kept. A location is looked at twice: once when the options of a run are taken from a
configuration, and again when the path of a PLT is made of it. The second look finds what the first one
meant, unless the location is the keyword of the other PLT or the root begins at a home directory. -/
namespace PltKeeper

variable {host : Host} {root p : Path} {keyword other : String} {usual dir : Path} {value : Json}

/-! ## Home directories -/

/-- A relative path whose first component has a tilde at its front. -/
def Path.StartsWithTilde (p : Path) : Prop :=
  p.anchor = .relative ∧ p.parts.head?.any Host.startsWithTilde = true

instance (p : Path) : Decidable p.StartsWithTilde := inferInstanceAs (Decidable (_ ∧ _))

/-- No other path is changed. -/
theorem expandHome_of_not_tilde (plain : ¬ p.StartsWithTilde) : host.expandHome p = .ok p := by
  unfold Host.expandHome
  split
  · rename_i first rest relative parts
    rw [if_neg fun tilde => plain ⟨relative, by simp [parts, tilde]⟩]
  · rfl

theorem not_startsWithTilde_of_isAbsolute (absolute : p.isAbsolute = true) : ¬ p.StartsWithTilde :=
  fun tilde => by simp [Path.isAbsolute, tilde.1] at absolute

theorem join_of_relative (relative : p.isAbsolute = false) : root / p = ⟨root.anchor, root.parts ++ p.parts⟩ := by
  show Path.join root p = _
  rw [Path.join, relative]
  rfl

theorem join_of_absolute (absolute : p.isAbsolute = true) : root / p = p := by
  show Path.join root p = _
  rw [Path.join, if_pos absolute]

/-- Only the empty root adds nothing to a relative path. -/
theorem eq_join_iff (relative : p.isAbsolute = false) : p = root / p ↔ root = .here := by
  have anchored : p.anchor = .relative := by simpa [Path.isAbsolute] using relative
  rw [join_of_relative relative]
  obtain ⟨anchor, parts⟩ := p
  obtain ⟨rootAnchor, rootParts⟩ := root
  simp only at anchored
  subst anchored
  simp [Path.here, eq_comm]

/-- Below a root, a path stays as it is just where the root does. -/
theorem expandHome_below (relative : p.isAbsolute = false) (plain : ¬ p.StartsWithTilde) :
    host.expandHome (root / p) = .ok (root / p) ↔ host.expandHome root = .ok root := by
  rw [join_of_relative relative]
  obtain ⟨anchor, parts⟩ := root
  cases anchor with
  | root | doubleRoot => simp [Host.expandHome]
  | relative =>
    cases parts with
    | nil =>
      have anchored : p.anchor = .relative := by simpa [Path.isAbsolute] using relative
      have same : (⟨.relative, [] ++ p.parts⟩ : Path) = p := by rw [← anchored, List.nil_append]
      exact iff_of_true (by rw [same, expandHome_of_not_tilde plain]) rfl
    | cons first rest =>
      simp only [Host.expandHome, List.cons_append]
      split
      · cases host.homeOf? first.toList with
        | none => simp
        | some home =>
          simp only [Except.ok.injEq, Path.mk.injEq, ← List.append_assoc, ← List.cons_append,
            List.append_cancel_right_eq]
      · simp

/-! ## What is said and what is done -/

/-- Where the PLT is said to be kept whose usual directory has a keyword: there, or in the directory that
the location names, seen from the root. Of a relative location that starts with a tilde nothing is said. -/
inductive SaidToBe (root : Path) (keyword : String) (usual : Path) : Json → Path → Prop
  | usual : SaidToBe root keyword usual (.str keyword) usual
  | absolute {value : Json} (named : value ≠ .str keyword) (absolute : (Path.parse value.display).isAbsolute = true) :
    SaidToBe root keyword usual value (Path.parse value.display)
  | under {value : Json} (named : value ≠ .str keyword) (relative : (Path.parse value.display).isAbsolute = false)
      (plain : ¬ (Path.parse value.display).StartsWithTilde) :
    SaidToBe root keyword usual value (root / Path.parse value.display)

/-- A location that is lost on the way to the path: the keyword of the other PLT is taken for a directory
that is not below the root, and below a root that starts with a tilde a directory is taken for one below the
home that the tilde stands for. -/
inductive Astray (host : Host) (root : Path) (keyword other : String) : Json → Prop
  | keyword (apart : root ≠ .here) : Astray host root keyword other (.str other)
  | home {value : Json} (named : value ≠ .str keyword) (alsoNamed : value ≠ .str other)
      (relative : (Path.parse value.display).isAbsolute = false) (moves : host.expandHome root ≠ .ok root) :
    Astray host root keyword other value

/-- Below a root that stays where it is, only the keyword of the other PLT goes astray. -/
theorem not_astray (named : value ≠ .str other) (stays : host.expandHome root = .ok root) :
    ¬ Astray host root keyword other value := by
  intro astray
  cases astray with
  | keyword => exact named rfl
  | home _ _ _ moves => exact moves stays

section Resolving

/-- The keywords of the two PLTs, that of the PLT in question first. -/
def Keywords (keyword other : String) : Prop :=
  keyword = PltLocation.localKeyword ∧ other = PltLocation.globalKeyword ∨
    keyword = PltLocation.globalKeyword ∧ other = PltLocation.localKeyword

theorem Keywords.ne (keywords : Keywords keyword other) : other ≠ keyword := by
  rcases keywords with ⟨rfl, rfl⟩ | ⟨rfl, rfl⟩ <;> decide

/-- A keyword is a relative path. -/
theorem Keywords.plain (keywords : Keywords keyword other) :
    (Path.parse other).isAbsolute = false ∧ ¬ (Path.parse other).StartsWithTilde := by
  rcases keywords with ⟨-, rfl⟩ | ⟨-, rfl⟩ <;> decide +kernel

theorem locationOf_keyword (keywords : Keywords keyword other) :
    Settings.locationOf host root (.str keyword) = .ok (.word keyword) ∧
      Settings.locationOf host root (.str other) = .ok (.word other) := by
  rcases keywords with ⟨rfl, rfl⟩ | ⟨rfl, rfl⟩ <;> exact ⟨rfl, rfl⟩

/-- Any other location is a directory, seen from the root. -/
theorem locationOf_directory (keywords : Keywords keyword other) (named : value ≠ .str keyword)
    (alsoNamed : value ≠ .str other) (plain : ¬ (Path.parse value.display).StartsWithTilde) :
    Settings.locationOf host root value = .ok (.directory (.path (root / Path.parse value.display))) := by
  have path : (do
      let p ← host.expandHome (Path.parse value.display)
      return PltLocation.directory (.path (root / p)) : Except Failure PltLocation) =
        .ok (.directory (.path (root / Path.parse value.display))) := by
    rw [expandHome_of_not_tilde plain]
    rfl
  unfold Settings.locationOf
  cases value with
  | str s =>
    have word : (s = PltLocation.localKeyword || s = PltLocation.globalKeyword) = false := by
      rcases keywords with ⟨rfl, rfl⟩ | ⟨rfl, rfl⟩ <;> simp_all
    simp only [word]
    exact path
  | _ => exact path

/-- The second look finds what the first one meant, unless the location goes astray. -/
theorem resolve_iff (keywords : Keywords keyword other) {location : PltLocation}
    (said : SaidToBe root keyword usual value dir) (located : Settings.locationOf host root value = .ok location) :
    location.resolve host keyword (.path usual) = .ok dir ↔ ¬ Astray host root keyword other value := by
  cases said with
  | usual =>
    cases (locationOf_keyword keywords).1.symm.trans located
    refine iff_of_true (by simp [PltLocation.resolve, Directory.get]) ?_
    generalize given : Json.str keyword = value at *
    rintro (apart | ⟨named, -, -, -⟩)
    · exact keywords.ne (Json.str.inj given).symm
    · exact named given.symm
  | absolute named absolute =>
    have notOther : value ≠ .str other := by
      rintro rfl
      simp [Json.display, keywords.plain.1] at absolute
    have plain := not_startsWithTilde_of_isAbsolute absolute
    cases (locationOf_directory keywords named notOther plain).symm.trans located
    rw [join_of_absolute absolute]
    refine iff_of_true (expandHome_of_not_tilde plain) ?_
    rintro (apart | ⟨-, -, relative, -⟩)
    · exact notOther rfl
    · simp [absolute] at relative
  | under named relative plain =>
    by_cases isOther : value = .str other
    · subst isOther
      cases (locationOf_keyword keywords).2.symm.trans located
      simp only [PltLocation.resolve, if_neg keywords.ne, expandHome_of_not_tilde keywords.plain.2, Json.display,
        Except.ok.injEq, eq_join_iff keywords.plain.1]
      constructor
      · rintro rfl (apart | ⟨-, alsoNamed, -, -⟩)
        · exact apart rfl
        · exact alsoNamed rfl
      · exact fun notAstray => by_contra fun apart => notAstray (.keyword apart)
    · cases (locationOf_directory keywords named isOther plain).symm.trans located
      show host.expandHome _ = _ ↔ _
      rw [expandHome_below relative plain]
      constructor
      · rintro stays (apart | ⟨-, -, -, moves⟩)
        · exact isOther rfl
        · exact moves stays
      · exact fun notAstray => by_contra fun moves => notAstray (.home named isOther relative moves)

/-- No location of which something is said stands in the way of the options. -/
theorem locationOf_of_said (keywords : Keywords keyword other) (said : SaidToBe root keyword usual value dir) :
    ∃ location, Settings.locationOf host root value = .ok location := by
  by_cases isKeyword : value = .str keyword
  · exact ⟨_, isKeyword ▸ (locationOf_keyword keywords).1⟩
  by_cases isOther : value = .str other
  · exact ⟨_, isOther ▸ (locationOf_keyword keywords).2⟩
  refine ⟨_, locationOf_directory keywords isKeyword isOther ?_⟩
  cases said with
  | usual => exact absurd rfl isKeyword
  | absolute named absolute => exact not_startsWithTilde_of_isAbsolute absolute
  | under named relative plain => exact plain

end Resolving

/-! ## The paths of the PLTs -/

/-- A directory can be told from the path of a file in it. -/
theorem child_injective {s : String} (relative : (Path.parse s).isAbsolute = false) {p q : Path}
    (same : p.child s = q.child s) : p = q := by
  have parts : (⟨p.anchor, p.parts ++ (Path.parse s).parts⟩ : Path) = ⟨q.anchor, q.parts ++ (Path.parse s).parts⟩ :=
    (join_of_relative relative).symm.trans (same.trans (join_of_relative relative))
  simp only [Path.mk.injEq, List.append_cancel_right_eq] at parts
  obtain ⟨anchor, parts⟩ := parts
  cases p
  cases q
  simp_all

/-- The path of a PLT names the directory, whatever the PLT's name. -/
theorem path_iff_resolve {location : PltLocation} {usual : Directory} :
    (∀ stem release, (do
        let directory ← location.resolve host keyword usual
        return directory.child (Plt.fileName stem release) : Except Failure Path) =
          .ok (dir.child (Plt.fileName stem release))) ↔
      location.resolve host keyword usual = .ok dir := by
  constructor
  · intro paths
    obtain ⟨found, resolved, same⟩ := bind_ok_iff.mp (paths "" "")
    rw [resolved, child_injective (by decide +kernel) (Except.ok.inj same)]
  · intro resolved stem release
    rw [resolved]
    rfl

/-- No location of which something is said stands in the way of the options that a configuration gives. With
these options, each PLT is kept where it is said to be, whatever it is called, just where its location does
not go astray. -/
theorem places_of_settings {cfg : Json} {options : List (String × Json)}
    (dialyzer : cfg.section? "dialyzer" = .ok options) :
    (∀ {usual value dir}, SaidToBe root "local" usual value dir ∨ SaidToBe root "global" usual value dir →
      ∃ location, Settings.locationOf host root value = .ok location) ∧
    ∀ s, Settings.ofDocument host root cfg = .ok s →
      ∃ baseDir cacheDir, s.baseDir = .path baseDir ∧ s.cacheDir = .path cacheDir ∧
        (∀ dir, SaidToBe root "local" baseDir (Settings.get options "plt_location" (.str "local")) dir →
          ((∀ stem release, Plt.projectPath host stem s.location s.baseDir release =
              .ok (dir.child (Plt.fileName stem release))) ↔
            ¬ Astray host root "local" "global" (Settings.get options "plt_location" (.str "local")))) ∧
        ∀ dir, SaidToBe root "global" cacheDir (Settings.get options "base_plt_location" (.str "global")) dir →
          ((∀ stem release, Plt.basePath host stem s.baseLocation s.cacheDir release =
              .ok (dir.child (Plt.fileName stem release))) ↔
            ¬ Astray host root "global" "local" (Settings.get options "base_plt_location" (.str "global"))) := by
  have ofProject : Keywords "local" "global" := .inl ⟨rfl, rfl⟩
  have ofBase : Keywords "global" "local" := .inr ⟨rfl, rfl⟩
  refine ⟨fun said => said.elim (locationOf_of_said ofProject) (locationOf_of_said ofBase), fun s made => ?_⟩
  obtain ⟨-, -, located, baseLocated, ⟨baseDir, isBase⟩, cacheDir, isCache⟩ := Config.parts_of_ofDocument dialyzer made
  refine ⟨baseDir, cacheDir, isBase, isCache, fun dir said => ?_, fun dir said => ?_⟩
  · rw [isBase]
    exact path_iff_resolve.trans (resolve_iff ofProject said located)
  · rw [isCache]
    exact path_iff_resolve.trans (resolve_iff ofBase said baseLocated)

/-! ### Locations below a root -/

/-- A machine with a home directory. -/
def placesHost : Host where
  cwd := "/w"
  home := "/h"
  users := []
  environment := []

/-- A configuration that says where the PLTs are kept. -/
def placedBy (options : List (String × Json)) : Json := .obj [("dialyzer", .obj options)]

/-- A project's own directory for its PLT, and a directory for the base PLT. -/
def ownPlaces : List (String × Json) := [("plt_location", .str "plts"), ("base_plt_location", .str "/var/cache/plts")]

/-- The project PLT is kept below the root and the base PLT where it is said to be. -/
theorem places_of_own_directories :
    ∃ s, Settings.ofDocument placesHost (.parse "proj") (placedBy ownPlaces) = .ok s ∧
      Plt.projectPath placesHost "rebar3" s.location s.baseDir "26" = .ok (.parse "proj/plts/rebar3_26_plt") ∧
      Plt.basePath placesHost "rebar3" s.baseLocation s.cacheDir "26" = .ok (.parse "/var/cache/plts/rebar3_26_plt") := by
  have given : Settings.get ownPlaces "plt_location" (.str "local") = .str "plts" := rfl
  have baseGiven : Settings.get ownPlaces "base_plt_location" (.str "global") = .str "/var/cache/plts" := rfl
  have below : Path.parse "plts" = ⟨.relative, ["plts"]⟩ := by decide +kernel
  obtain ⟨-, places⟩ := @places_of_settings placesHost (.parse "proj") (placedBy ownPlaces) ownPlaces rfl
  have made : (Settings.ofDocument placesHost (.parse "proj") (placedBy ownPlaces)).isOk = true := by decide +kernel
  cases ran : Settings.ofDocument placesHost (.parse "proj") (placedBy ownPlaces) with
  | error e => simp [ran, Except.isOk, Except.toBool] at made
  | ok s =>
    obtain ⟨baseDir, cacheDir, -, -, project, base⟩ := places s ran
    rw [given] at project
    rw [baseGiven] at base
    have stays : placesHost.expandHome (.parse "proj") = .ok (.parse "proj") := by decide +kernel
    have apart : ¬ Astray placesHost (.parse "proj") "local" "global" (.str "plts") := not_astray (by simp) stays
    have baseApart : ¬ Astray placesHost (.parse "proj") "global" "local" (.str "/var/cache/plts") :=
      not_astray (by simp) stays
    have place := (project _ (.under (by simp) (by decide +kernel) (by decide +kernel))).mpr apart "rebar3" "26"
    have basePlace := (base _ (.absolute (by simp) (by decide +kernel))).mpr baseApart "rebar3" "26"
    exact ⟨s, rfl, place.trans (by decide +kernel), basePlace.trans (by decide +kernel)⟩

/-- The keyword of the other PLT leads out of the root. -/
theorem places_of_other_keyword :
    ¬ ∀ {host : Host} {root : Path} {cfg : Json} {options : List (String × Json)} {s : Settings} {baseDir dir : Path},
      cfg.section? "dialyzer" = .ok options → Settings.ofDocument host root cfg = .ok s → s.baseDir = .path baseDir →
      SaidToBe root "local" baseDir (Settings.get options "plt_location" (.str "local")) dir →
      ∀ stem release, Plt.projectPath host stem s.location s.baseDir release =
        .ok (dir.child (Plt.fileName stem release)) := by
  intro law
  have out : (Settings.ofDocument placesHost (.parse "proj") (placedBy [("plt_location", .str "global")])).toOption.map
      (fun s => (Plt.projectPath placesHost "rebar3" s.location s.baseDir "26").toOption) =
        some (some (.parse "global/rebar3_26_plt")) := by decide +kernel
  cases ran : Settings.ofDocument placesHost (.parse "proj") (placedBy [("plt_location", .str "global")]) with
  | error e => simp [ran, Except.toOption] at out
  | ok s =>
    obtain ⟨-, -, -, -, ⟨baseDir, isBase⟩, -⟩ := Config.parts_of_ofDocument rfl ran
    have said : SaidToBe (.parse "proj") "local" baseDir
        (Settings.get [("plt_location", .str "global")] "plt_location" (.str "local"))
        (.parse "proj" / .parse (Json.str "global").display) :=
      .under (by simp [Settings.get, Json.field?]) (by decide +kernel) (by decide +kernel)
    have dialyzer : (placedBy [("plt_location", .str "global")]).section? "dialyzer" =
        .ok [("plt_location", .str "global")] := rfl
    have inside := law dialyzer ran isBase said "rebar3" "26"
    simp only [ran, Except.toOption, Option.map_some, Option.some.injEq, inside] at out
    exact absurd out (by decide +kernel)

end PltKeeper
