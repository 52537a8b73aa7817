import BenchTree.Proofs.CommandLine.Settings

/-!
# Exactly the spellings are accepted

Settings may be given one after the other from the start on exactly when there are three numbers at
most, backends are named by their names, and everything else is given once at most; what they leave
does not depend on how options and numbers are mixed. With the rules for single arguments this says
which lines are accepted, and what each of them asks for. So what was accepted can be written down
again in one fixed way, which asks for the same.
-/

namespace BenchTree.CommandLine

@[simp]
theorem numbers_concat (settings : List Setting) (last : Setting) :
    numbers (settings ++ [last]) = numbers settings ++ last.number?.toList := by
  cases found : last.number? <;> simp [numbers, found]

@[simp]
theorem values_concat (option : ValueOption) (settings : List Setting) (last : Setting) :
    values option (settings ++ [last]) =
      values option settings ++ (last.valueOf? option).toList := by
  cases found : last.valueOf? option <;> simp [values, found]

theorem ofName?_eq_some_iff {name : String} {backend : Backend} :
    Backend.ofName? name = some backend ↔ backend.name = name := by
  constructor
  · intro found
    simpa [Backend.ofName?] using List.find?_some found
  · rintro rfl
    cases backend <;> rfl

theorem name_injective : Function.Injective Backend.name := by
  intro first second same
  have named := ofName?_eq_some_iff.mpr same
  rwa [ofName?_eq_some_iff.mpr rfl, Option.some.injEq, eq_comm] at named

namespace Progress

/-- The progress from the start on after some settings, all of which may be given. -/
structure Collects (progress : Progress) (settings : List Setting) : Prop where
  few : (numbers settings).length ≤ 3
  places : progress.places = [.files, .deps, .modules].drop (numbers settings).length
  files : progress.files = (numbers settings)[0]?
  deps : progress.deps = (numbers settings)[1]?
  modules : progress.modules = (numbers settings)[2]?
  out : values .out settings = progress.out.toList
  config : values .config settings = progress.config.toList
  backends : values .backend settings = progress.backends.map Backend.name
  manifest : values .manifest settings = progress.manifest.toList
  jobs : settings.count .jobs = progress.jobs.toNat
  quiet : settings.count .quiet = progress.quiet.toNat
  pending : progress.pending = .nothing
  onlyPlaces : progress.onlyPlaces = false

theorem places_eq {progress : Progress} {settings : List Setting}
    (collects : progress.Collects settings) (position : Position) (later : List Position)
    (still : progress.places = position :: later) :
    (numbers settings = [] ∧ position = .files ∧ later = [.deps, .modules]) ∨
    (∃ files, numbers settings = [files] ∧ position = .deps ∧ later = [.modules]) ∨
    ∃ files deps, numbers settings = [files, deps] ∧ position = .modules ∧ later = [] := by
  have places := collects.places
  rw [still] at places
  match given : numbers settings with
  | [] =>
      rw [given] at places
      cases places
      exact Or.inl ⟨rfl, rfl, rfl⟩
  | [files] =>
      rw [given] at places
      cases places
      exact Or.inr (Or.inl ⟨files, rfl, rfl, rfl⟩)
  | [files, deps] =>
      rw [given] at places
      cases places
      exact Or.inr (Or.inr ⟨files, deps, rfl, rfl, rfl⟩)
  | _ :: _ :: _ :: rest => simp [given] at places

theorem Collects.number {progress : Progress} {settings : List Setting}
    (collects : progress.Collects settings) (value : Nat) {position : Position}
    {later : List Position} (still : progress.places = position :: later) :
    ({ progress with places := later }.fill position value).Collects
      (settings ++ [Setting.number value]) := by
  have placed := places_eq collects position later still
  rcases collects with ⟨_, _, files, deps, modules, out, config, backends, manifest, jobs, quiet,
    pending, onlyPlaces⟩
  rcases placed with ⟨given, rfl, rfl⟩ | ⟨_, given, rfl, rfl⟩ | ⟨_, _, given, rfl, rfl⟩
  all_goals
    rw [given] at files deps modules
    constructor <;> simp [Setting.number?, Setting.valueOf?, fill, *]

theorem Collects.given {progress next : Progress} {settings : List Setting}
    {option : ValueOption} {value : String} (collects : progress.Collects settings)
    (set : progress.setOption option value = .ok next) :
    next.Collects (settings ++ [Setting.given option value]) := by
  rcases collects with ⟨few, places, files, deps, modules, out, config, backends, manifest, jobs,
    quiet, pending, onlyPlaces⟩
  cases option with
  | backend =>
      cases named : Backend.ofName? value with
      | none =>
          simp only [setOption, named] at set
          split at set <;> cases set
      | some backend =>
          have name_eq := ofName?_eq_some_iff.mp named
          simp only [setOption, named] at set
          cases set
          constructor <;> simp [Setting.number?, Setting.valueOf?, *]
  | _ =>
      simp only [setOption] at set
      split at set
      · cases set
      · rename_i absent
        rw [Option.not_isSome_iff_eq_none] at absent
        cases set
        constructor <;> simp [Setting.number?, Setting.valueOf?, *]

theorem Collects.step {progress next : Progress} {settings : List Setting} {last : Setting}
    (collects : progress.Collects settings) (accepted : progress.accept? last = some next) :
    next.Collects (settings ++ [last]) := by
  cases last with
  | number value =>
      cases still : progress.places with
      | nil => simp [accept?, still] at accepted
      | cons position later =>
          obtain rfl : _ = next := by simpa [accept?, still] using accepted
          exact collects.number value still
  | given option value => exact collects.given (toOption_eq_some_iff.mp accepted)
  | jobs =>
      simp only [accept?] at accepted
      split at accepted <;> cases accepted
      rcases collects with ⟨few, places, files, deps, modules, out, config, backends, manifest,
        jobs, quiet, pending, onlyPlaces⟩
      constructor <;> simp [Setting.number?, Setting.valueOf?, *]
  | quiet =>
      simp only [accept?] at accepted
      split at accepted <;> cases accepted
      rcases collects with ⟨few, places, files, deps, modules, out, config, backends, manifest,
        jobs, quiet, pending, onlyPlaces⟩
      constructor <;> simp [Setting.number?, Setting.valueOf?, *]

theorem collects_start : start.Collects [] := by
  constructor <;> simp [numbers, values, start]

/-- Settings are collected alike by every progress that collects them. -/
theorem Collects.unique {left right : Progress} {settings : List Setting}
    (left_collects : left.Collects settings) (right_collects : right.Collects settings) :
    left = right := by
  have lists_inj : ∀ {first second : Option String}, first.toList = second.toList →
      first = second := by
    intro first second same
    cases first <;> cases second <;> simp_all
  have numbers_inj : ∀ {first second : Bool}, first.toNat = second.toNat → first = second := by
    decide
  have out := lists_inj (left_collects.out.symm.trans right_collects.out)
  have config := lists_inj (left_collects.config.symm.trans right_collects.config)
  have manifest := lists_inj (left_collects.manifest.symm.trans right_collects.manifest)
  have backends := List.map_injective_iff.mpr name_injective
    (left_collects.backends.symm.trans right_collects.backends)
  have jobs := numbers_inj (left_collects.jobs.symm.trans right_collects.jobs)
  have quiet := numbers_inj (left_collects.quiet.symm.trans right_collects.quiet)
  cases left
  cases right
  cases left_collects
  cases right_collects
  simp_all

end Progress

/-- Settings may be given together. -/
structure Allowed (settings : List Setting) : Prop where
  few : (numbers settings).length ≤ 3
  once : ∀ option, option ≠ .backend → (values option settings).length ≤ 1
  named : ∀ name ∈ values .backend settings, ∃ backend : Backend, backend.name = name
  jobs : settings.count .jobs ≤ 1
  quiet : settings.count .quiet ≤ 1

theorem Allowed.of_concat {settings : List Setting} {last : Setting}
    (allowed : Allowed (settings ++ [last])) : Allowed settings where
  few := by
    have few := allowed.few
    rw [numbers_concat, List.length_append] at few
    omega
  once option single := by
    have once := allowed.once option single
    rw [values_concat, List.length_append] at once
    omega
  named name name_mem := by
    apply allowed.named
    rw [values_concat]
    exact List.mem_append_left _ name_mem
  jobs := by
    have jobs := allowed.jobs
    rw [List.count_append] at jobs
    omega
  quiet := by
    have quiet := allowed.quiet
    rw [List.count_append] at quiet
    omega

namespace Progress

variable {progress : Progress} {settings : List Setting}

theorem Collects.allowed (collects : progress.Collects settings) : Allowed settings where
  few := collects.few
  once option single := by
    cases option with
    | backend => exact absurd rfl single
    | out => rw [collects.out]; exact Option.length_toList_le
    | config => rw [collects.config]; exact Option.length_toList_le
    | manifest => rw [collects.manifest]; exact Option.length_toList_le
  named name name_mem := by
    rw [collects.backends, List.mem_map] at name_mem
    rcases name_mem with ⟨backend, _, named⟩
    exact ⟨backend, named⟩
  jobs := collects.jobs ▸ Bool.toNat_le _
  quiet := collects.quiet ▸ Bool.toNat_le _

/-- An option that may still be given once was not given before. -/
theorem eq_none_of_once {option : ValueOption} {value : String} {held : Option String}
    (collected : values option settings = held.toList)
    (once : (values option (settings ++ [.given option value])).length ≤ 1) : held = none := by
  cases held with
  | none => rfl
  | some earlier => simp [collected, Setting.valueOf?] at once

theorem Collects.exists_accept? {last : Setting} (collects : progress.Collects settings)
    (allowed : Allowed (settings ++ [last])) : ∃ next, progress.accept? last = some next := by
  cases last with
  | number value =>
      have few := allowed.few
      rw [numbers_concat, List.length_append] at few
      have still : progress.places ≠ [] := by
        rw [collects.places, Ne, List.drop_eq_nil_iff]
        simp [Setting.number?] at few ⊢
        omega
      rcases List.exists_cons_of_ne_nil still with ⟨position, later, places⟩
      simp [accept?, places]
  | given option value =>
      have once := allowed.once option
      cases option with
      | out =>
          have absent := eq_none_of_once collects.out (once (by decide))
          simp [accept?, setOption, absent, Except.toOption]
      | config =>
          have absent := eq_none_of_once collects.config (once (by decide))
          simp [accept?, setOption, absent, Except.toOption]
      | manifest =>
          have absent := eq_none_of_once collects.manifest (once (by decide))
          simp [accept?, setOption, absent, Except.toOption]
      | backend =>
          rcases allowed.named value (by simp [Setting.valueOf?]) with ⟨backend, named⟩
          simp [accept?, setOption, ofName?_eq_some_iff.mpr named, Except.toOption]
  | jobs =>
      have jobs := allowed.jobs
      rw [List.count_append, collects.jobs] at jobs
      cases given : progress.jobs <;> simp [given] at jobs
      simp [accept?, given]
  | quiet =>
      have quiet := allowed.quiet
      rw [List.count_append, collects.quiet] at quiet
      cases given : progress.quiet <;> simp [given] at quiet
      simp [accept?, given]

theorem acceptAll?_concat (progress : Progress) (settings : List Setting) (last : Setting) :
    progress.acceptAll? (settings ++ [last]) =
      (progress.acceptAll? settings).bind fun next => next.accept? last := by
  simp [acceptAll?, List.foldlM_append]

theorem exists_collects (allowed : Allowed settings) :
    ∃ final, start.acceptAll? settings = some final ∧ final.Collects settings := by
  induction settings using List.reverseRecOn with
  | nil => exact ⟨start, rfl, collects_start⟩
  | append_singleton earlier last ih =>
      rcases ih allowed.of_concat with ⟨reached, accepted, collects⟩
      rcases collects.exists_accept? allowed with ⟨next, last_accepted⟩
      refine ⟨next, ?_, collects.step last_accepted⟩
      rw [acceptAll?_concat, accepted]
      exact last_accepted

/-- From the start on, settings lead to the progress that collects them, and to no other. -/
theorem acceptAll?_start_iff :
    start.acceptAll? settings = some progress ↔ progress.Collects settings := by
  constructor
  · intro accepted
    -- The last setting is taken by the progress that collects those before it.
    induction settings using List.reverseRecOn generalizing progress with
    | nil =>
        cases accepted
        exact collects_start
    | append_singleton earlier last ih =>
        rw [acceptAll?_concat, Option.bind_eq_some_iff] at accepted
        rcases accepted with ⟨reached, accepted, last_accepted⟩
        exact (ih accepted).step last_accepted
  · intro collects
    rcases exists_collects collects.allowed with ⟨final, accepted, final_collects⟩
    rwa [collects.unique final_collects]

/-- Settings give a command line when they are collected by a progress that amounts to it. -/
theorem give_iff {commandLine : CommandLine} : Give settings commandLine ↔
    ∃ final : Progress, final.Collects settings ∧ final.result = commandLine := by
  constructor
  · intro give
    refine ⟨
      { files := commandLine.files
        deps := commandLine.deps
        modules := commandLine.modules
        out := (values .out settings).head?
        config := commandLine.config
        backends := commandLine.backends
        jobs := commandLine.jobs
        manifest := commandLine.manifest
        quiet := commandLine.quiet
        pending := .nothing
        places := [.files, .deps, .modules].drop (numbers settings).length
        onlyPlaces := false }, ?_, ?_⟩
    · have out : values .out settings = (values .out settings).head?.toList := by
        have once := give.outOnce
        generalize values .out settings = given at once
        cases given with
        | nil => rfl
        | cons first rest =>
            have rest_nil : rest = [] := by simpa using once
            rw [rest_nil]
            rfl
      exact ⟨give.few, rfl, give.files, give.deps, give.modules, out, give.config, give.backends,
        give.manifest, give.jobs, give.quiet, rfl, rfl⟩
    · have out := give.out
      cases commandLine
      cases out
      rfl
  · rintro ⟨final, collects, rfl⟩
    constructor
    · exact collects.few
    · exact collects.files
    · exact collects.deps
    · exact collects.modules
    · rw [collects.out]
      exact Option.length_toList_le
    · rw [collects.out, result]
      cases final.out <;> rfl
    · exact collects.config
    · exact collects.backends
    · exact collects.manifest
    · exact collects.jobs
    · exact collects.quiet

end Progress

/-- A line is accepted when it spells what it is read as. -/
theorem parse_eq_ok_iff {arguments : List String} {commandLine : CommandLine} :
    parse arguments = .ok commandLine ↔ IsSpelling arguments commandLine := by
  have read : parse arguments = .ok commandLine ↔
      Progress.start.remainder arguments = some commandLine :=
    Progress.toOption_eq_some_iff.symm
  rw [read, Progress.remainder_eq_some_iff rfl rfl]
  simp only [Progress.SpellsFrom, IsSpelling, Progress.give_iff, Progress.acceptAll?_start_iff,
    exists_and_left]

/-- The spelling of a setting that is used when none is given. -/
def Setting.spelling : Setting → String
  | .number value => toString value
  | .given option value => "--" ++ option.name ++ "=" ++ value
  | .jobs => "--jobs"
  | .quiet => "--quiet"

/-- The settings that give a command line, the options first. -/
def settings (commandLine : CommandLine) : List Setting :=
  .given .out commandLine.out :: commandLine.config.toList.map (.given .config)
    ++ commandLine.backends.map (fun backend => .given .backend backend.name)
    ++ commandLine.manifest.toList.map (.given .manifest)
    ++ List.replicate commandLine.jobs.toNat .jobs
    ++ List.replicate commandLine.quiet.toNat .quiet
    ++ (commandLine.files.toList ++ commandLine.deps.toList ++ commandLine.modules.toList).map
      .number

/-- The arguments that ask for a command line in one fixed way. -/
def canonical (commandLine : CommandLine) : List String :=
  commandLine.settings.map Setting.spelling

theorem spells_spelling {settings : List Setting}
    (fits : ∀ value ∈ numbers settings, value ≤ Word.largest) :
    Spells settings (settings.map Setting.spelling) := by
  induction settings with
  | nil => exact .nothing
  | cons first rest ih =>
      have rest_spells := ih fun value value_mem => fits value (by
        rw [numbers, List.filterMap_cons]
        split
        · exact value_mem
        · exact List.mem_cons_of_mem _ value_mem)
      cases first with
      | number value =>
          exact .number (Word.isNumeral_toString (fits value List.mem_cons_self)) rest_spells
      | given option value => exact .attached option value rest_spells
      | jobs => exact .jobs rest_spells
      | quiet => exact .quiet (Or.inl rfl) rest_spells

theorem Spells.fits {settings : List Setting} {arguments : List String}
    (spells : Spells settings arguments) : ∀ value ∈ numbers settings, value ≤ Word.largest := by
  induction spells with
  | nothing => simp [numbers]
  | dashes numerals =>
      induction numerals with
      | nil => simp [numbers]
      | cons numeral _ ih =>
          exact List.forall_mem_cons.mpr ⟨numeral.fits, ih⟩
  | number numeral _ ih =>
      exact List.forall_mem_cons.mpr ⟨numeral.fits, ih⟩
  | _ => assumption

/-- What holds of every command line that was read: places are filled in order, with words. -/
structure IsOrdered (commandLine : CommandLine) : Prop where
  deps : commandLine.deps.isSome → commandLine.files.isSome
  modules : commandLine.modules.isSome → commandLine.deps.isSome
  fits : ∀ value, value ∈ commandLine.files ∨ value ∈ commandLine.deps ∨
    value ∈ commandLine.modules → value ≤ Word.largest

theorem IsSpelling.isOrdered {arguments : List String} {commandLine : CommandLine}
    (spelling : IsSpelling arguments commandLine) : commandLine.IsOrdered := by
  rcases spelling with ⟨settings, spells, give⟩
  have fits := spells.fits
  constructor
  · rw [give.deps, give.files]
    cases numbers settings <;> simp
  · rw [give.modules, give.deps]
    cases numbers settings with
    | nil => simp
    | cons first rest => cases rest <;> simp
  · intro value given
    apply fits
    rw [give.files, give.deps, give.modules] at given
    rcases given with given | given | given
    · exact List.mem_of_getElem? given
    · exact List.mem_of_getElem? given
    · exact List.mem_of_getElem? given

section

variable (commandLine : CommandLine)

theorem numbers_settings : numbers commandLine.settings =
    commandLine.files.toList ++ commandLine.deps.toList ++ commandLine.modules.toList := by
  simp only [numbers, settings, List.filterMap_append, List.filterMap_map, Function.comp_def,
    Setting.number?, List.filterMap_cons]
  cases commandLine.jobs <;> cases commandLine.quiet <;> simp [Setting.number?, List.filterMap_cons]

theorem values_settings (option : ValueOption) : values option commandLine.settings =
    match option with
    | .out => [commandLine.out]
    | .config => commandLine.config.toList
    | .backend => commandLine.backends.map Backend.name
    | .manifest => commandLine.manifest.toList := by
  cases option <;> simp [values, settings, List.filterMap_append, List.filterMap_map,
    Function.comp_def, Setting.valueOf?]

theorem count_map_eq_zero {Item : Type} {make : Item → Setting} {switch : Setting}
    (other : ∀ item, make item ≠ switch) (items : List Item) :
    (items.map make).count switch = 0 := by
  rw [List.count_eq_zero, List.mem_map]
  rintro ⟨item, _, same⟩
  exact other item same

theorem count_settings (switch : Setting) (isSwitch : switch = .jobs ∨ switch = .quiet) :
    commandLine.settings.count switch =
      (if switch = .jobs then commandLine.jobs else commandLine.quiet).toNat := by
  rcases isSwitch with rfl | rfl <;>
    simp [settings, List.count_replicate, count_map_eq_zero]

end

theorem IsOrdered.numbers {commandLine : CommandLine} (ordered : commandLine.IsOrdered) :
    let given := commandLine.files.toList ++ commandLine.deps.toList ++ commandLine.modules.toList
    given.length ≤ 3 ∧ commandLine.files = given[0]? ∧ commandLine.deps = given[1]? ∧
      commandLine.modules = given[2]? := by
  have deps := ordered.deps
  have modules := ordered.modules
  cases files_given : commandLine.files <;> cases deps_given : commandLine.deps <;>
    cases modules_given : commandLine.modules <;> simp_all

theorem IsOrdered.give {commandLine : CommandLine} (ordered : commandLine.IsOrdered) :
    Give commandLine.settings commandLine := by
  rcases ordered.numbers with ⟨few, files, deps, modules⟩
  rw [← numbers_settings] at few files deps modules
  refine ⟨few, files, deps, modules, ?_, ?_, values_settings commandLine .config,
    values_settings commandLine .backend, values_settings commandLine .manifest,
    count_settings commandLine .jobs (Or.inl rfl), count_settings commandLine .quiet (Or.inr rfl)⟩
  · simp [values_settings]
  · simp [values_settings]

theorem IsOrdered.isSpelling_canonical {commandLine : CommandLine}
    (ordered : commandLine.IsOrdered) : IsSpelling commandLine.canonical commandLine := by
  refine ⟨commandLine.settings, spells_spelling ?_, ordered.give⟩
  intro value value_mem
  rw [numbers_settings] at value_mem
  apply ordered.fits
  simpa [or_assoc] using value_mem

/-- Exactly the spellings of command lines are accepted, and each is read as what it spells. A
number is given only behind those before it, and writing down in the one fixed way what was read
gives a line that is read alike. -/
theorem accepts_spellings (arguments : List String) (commandLine : CommandLine) :
    (parse arguments = .ok commandLine ↔ IsSpelling arguments commandLine) ∧
    (parse arguments = .ok commandLine →
      (commandLine.deps.isSome → commandLine.files.isSome) ∧
      (commandLine.modules.isSome → commandLine.deps.isSome) ∧
      parse commandLine.canonical = .ok commandLine) := by
  refine ⟨parse_eq_ok_iff, ?_⟩
  intro read
  have ordered := (parse_eq_ok_iff.mp read).isOrdered
  exact ⟨ordered.deps, ordered.modules, parse_eq_ok_iff.mpr ordered.isSpelling_canonical⟩

theorem accepts_spellings_cluster_and_dashes :
    let arguments := ["-qo", "-", "+03", "--backend=meique", "--config", "c.toml", "--", "00"]
    let commandLine : CommandLine := ⟨some 3, some 0, none, "-", some "c.toml", [.meique], false,
      none, true⟩
    parse arguments = .ok commandLine ∧ IsSpelling arguments commandLine ∧
      parse ["--out=-", "--config=c.toml", "--backend=meique", "--quiet", "3", "0"] =
        .ok commandLine := by
  intro arguments commandLine
  have read : parse arguments = .ok commandLine := by rfl
  rcases accepts_spellings arguments commandLine with ⟨spellings, consequences⟩
  exact ⟨read, spellings.mp read, (consequences read).2.2⟩

end BenchTree.CommandLine
