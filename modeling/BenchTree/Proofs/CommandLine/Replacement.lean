import BenchTree.Proofs.Config.Words
import BenchTree.Program

/-!
# Command lines in place of configurations

What a run goes by can be spelled as arguments: the three numbers, a backend at a time, and the
switch for working in parallel. Without a configuration these arguments ask for the same settings,
so whatever a configuration says can be said without one. The exception is an empty list of
backends. Only a configuration can give it, and only to a command line that names no backend; no
command line on its own asks for no backend at all.
-/

namespace BenchTree

/-- The arguments that ask for the given settings. -/
def Settings.arguments (settings : Settings) : List String :=
  [toString settings.shape.filesPerModule, toString settings.shape.fanout,
      toString settings.shape.modules]
    ++ settings.backends.map (fun backend => "--backend=" ++ backend.name)
    ++ if settings.parallel then ["--jobs"] else []

/-- What these arguments ask for. -/
def Settings.command (settings : Settings) : CommandLine where
  files := some settings.shape.filesPerModule
  deps := some settings.shape.fanout
  modules := some settings.shape.modules
  out := "."
  config := none
  backends := settings.backends
  jobs := settings.parallel
  manifest := none
  quiet := false

namespace Settings

open CommandLine (Setting Give Spells numbers values IsSpelling)

variable (settings : Settings)

/-- The arguments one by one, as what they settle. -/
def parts : List Setting :=
  .number settings.shape.filesPerModule :: .number settings.shape.fanout ::
    .number settings.shape.modules ::
      (settings.backends.map (fun backend => .given .backend backend.name)
        ++ List.replicate settings.parallel.toNat .jobs)

theorem arguments_eq_map_spelling :
    settings.arguments = settings.parts.map Setting.spelling := by
  have named : settings.backends.map (fun backend => "--backend=" ++ backend.name) =
      (settings.backends.map fun backend => .given .backend backend.name).map
        Setting.spelling := by
    rw [List.map_map]
    apply List.map_congr_left
    intro backend _
    cases backend <;> rfl
  rw [arguments, named, parts]
  cases parallel : settings.parallel <;> simp [Setting.spelling]

theorem numbers_parts : numbers settings.parts =
    [settings.shape.filesPerModule, settings.shape.fanout, settings.shape.modules] := by
  cases parallel : settings.parallel <;>
    simp [parts, numbers, Setting.number?, parallel, List.filterMap_append, List.filterMap_map,
      Function.comp_def, List.filterMap_cons]

theorem values_parts (option : CommandLine.ValueOption) : values option settings.parts =
    if option = .backend then settings.backends.map Backend.name else [] := by
  cases parallel : settings.parallel <;> cases option <;>
    simp [parts, values, Setting.valueOf?, parallel, List.filterMap_append, List.filterMap_map,
      Function.comp_def, List.filterMap_cons]

theorem count_parts (switch : Setting) (isSwitch : switch = .jobs ∨ switch = .quiet) :
    settings.parts.count switch = if switch = .jobs then settings.parallel.toNat else 0 := by
  rcases isSwitch with rfl | rfl <;>
    simp [parts, List.count_replicate, CommandLine.count_map_eq_zero]

theorem give_parts : Give settings.parts settings.command where
  few := by simp [numbers_parts]
  files := by simp [numbers_parts, command]
  deps := by simp [numbers_parts, command]
  modules := by simp [numbers_parts, command]
  outOnce := by simp [values_parts]
  out := by simp [values_parts, command]
  config := by simp [values_parts, command]
  backends := by simp [values_parts, command]
  manifest := by simp [values_parts, command]
  jobs := settings.count_parts .jobs (.inl rfl)
  quiet := settings.count_parts .quiet (.inr rfl)

/-- The arguments for some settings ask for them. -/
theorem parse_arguments {settings : Settings} (words : settings.shape.IsWords) :
    CommandLine.parse settings.arguments = .ok settings.command := by
  rw [CommandLine.parse_eq_ok_iff, arguments_eq_map_spelling]
  refine ⟨settings.parts, CommandLine.spells_spelling ?_, settings.give_parts⟩
  rw [numbers_parts]
  simpa using ⟨words.filesPerModule, words.fanout, words.modules⟩

theorem resolve_command (some_backend : settings.backends ≠ []) :
    settings.command.resolve none = settings := by
  simp [command, CommandLine.resolve, some_backend, GenerateConfig.empty]

end Settings

namespace CommandLine

/-- No backends are asked for exactly when the line names none and the configuration lists none. -/
theorem backends_resolve_eq_nil_iff {command : CommandLine} {config : Option Config} :
    (command.resolve config).backends = [] ↔ command.backends = [] ∧
      ∃ given, config.bind Config.generate = some given ∧ given.backends = some [] := by
  rw [resolve]
  by_cases unnamed : command.backends = []
  · cases generate : config.bind Config.generate with
    | none => simp [unnamed, GenerateConfig.empty, Backend.all]
    | some given => cases listed : given.backends <;> simp [unnamed, listed, Backend.all]
  · simp [unnamed]

/-- Whatever a configuration adds to a command line can be said by arguments alone, which lead to
the same generator, except that there are to be no backends. That is said only by an empty list in
the configuration of a line that names none, and by no line without a configuration. -/
theorem arguments_replace_configuration {arguments : List String} {command : CommandLine}
    (parsed : parse arguments = .ok command) {text : String} {config : Config}
    (accepted : Config.ofText text = .ok config) :
    let settings := command.resolve (some config)
    (settings.backends ≠ [] → ∃ spelled, parse settings.arguments = .ok spelled ∧
      spelled.resolve none = settings ∧
      spelled.generator none = command.generator (some config)) ∧
    (settings.backends = [] ↔ command.backends = [] ∧
      ∃ given, config.generate = some given ∧ given.backends = some []) ∧
    (settings.backends = [] → ∀ others other, parse others = .ok other →
      other.resolve none ≠ settings) := by
  intro settings
  refine ⟨?_, backends_resolve_eq_nil_iff, ?_⟩
  · intro some_backend
    have ordered := (parse_eq_ok_iff.mp parsed).isOrdered
    have words : settings.shape.IsWords := isWords_resolve ordered fun given given_mem =>
      Option.some.inj given_mem ▸ Config.isWords_of_ofText accepted
    have resolved := settings.resolve_command some_backend
    refine ⟨settings.command, Settings.parse_arguments words, resolved, ?_⟩
    rw [generator, resolved, generator]
  · intro no_backends others other _ same
    rw [← same, backends_resolve_eq_nil_iff] at no_backends
    rcases no_backends with ⟨_, given, absent, _⟩
    cases absent

theorem arguments_replace_configuration_default_backends :
    let lists := "[generate]\nmodules = 6\njobs = true\n"
    let empties := "[generate]\nbackends = []\n"
    let command : CommandLine := ⟨some 4, none, none, ".", some "c.toml", [], false, none, false⟩
    parse ["4", "--config=c.toml"] = .ok command ∧
      Config.ofText lists = .ok ⟨some ⟨none, none, some 6, none, some true⟩⟩ ∧
      Config.ofText empties = .ok ⟨some ⟨none, none, none, some [], none⟩⟩ ∧
      (∃ spelled, parse ["4", "7", "6", "--backend=cmake", "--backend=meique", "--jobs"] =
        .ok spelled ∧ spelled.resolve none = ⟨⟨4, 7, 6⟩, [.cmake, .meique], true⟩) ∧
      ∀ others other, parse others = .ok other →
        other.resolve none ≠ ⟨⟨4, 7, 5⟩, [], false⟩ := by
  intro lists empties command
  have parsed : parse ["4", "--config=c.toml"] = .ok command := by rfl
  have lists_accepted : Config.ofText lists =
      .ok ⟨some ⟨none, none, some 6, none, some true⟩⟩ := by decide +kernel
  have empties_accepted : Config.ofText empties =
      .ok ⟨some ⟨none, none, none, some [], none⟩⟩ := by decide +kernel
  rcases arguments_replace_configuration parsed lists_accepted with ⟨replaced, _, _⟩
  rcases replaced (by decide) with ⟨spelled, spelled_parsed, resolved, _⟩
  have written : (command.resolve (some ⟨some ⟨none, none, some 6, none, some true⟩⟩)).arguments =
      ["4", "7", "6", "--backend=cmake", "--backend=meique", "--jobs"] := by decide +kernel
  rw [written] at spelled_parsed
  rcases arguments_replace_configuration parsed empties_accepted with ⟨_, _, unreachable⟩
  exact ⟨parsed, lists_accepted, empties_accepted, ⟨spelled, spelled_parsed, resolved⟩,
    unreachable rfl⟩

end CommandLine

end BenchTree
