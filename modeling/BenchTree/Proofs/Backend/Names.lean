import BenchTree.Proofs.CommandLine.Insertion
import BenchTree.Proofs.Config.Forms
import BenchTree.Proofs.Manifest.Printing

/-!
# Names of backends

A text names a backend when it is the backend's name up to the case of the letters of ASCII; the
command line alone wants the name as it stands. Lists of texts are read alike from JSON and from
TOML: they give the backends that the texts name, in order, or are refused for the first text that
names none. For each format the argument follows the list up to that text; the readers of single
texts settle the rest.
-/

namespace BenchTree

open Json (Padded SpellsText SpellsList Reader)

/-! ## Letters -/

/-- Letters that are the same up to the case of the letters of ASCII. -/
inductive SameLetter : Char → Char → Prop where
  | refl (letter : Char) : SameLetter letter letter
  | lowered {upper lower : Char} (ascii : 'A' ≤ upper ∧ upper ≤ 'Z')
      (shifted : lower.toNat = upper.toNat + 32) : SameLetter upper lower
  | raised {lower upper : Char} (ascii : 'A' ≤ upper ∧ upper ≤ 'Z')
      (shifted : lower.toNat = upper.toNat + 32) : SameLetter lower upper

theorem isUpper_iff {letter : Char} :
    letter.isUpper = true ↔ 'A' ≤ letter ∧ letter ≤ 'Z' :=
  decide_eq_true_iff

theorem toNat_of_isUpper {letter : Char} (upper : letter.isUpper = true) :
    65 ≤ letter.toNat ∧ letter.toNat ≤ 90 := by
  simpa [Char.isUpper, UInt32.le_iff_toNat_le] using upper

theorem toNat_toLower {letter : Char} (upper : letter.isUpper = true) :
    letter.toLower.toNat = letter.toNat + 32 := by
  have bounds := toNat_of_isUpper upper
  have valid : (letter.toNat + 32).isValidChar := by
    left
    omega
  rw [Char.toLower_eq_of_isUpper upper, Char.toNat_ofNat, if_pos valid]

theorem toLower_eq_of_shifted {upper lower : Char} (ascii : 'A' ≤ upper ∧ upper ≤ 'Z')
    (shifted : lower.toNat = upper.toNat + 32) : upper.toLower = lower.toLower := by
  have is_upper := isUpper_iff.mpr ascii
  have not_upper : ¬lower.isUpper = true := by
    intro also_upper
    have bounds := toNat_of_isUpper is_upper
    have lower_bounds := toNat_of_isUpper also_upper
    omega
  rw [Char.toLower_eq_of_not_isUpper not_upper, ← Char.toNat_inj, toNat_toLower is_upper, shifted]

theorem toLower_eq_toLower_iff {left right : Char} :
    left.toLower = right.toLower ↔ SameLetter left right := by
  constructor
  · intro same
    by_cases left_upper : left.isUpper = true <;> by_cases right_upper : right.isUpper = true
    · have numbers := congrArg Char.toNat same
      rw [toNat_toLower left_upper, toNat_toLower right_upper, Nat.add_right_cancel_iff,
        Char.toNat_inj] at numbers
      exact numbers ▸ .refl left
    · rw [Char.toLower_eq_of_not_isUpper right_upper] at same
      exact .lowered (isUpper_iff.mp left_upper) (same ▸ toNat_toLower left_upper)
    · rw [Char.toLower_eq_of_not_isUpper left_upper] at same
      exact .raised (isUpper_iff.mp right_upper) (same ▸ toNat_toLower right_upper)
    · rw [Char.toLower_eq_of_not_isUpper left_upper,
        Char.toLower_eq_of_not_isUpper right_upper] at same
      exact same ▸ .refl left
  · intro same
    cases same with
    | refl => rfl
    | lowered ascii shifted => exact toLower_eq_of_shifted ascii shifted
    | raised ascii shifted => exact (toLower_eq_of_shifted ascii shifted).symm

namespace Backend

/-! ## Single texts -/

/-- A text names a backend when it is the backend's name up to the case of the letters of ASCII. -/
def IsNamedBy (backend : Backend) (text : String) : Prop :=
  List.Forall₂ SameLetter text.toList backend.name.toList

theorem isNamedBy_iff {backend : Backend} {text : String} :
    backend.IsNamedBy text ↔ text.toList.map Char.toLower = backend.name.toList := by
  have lower : backend.name.toList.map Char.toLower = backend.name.toList := by
    cases backend <;> decide
  constructor
  · intro named
    rw [← lower, ← List.forall₂_eq_eq_eq, List.forall₂_map_left_iff, List.forall₂_map_right_iff]
    exact named.imp fun _ _ => toLower_eq_toLower_iff.mpr
  · intro same
    rw [← lower, ← List.forall₂_eq_eq_eq, List.forall₂_map_left_iff,
      List.forall₂_map_right_iff] at same
    exact same.imp fun _ _ => toLower_eq_toLower_iff.mp

theorem ofNameIgnoringCase?_iff_isNamedBy {backend : Backend} {text : String} :
    ofNameIgnoringCase? text = some backend ↔ backend.IsNamedBy text :=
  ofNameIgnoringCase?_eq_some_iff.trans isNamedBy_iff.symm

theorem parse_iff_isNamedBy {backend : Backend} {text : String} :
    parse text = .ok backend ↔ backend.IsNamedBy text :=
  parse_eq_ok_iff.trans isNamedBy_iff.symm

theorem parse_eq_error_iff {text : String} {unknown : UnknownBackend} :
    parse text = .error unknown ↔ (∀ backend : Backend, ¬backend.IsNamedBy text) ∧
      unknown = ⟨text⟩ := by
  simp only [← ofNameIgnoringCase?_iff_isNamedBy, parse]
  cases ofNameIgnoringCase? text with
  | none => simp [eq_comm]
  | some backend => simp

theorem IsNamedBy.unique {first second : Backend} {text : String}
    (first_named : first.IsNamedBy text) (second_named : second.IsNamedBy text) :
    first = second := by
  rw [← parse_iff_isNamedBy] at first_named second_named
  exact Except.ok.inj (first_named.symm.trans second_named)

/-- Only letters of ASCII make up a text that names a backend, as many as its name has. -/
theorem IsNamedBy.isAlpha {backend : Backend} {text : String} (named : backend.IsNamedBy text) :
    text.length = backend.name.length ∧ ∀ letter ∈ text.toList, letter.isAlpha = true := by
  have name_isAlpha : ∀ letter ∈ backend.name.toList, letter.isAlpha = true := by
    cases backend <;> simp [name]
  constructor
  · exact named.length_eq
  · intro letter letter_mem
    have lower_mem := List.mem_map_of_mem (f := Char.toLower) letter_mem
    rw [isNamedBy_iff.mp named] at lower_mem
    rw [← Char.isAlpha_toLower_eq_isAlpha]
    exact name_isAlpha _ lower_mem

/-! ## Lists of texts -/

/-- What a list of texts says: the backends it names in order, or the first text that names none. -/
inductive Decodes : List String → Except UnknownBackend (List Backend) → Prop where
  | named {texts : List String} {backends : List Backend}
      (each : List.Forall₂ (fun text backend => backend.IsNamedBy text) texts backends) :
      Decodes texts (.ok backends)
  | unnamed {before after : List String} {text : String} {backends : List Backend}
      (each : List.Forall₂ (fun text backend => backend.IsNamedBy text) before backends)
      (unknown : ∀ backend : Backend, ¬backend.IsNamedBy text) :
      Decodes (before ++ text :: after) (.error ⟨text⟩)

theorem mapM_parse_append {before : List String} {backends : List Backend}
    (each : List.Forall₂ (fun text backend => backend.IsNamedBy text) before backends)
    (after : List String) :
    (before ++ after).mapM parse = (after.mapM parse).map (backends ++ ·) := by
  induction each with
  | nil => cases found : after.mapM parse <;> simp [found, Except.map]
  | cons named _ ih =>
      rw [List.cons_append, List.mapM_cons, parse_iff_isNamedBy.mpr named, ih]
      cases after.mapM parse <;> rfl

/-- Every list of texts says one thing: what comes of reading its texts from the first one on. -/
theorem decodes_iff {texts : List String} {outcome : Except UnknownBackend (List Backend)} :
    Decodes texts outcome ↔ texts.mapM parse = outcome := by
  constructor
  · rintro (each | ⟨each, unknown⟩)
    · have read := mapM_parse_append each []
      rw [List.append_nil] at read
      rw [read]
      simp [Except.map, pure, Except.pure]
    · rw [mapM_parse_append each, List.mapM_cons, parse_eq_error_iff.mpr ⟨unknown, rfl⟩]
      rfl
  · rintro rfl
    induction texts with
    | nil => exact .named .nil
    | cons text texts ih =>
        rw [List.mapM_cons]
        cases parsed : parse text with
        | error unknown =>
            rcases parse_eq_error_iff.mp parsed with ⟨unnamed, rfl⟩
            exact @Decodes.unnamed [] texts text [] .nil unnamed
        | ok backend =>
            have named := parse_iff_isNamedBy.mp parsed
            generalize texts.mapM parse = outcome at ih
            cases ih with
            | named each => exact .named (.cons named each)
            | unnamed each unknown => exact .unnamed (.cons named each) unknown

theorem decodes_names (backends : List Backend) : Decodes (backends.map name) (.ok backends) := by
  apply Decodes.named
  rw [List.forall₂_map_left_iff, List.forall₂_same]
  exact fun backend _ => parse_iff_isNamedBy.mp (parse_name backend)

variable {texts : List String} {outcome : Except UnknownBackend (List Backend)}

/-- Every spelling of a list of texts in JSON is read as what the list says. -/
theorem Decodes.parse_json (decodes : Decodes texts outcome) (padded : Padded)
    (spelled : SpellsList SpellsText padded.token texts) :
    Json.parse readJsonList (String.ofList padded.text) =
      outcome.mapError fun unknown => .mismatch (.unknownBackend unknown) := by
  have takes_each : ∀ {texts : List String} {backends : List Backend},
      List.Forall₂ (fun text backend => backend.IsNamedBy text) texts backends →
      List.Forall₂ (fun text backend => ∀ token, SpellsText token text →
        readJson.Takes token backend) texts backends := fun each =>
    each.imp fun _ _ named _ => takes_text (parse_iff_isNamedBy.mpr named)
  cases decodes with
  | named each => exact parse_padded padded (Json.takes_list spelled (takes_each each))
  | unnamed each unknown =>
      exact parse_padded_refused padded (Json.refuses_list spelled (takes_each each) fun _ =>
        refuses_text (parse_eq_error_iff.mpr ⟨unknown, rfl⟩))

/-- An array of texts in TOML is read as what the list says. -/
theorem Decodes.readBackends (decodes : Decodes texts outcome) :
    GenerateConfig.readBackends (.array (texts.map .string)) =
      outcome.mapError .unknownBackend := by
  rw [decodes_iff] at decodes
  subst decodes
  induction texts with
  | nil => rfl
  | cons text texts ih =>
      rw [GenerateConfig.readBackends] at ih ⊢
      rw [List.map_cons, List.mapM_cons, List.mapM_cons, GenerateConfig.readBackend, ih]
      cases parse text <;> cases texts.mapM parse <;> rfl

end Backend

/-! ## Configurations -/

section

variable {before after : List (String × Toml.Value)} {settings : GenerateConfig}

/-- Among entries that are taken without them, backends are taken as they are read. -/
theorem GenerateConfig.ofEntries_insert_backends {value : Toml.Value}
    (distinct : ((before ++ ("backends", value) :: after).map Prod.fst).Nodup)
    (others : GenerateConfig.ofEntries (before ++ after) = .ok settings) :
    GenerateConfig.ofEntries (before ++ ("backends", value) :: after) =
      (GenerateConfig.readBackends value).map fun backends =>
        { settings with backends := some backends } := by
  cases read : readBackends value with
  | error problem =>
      rw [ofEntries, List.foldlM_append] at others ⊢
      rcases bind_eq_ok_iff.mp others with ⟨earlier, before_taken, _⟩
      rw [before_taken]
      simp [set, read, bind, Except.bind, Except.map]
  | ok backends =>
      have moved : (before ++ ("backends", value) :: after).Perm
          (before ++ after ++ [("backends", value)]) :=
        List.perm_middle.trans (List.perm_append_singleton _ _).symm
      have moved_distinct := (moved.map Prod.fst).nodup_iff.mp distinct
      rw [List.map_append, List.nodup_append] at moved_distinct
      rcases moved_distinct with ⟨others_distinct, _, apart⟩
      have fresh : (before ++ after).lookup "backends" = none :=
        Toml.lookup_eq_none_iff_keys.mpr fun key_mem => apart _ key_mem _ (by simp) rfl
      have fits := (ofEntries_eq_ok_iff others_distinct).mp others
      have taken : settings.Takes "backends" value { settings with backends := some backends } :=
        .backends (readBackends_eq_ok_iff.mp read)
      exact (ofEntries_eq_ok_iff distinct).mpr
        (((tableFits_concat_iff fresh).mpr ⟨settings, fits, taken⟩).perm moved distinct)

/-- A document of a configuration is read as its list of backends says, if its other settings are
taken. -/
theorem Config.ofText_insert_backends {document : String} {value : Toml.Value}
    (parsed : Toml.parse? document =
      some [("generate", .table (before ++ ("backends", value) :: after))])
    (others : GenerateConfig.ofEntries (before ++ after) = .ok settings) :
    Config.ofText document = ((GenerateConfig.readBackends value).map fun backends =>
      (⟨some { settings with backends := some backends }⟩ : Config)).mapError .mismatch := by
  have distinct : ((before ++ ("backends", value) :: after).map Prod.fst).Nodup := by
    cases Toml.parse?_wellFormed parsed with
    | table keys each =>
        cases each _ List.mem_cons_self with
        | table keys _ => exact keys
  have taken := GenerateConfig.ofEntries_insert_backends distinct others
  rw [ofText, parsed]
  cases read : GenerateConfig.readBackends value with
  | error problem =>
      rw [read] at taken
      simp [ofEntries, sectionKey, GenerateConfig.ofValue, taken, bind, Except.bind, Except.map,
        Except.mapError]
  | ok backends =>
      rw [read] at taken
      simp [ofEntries, sectionKey, GenerateConfig.ofValue, taken, bind, Except.bind, Except.map,
        Except.mapError, pure, Except.pure]

end

/-- Single texts are read alike everywhere: as the backend of their name in any case of the letters
of ASCII, or as it stands on a command line, where a backend is asked for at any place before two
dashes. Every list of texts says one thing, and that is read from each spelling of it in JSON and
from each document in TOML that has it among other settings. -/
theorem backend_names_agree :
    (∀ (text : String) (backend : Backend),
      (Backend.parse text = .ok backend ↔ backend.IsNamedBy text) ∧
      (Backend.ofNameIgnoringCase? text = some backend ↔ backend.IsNamedBy text) ∧
      (Backend.ofName? text = some backend ↔ text = backend.name) ∧
      (backend.IsNamedBy text →
        (∀ other : Backend, other.IsNamedBy text → other = backend) ∧
        text.length = backend.name.length ∧ ∀ letter ∈ text.toList, letter.isAlpha = true)) ∧
    (∀ (text : String) (unknown : UnknownBackend), Backend.parse text = .error unknown ↔
      (∀ backend : Backend, ¬backend.IsNamedBy text) ∧ unknown = ⟨text⟩) ∧
    (∀ (text : String) (arguments rest : List String) (earlier : CommandLine),
      CommandLine.parse arguments = .ok earlier → "--" ∉ arguments →
      ∀ spelled ∈ [["--backend=" ++ text], ["--backend", text]], ∀ commandLine : CommandLine,
        CommandLine.parse (arguments ++ (spelled ++ rest)) = .ok commandLine ↔
          ∃ backend others, text = backend.name ∧
            CommandLine.parse (arguments ++ rest) = .ok others ∧
            commandLine = others.insertBackend earlier.backends.length backend) ∧
    ∀ texts : List String, ∃ outcome, (∀ other, Backend.Decodes texts other ↔ other = outcome) ∧
      (∀ padded : Padded, SpellsList SpellsText padded.token texts →
        Json.parse Backend.readJsonList (String.ofList padded.text) =
          outcome.mapError fun unknown => .mismatch (.unknownBackend unknown)) ∧
      GenerateConfig.readBackends (.array (texts.map .string)) =
        outcome.mapError .unknownBackend ∧
      (∀ document before after settings, Toml.parse? document = some [("generate",
          .table (before ++ ("backends", .array (texts.map .string)) :: after))] →
        GenerateConfig.ofEntries (before ++ after) = .ok settings →
        Config.ofText document = (outcome.map fun backends =>
          (⟨some { settings with backends := some backends }⟩ : Config)).mapError fun unknown =>
            .mismatch (.unknownBackend unknown)) ∧
      ∀ backends, outcome = .ok backends →
        Json.parse Backend.readJsonList ((Backend.listToJson backends).toText .compact) =
          .ok backends ∧
        Json.parse Backend.readJsonList ((Backend.listToJson backends).toText .pretty) =
          .ok backends ∧
        GenerateConfig.readBackends (.array (backends.map fun backend => .string backend.name)) =
          .ok backends := by
  refine ⟨fun text backend => ⟨Backend.parse_iff_isNamedBy,
    Backend.ofNameIgnoringCase?_iff_isNamedBy, ?_, fun named => ⟨fun other other_named =>
      other_named.unique named, named.isAlpha⟩⟩, fun _ _ => Backend.parse_eq_error_iff,
    fun text arguments rest earlier read noDashes spelled spelled_mem commandLine =>
      CommandLine.parse_insert_backend_iff read noDashes spelled_mem, fun texts => ?_⟩
  · rw [CommandLine.ofName?_eq_some_iff, eq_comm]
  · have decodes : Backend.Decodes texts (texts.mapM Backend.parse) :=
      Backend.decodes_iff.mpr rfl
    refine ⟨texts.mapM Backend.parse, fun other => Backend.decodes_iff.trans eq_comm,
      fun padded => decodes.parse_json padded, decodes.readBackends, ?_, ?_⟩
    · intro document before after settings parsed others
      rw [Config.ofText_insert_backends parsed others, decodes.readBackends]
      cases texts.mapM Backend.parse <;> rfl
    · intro backends _
      have printed : RoundTrips Backend.readJsonList Backend.listToJson Backend.ListSpells
          backends :=
        roundTrips_of_takes (fun blank => Backend.listSpells_render blank 0 backends)
          Backend.list_takes_spelled
      have named := (Backend.decodes_names backends).readBackends
      rw [List.map_map] at named
      exact ⟨printed.compact, printed.pretty, named⟩

/-- The sign of Kelvin is no letter of a name, nor is a blank in front of one. -/
theorem backend_names_agree_near_misses :
    let kelvin := "cma\u212ae"
    let command : CommandLine := ⟨some 3, none, none, ".", none, [.cmake], true, none, false⟩
    Backend.parse "CMake" = .ok .cmake ∧ Backend.parse kelvin = .error ⟨kelvin⟩ ∧
      Json.parse Backend.readJsonList "[\"CMake\",\"meiquE\"]" = .ok [.cmake, .meique] ∧
      Json.parse Backend.readJsonList "[\"MEIQUE\",\"cma\u212ae\",\"ninja\"]" =
        .error (.mismatch (.unknownBackend ⟨kelvin⟩)) ∧
      Config.ofText "[generate]\nmodules = 2\nbackends = [\"CMake\", \" meique\"]\n" =
        .error (.mismatch (.unknownBackend ⟨" meique"⟩)) ∧
      CommandLine.parse ["--backend=cmake", "3", "--backend", "meique", "--jobs"] =
        .ok (command.insertBackend 1 .meique) ∧
      ∀ other, CommandLine.parse ["--backend=cmake", "3", "--backend", "Meique", "--jobs"] ≠
        .ok other := by
  intro kelvin command
  rcases backend_names_agree with ⟨single, refused, options, lists⟩
  have cmake_named : Backend.cmake.IsNamedBy "CMake" := Backend.isNamedBy_iff.mpr (by decide)
  have kelvin_unnamed : ∀ backend : Backend, ¬backend.IsNamedBy kelvin := by
    intro backend
    rw [Backend.isNamedBy_iff]
    cases backend <;> decide
  have read : ∀ (texts : List String) (result : Except UnknownBackend _) {text : String},
      (Json.Value.array (texts.map .text)).render .compact 0 = text →
      texts.mapM Backend.parse = result → Json.parse Backend.readJsonList text =
        result.mapError fun unknown => .mismatch (.unknownBackend unknown) := by
    intro texts result text printed_eq parsed
    rcases lists texts with ⟨outcome, decodes, json, _⟩
    obtain rfl := (decodes result).mp (Backend.decodes_iff.mpr parsed)
    have spelled : SpellsList SpellsText text.toList texts := by
      rw [← printed_eq]
      refine Json.spellsList_array Json.Layout.compact_isBlank 0 texts fun text _ => ?_
      rw [Json.Value.render]
      exact Json.spellsText_stringText text
    have read := json ⟨[], text.toList, [], List.forall_mem_nil _, List.forall_mem_nil _⟩ spelled
    rwa [Padded.text, List.nil_append, List.append_nil, String.ofList_toList] at read
  have cases_read : Json.parse Backend.readJsonList "[\"CMake\",\"meiquE\"]" =
      .ok [.cmake, .meique] :=
    read ["CMake", "meiquE"] (.ok [.cmake, .meique]) (by decide +kernel) (by decide)
  have kelvin_read : Json.parse Backend.readJsonList "[\"MEIQUE\",\"cma\u212ae\",\"ninja\"]" =
      .error (.mismatch (.unknownBackend ⟨kelvin⟩)) :=
    read ["MEIQUE", kelvin, "ninja"] (.error ⟨kelvin⟩) (by decide +kernel) (by decide)
  rcases lists ["CMake", " meique"] with ⟨outcome, decodes, _, _, documents, _⟩
  have parsed : ["CMake", " meique"].mapM Backend.parse = .error ⟨" meique"⟩ := by decide
  obtain rfl := (decodes _).mp (Backend.decodes_iff.mpr parsed)
  have loaded := documents "[generate]\nmodules = 2\nbackends = [\"CMake\", \" meique\"]\n"
    [("modules", .integer 2)] [] _ (by cbv) rfl
  have with_meique := options "meique" ["--backend=cmake", "3"] ["--jobs"] _ rfl (by decide) _
    (List.mem_cons_of_mem _ List.mem_cons_self)
  have with_capital := options "Meique" ["--backend=cmake", "3"] ["--jobs"] _ rfl (by decide) _
    (List.mem_cons_of_mem _ List.mem_cons_self)
  refine ⟨(single _ _).1.mpr cmake_named, (refused _ _).mpr ⟨kelvin_unnamed, rfl⟩, cases_read,
    kelvin_read, loaded, (with_meique _).mpr ⟨.meique, command, rfl, rfl, rfl⟩,
    fun other accepted => ?_⟩
  rcases (with_capital other).mp accepted with ⟨backend, _, named, _⟩
  revert named
  cases backend <;> decide

end BenchTree
