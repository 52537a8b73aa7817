import BenchTree.Proofs.Config.Forms
import BenchTree.Proofs.Toml.Reading

/-!
# Configurations are loaded

A configuration is loaded from a document exactly when the document has the declared shape, and it
then holds what the document gives, however the table of settings is written. The settings of every
configuration can be written down, unless a number is beyond the integers of TOML, and are loaded
again from each of these texts.
-/

namespace BenchTree

open Toml (Value Statement TakesKey TakesStatement assignmentText)

namespace GenerateConfig

/-- A setting that is given. -/
inductive Setting where
  | files (number : Nat)
  | deps (number : Nat)
  | modules (number : Nat)
  | backends (names : List Backend)
  | jobs (truth : Bool)
  deriving DecidableEq, Repr

namespace Setting

/-- The key of a setting. -/
def key : Setting → String
  | .files _ => "files"
  | .deps _ => "deps"
  | .modules _ => "modules"
  | .backends _ => "backends"
  | .jobs _ => "jobs"

/-- The value that a setting gives to its key. -/
def value : Setting → Value
  | .files number => .integer number
  | .deps number => .integer number
  | .modules number => .integer number
  | .backends names => .array (names.map fun backend => .string backend.name)
  | .jobs truth => .boolean truth

/-- The text of the value of a setting. -/
def text : Setting → String
  | .files number => toString number
  | .deps number => toString number
  | .modules number => toString number
  | .backends names =>
      "[" ++ ", ".intercalate (names.map fun backend => "\"" ++ backend.name ++ "\"") ++ "]"
  | .jobs truth => toString truth

/-- A number is an integer of TOML. -/
def Fits : Setting → Prop
  | .files number => number ≤ 2 ^ 63 - 1
  | .deps number => number ≤ 2 ^ 63 - 1
  | .modules number => number ≤ 2 ^ 63 - 1
  | .backends _ => True
  | .jobs _ => True

/-- A setting as an entry of a table. -/
def entry (setting : Setting) : String × Value := (setting.key, setting.value)

/-- A setting as a line of a document. -/
def assignment (setting : Setting) : String := setting.key ++ " = " ++ setting.text

end Setting

/-- The settings that are given, each with its content. -/
def given (settings : GenerateConfig) : List Setting :=
  settings.files.toList.map .files ++ settings.deps.toList.map .deps
    ++ settings.modules.toList.map .modules ++ settings.backends.toList.map .backends
    ++ settings.jobs.toList.map .jobs

/-- A text that gives settings in the given order, in one of the ways to write them. -/
inductive WritesText : List Setting → String → Prop where
  | header (order : List Setting) : WritesText order
      ("[generate]\n" ++ String.join (order.map fun setting => setting.assignment ++ "\n"))
  | dotted {order : List Setting} (nonempty : order ≠ []) : WritesText order
      (String.join (order.map fun setting => "generate." ++ setting.assignment ++ "\n"))
  | inline (order : List Setting) : WritesText order
      ("generate = \x7b " ++ ", ".intercalate (order.map Setting.assignment) ++ " \x7d\n")
  | array (files deps modules : Nat) (backends : List Backend) (jobs : Bool) :
      WritesText [.files files, .deps deps, .modules modules, .backends backends, .jobs jobs]
        ("generate = [" ++ ", ".intercalate
          ([Setting.files files, .deps deps, .modules modules, .backends backends,
            .jobs jobs].map Setting.text) ++ "]\n")

/-! ## The table of settings -/

theorem given_keys_distinct (settings : GenerateConfig) :
    (settings.given.map Setting.key).Nodup := by
  have part : ∀ {Content : Type} (content : Option Content) (setting : Content → Setting)
      {key : String}, (∀ given, (setting given).key = key) →
        ((content.toList.map setting).map Setting.key).Sublist [key] := by
    intro _ content setting key key_eq
    cases content with
    | none => simp
    | some given => simp [key_eq]
  have files := part settings.files .files fun _ => rfl
  have deps := part settings.deps .deps fun _ => rfl
  have modules := part settings.modules .modules fun _ => rfl
  have backends := part settings.backends .backends fun _ => rfl
  have jobs := part settings.jobs .jobs fun _ => rfl
  have all := (((files.append deps).append modules).append backends).append jobs
  simp only [← List.map_append] at all
  exact List.Nodup.sublist all (by decide)

theorem lookup_entries {Content : Type} (content : Option Content) (setting : Content → Setting)
    (key : String) (key_eq : ∀ given, (setting given).key = key) (name : String) :
    ((content.toList.map setting).map Setting.entry).lookup name =
      if name = key then content.map fun given => (setting given).value else none := by
  cases content with
  | none => simp
  | some given =>
      by_cases same : name = key
      · simp [Setting.entry, key_eq, same]
      · simp [Setting.entry, key_eq, List.lookup_cons, beq_eq_false_iff_ne.mpr same, same]

theorem rel_map {Content : Type} (fits : Value → Content → Prop) {value : Content → Value}
    (each : ∀ given, fits (value given) given) (content : Option Content) :
    Option.Rel fits (content.map value) content := by
  cases content with
  | none => exact .none
  | some given => exact .some (each given)

theorem backendsFit_names (backends : List Backend) :
    BackendsFit (Setting.backends backends).value backends := by
  refine ⟨_, rfl, ?_⟩
  rw [List.forall₂_map_left_iff, List.forall₂_same]
  intro backend _
  refine ⟨backend.name, rfl, ?_⟩
  cases backend <;> decide

/-- The settings that are given fit as a table. -/
theorem tableFits_given (settings : GenerateConfig) :
    TableFits (settings.given.map Setting.entry) settings := by
  have known : ∀ entry ∈ settings.given.map Setting.entry,
      entry.1 ∈ ["files", "deps", "modules", "backends", "jobs"] := by
    intro entry entry_mem
    rcases List.mem_map.mp entry_mem with ⟨setting, _, rfl⟩
    cases setting <;> simp [Setting.entry, Setting.key]
  refine ⟨known, ?_, ?_, ?_, ?_, ?_⟩
  all_goals
    simp only [given, List.map_append, List.lookup_append,
      lookup_entries settings.files .files "files" fun _ => rfl,
      lookup_entries settings.deps .deps "deps" fun _ => rfl,
      lookup_entries settings.modules .modules "modules" fun _ => rfl,
      lookup_entries settings.backends .backends "backends" fun _ => rfl,
      lookup_entries settings.jobs .jobs "jobs" fun _ => rfl, String.reduceEq, if_true, if_false,
      Option.or_none, Option.none_or]
  · exact rel_map NumberFits (fun _ => rfl) settings.files
  · exact rel_map NumberFits (fun _ => rfl) settings.deps
  · exact rel_map NumberFits (fun _ => rfl) settings.modules
  · exact rel_map BackendsFit backendsFit_names settings.backends
  · exact rel_map TruthFits (fun _ => rfl) settings.jobs

/-! ## The texts of settings -/

theorem takesKey (setting : Setting) : TakesKey setting.key.toList [setting.key] := by
  cases setting <;> rw [Setting.key] <;> exact ⟨⟨_, _, rfl, by decide⟩, fun _ => by rfl⟩

theorem takesKey_dotted (setting : Setting) :
    TakesKey ("generate." ++ setting.key).toList ["generate", setting.key] := by
  cases setting <;> rw [Setting.key] <;> exact ⟨⟨_, _, rfl, by decide⟩, fun _ => by rfl⟩

theorem takes_backend (levels : Nat) (backend : Backend) :
    Toml.Reader.Takes (Toml.readValue levels) ("\"" ++ backend.name ++ "\"").toList
      (.string backend.name) := by
  cases backend with
  | cmake =>
      change Toml.Reader.Takes _ ['"', 'c', 'm', 'a', 'k', 'e', '"'] _
      exact Toml.takes_scalar (by decide) (by decide) (fun _ => rfl) levels
  | meique =>
      change Toml.Reader.Takes _ ['"', 'm', 'e', 'i', 'q', 'u', 'e', '"'] _
      exact Toml.takes_scalar (by decide) (by decide) (fun _ => rfl) levels

theorem takes_backends (levels : Nat) (names : List Backend) :
    Toml.Reader.Takes (Toml.readValue (levels + 1)) (Setting.backends names).text.toList
      (Setting.backends names).value := by
  have taken : List.Forall₂ (Toml.Reader.Takes (Toml.readValue levels))
      (names.map fun backend => ("\"" ++ backend.name ++ "\"").toList)
      (names.map fun backend => .string backend.name) := by
    rw [List.forall₂_map_left_iff, List.forall₂_map_right_iff, List.forall₂_same]
    exact fun backend _ => takes_backend levels backend
  have text_eq : (Setting.backends names).text.toList =
      '[' :: ([',', ' '].intercalate
        (names.map fun backend => ("\"" ++ backend.name ++ "\"").toList) ++ [']']) := by
    simp [Setting.text, String.toList_intercalate, Function.comp_def]
  rw [text_eq]
  exact Toml.takes_array taken

theorem takes_text (levels : Nat) {setting : Setting} (fits : setting.Fits) :
    Toml.Reader.Takes (Toml.readValue (levels + 1)) setting.text.toList setting.value := by
  have of_number : ∀ {number : Nat}, number ≤ 2 ^ 63 - 1 →
      Toml.Reader.Takes (Toml.readValue (levels + 1)) (toString number).toList
        (.integer number) := by
    intro number number_fits
    rw [Nat.toString_eq_ofList_toDigits, String.toList_ofList]
    exact Toml.takes_integer _ (by omega)
  cases setting with
  | files number => exact of_number fits
  | deps number => exact of_number fits
  | modules number => exact of_number fits
  | backends names => exact takes_backends levels names
  | jobs truth => exact Toml.takes_boolean _ truth

/-! ## Documents of settings -/

theorem takesStatement_header : TakesStatement "[generate]".toList (.openTable ["generate"]) :=
  ⟨⟨_, _, rfl, by decide⟩, fun _ => by rfl⟩

theorem takesStatement_plain {setting : Setting} (fits : setting.Fits) :
    TakesStatement setting.assignment.toList (.assign [setting.key] setting.value) := by
  have text_eq : setting.assignment.toList =
      assignmentText setting.key.toList setting.text.toList := by
    simp [Setting.assignment, assignmentText]
  rw [text_eq]
  exact Toml.takesStatement_assign (takesKey setting) (takes_text 78 fits)

theorem takesStatement_dotted {setting : Setting} (fits : setting.Fits) :
    TakesStatement ("generate." ++ setting.assignment).toList
      (.assign ["generate", setting.key] setting.value) := by
  have text_eq : ("generate." ++ setting.assignment).toList =
      assignmentText ("generate." ++ setting.key).toList setting.text.toList := by
    simp [Setting.assignment, assignmentText]
  rw [text_eq]
  exact Toml.takesStatement_assign (takesKey_dotted setting) (takes_text 78 fits)

theorem takesKey_generate : TakesKey "generate".toList ["generate"] :=
  ⟨⟨_, _, rfl, by decide⟩, fun _ => by rfl⟩

variable {order : List Setting}

theorem takesStatement_inline (fits : ∀ setting ∈ order, setting.Fits)
    (distinct : (order.map Setting.key).Nodup) :
    TakesStatement
      ("generate = \x7b " ++ ", ".intercalate (order.map Setting.assignment) ++ " \x7d").toList
      (.assign ["generate"] (.table (order.map Setting.entry))) := by
  let items := order.map fun setting => (setting.key, setting.text.toList, setting.value)
  have entries_eq : Toml.itemEntries items = order.map Setting.entry := by
    simp [items, Toml.itemEntries, Setting.entry]
  have text_eq :
      ("generate = \x7b " ++ ", ".intercalate (order.map Setting.assignment) ++ " \x7d").toList =
        assignmentText "generate".toList
          ('\x7b' :: ' ' :: ([',', ' '].intercalate (Toml.itemTexts items) ++ [' ', '\x7d'])) := by
    simp [items, Toml.itemTexts, assignmentText, String.toList_intercalate, Setting.assignment,
      Function.comp_def]
  have taken : Toml.TakesItems (Toml.readValue 78) items := by
    intro item item_mem
    rcases List.mem_map.mp item_mem with ⟨setting, setting_mem, rfl⟩
    exact ⟨takesKey setting, takes_text 77 (fits setting setting_mem)⟩
  have entries_distinct : ((Toml.itemEntries items).map Prod.fst).Nodup := by
    rw [entries_eq, List.map_map]
    exact distinct
  rw [text_eq, ← entries_eq]
  exact Toml.takesStatement_assign takesKey_generate (Toml.takes_table taken entries_distinct)

theorem takesStatement_array (fits : ∀ setting ∈ order, setting.Fits) :
    TakesStatement ("generate = [" ++ ", ".intercalate (order.map Setting.text) ++ "]").toList
      (.assign ["generate"] (.array (order.map Setting.value))) := by
  have text_eq :
      ("generate = [" ++ ", ".intercalate (order.map Setting.text) ++ "]").toList =
        assignmentText "generate".toList ('[' :: ([',', ' '].intercalate
          (order.map fun setting => setting.text.toList) ++ [']'])) := by
    simp [assignmentText, String.toList_intercalate, Function.comp_def]
  have taken : List.Forall₂ (Toml.Reader.Takes (Toml.readValue 78))
      (order.map fun setting => setting.text.toList) (order.map Setting.value) := by
    rw [List.forall₂_map_left_iff, List.forall₂_map_right_iff, List.forall₂_same]
    exact fun setting setting_mem => takes_text 77 (fits setting setting_mem)
  rw [text_eq]
  exact Toml.takesStatement_assign takesKey_generate (Toml.takes_array taken)

/-- Settings on lines of their own are statements on lines of their own. -/
theorem takesStatements {text : Setting → String} {statement : Setting → Statement}
    (taken : ∀ setting ∈ order, TakesStatement (text setting).toList (statement setting)) :
    List.Forall₂ TakesStatement (order.map fun setting => (text setting).toList)
      (order.map statement) := by
  rw [List.forall₂_map_left_iff, List.forall₂_map_right_iff, List.forall₂_same]
  exact taken

theorem statementsOf_header (fits : ∀ setting ∈ order, setting.Fits) :
    Toml.statementsOf ("[generate]\n" ++
        String.join (order.map fun setting => setting.assignment ++ "\n")) =
      some (.openTable ["generate"] ::
        order.map fun setting => .assign [setting.key] setting.value) := by
  refine Toml.statementsOf_lines (.cons takesStatement_header (takesStatements
    fun setting setting_mem => takesStatement_plain (fits setting setting_mem))) ?_
  simp [String.toList_join, List.flatMap_map]

theorem statementsOf_dotted (fits : ∀ setting ∈ order, setting.Fits) :
    Toml.statementsOf
        (String.join (order.map fun setting => "generate." ++ setting.assignment ++ "\n")) =
      some (order.map fun setting => .assign ["generate", setting.key] setting.value) := by
  refine Toml.statementsOf_lines (takesStatements
    fun setting setting_mem => takesStatement_dotted (fits setting setting_mem)) ?_
  simp [String.toList_join, List.flatMap_map]

theorem statementsOf_inline (fits : ∀ setting ∈ order, setting.Fits)
    (distinct : (order.map Setting.key).Nodup) :
    Toml.statementsOf
        ("generate = \x7b " ++ ", ".intercalate (order.map Setting.assignment) ++ " \x7d\n") =
      some [.assign ["generate"] (.table (order.map Setting.entry))] :=
  Toml.statementsOf_lines (.cons (takesStatement_inline fits distinct) .nil) (by simp)

theorem statementsOf_array (fits : ∀ setting ∈ order, setting.Fits) :
    Toml.statementsOf ("generate = [" ++ ", ".intercalate (order.map Setting.text) ++ "]\n") =
      some [.assign ["generate"] (.array (order.map Setting.value))] :=
  Toml.statementsOf_lines (.cons (takesStatement_array fits) .nil) (by simp)

/-- A text of settings gives one value, which fits whatever its settings fit as a table. -/
theorem exists_parse?_of_writesText {text : String} (written : WritesText order text)
    (fits : ∀ setting ∈ order, setting.Fits) (distinct : (order.map Setting.key).Nodup) :
    ∃ value, Toml.parse? text = some [("generate", value)] ∧
      ∀ settings, TableFits (order.map Setting.entry) settings → ValueFits value settings := by
  have entries_distinct : ((order.map Setting.entry).map Prod.fst).Nodup := by
    rw [List.map_map]
    exact distinct
  have of_table : ∀ {statements}, Toml.statementsOf text = some statements →
      WritesTable (order.map Setting.entry) statements →
        Toml.parse? text = some [("generate", .table (order.map Setting.entry))] := by
    intro statements statements_read written
    rw [Toml.parse?, statements_read]
    exact tableOf?_of_writesTable written entries_distinct
  cases written with
  | header =>
      refine ⟨_, of_table (statementsOf_header fits) ?_, fun settings => .table⟩
      have under_header : WritesTable (order.map Setting.entry) _ := .header
      rwa [List.map_map] at under_header
  | dotted nonempty =>
      refine ⟨_, of_table (statementsOf_dotted fits) ?_, fun settings => .table⟩
      have with_dots : WritesTable (order.map Setting.entry) _ := .dotted (by simpa using nonempty)
      rwa [List.map_map] at with_dots
  | inline =>
      exact ⟨_, of_table (statementsOf_inline fits distinct) .inline, fun settings => .table⟩
  | array files deps modules backends jobs =>
      refine ⟨.array (_ :: _ :: _ :: _ :: _ :: []), ?_, fun settings => tableFits_iff_array.mp⟩
      rw [Toml.parse?, statementsOf_array fits]
      rfl

end GenerateConfig

/-! ## Loading -/

namespace Config

theorem ofText_eq_ok_iff {text : String} {entries : List (String × Value)} {config : Config}
    (parsed : Toml.parse? text = some entries) :
    ofText text = .ok config ↔ Config.Fits entries config := by
  have wellFormed := Toml.parse?_wellFormed parsed
  cases wellFormed with
  | table keys each =>
      have inside : ∀ key inside, (key, Value.table inside) ∈ entries →
          (inside.map Prod.fst).Nodup := by
        intro key inside inside_mem
        cases each _ inside_mem with
        | table keys _ => exact keys
      rw [← ofEntries_eq_ok_iff keys inside]
      simp only [ofText, parsed]
      cases ofEntries entries <;> simp

theorem load_eq_ok_iff {disk : Disk} {path : Path} {text : String}
    {entries : List (String × Value)} {config : Config} (held : disk.readText path = .ok text)
    (parsed : Toml.parse? text = some entries) :
    load disk path = .ok config ↔ Config.Fits entries config := by
  rw [load, held]
  exact ofText_eq_ok_iff parsed

/--
A well-formed document is loaded exactly when it has the declared shape, and gives what the shape
says. A document that gives all five values is loaded alike in every form. Every configuration is
loaded from each text of its settings, in any order, unless a number is too large for TOML.
-/
theorem loads_declared_shape {disk : Disk} {path : Path} {text : String}
    (held : disk.readText path = .ok text) :
    (∀ entries config, Toml.parse? text = some entries →
      (load disk path = .ok config ↔ Config.Fits entries config)) ∧
    (∀ statements files deps modules backends jobs config,
      Toml.statementsOf text = some statements →
      WritesAll files deps modules backends jobs statements →
      (load disk path = .ok config ↔
        ∃ settings, config = ⟨some settings⟩ ∧
          GenerateConfig.ValueFits (.array [files, deps, modules, backends, jobs]) settings)) ∧
    (∀ (settings : GenerateConfig) order, order.Perm settings.given →
      (∀ setting ∈ order, setting.Fits) → GenerateConfig.WritesText order text →
      load disk path = .ok ⟨some settings⟩) := by
  refine ⟨fun entries config parsed => load_eq_ok_iff held parsed, ?_, ?_⟩
  · intro statements files deps modules backends jobs config statements_read written
    rcases exists_tableOf?_of_writesAll written with ⟨value, table, fits_iff⟩
    have parsed : Toml.parse? text = some [("generate", value)] := by
      rw [Toml.parse?, statements_read]
      exact table
    simp only [load_eq_ok_iff held parsed, fits_section_iff, fits_iff, and_comm]
  · intro settings order perm fits written
    have distinct := (perm.map GenerateConfig.Setting.key).nodup_iff.mpr
      settings.given_keys_distinct
    rcases GenerateConfig.exists_parse?_of_writesText written fits distinct with
      ⟨value, parsed, value_fits⟩
    rw [load_eq_ok_iff held parsed, fits_section_iff]
    refine ⟨settings, value_fits settings ?_, rfl⟩
    refine settings.tableFits_given.perm (perm.map _) ?_
    rwa [List.map_map]

theorem loads_declared_shape_backends_first :
    let text := "[generate]\nbackends = [\"meique\", \"cmake\"]\nfiles = 100\ndeps = 3\n" ++
      "modules = 8\njobs = true\n"
    let disk : Disk := ⟨[(["work"], .directory), (["work", "custom.toml"], .file text.toUTF8)],
      ["work"]⟩
    let config : Config := ⟨some ⟨some 100, some 3, some 8, some [.meique, .cmake], some true⟩⟩
    let backends : Value := .array [.string "meique", .string "cmake"]
    disk.readText ⟨"custom.toml"⟩ = .ok text ∧ load disk ⟨"custom.toml"⟩ = .ok config ∧
      (∃ entries, Toml.parse? text = some entries ∧ Config.Fits entries config) ∧
      ∃ statements, Toml.statementsOf text = some statements ∧
        WritesAll (.integer 100) (.integer 3) (.integer 8) backends (.boolean true) statements ∧
        ∃ settings, config = ⟨some settings⟩ ∧ GenerateConfig.ValueFits
          (.array [.integer 100, .integer 3, .integer 8, backends, .boolean true]) settings := by
  intro text disk config backends
  have held : disk.readText ⟨"custom.toml"⟩ = .ok text := by decide +kernel
  let settings : GenerateConfig :=
    ⟨some 100, some 3, some 8, some [.meique, .cmake], some true⟩
  let order : List GenerateConfig.Setting :=
    [.backends [.meique, .cmake], .files 100, .deps 3, .modules 8, .jobs true]
  have text_eq : "[generate]\n" ++
      String.join (order.map fun setting => setting.assignment ++ "\n") = text := by decide +kernel
  have fits : ∀ setting ∈ order, setting.Fits := by
    simp [order, GenerateConfig.Setting.Fits]
  have perm : order.Perm settings.given := by decide
  have distinct : (order.map GenerateConfig.Setting.key).Nodup := by decide
  rcases loads_declared_shape held with ⟨shape, forms, texts⟩
  have written : GenerateConfig.WritesText order text := text_eq ▸ .header order
  have loaded := texts settings order perm fits written
  rcases GenerateConfig.exists_parse?_of_writesText written fits distinct with ⟨value, parsed, _⟩
  have statements_read := GenerateConfig.statementsOf_header fits
  rw [text_eq] at statements_read
  have written_all : WritesAll (.integer 100) (.integer 3) (.integer 8) backends (.boolean true)
      (.openTable ["generate"] ::
        order.map fun setting => .assign [setting.key] setting.value) := by
    have entries_perm := perm.map GenerateConfig.Setting.entry
    exact .table entries_perm .header
  exact ⟨held, loaded, ⟨_, parsed, (shape _ config parsed).mp loaded⟩, _, statements_read,
    written_all, (forms _ _ _ _ _ _ config statements_read written_all).mp loaded⟩

end Config

end BenchTree
