import BenchTree.Config
import BenchTree.Proofs.Toml.WellFormed
import Mathlib

/-!
# Configurations that fit

What it is for the entries of a document to give a configuration: which keys there may be, of which
kind each value is, and what the configuration then holds. As long as no key is repeated, the
decoder accepts exactly these entries, with exactly this configuration.
-/

namespace BenchTree

open Toml (Value)

namespace GenerateConfig

/-- A value that gives a number is that integer. -/
def NumberFits (value : Value) (number : Nat) : Prop := value = .integer number

/-- A value that gives a backend is its name in some case of the letters of ASCII. -/
def BackendFits (value : Value) (backend : Backend) : Prop :=
  ∃ name : String, value = .string name ∧ name.toList.map Char.toLower = backend.name.toList

/-- A value that gives backends is an array with one element for each of them, in order. -/
def BackendsFit (value : Value) (backends : List Backend) : Prop :=
  ∃ elements, value = .array elements ∧ List.Forall₂ BackendFits elements backends

/-- A value that gives a truth value is that truth value. -/
def TruthFits (value : Value) (truth : Bool) : Prop := value = .boolean truth

/-- The entries of a table give settings: each setting is given under its key, or absent. -/
@[mk_iff]
structure TableFits (entries : List (String × Value)) (settings : GenerateConfig) : Prop where
  known : ∀ entry ∈ entries, entry.1 ∈ ["files", "deps", "modules", "backends", "jobs"]
  files : Option.Rel NumberFits (entries.lookup "files") settings.files
  deps : Option.Rel NumberFits (entries.lookup "deps") settings.deps
  modules : Option.Rel NumberFits (entries.lookup "modules") settings.modules
  backends : Option.Rel BackendsFit (entries.lookup "backends") settings.backends
  jobs : Option.Rel TruthFits (entries.lookup "jobs") settings.jobs

/-- A value gives settings: a table, or an array that starts with all five of them. -/
inductive ValueFits : Value → GenerateConfig → Prop where
  | table {entries : List (String × Value)} {settings : GenerateConfig}
      (fits : TableFits entries settings) : ValueFits (.table entries) settings
  | array {files deps modules backends jobs : Value} {others : List Value}
      {filesGiven depsGiven modulesGiven : Nat} {backendsGiven : List Backend} {jobsGiven : Bool}
      (filesFit : NumberFits files filesGiven) (depsFit : NumberFits deps depsGiven)
      (modulesFit : NumberFits modules modulesGiven)
      (backendsFit : BackendsFit backends backendsGiven) (jobsFit : TruthFits jobs jobsGiven) :
      ValueFits (.array (files :: deps :: modules :: backends :: jobs :: others))
        ⟨some filesGiven, some depsGiven, some modulesGiven, some backendsGiven, some jobsGiven⟩

end GenerateConfig

/-- The entries of a document give a configuration: its only key may be the one of the settings. -/
@[mk_iff]
structure Config.Fits (entries : List (String × Value)) (config : Config) : Prop where
  known : ∀ entry ∈ entries, entry.1 = "generate"
  generate : Option.Rel GenerateConfig.ValueFits (entries.lookup "generate") config.generate

/-! ## Values -/

theorem bind_eq_ok_iff {Problem First Second : Type} {first : Except Problem First}
    {next : First → Except Problem Second} {result : Second} :
    (first >>= next) = .ok result ↔ ∃ middle, first = .ok middle ∧ next middle = .ok result := by
  cases first with
  | error problem => simp [bind, Except.bind]
  | ok middle => simp [bind, Except.bind]

theorem Backend.ofNameIgnoringCase?_eq_some_iff {name : String} {backend : Backend} :
    Backend.ofNameIgnoringCase? name = some backend ↔
      name.toList.map Char.toLower = backend.name.toList := by
  have same_iff : ∀ candidate : Backend, sameIgnoringCase candidate.name name = true ↔
      name.toList.map Char.toLower = candidate.name.toList := by
    intro candidate
    have lower : candidate.name.toList.map Char.toLower = candidate.name.toList := by
      cases candidate <;> decide
    rw [sameIgnoringCase, lower, decide_eq_true_iff]
    exact eq_comm
  rw [ofNameIgnoringCase?]
  constructor
  · intro found
    have named := List.find?_some found
    exact (same_iff backend).mp named
  · intro same
    have others : ∀ candidate : Backend,
        candidate.name.toList = backend.name.toList → candidate = backend := by
      cases backend <;> intro candidate <;> cases candidate <;> decide
    cases found : all.find? fun backend => sameIgnoringCase backend.name name with
    | none =>
        have unnamed := List.find?_eq_none.mp found backend (by cases backend <;> decide)
        exact absurd ((same_iff backend).mpr same) unnamed
    | some candidate =>
        have named := List.find?_some found
        rw [others candidate (((same_iff candidate).mp named).symm.trans same)]

theorem Backend.parse_eq_ok_iff {name : String} {backend : Backend} :
    Backend.parse name = .ok backend ↔
      name.toList.map Char.toLower = backend.name.toList := by
  rw [← ofNameIgnoringCase?_eq_some_iff, parse]
  cases ofNameIgnoringCase? name <;> simp

namespace GenerateConfig

theorem readNat_eq_ok_iff {value : Value} {number : Nat} :
    readNat value = .ok number ↔ NumberFits value number := by
  cases value with
  | integer given =>
      by_cases natural : 0 ≤ given
      · simp only [readNat, NumberFits, natural, if_true, Except.ok.injEq, Value.integer.injEq]
        omega
      · simp only [readNat, NumberFits, natural, if_false, Value.integer.injEq, reduceCtorEq,
          false_iff]
        omega
  | _ => simp [readNat, NumberFits]

theorem readBool_eq_ok_iff {value : Value} {truth : Bool} :
    readBool value = .ok truth ↔ TruthFits value truth := by
  cases value <;> simp [readBool, TruthFits]

theorem readBackend_eq_ok_iff {value : Value} {backend : Backend} :
    readBackend value = .ok backend ↔ BackendFits value backend := by
  cases value with
  | string name =>
      simp only [BackendFits, Value.string.injEq, exists_eq_left', ← Backend.parse_eq_ok_iff,
        readBackend]
      cases Backend.parse name <;> simp
  | _ => simp [readBackend, BackendFits]

theorem readBackends_eq_ok_iff {value : Value} {backends : List Backend} :
    readBackends value = .ok backends ↔ BackendsFit value backends := by
  cases value with
  | array elements =>
      simp only [BackendsFit, Value.array.injEq, exists_eq_left', readBackends]
      induction elements generalizing backends with
      | nil => cases backends <;> simp [pure, Except.pure]
      | cons first rest ih =>
          rw [List.mapM_cons]
          simp only [bind_eq_ok_iff, readBackend_eq_ok_iff, ih, List.forall₂_cons_left_iff]
          constructor
          · rintro ⟨backend, fits, others, othersFit, result⟩
            cases result
            exact ⟨backend, others, fits, othersFit, rfl⟩
          · rintro ⟨backend, others, fits, othersFit, rfl⟩
            exact ⟨backend, fits, others, othersFit, rfl⟩
  | _ => simp [readBackends, BackendsFit]

/-! ## Tables -/

/-- A value that fits is taken as the setting of its key. -/
@[mk_iff]
inductive Takes (settings : GenerateConfig) : String → Value → GenerateConfig → Prop where
  | files {value : Value} {number : Nat} (fits : NumberFits value number) :
      settings.Takes "files" value { settings with files := some number }
  | deps {value : Value} {number : Nat} (fits : NumberFits value number) :
      settings.Takes "deps" value { settings with deps := some number }
  | modules {value : Value} {number : Nat} (fits : NumberFits value number) :
      settings.Takes "modules" value { settings with modules := some number }
  | backends {value : Value} {backends : List Backend} (fits : BackendsFit value backends) :
      settings.Takes "backends" value { settings with backends := some backends }
  | jobs {value : Value} {truth : Bool} (fits : TruthFits value truth) :
      settings.Takes "jobs" value { settings with jobs := some truth }

theorem set_eq_ok_iff {settings after : GenerateConfig} {key : String} {value : Value} :
    settings.set key value = .ok after ↔ settings.Takes key value after := by
  constructor
  · intro taken
    unfold set at taken
    split at taken
    all_goals try rcases bind_eq_ok_iff.mp taken with ⟨given, read, result⟩
    · cases result
      exact .files (readNat_eq_ok_iff.mp read)
    · cases result
      exact .deps (readNat_eq_ok_iff.mp read)
    · cases result
      exact .modules (readNat_eq_ok_iff.mp read)
    · cases result
      exact .backends (readBackends_eq_ok_iff.mp read)
    · cases result
      exact .jobs (readBool_eq_ok_iff.mp read)
    · cases taken
  · intro taken
    cases taken with
    | files fits => exact bind_eq_ok_iff.mpr ⟨_, readNat_eq_ok_iff.mpr fits, rfl⟩
    | deps fits => exact bind_eq_ok_iff.mpr ⟨_, readNat_eq_ok_iff.mpr fits, rfl⟩
    | modules fits => exact bind_eq_ok_iff.mpr ⟨_, readNat_eq_ok_iff.mpr fits, rfl⟩
    | backends fits => exact bind_eq_ok_iff.mpr ⟨_, readBackends_eq_ok_iff.mpr fits, rfl⟩
    | jobs fits => exact bind_eq_ok_iff.mpr ⟨_, readBool_eq_ok_iff.mpr fits, rfl⟩

theorem lookup_concat {entries : List (String × Value)} {key : String} (value : Value)
    (fresh : entries.lookup key = none) (name : String) :
    (entries ++ [(key, value)]).lookup name =
      if name = key then some value else entries.lookup name := by
  by_cases same : name = key
  · simp [List.lookup_append, same, fresh]
  · simp [List.lookup_append, List.lookup_cons, beq_eq_false_iff_ne.mpr same, same]

theorem tableFits_nil_iff {settings : GenerateConfig} :
    TableFits [] settings ↔ settings = empty := by
  constructor
  · rintro ⟨_, files, deps, modules, backends, jobs⟩
    rcases settings with ⟨_, _, _, _, _⟩
    cases files
    cases deps
    cases modules
    cases backends
    cases jobs
    rfl
  · rintro rfl
    exact ⟨by simp, .none, .none, .none, .none, .none⟩

theorem tableFits_concat_iff {entries : List (String × Value)} {key : String} {value : Value}
    {after : GenerateConfig} (fresh : entries.lookup key = none) :
    TableFits (entries ++ [(key, value)]) after ↔
      ∃ settings, TableFits entries settings ∧ settings.Takes key value after := by
  simp only [tableFits_iff, lookup_concat value fresh, List.forall_mem_append,
    forall_eq, List.mem_cons, List.not_mem_nil, or_false]
  constructor
  · rintro ⟨⟨known, key_known⟩, files, deps, modules, backends, jobs⟩
    rcases after with ⟨_, _, _, _, _⟩
    rcases key_known with rfl | rfl | rfl | rfl | rfl
    · rcases files with fits | _
      exact ⟨⟨none, _, _, _, _⟩, ⟨known, fresh ▸ .none, deps, modules, backends, jobs⟩,
        .files fits⟩
    · rcases deps with fits | _
      exact ⟨⟨_, none, _, _, _⟩, ⟨known, files, fresh ▸ .none, modules, backends, jobs⟩,
        .deps fits⟩
    · rcases modules with fits | _
      exact ⟨⟨_, _, none, _, _⟩, ⟨known, files, deps, fresh ▸ .none, backends, jobs⟩,
        .modules fits⟩
    · rcases backends with fits | _
      exact ⟨⟨_, _, _, none, _⟩, ⟨known, files, deps, modules, fresh ▸ .none, jobs⟩,
        .backends fits⟩
    · rcases jobs with fits | _
      exact ⟨⟨_, _, _, _, none⟩, ⟨known, files, deps, modules, backends, fresh ▸ .none⟩,
        .jobs fits⟩
  · rintro ⟨settings, ⟨known, files, deps, modules, backends, jobs⟩, taken⟩
    cases taken with
    | files fits =>
        exact ⟨⟨known, by simp⟩, .some fits, deps, modules, backends, jobs⟩
    | deps fits =>
        exact ⟨⟨known, by simp⟩, files, .some fits, modules, backends, jobs⟩
    | modules fits =>
        exact ⟨⟨known, by simp⟩, files, deps, .some fits, backends, jobs⟩
    | backends fits =>
        exact ⟨⟨known, by simp⟩, files, deps, modules, .some fits, jobs⟩
    | jobs fits =>
        exact ⟨⟨known, by simp⟩, files, deps, modules, backends, .some fits⟩

/-- The entries of a table are taken one after the other. -/
theorem ofEntries_concat (entries : List (String × Value)) (key : String) (value : Value) :
    ofEntries (entries ++ [(key, value)]) = ofEntries entries >>= (·.set key value) := by
  rw [ofEntries, List.foldlM_append]
  simp only [List.foldlM_cons, List.foldlM_nil, bind_pure]
  rfl

theorem ofEntries_eq_ok_iff {entries : List (String × Value)} {settings : GenerateConfig}
    (distinct : (entries.map Prod.fst).Nodup) :
    ofEntries entries = .ok settings ↔ TableFits entries settings := by
  induction entries using List.reverseRecOn generalizing settings with
  | nil =>
      rw [tableFits_nil_iff]
      simp [ofEntries, pure, Except.pure, eq_comm]
  | append_singleton entries entry ih =>
      rcases entry with ⟨key, value⟩
      rw [List.map_append, List.nodup_append] at distinct
      rcases distinct with ⟨entries_distinct, _, apart⟩
      have fresh : entries.lookup key = none :=
        Toml.lookup_eq_none_iff_keys.mpr fun key_mem => apart key key_mem key (by simp) rfl
      rw [ofEntries_concat, tableFits_concat_iff fresh]
      simp only [bind_eq_ok_iff, ih entries_distinct, set_eq_ok_iff]

/-! ## Arrays -/

theorem setElements_cons {settings after : GenerateConfig} {index : Nat} {key : String}
    {names : List String} {value : Value} {values : List Value} :
    settings.setElements index (key :: names) (value :: values) = .ok after ↔
      ∃ middle, settings.Takes key value middle ∧
        middle.setElements (index + 1) names values = .ok after := by
  rw [setElements, bind_eq_ok_iff]
  simp only [set_eq_ok_iff]

/-- An array that is taken has an element for every key. -/
theorem length_le_of_setElements {settings after : GenerateConfig} {index : Nat}
    {names : List String} {values : List Value}
    (taken : settings.setElements index names values = .ok after) :
    names.length ≤ values.length := by
  induction names generalizing settings index values with
  | nil => exact Nat.zero_le _
  | cons key names ih =>
      cases values with
      | nil => cases taken
      | cons value values =>
          rcases setElements_cons.mp taken with ⟨middle, _, later⟩
          exact Nat.succ_le_succ (ih later)

theorem setElements_eq_ok_iff {elements : List Value} {settings : GenerateConfig} :
    setElements empty 0 keys elements = .ok settings ↔ ValueFits (.array elements) settings := by
  constructor
  · intro taken
    have enough := length_le_of_setElements taken
    rcases elements with _ | ⟨files, _ | ⟨deps, _ | ⟨modules, _ | ⟨backends, _ | ⟨jobs, others⟩⟩⟩⟩⟩
    all_goals simp [keys] at enough
    simp [keys, setElements_cons, takes_iff, -Bool.exists_bool] at taken
    rcases taken with ⟨_, filesFit, _, depsFit, _, modulesFit, _, backendsFit, _, jobsFit,
      result⟩
    cases result
    exact .array filesFit depsFit modulesFit backendsFit jobsFit
  · rintro (_ | ⟨filesFit, depsFit, modulesFit, backendsFit, jobsFit⟩)
    simp only [keys, setElements_cons]
    exact ⟨_, .files filesFit, _, .deps depsFit, _, .modules modulesFit, _, .backends backendsFit,
      _, .jobs jobsFit, rfl⟩

theorem ofValue_eq_ok_iff {value : Value} {settings : GenerateConfig}
    (distinct : ∀ entries, value = .table entries → (entries.map Prod.fst).Nodup) :
    ofValue value = .ok settings ↔ ValueFits value settings := by
  cases value with
  | table entries =>
      rw [ofValue, ofEntries_eq_ok_iff (distinct entries rfl)]
      constructor
      · exact .table
      · rintro (fits | _)
        exact fits
  | array elements => exact setElements_eq_ok_iff
  | _ =>
      constructor
      · intro taken
        cases taken
      · intro fits
        cases fits

end GenerateConfig

/-! ## Documents -/

namespace Config

theorem known_of_ofEntries {entries : List (String × Value)} {config : Config}
    (taken : Config.ofEntries entries = .ok config) : ∀ entry ∈ entries, entry.1 = "generate" := by
  rw [ofEntries] at taken
  generalize (⟨none⟩ : Config) = before at taken
  induction entries generalizing before with
  | nil => simp
  | cons entry rest ih =>
      rw [List.foldlM_cons, bind_eq_ok_iff] at taken
      rcases taken with ⟨middle, first, later⟩
      refine List.forall_mem_cons.mpr ⟨?_, ih middle later⟩
      by_contra unknown
      simp [sectionKey, unknown] at first

/-- Where only one key may be and no key is repeated, there is one entry at most. -/
theorem eq_nil_or_singleton {entries : List (String × Value)}
    (distinct : (entries.map Prod.fst).Nodup) (known : ∀ entry ∈ entries, entry.1 = "generate") :
    entries = [] ∨ ∃ value, entries = [("generate", value)] := by
  rcases entries with _ | ⟨⟨key, value⟩, _ | ⟨⟨other, second⟩, rest⟩⟩
  · exact Or.inl rfl
  · exact Or.inr ⟨value, by rw [← known (key, value) (by simp)]⟩
  · have key_known := known (key, value) (by simp)
    have other_known := known (other, second) (by simp)
    simp only [List.map_cons, List.nodup_cons, List.mem_cons, not_or] at distinct
    exact absurd (key_known.trans other_known.symm) distinct.1.1

/-- Entries with distinct keys give a configuration exactly when they fit. -/
theorem ofEntries_eq_ok_iff {entries : List (String × Value)} {config : Config}
    (distinct : (entries.map Prod.fst).Nodup)
    (distinct_inside : ∀ key inside, (key, Value.table inside) ∈ entries →
      (inside.map Prod.fst).Nodup) :
    Config.ofEntries entries = .ok config ↔ Config.Fits entries config := by
  rcases config with ⟨generate⟩
  by_cases known : ∀ entry ∈ entries, entry.1 = "generate"
  · rcases eq_nil_or_singleton distinct known with rfl | ⟨value, rfl⟩
    · cases generate <;> simp [ofEntries, fits_iff, pure, Except.pure]
    · have value_iff : ∀ settings, GenerateConfig.ofValue value = .ok settings ↔
          GenerateConfig.ValueFits value settings := by
        intro settings
        refine GenerateConfig.ofValue_eq_ok_iff ?_
        rintro inside rfl
        exact distinct_inside _ inside List.mem_cons_self
      cases generate <;>
        simp [ofEntries, fits_iff, bind_eq_ok_iff, sectionKey, pure, Except.pure, value_iff]
  · constructor
    · exact fun taken => absurd (known_of_ofEntries taken) known
    · exact fun fits => absurd fits.known known

end Config

end BenchTree
