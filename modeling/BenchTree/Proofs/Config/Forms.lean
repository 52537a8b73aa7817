import BenchTree.Proofs.Config.Fitting

/-!
# Ways to write settings

The table of settings may be written under a header, with dotted keys, or inline, and its keys may
come in any order; all five settings may also be written as an array. A document that gives the
same values in one of these ways gives the same configuration.
-/

namespace BenchTree

open Toml (Value Statement Entries Construction)

/-! ## Tables -/

/-- The statements of a document whose only content is a table of settings. -/
inductive WritesTable (entries : List (String × Value)) : List Statement → Prop where
  | header : WritesTable entries
      (.openTable ["generate"] :: entries.map fun (key, value) => .assign [key] value)
  | dotted (nonempty : entries ≠ []) : WritesTable entries
      (entries.map fun (key, value) => .assign ["generate", key] value)
  | inline : WritesTable entries [.assign ["generate"] (.table entries)]

/-- A document whose only content so far is a table of settings. -/
def building (origin : Toml.Origin) (header : List String) (entries : List (String × Value)) :
    Construction :=
  ⟨[("generate", .table origin (Entries.ofValues entries))], header⟩

theorem step_header {entries : List (String × Value)} {key : String} (value : Value)
    (fresh : key ∉ entries.map Prod.fst) :
    (building .header ["generate"] entries).step (.assign [key] value) =
      some (building .header ["generate"] (entries ++ [(key, value)])) := by
  simp [building, Construction.step, Entries.insertAt, Entries.modify, Entries.insert,
    Entries.lookup_ofValues fresh, Entries.replace, Entries.ofValues_concat]

theorem step_dotted {entries : List (String × Value)} {key : String} (value : Value)
    (fresh : key ∉ entries.map Prod.fst) :
    (building .dotted [] entries).step (.assign ["generate", key] value) =
      some (building .dotted [] (entries ++ [(key, value)])) := by
  simp [building, Construction.step, Entries.insertAt, Entries.modify, Entries.insert,
    Entries.lookup_ofValues fresh, Entries.replace, Entries.ofValues_concat]

/-- Assignments that add their keys one after the other give all of them. -/
theorem foldlM_building {origin : Toml.Origin} {header : List String}
    {assign : String × Value → Statement}
    (adds : ∀ {entries : List (String × Value)} {key : String} (value : Value),
      key ∉ entries.map Prod.fst → (building origin header entries).step (assign (key, value)) =
        some (building origin header (entries ++ [(key, value)])))
    (before : List (String × Value)) {rest : List (String × Value)}
    (distinct : ((before ++ rest).map Prod.fst).Nodup) :
    (rest.map assign).foldlM Construction.step (building origin header before) =
      some (building origin header (before ++ rest)) := by
  induction rest generalizing before with
  | nil => simp
  | cons entry rest ih =>
      rcases entry with ⟨key, value⟩
      have fresh : key ∉ before.map Prod.fst := by
        rw [List.map_append, List.nodup_append] at distinct
        exact fun key_mem => distinct.2.2 key key_mem key (by simp) rfl
      rw [List.append_cons] at distinct ⊢
      rw [List.map_cons, List.foldlM_cons, adds value fresh]
      exact ih _ distinct

theorem tableOf?_of_building {statements : List Statement} {origin : Toml.Origin}
    {header : List String} {entries : List (String × Value)}
    (built : statements.foldlM Construction.step ⟨[], []⟩ = some (building origin header entries)) :
    Toml.tableOf? statements = some [("generate", .table entries)] := by
  rw [Toml.tableOf?, built]
  simp [building, Toml.entriesToValues, Toml.Node.toValue, Entries.toValues_ofValues]

/-- All ways to write a table of settings give the same table. -/
theorem tableOf?_of_writesTable {entries : List (String × Value)} {statements : List Statement}
    (written : WritesTable entries statements) (distinct : (entries.map Prod.fst).Nodup) :
    Toml.tableOf? statements = some [("generate", .table entries)] := by
  cases written with
  | header =>
      refine @tableOf?_of_building _ .header ["generate"] _ ?_
      have opened : Construction.step ⟨[], []⟩ (.openTable ["generate"]) =
          some (building .header ["generate"] []) := rfl
      rw [List.foldlM_cons, opened]
      exact foldlM_building step_header [] distinct
  | dotted nonempty =>
      rcases entries with _ | ⟨⟨key, value⟩, rest⟩
      · exact absurd rfl nonempty
      · refine @tableOf?_of_building _ .dotted [] _ ?_
        have first : Construction.step ⟨[], []⟩ (.assign ["generate", key] value) =
            some (building .dotted [] [(key, value)]) := rfl
        rw [List.map_cons, List.foldlM_cons, first]
        exact foldlM_building step_dotted [(key, value)] distinct
  | inline => rfl

/-! ## All settings -/

/-- The statements of a document whose only content is a value for each setting. -/
inductive WritesAll (files deps modules backends jobs : Value) : List Statement → Prop where
  | table {entries : List (String × Value)} {statements : List Statement}
      (order : entries.Perm [("files", files), ("deps", deps), ("modules", modules),
        ("backends", backends), ("jobs", jobs)])
      (written : WritesTable entries statements) :
      WritesAll files deps modules backends jobs statements
  | array (others : List Value) : WritesAll files deps modules backends jobs
      [.assign ["generate"] (.array (files :: deps :: modules :: backends :: jobs :: others))]

namespace GenerateConfig

variable {files deps modules backends jobs : Value} {settings : GenerateConfig}

/-- The order of the entries does not matter. -/
theorem TableFits.perm {entries others : List (String × Value)} (fits : TableFits entries settings)
    (perm : others.Perm entries) (distinct : (others.map Prod.fst).Nodup) :
    TableFits others settings := by
  have lookup_eq := Toml.lookup_eq_of_perm perm distinct
  rcases fits with ⟨known, files, deps, modules, backends, jobs⟩
  rw [← lookup_eq] at files deps modules backends jobs
  exact ⟨fun entry entry_mem => known entry (perm.mem_iff.mp entry_mem), files, deps, modules,
    backends, jobs⟩

/-- Five values fit as a table when they fit as an array. -/
theorem tableFits_iff_array {others : List Value} :
    TableFits [("files", files), ("deps", deps), ("modules", modules), ("backends", backends),
        ("jobs", jobs)] settings ↔
      ValueFits (.array (files :: deps :: modules :: backends :: jobs :: others)) settings := by
  constructor
  · rintro ⟨_, filesFit, depsFit, modulesFit, backendsFit, jobsFit⟩
    rcases settings with ⟨_, _, _, _, _⟩
    simp only [List.lookup_cons, String.reduceBEq]
      at filesFit depsFit modulesFit backendsFit jobsFit
    rcases filesFit with filesFit | _
    rcases depsFit with depsFit | _
    rcases modulesFit with modulesFit | _
    rcases backendsFit with backendsFit | _
    rcases jobsFit with jobsFit | _
    exact .array filesFit depsFit modulesFit backendsFit jobsFit
  · rintro (_ | ⟨filesFit, depsFit, modulesFit, backendsFit, jobsFit⟩)
    exact ⟨by simp, .some filesFit, .some depsFit, .some modulesFit, .some backendsFit,
      .some jobsFit⟩

end GenerateConfig

/-! ## Documents -/

theorem Config.fits_section_iff {value : Value} {config : Config} :
    Config.Fits [("generate", value)] config ↔
      ∃ settings, GenerateConfig.ValueFits value settings ∧ config = ⟨some settings⟩ := by
  rcases config with ⟨_ | settings⟩
  · simp [fits_iff]
  · simp [fits_iff]

/-- Every document that gives all five values gives the configuration that holds them. -/
theorem exists_tableOf?_of_writesAll {files deps modules backends jobs : Value}
    {statements : List Statement}
    (written : WritesAll files deps modules backends jobs statements) :
    ∃ value, Toml.tableOf? statements = some [("generate", value)] ∧
      ∀ settings, GenerateConfig.ValueFits value settings ↔
        GenerateConfig.ValueFits (.array [files, deps, modules, backends, jobs]) settings := by
  cases written with
  | @table entries _ order written =>
      have distinct : (entries.map Prod.fst).Nodup :=
        (order.map Prod.fst).nodup_iff.mpr
          (by decide : ["files", "deps", "modules", "backends", "jobs"].Nodup)
      refine ⟨.table entries, tableOf?_of_writesTable written distinct, fun settings => ?_⟩
      rw [← GenerateConfig.tableFits_iff_array]
      constructor
      · rintro (fits | _)
        exact fits.perm order.symm ((order.map Prod.fst).nodup distinct)
      · exact fun fits => .table (fits.perm order distinct)
  | array others =>
      refine ⟨.array (files :: deps :: modules :: backends :: jobs :: others), rfl,
        fun settings => ?_⟩
      rw [← GenerateConfig.tableFits_iff_array, ← GenerateConfig.tableFits_iff_array]

end BenchTree
