import BenchTree.Toml.Document
import Mathlib

/-!
# Values of a document are well formed

In a document that describes a table no table repeats a key, however its tables came about: by
headers, by dotted keys, or inline. Every integer in it is a signed word. While the table is built
this is kept by every statement.
-/

namespace BenchTree.Toml

/-- No table inside a value repeats a key, and every integer inside is a signed word. -/
inductive Value.WellFormed : Value → Prop where
  | string (text : String) : WellFormed (.string text)
  | integer {value : Int} (signed : -signedLimit ≤ value ∧ value < signedLimit) :
      WellFormed (.integer value)
  | real (value : Real) : WellFormed (.real value)
  | boolean (value : Bool) : WellFormed (.boolean value)
  | moment : WellFormed .moment
  | array {elements : List Value} (each : ∀ element ∈ elements, element.WellFormed) :
      WellFormed (.array elements)
  | table {entries : List (String × Value)} (keys : (entries.map Prod.fst).Nodup)
      (each : ∀ entry ∈ entries, entry.2.WellFormed) : WellFormed (.table entries)

theorem lookup_eq_none_iff_keys {Content : Type} {entries : List (String × Content)}
    {key : String} : entries.lookup key = none ↔ key ∉ entries.map Prod.fst := by
  simp only [List.lookup_eq_none_iff, bne_iff_ne, List.mem_map, not_exists, not_and]
  exact forall₂_congr fun _ _ => ne_comm

theorem mem_of_lookup {Content : Type} {entries : List (String × Content)} {key : String}
    {content : Content} (found : entries.lookup key = some content) :
    (key, content) ∈ entries := by
  rcases List.lookup_eq_some_iff.mp found with ⟨before, after, rfl, _⟩
  simp

theorem lookup_eq_some_iff_mem {Content : Type} {entries : List (String × Content)} {key : String}
    {content : Content} (distinct : (entries.map Prod.fst).Nodup) :
    entries.lookup key = some content ↔ (key, content) ∈ entries := by
  refine ⟨mem_of_lookup, fun content_mem => ?_⟩
  cases found : entries.lookup key with
  | none =>
      exact absurd (List.mem_map_of_mem content_mem) (lookup_eq_none_iff_keys.mp found)
  | some other =>
      have same := List.inj_on_of_nodup_map distinct (mem_of_lookup found) content_mem rfl
      rw [(Prod.mk.inj same).2]

/-- The order of entries with distinct keys does not matter. -/
theorem lookup_eq_of_perm {Content : Type} {entries others : List (String × Content)}
    (perm : entries.Perm others) (distinct : (entries.map Prod.fst).Nodup) (key : String) :
    entries.lookup key = others.lookup key := by
  apply Option.ext
  intro content
  rw [lookup_eq_some_iff_mem distinct,
    lookup_eq_some_iff_mem ((perm.map Prod.fst).nodup distinct), perm.mem_iff]

/-! ## Building tables -/

theorem entriesToValues_eq_map (entries : Entries) :
    entriesToValues entries = entries.map fun (key, node) => (key, node.toValue) := by
  induction entries with
  | nil => rfl
  | cons entry rest ih => rw [entriesToValues, ih, List.map_cons]

theorem tablesToValues_eq_map (elements : List Entries) :
    tablesToValues elements = elements.map fun entries => .table (entriesToValues entries) := by
  induction elements with
  | nil => rfl
  | cons entries rest ih => rw [tablesToValues, ih, List.map_cons]

namespace Entries

/-- The values of a table under construction are well formed, and it does not repeat a key. -/
structure WellFormed (entries : Entries) : Prop where
  keys : (entries.map Prod.fst).Nodup
  each : ∀ entry ∈ entries, entry.2.toValue.WellFormed

theorem wellFormed_toValue_iff {entries : Entries} :
    (Value.table (entriesToValues entries)).WellFormed ↔ entries.WellFormed := by
  have keys_eq : (entriesToValues entries).map Prod.fst = entries.map Prod.fst := by
    rw [entriesToValues_eq_map, List.map_map]
    rfl
  constructor
  · intro wellFormed
    cases wellFormed with
    | table keys each =>
        refine ⟨keys_eq ▸ keys, fun entry entry_mem => each (entry.1, entry.2.toValue) ?_⟩
        rw [entriesToValues_eq_map]
        exact List.mem_map_of_mem entry_mem
  · rintro ⟨keys, each⟩
    refine .table (keys_eq ▸ keys) fun entry entry_mem => ?_
    rw [entriesToValues_eq_map] at entry_mem
    rcases List.mem_map.mp entry_mem with ⟨node_entry, node_mem, rfl⟩
    exact each node_entry node_mem

theorem wellFormed_table_iff {origin : Origin} {entries : Entries} :
    (Node.table origin entries).toValue.WellFormed ↔ entries.WellFormed := by
  rw [Node.toValue, wellFormed_toValue_iff]

theorem wellFormed_tables_iff {elements : List Entries} :
    (Node.tables elements).toValue.WellFormed ↔ ∀ entries ∈ elements, entries.WellFormed := by
  rw [Node.toValue, tablesToValues_eq_map]
  constructor
  · intro wellFormed entries entries_mem
    cases wellFormed with
    | array each => exact wellFormed_toValue_iff.mp (each _ (List.mem_map_of_mem entries_mem))
  · intro each
    refine .array fun element element_mem => ?_
    rcases List.mem_map.mp element_mem with ⟨entries, entries_mem, rfl⟩
    exact wellFormed_toValue_iff.mpr (each entries entries_mem)

theorem wellFormed_nil : WellFormed [] := ⟨List.nodup_nil, by simp⟩

namespace WellFormed

variable {entries : Entries} {key : String} {node : Node}

theorem of_lookup (wellFormed : entries.WellFormed) (found : entries.lookup key = some node) :
    node.toValue.WellFormed :=
  wellFormed.each _ (mem_of_lookup found)

theorem concat (wellFormed : entries.WellFormed) (fresh : entries.lookup key = none)
    (node_wellFormed : node.toValue.WellFormed) : WellFormed (entries ++ [(key, node)]) := by
  constructor
  · rw [List.map_append, List.map_singleton]
    rw [← List.concat_eq_append]
    exact wellFormed.keys.concat (lookup_eq_none_iff_keys.mp fresh)
  · rw [List.forall_mem_append, List.forall_mem_singleton]
    exact ⟨wellFormed.each, node_wellFormed⟩

theorem replace (wellFormed : entries.WellFormed) (node_wellFormed : node.toValue.WellFormed) :
    (entries.replace key node).WellFormed := by
  constructor
  · have keys_eq : (entries.replace key node).map Prod.fst = entries.map Prod.fst := by
      rw [Entries.replace, List.map_map]
      rfl
    exact keys_eq ▸ wellFormed.keys
  · intro entry entry_mem
    rcases List.mem_map.mp entry_mem with ⟨⟨name, old⟩, old_mem, rfl⟩
    by_cases same : name = key
    · simpa [same] using node_wellFormed
    · simpa [same] using wellFormed.each _ old_mem

theorem erase (wellFormed : entries.WellFormed) : (entries.erase key).WellFormed where
  keys := wellFormed.keys.sublist (List.filter_sublist.map _)
  each entry entry_mem := wellFormed.each entry (List.mem_of_mem_filter entry_mem)

theorem lookup_erase : (entries.erase key).lookup key = none := by
  rw [lookup_eq_none_iff_keys]
  simp [Entries.erase]

end WellFormed

/-- A change keeps a table well formed when it does so at the end of the path. -/
theorem wellFormed_modify {isDotted : Bool} {change : Origin → Entries → Option Entries}
    (kept : ∀ {origin entries changed}, change origin entries = some changed →
      entries.WellFormed → changed.WellFormed)
    {path : List String} {origin : Origin} {entries changed : Entries}
    (modified : modify isDotted change path origin entries = some changed)
    (wellFormed : entries.WellFormed) : changed.WellFormed := by
  induction path generalizing origin entries changed with
  | nil => exact kept modified wellFormed
  | cons key path ih =>
      rw [modify] at modified
      split at modified
      · rename_i fresh
        rcases Option.bind_eq_some_iff.mp modified with ⟨inner, inner_modified, result⟩
        cases result
        exact wellFormed.concat fresh (wellFormed_table_iff.mpr (ih inner_modified wellFormed_nil))
      · cases modified
      · rename_i inner found
        rcases Option.bind_eq_some_iff.mp modified with ⟨_, _, modified⟩
        rcases Option.bind_eq_some_iff.mp modified with ⟨changed_inner, inner_modified, result⟩
        cases result
        have inner_wellFormed := wellFormed_table_iff.mp (wellFormed.of_lookup found)
        exact wellFormed.replace (wellFormed_table_iff.mpr (ih inner_modified inner_wellFormed))
      · rename_i elements found
        rcases Option.bind_eq_some_iff.mp modified with ⟨last, is_last, modified⟩
        rcases Option.bind_eq_some_iff.mp modified with ⟨changed_last, last_modified, result⟩
        cases result
        have each := wellFormed_tables_iff.mp (wellFormed.of_lookup found)
        have last_wellFormed := each last (List.mem_of_getLast? is_last)
        refine wellFormed.replace (wellFormed_tables_iff.mpr ?_)
        rw [List.forall_mem_append, List.forall_mem_singleton]
        exact ⟨fun entries entries_mem => each entries (List.mem_of_mem_dropLast entries_mem),
          ih last_modified last_wellFormed⟩

theorem wellFormed_insert {entries changed : Entries} {names : List String} {value : Value}
    (inserted : entries.insert names value = some changed) (wellFormed : entries.WellFormed)
    (value_wellFormed : value.WellFormed) : changed.WellFormed := by
  rcases Option.bind_eq_some_iff.mp inserted with ⟨key, _, modified⟩
  refine wellFormed_modify ?_ modified wellFormed
  intro origin before after added before_wellFormed
  rcases Option.bind_eq_some_iff.mp added with ⟨_, _, added⟩
  rcases Option.bind_eq_some_iff.mp added with ⟨_, fresh, result⟩
  cases result
  rw [Option.guard_eq_some', Option.isNone_iff_eq_none] at fresh
  exact before_wellFormed.concat fresh value_wellFormed

theorem wellFormed_insertAt {entries changed : Entries} {header names : List String} {value : Value}
    (inserted : entries.insertAt header names value = some changed)
    (wellFormed : entries.WellFormed) (value_wellFormed : value.WellFormed) :
    changed.WellFormed :=
  wellFormed_modify (fun inserted inner_wellFormed =>
    wellFormed_insert inserted inner_wellFormed value_wellFormed) inserted wellFormed

theorem wellFormed_openTable {entries changed : Entries} {names : List String}
    (opened : entries.openTable names = some changed) (wellFormed : entries.WellFormed) :
    changed.WellFormed := by
  rcases Option.bind_eq_some_iff.mp opened with ⟨key, _, modified⟩
  refine wellFormed_modify ?_ modified wellFormed
  intro origin before after added before_wellFormed
  split at added
  · rename_i fresh
    cases added
    exact before_wellFormed.concat fresh (wellFormed_table_iff.mpr wellFormed_nil)
  · rename_i inner found
    cases added
    have inner_wellFormed := wellFormed_table_iff.mp (before_wellFormed.of_lookup found)
    exact before_wellFormed.erase.concat WellFormed.lookup_erase
      (wellFormed_table_iff.mpr inner_wellFormed)
  · cases added

theorem wellFormed_openElement {entries changed : Entries} {names : List String}
    (opened : entries.openElement names = some changed) (wellFormed : entries.WellFormed) :
    changed.WellFormed := by
  rcases Option.bind_eq_some_iff.mp opened with ⟨key, _, modified⟩
  refine wellFormed_modify ?_ modified wellFormed
  intro origin before after added before_wellFormed
  split at added
  · rename_i fresh
    cases added
    exact before_wellFormed.concat fresh (wellFormed_tables_iff.mpr (by simp [wellFormed_nil]))
  · rename_i elements found
    cases added
    have each := wellFormed_tables_iff.mp (before_wellFormed.of_lookup found)
    refine before_wellFormed.replace (wellFormed_tables_iff.mpr ?_)
    rw [List.forall_mem_append, List.forall_mem_singleton]
    exact ⟨each, wellFormed_nil⟩
  · cases added

/-! ## Tables of values -/

/-- Values as they stand in a table under construction. -/
def ofValues (entries : List (String × Value)) : Entries :=
  entries.map fun (key, value) => (key, .value value)

theorem toValues_ofValues (entries : List (String × Value)) :
    entriesToValues (ofValues entries) = entries := by
  rw [entriesToValues_eq_map, ofValues, List.map_map]
  exact List.map_id entries

theorem ofValues_concat (entries : List (String × Value)) (key : String) (value : Value) :
    ofValues (entries ++ [(key, value)]) = ofValues entries ++ [(key, .value value)] := by
  simp [ofValues]

theorem lookup_ofValues {entries : List (String × Value)} {key : String}
    (fresh : key ∉ entries.map Prod.fst) : (ofValues entries).lookup key = none := by
  rw [lookup_eq_none_iff_keys]
  simpa [ofValues] using fresh

theorem insert_ofValues {entries : List (String × Value)} {key : String} (value : Value)
    (fresh : key ∉ entries.map Prod.fst) :
    (ofValues entries).insert [key] value = some (ofValues (entries ++ [(key, value)])) := by
  simp [insert, modify, lookup_ofValues fresh, ofValues_concat]

end Entries

/-! ## Reading values -/

/-- What a reader of values gives is well formed. -/
def Reader.GivesWellFormed (read : Reader Value) : Prop :=
  ∀ {input value rest}, read input = some (value, rest) → value.WellFormed

theorem integer?_wellFormed {number : Int} {value : Value}
    (is_integer : integer? number = some value) : value.WellFormed := by
  rw [integer?] at is_integer
  split at is_integer
  · rename_i signed
    cases is_integer
    exact .integer signed
  · cases is_integer

theorem real?_wellFormed {isNegative : Bool} {digits : List Char} {exponent : Int} {value : Value}
    (is_real : real? isNegative digits exponent = some value) : value.WellFormed := by
  rw [real?] at is_real
  split at is_real
  · cases is_real
    exact .real _
  · split at is_real
    · cases is_real
      exact .real _
    · cases is_real

theorem readWord_wellFormed {word : List Char} {value : Value} (wellFormed : value.WellFormed) :
    Reader.GivesWellFormed (readWord word value) := by
  intro input result rest taken
  rw [readWord] at taken
  split at taken
  · cases taken
    exact wellFormed
  · cases taken

theorem readBased_wellFormed (base : Nat) : Reader.GivesWellFormed (readBased base) := by
  intro input value rest taken
  rcases Option.bind_eq_some_iff.mp taken with ⟨_, _, taken⟩
  rcases Option.bind_eq_some_iff.mp taken with ⟨_, is_integer, result⟩
  cases result
  exact integer?_wellFormed is_integer

theorem readReal_wellFormed (isNegative : Bool) (whole : List Char) :
    Reader.GivesWellFormed (readReal isNegative whole) := by
  intro input value rest taken
  unfold readReal at taken
  split at taken
  all_goals
    rcases Option.bind_eq_some_iff.mp taken with ⟨⟨fraction, behind⟩, _, taken⟩
    dsimp only at taken
    split at taken
    all_goals
      rcases Option.bind_eq_some_iff.mp taken with ⟨⟨exponent, behind⟩, _, taken⟩
      rcases Option.bind_eq_some_iff.mp taken with ⟨_, is_real, result⟩
      cases result
      exact real?_wellFormed is_real

theorem readDecimal_wellFormed : Reader.GivesWellFormed readDecimal := by
  intro input value rest taken
  unfold readDecimal at taken
  split at taken
  dsimp only at taken
  split at taken
  · cases taken
    exact .real _
  · cases taken
    exact .real _
  · rcases Option.bind_eq_some_iff.mp taken with ⟨⟨whole, behind⟩, _, taken⟩
    dsimp only at taken
    split at taken
    · exact readReal_wellFormed _ _ taken
    · rcases Option.bind_eq_some_iff.mp taken with ⟨_, is_integer, result⟩
      cases result
      exact integer?_wellFormed is_integer

theorem readMoment_wellFormed : Reader.GivesWellFormed readMoment := by
  intro input value rest taken
  unfold readMoment at taken
  split at taken
  · rcases Option.bind_eq_some_iff.mp taken with ⟨_, _, taken⟩
    rcases Option.bind_eq_some_iff.mp taken with ⟨_, _, result⟩
    cases result
    exact .moment
  · rcases Option.bind_eq_some_iff.mp taken with ⟨_, _, result⟩
    cases result
    exact .moment

theorem readNumber_wellFormed : Reader.GivesWellFormed readNumber := by
  intro input value rest taken
  unfold readNumber at taken
  split at taken
  · exact readBased_wellFormed 16 taken
  · exact readBased_wellFormed 8 taken
  · exact readBased_wellFormed 2 taken
  · split at taken
    · exact readMoment_wellFormed taken
    · exact readDecimal_wellFormed taken

theorem readScalar_wellFormed : Reader.GivesWellFormed readScalar := by
  intro input value rest taken
  unfold readScalar at taken
  split at taken
  · cases taken
  · rcases Option.bind_eq_some_iff.mp taken with ⟨_, _, result⟩
    cases result
    exact .string _
  · rcases Option.bind_eq_some_iff.mp taken with ⟨_, _, result⟩
    cases result
    exact .string _
  · exact readWord_wellFormed (.boolean true) taken
  · exact readWord_wellFormed (.boolean false) taken
  · exact readNumber_wellFormed taken

theorem readElements_wellFormed {read : Reader Value} (wellFormed : read.GivesWellFormed)
    {input rest : List Char} {elements : List Value}
    (taken : readElements read input = some (elements, rest)) :
    ∀ element ∈ elements, element.WellFormed := by
  induction input using readElements.induct generalizing elements rest with
  | case1 input ih =>
      unfold readElements at taken
      rcases Option.bind_eq_some_iff.mp taken with ⟨start, _, taken⟩
      split at taken
      · cases taken
        simp
      · rcases Option.bind_eq_some_iff.mp taken with ⟨⟨first, behind⟩, first_read, taken⟩
        have first_wellFormed := wellFormed first_read
        rcases Option.bind_eq_some_iff.mp taken with ⟨following, _, taken⟩
        split at taken
        · cases taken
          simpa using first_wellFormed
        · split at taken
          · rename_i shorter
            rcases Option.bind_eq_some_iff.mp taken with ⟨⟨others, behind⟩, others_read, result⟩
            cases result
            exact List.forall_mem_cons.mpr ⟨first_wellFormed, ih _ shorter others_read⟩
          · cases taken
        · cases taken

theorem readAssignment_wellFormed {read : Reader Value} (wellFormed : read.GivesWellFormed)
    {input rest : List Char} {names : List String} {value : Value}
    (taken : readAssignment read input = some ((names, value), rest)) : value.WellFormed := by
  unfold readAssignment at taken
  rcases Option.bind_eq_some_iff.mp taken with ⟨⟨key, behind⟩, _, taken⟩
  dsimp only at taken
  split at taken
  · rcases Option.bind_eq_some_iff.mp taken with ⟨⟨assigned, behind⟩, assigned_read, result⟩
    cases result
    exact wellFormed assigned_read
  · cases taken

theorem readInlineEntries_wellFormed {read : Reader Value} (wellFormed : read.GivesWellFormed)
    {input rest : List Char} {before after : Entries} (before_wellFormed : before.WellFormed)
    (taken : readInlineEntries read before input = some (after, rest)) : after.WellFormed := by
  induction before, input using readInlineEntries.induct generalizing after rest with
  | case1 before input ih =>
      unfold readInlineEntries at taken
      rcases Option.bind_eq_some_iff.mp taken with ⟨⟨⟨names, value⟩, behind⟩, value_read, taken⟩
      rcases Option.bind_eq_some_iff.mp taken with ⟨entries, inserted, taken⟩
      have entries_wellFormed := Entries.wellFormed_insert inserted before_wellFormed
        (readAssignment_wellFormed wellFormed value_read)
      split at taken
      · cases taken
        exact entries_wellFormed
      · split at taken
        · rename_i shorter
          exact ih _ _ shorter entries_wellFormed taken
        · cases taken
      · cases taken

theorem readInlineTable_wellFormed {read : Reader Value} (wellFormed : read.GivesWellFormed) :
    Reader.GivesWellFormed (readInlineTable read) := by
  intro input value rest taken
  unfold readInlineTable at taken
  split at taken
  · cases taken
    exact .table List.nodup_nil (by simp)
  · rcases Option.bind_eq_some_iff.mp taken with ⟨⟨entries, behind⟩, entries_read, result⟩
    cases result
    exact Entries.wellFormed_toValue_iff.mpr
      (readInlineEntries_wellFormed wellFormed Entries.wellFormed_nil entries_read)

theorem readValue_wellFormed (levels : Nat) : Reader.GivesWellFormed (readValue levels) := by
  induction levels with
  | zero => exact readScalar_wellFormed
  | succ levels ih =>
      intro input value rest taken
      unfold readValue at taken
      split at taken
      · rcases Option.bind_eq_some_iff.mp taken with ⟨⟨elements, behind⟩, elements_read, result⟩
        cases result
        exact .array (readElements_wellFormed ih elements_read)
      · exact readInlineTable_wellFormed ih taken
      · exact readScalar_wellFormed taken

/-! ## Reading documents -/

/-- The value of an assignment is well formed. -/
def Statement.WellFormed : Statement → Prop
  | .assign _ value => value.WellFormed
  | .openTable _ => True
  | .openElement _ => True

theorem readStatement_wellFormed {input rest : List Char} {statement : Statement}
    (taken : readStatement input = some (statement, rest)) : statement.WellFormed := by
  unfold readStatement at taken
  split at taken
  · rcases Option.bind_eq_some_iff.mp taken with ⟨⟨names, behind⟩, _, taken⟩
    dsimp only at taken
    split at taken
    · cases taken
      trivial
    · cases taken
  · rcases Option.bind_eq_some_iff.mp taken with ⟨⟨names, behind⟩, _, taken⟩
    dsimp only at taken
    split at taken
    · cases taken
      trivial
    · cases taken
  · rcases Option.bind_eq_some_iff.mp taken with ⟨⟨⟨names, value⟩, behind⟩, value_read, result⟩
    cases result
    exact readAssignment_wellFormed (readValue_wellFormed deepest) value_read

theorem readStatements_wellFormed {input : List Char} {statements : List Statement}
    (taken : readStatements input = some statements) :
    ∀ statement ∈ statements, statement.WellFormed := by
  induction input using readStatements.induct generalizing statements with
  | case1 input ih =>
      unfold readStatements at taken
      rcases Option.bind_eq_some_iff.mp taken with ⟨start, _, taken⟩
      split at taken
      · cases taken
        simp
      · rcases Option.bind_eq_some_iff.mp taken with ⟨⟨first, behind⟩, first_read, taken⟩
        rcases Option.bind_eq_some_iff.mp taken with ⟨next, _, taken⟩
        split at taken
        · rename_i shorter
          rcases Option.bind_eq_some_iff.mp taken with ⟨others, others_read, result⟩
          cases result
          exact List.forall_mem_cons.mpr
            ⟨readStatement_wellFormed first_read, ih _ shorter others_read⟩
        · cases taken

theorem Construction.step_wellFormed {before after : Construction} {statement : Statement}
    (stepped : before.step statement = some after) (wellFormed : before.entries.WellFormed)
    (statement_wellFormed : statement.WellFormed) : after.entries.WellFormed := by
  cases statement with
  | assign names value =>
      rcases Option.bind_eq_some_iff.mp stepped with ⟨entries, inserted, result⟩
      cases result
      exact Entries.wellFormed_insertAt inserted wellFormed statement_wellFormed
  | openTable names =>
      rcases Option.bind_eq_some_iff.mp stepped with ⟨entries, opened, result⟩
      cases result
      exact Entries.wellFormed_openTable opened wellFormed
  | openElement names =>
      rcases Option.bind_eq_some_iff.mp stepped with ⟨entries, opened, result⟩
      cases result
      exact Entries.wellFormed_openElement opened wellFormed

theorem Construction.steps_wellFormed {before after : Construction} {statements : List Statement}
    (stepped : statements.foldlM Construction.step before = some after)
    (wellFormed : before.entries.WellFormed)
    (statements_wellFormed : ∀ statement ∈ statements, statement.WellFormed) :
    after.entries.WellFormed := by
  induction statements generalizing before with
  | nil =>
      cases stepped
      exact wellFormed
  | cons statement rest ih =>
      rcases Option.bind_eq_some_iff.mp stepped with ⟨middle, first, later⟩
      rcases List.forall_mem_cons.mp statements_wellFormed with ⟨first_wellFormed, rest_wellFormed⟩
      exact ih later (step_wellFormed first wellFormed first_wellFormed) rest_wellFormed

/-- The values of a document are well formed. -/
theorem parse?_wellFormed {text : String} {entries : List (String × Value)}
    (parsed : parse? text = some entries) : (Value.table entries).WellFormed := by
  rcases Option.bind_eq_some_iff.mp parsed with ⟨statements, statements_read, described⟩
  rcases Option.bind_eq_some_iff.mp described with ⟨construction, constructed, result⟩
  cases result
  rw [Entries.wellFormed_toValue_iff]
  refine Construction.steps_wellFormed constructed Entries.wellFormed_nil ?_
  unfold statementsOf at statements_read
  split at statements_read
  · exact readStatements_wellFormed statements_read
  · exact readStatements_wellFormed statements_read

end BenchTree.Toml
