import BenchTree.Manifest.Json
import BenchTree.Proofs.Json.Records

/-!
# Spellings of manifests

What it is for a text to spell a shape, a summary, a list of backends or a manifest: records are
spelled by objects or arrays, numbers by their digits, and names and paths by strings with escapes
or without. Whatever spells a value is read as that value.
-/

namespace BenchTree

open Json

variable {Result Content Partial : Type}

/-! ## Records of words -/

/-- The numbers of a shape fit into words. -/
structure Shape.IsWords (shape : Shape) : Prop where
  filesPerModule : shape.filesPerModule ≤ Word.largest
  fanout : shape.fanout ≤ Word.largest
  modules : shape.modules ≤ Word.largest

/-- The counts of a summary fit into words. -/
structure Summary.IsWords (summary : Summary) : Prop where
  modules : summary.modules ≤ Word.largest
  sources : summary.sources ≤ Word.largest
  descriptions : summary.descriptions ≤ Word.largest
  dependencyEdges : summary.dependencyEdges ≤ Word.largest

/-- All numbers of a manifest fit into words. -/
structure Manifest.IsWords (manifest : Manifest) : Prop where
  shape : manifest.shape.IsWords
  summary : manifest.summary.IsWords

/-! ## Spellings -/

/-- A token spells the field of a shape that has the given name. -/
def Shape.SpellsField (shape : Shape) (name : String) (token : List Char) : Prop :=
  match name with
  | "files_per_module" => SpellsNat token shape.filesPerModule
  | "fanout" => SpellsNat token shape.fanout
  | "modules" => SpellsNat token shape.modules
  | _ => False

/-- A token spells a shape. -/
def Shape.Spells (token : List Char) (shape : Shape) : Prop :=
  SpellsRecord ["files_per_module", "fanout", "modules"] shape.SpellsField token

/-- A token spells the field of a summary that has the given name. -/
def Summary.SpellsField (summary : Summary) (name : String) (token : List Char) : Prop :=
  match name with
  | "modules" => SpellsNat token summary.modules
  | "sources" => SpellsNat token summary.sources
  | "descriptions" => SpellsNat token summary.descriptions
  | "dependency_edges" => SpellsNat token summary.dependencyEdges
  | _ => False

/-- A token spells a summary. -/
def Summary.Spells (token : List Char) (summary : Summary) : Prop :=
  SpellsRecord ["modules", "sources", "descriptions", "dependency_edges"] summary.SpellsField token

/-- A token spells a list of backends by their names. -/
def Backend.ListSpells (token : List Char) (backends : List Backend) : Prop :=
  SpellsList (fun token backend => SpellsText token backend.name) token backends

/-- A token spells a list of paths by their texts. -/
def Path.ListSpells (token : List Char) (paths : List Path) : Prop :=
  SpellsList (fun token path => SpellsText token path.text) token paths

/-- A token spells the field of a manifest that has the given name. -/
def Manifest.SpellsField (manifest : Manifest) (name : String) (token : List Char) : Prop :=
  match name with
  | "params" => Shape.Spells token manifest.shape
  | "backends" => Backend.ListSpells token manifest.backends
  | "summary" => Summary.Spells token manifest.summary
  | "artifacts" => Path.ListSpells token manifest.artifacts
  | _ => False

/-- A token spells a manifest. -/
def Manifest.Spells (token : List Char) (manifest : Manifest) : Prop :=
  SpellsRecord ["params", "backends", "summary", "artifacts"] manifest.SpellsField token

/-! ## Fields -/

/-- The content of a field in the stage where the fields of some names are read. -/
def given (names : List String) (name : String) (content : Content) : Option Content :=
  if name ∈ names then some content else none

@[simp]
theorem isSome_given (names : List String) (name : String) (content : Content) :
    (given names name content).isSome = decide (name ∈ names) := by
  by_cases known : name ∈ names <;> simp [given, known]

theorem given_of_mem {names : List String} {name : String} (known : name ∈ names)
    (content : Content) : given names name content = some content :=
  if_pos known

theorem given_cons_self (names : List String) (name : String) (content : Content) :
    given (name :: names) name content = some content :=
  given_of_mem List.mem_cons_self content

theorem given_cons_of_ne {name other : String} (differ : name ≠ other) (names : List String)
    (content : Content) : given (other :: names) name content = given names name content := by
  simp [given, differ]

theorem reads_field {name : String} {get : Partial → Option Content}
    {set : Partial → Content → Partial} {read : Reader Content} {content : Content}
    {spells : List Char → Prop} {stage : List String → Partial}
    (got : ∀ names, get (stage names) = given names name content)
    (put : ∀ names, set (stage names) content = stage (name :: names))
    (takes : ∀ token, spells token → read.Takes token content) :
    (field name get set read).Reads spells stage where
  isRead names := by simp [field, got]
  takes names token spelled := by
    refine ⟨(takes token spelled).starts, fun blank ends => ?_⟩
    simp [field, (takes token spelled).takes blank ends, put, bind, Except.bind, pure, Except.pure]

theorem Json.ReadsFields.takes_completed {fields : List (RecordField Partial)}
    {spells : String → List Char → Prop} {stage : List String → Partial}
    (reads : ReadsFields fields spells stage) (name : String)
    {complete? : Partial → Option Result} {value : Result}
    (complete : ∀ names, fields.map RecordField.name ⊆ names →
      complete? (stage names) = some value)
    {token : List Char} (spelled : SpellsRecord (fields.map RecordField.name) spells token) :
    Reader.Takes (fun input => do
      let (record, rest) ← readRecord name fields (stage []) input
      completed (complete? record) rest) token value := by
  refine ⟨?_, fun {lead rest} blank _ => ?_⟩
  · cases spelled with
    | object _ _ => exact ⟨_, _, rfl, by decide, by decide⟩
    | array _ => exact ⟨_, _, rfl, by decide, by decide⟩
  · rcases reads.readRecord_spelled name spelled blank rest with ⟨names, all, record_read⟩
    simp [record_read, complete names all, completed, bind, Except.bind]

/-! ## Shapes and summaries -/

/-- What is read of a shape when the fields of the given names are. -/
def Shape.stage (shape : Shape) (names : List String) : PartialShape where
  filesPerModule := given names "files_per_module" shape.filesPerModule
  fanout := given names "fanout" shape.fanout
  modules := given names "modules" shape.modules

theorem Shape.readsFields {shape : Shape} (words : shape.IsWords) :
    ReadsFields PartialShape.fields shape.SpellsField shape.stage where
  nonempty := List.cons_ne_nil _ _
  distinct := by decide
  each := by
    simp only [PartialShape.fields, List.forall_mem_cons]
    refine ⟨?_, ?_, ?_, List.forall_mem_nil _⟩
    · refine reads_field (fun _ => rfl) (fun names => ?_) fun _ spelled =>
        takes_word spelled words.filesPerModule
      simp [stage, given_cons_self, given_cons_of_ne]
    · refine reads_field (fun _ => rfl) (fun names => ?_) fun _ spelled =>
        takes_word spelled words.fanout
      simp [stage, given_cons_self, given_cons_of_ne]
    · refine reads_field (fun _ => rfl) (fun names => ?_) fun _ spelled =>
        takes_word spelled words.modules
      simp [stage, given_cons_self, given_cons_of_ne]

theorem Shape.takes_spelled {shape : Shape} (words : shape.IsWords) {token : List Char}
    (spelled : Shape.Spells token shape) : Reader.Takes Shape.readJson token shape := by
  refine (readsFields words).takes_completed "Params" (fun names all => ?_) spelled
  have files_mem : "files_per_module" ∈ names := all (by decide)
  have fanout_mem : "fanout" ∈ names := all (by decide)
  have modules_mem : "modules" ∈ names := all (by decide)
  simp [PartialShape.complete?, stage, given_of_mem, files_mem, fanout_mem, modules_mem]

/-- What is read of a summary when the fields of the given names are. -/
def Summary.stage (summary : Summary) (names : List String) : PartialSummary where
  modules := given names "modules" summary.modules
  sources := given names "sources" summary.sources
  descriptions := given names "descriptions" summary.descriptions
  dependencyEdges := given names "dependency_edges" summary.dependencyEdges

theorem Summary.readsFields {summary : Summary} (words : summary.IsWords) :
    ReadsFields PartialSummary.fields summary.SpellsField summary.stage where
  nonempty := List.cons_ne_nil _ _
  distinct := by decide
  each := by
    simp only [PartialSummary.fields, List.forall_mem_cons]
    refine ⟨?_, ?_, ?_, ?_, List.forall_mem_nil _⟩
    · refine reads_field (fun _ => rfl) (fun names => ?_) fun _ spelled =>
        takes_word spelled words.modules
      simp [stage, given_cons_self, given_cons_of_ne]
    · refine reads_field (fun _ => rfl) (fun names => ?_) fun _ spelled =>
        takes_word spelled words.sources
      simp [stage, given_cons_self, given_cons_of_ne]
    · refine reads_field (fun _ => rfl) (fun names => ?_) fun _ spelled =>
        takes_word spelled words.descriptions
      simp [stage, given_cons_self, given_cons_of_ne]
    · refine reads_field (fun _ => rfl) (fun names => ?_) fun _ spelled =>
        takes_word spelled words.dependencyEdges
      simp [stage, given_cons_self, given_cons_of_ne]

theorem Summary.takes_spelled {summary : Summary} (words : summary.IsWords) {token : List Char}
    (spelled : Summary.Spells token summary) : Reader.Takes Summary.readJson token summary := by
  refine (readsFields words).takes_completed "Summary" (fun names all => ?_) spelled
  have modules_mem : "modules" ∈ names := all (by decide)
  have sources_mem : "sources" ∈ names := all (by decide)
  have descriptions_mem : "descriptions" ∈ names := all (by decide)
  have edges_mem : "dependency_edges" ∈ names := all (by decide)
  simp [PartialSummary.complete?, stage, given_of_mem, modules_mem, sources_mem, descriptions_mem,
    edges_mem]

/-! ## Lists of names and paths -/

theorem Backend.parse_name (backend : Backend) : parse backend.name = .ok backend := by
  cases backend <;> decide

/-- A text is read from whatever spells it, and the backend of its name is taken. -/
theorem Backend.takes_text {text : String} {backend : Backend} {token : List Char}
    (named : parse text = .ok backend) (spelled : SpellsText token text) :
    Reader.Takes Backend.readJson token backend := by
  have taken := Json.takes_text .string spelled
  refine ⟨taken.starts, fun blank ends => ?_⟩
  simp [readJson, taken.takes blank ends, named, bind, Except.bind, pure, Except.pure]

theorem Backend.refuses_text {text : String} {unknown : UnknownBackend} {token : List Char}
    (unnamed : parse text = .error unknown) (spelled : SpellsText token text) :
    Backend.readJson.Refuses token (.mismatch (.unknownBackend unknown)) := by
  have taken := Json.takes_text .string spelled
  refine ⟨taken.starts, fun blank ends => ?_⟩
  simp [readJson, taken.takes blank ends, unnamed, bind, Except.bind]

theorem Backend.takes_spelled {backend : Backend} {token : List Char}
    (spelled : SpellsText token backend.name) : Reader.Takes Backend.readJson token backend :=
  Backend.takes_text (parse_name backend) spelled

theorem Backend.list_takes_spelled {backends : List Backend} {token : List Char}
    (spelled : Backend.ListSpells token backends) :
    Reader.Takes Backend.readJsonList token backends :=
  takes_list spelled (List.forall₂_same.mpr fun _ _ _ => Backend.takes_spelled)

theorem Path.takes_spelled {path : Path} {token : List Char}
    (spelled : SpellsText token path.text) : Reader.Takes Path.readJson token path := by
  have taken := takes_text .path spelled
  refine ⟨taken.starts, fun blank ends => ?_⟩
  simp [readJson, taken.takes blank ends, bind, Except.bind, pure, Except.pure]

theorem Path.list_takes_spelled {paths : List Path} {token : List Char}
    (spelled : Path.ListSpells token paths) : Reader.Takes (readArray Path.readJson) token paths :=
  takes_list spelled (List.forall₂_same.mpr fun _ _ _ => Path.takes_spelled)

/-! ## Manifests -/

/-- What is read of a manifest when the fields of the given names are. -/
def Manifest.stage (manifest : Manifest) (names : List String) : PartialManifest where
  shape := given names "params" manifest.shape
  backends := given names "backends" manifest.backends
  summary := given names "summary" manifest.summary
  artifacts := given names "artifacts" manifest.artifacts

theorem Manifest.readsFields {manifest : Manifest} (words : manifest.IsWords) :
    ReadsFields PartialManifest.fields manifest.SpellsField manifest.stage where
  nonempty := List.cons_ne_nil _ _
  distinct := by decide
  each := by
    simp only [PartialManifest.fields, List.forall_mem_cons]
    refine ⟨?_, ?_, ?_, ?_, List.forall_mem_nil _⟩
    · refine reads_field (fun _ => rfl) (fun names => ?_) fun _ => Shape.takes_spelled words.shape
      simp [stage, given_cons_self, given_cons_of_ne]
    · refine reads_field (fun _ => rfl) (fun names => ?_) fun _ => Backend.list_takes_spelled
      simp [stage, given_cons_self, given_cons_of_ne]
    · refine reads_field (fun _ => rfl) (fun names => ?_) fun _ =>
        Summary.takes_spelled words.summary
      simp [stage, given_cons_self, given_cons_of_ne]
    · refine reads_field (fun _ => rfl) (fun names => ?_) fun _ => Path.list_takes_spelled
      simp [stage, given_cons_self, given_cons_of_ne]

theorem Manifest.takes_spelled {manifest : Manifest} (words : manifest.IsWords)
    {token : List Char} (spelled : Manifest.Spells token manifest) :
    Reader.Takes Manifest.readJson token manifest := by
  refine (readsFields words).takes_completed "Manifest" (fun names all => ?_) spelled
  have params_mem : "params" ∈ names := all (by decide)
  have backends_mem : "backends" ∈ names := all (by decide)
  have summary_mem : "summary" ∈ names := all (by decide)
  have artifacts_mem : "artifacts" ∈ names := all (by decide)
  simp [PartialManifest.complete?, stage, given_of_mem, params_mem, backends_mem, summary_mem,
    artifacts_mem]

/-! ## Documents -/

theorem Json.Padded.endsToken_trail (padded : Padded) : EndsToken padded.trail := by
  intro next is_head
  have next_blank := padded.trail_blank next (List.mem_of_mem_head? is_head)
  revert next_blank
  simp [isBlank]
  tauto

/-- A document is a token with blanks around it. -/
theorem parse_padded {read : Reader Result} (padded : Padded) {value : Result}
    (taken : read.Takes padded.token value) :
    Json.parse read (String.ofList padded.text) = .ok value := by
  have value_read := taken.takes padded.lead_blank padded.endsToken_trail
  have nothing_left : skipBlanks padded.trail = [] :=
    List.dropWhile_eq_nil_iff.mpr padded.trail_blank
  simp [Json.parse, Padded.text, value_read, nothing_left, bind, Except.bind, pure, Except.pure]

theorem parse_padded_refused {read : Reader Result} (padded : Padded) {problem : Json.Error}
    (refused : read.Refuses padded.token problem) :
    Json.parse read (String.ofList padded.text) = .error problem := by
  have refusal := refused.refuses padded.lead_blank padded.endsToken_trail
  simp [Json.parse, Padded.text, refusal, bind, Except.bind]

end BenchTree
