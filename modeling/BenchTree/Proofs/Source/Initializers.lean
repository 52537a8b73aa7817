import BenchTree.Proofs.Run.Counting
import BenchTree.Proofs.Source.Main

/-!
# Where initializers are mentioned

The name of an initializer stands in three files of a tree: the entry header of its module, which
declares it, the entry source, which defines it, and the main source, which calls it. It stands
there once, and no other file has a name that begins like that of an initializer. That a text has no
such name follows from one letter which the name has and the text has not. Where the letter stands
in the name only, there is just one place to look at.
-/

namespace BenchTree

/-- A module's library has the name of its directory. -/
theorem Description.libraryName_eq_moduleDirectory : libraryName = Source.moduleDirectory := rfl

namespace Source

/-- Where a text has a name that begins like those of initializers. -/
def mentions (text : String) : List Nat := Text.occurrences "initModule".toList text.toList

/-- Where a text has the name of a module's initializer, with a parenthesis behind it. -/
def mentionsOf (module : Nat) (text : String) : List Nat :=
  Text.occurrences (initializerName module ++ "(").toList text.toList

/-- The text mentions one initializer, that of the module, once. -/
def MentionsOnly (module : Nat) (text : String) : Prop :=
  ∃ offset, mentions text = [offset] ∧
    (initializerName module ++ "(").toList <+: text.toList.drop offset

/-- The files that mention the initializer of a module, and how often they do. -/
def mentioning (module : Nat) (files : List (Path × String)) : List (Path × Nat) :=
  (files.filter fun file => mentionsOf module file.2 ≠ []).map fun file =>
    (file.1, (mentionsOf module file.2).length)

/-- Each initializer is mentioned where it is declared, defined and called, and no others are. -/
structure MentionedInEntries (files : List (Path × String)) (root : Path) (shape : Shape) :
    Prop where
  within : ∀ module < shape.modules, (mentioning module files).Perm
    [(Tree.headerPath (Tree.modulePath root module) 0, 1),
      (Tree.sourcePath (Tree.modulePath root module) 0, 1), (Tree.mainPath root, 1)]
  beyond : ∀ module, shape.modules ≤ module → mentioning module files = []

theorem toList_mentioned (module : Nat) :
    (initializerName module ++ "(").toList =
      "initModule".toList ++ (Nat.toDigits 10 module ++ '(' :: []) := by
  simp

section

variable {text : String} {mark : Char}

theorem mentions_eq_nil (mark_mem : mark ∈ "initModule".toList) (plain : mark ∉ text.toList) :
    mentions text = [] :=
  Text.occurrences_of_not_mem mark_mem plain

theorem mentionsOf_eq_nil (mark_mem : mark ∈ "initModule".toList) (plain : mark ∉ text.toList)
    (module : Nat) : mentionsOf module text = [] := by
  rw [mentionsOf, toList_mentioned]
  exact Text.occurrences_of_not_mem (List.mem_append_left _ mark_mem) plain

end

/-- A letter of the stem stands in the text of a file only where the entry file of its module names
the initializer. -/
structure Marks (mark : Char) (text : String) (module file : Nat) : Prop where
  once : "initModule".toList.count mark = 1
  no_digit : mark.isDigit = false
  entry : file = 0 → ∃ before after,
    text.toList = before ++ ("initModule".toList ++ (Nat.toDigits 10 module ++ '(' :: after)) ∧
      mark ∉ before ∧ mark ∉ '(' :: after
  plain : file ≠ 0 → mark ∉ text.toList

namespace Marks

variable {mark : Char} {text : String} {module file : Nat} (marks : Marks mark text module file)

include marks

theorem mark_mem : mark ∈ "initModule".toList := by
  apply List.count_pos_iff.mp
  rw [marks.once]
  exact Nat.one_pos

theorem mentionsOnly (entry : file = 0) : MentionsOnly module text := by
  rcases marks.entry entry with ⟨before, after, spelled, before_plain, after_plain⟩
  have numbered_plain : mark ∉ Nat.toDigits 10 module ++ '(' :: after := by
    rw [List.mem_append, not_or]
    exact ⟨Text.not_mem_numeral marks.no_digit, after_plain⟩
  refine ⟨before.length, ?_, ?_⟩
  · have found := Text.occurrences_of_mark marks.once before_plain numbered_plain []
    rwa [List.append_nil, ← spelled, List.isPrefixOf_nil_left, if_pos rfl] at found
  · rw [toList_mentioned, spelled, List.drop_left]
    exact ⟨after, by simp⟩

theorem mentions_ne_nil_iff : mentions text ≠ [] ↔ file = 0 := by
  constructor
  · intro mentioned
    by_contra no_entry
    exact mentioned (mentions_eq_nil marks.mark_mem (marks.plain no_entry))
  · intro entry
    rcases marks.mentionsOnly entry with ⟨offset, found, _⟩
    rw [found]
    exact List.cons_ne_nil _ _

theorem length_mentionsOf (other : Nat) :
    (mentionsOf other text).length = if module = other ∧ file = 0 then 1 else 0 := by
  by_cases entry : file = 0
  · rcases marks.entry entry with ⟨before, after, spelled, before_plain, after_plain⟩
    have found : mentionsOf other text = if module = other then [before.length] else [] := by
      rw [mentionsOf, toList_mentioned, spelled]
      exact Text.occurrences_of_numbered_mark marks.once before_plain after_plain marks.no_digit
        (by decide) (Text.endsNumeral_cons (by decide) _) fun _ => ⟨after, rfl⟩
    rw [found]
    by_cases same : module = other <;> simp [same, entry]
  · rw [mentionsOf_eq_nil marks.mark_mem (marks.plain entry)]
    simp [entry]

end Marks

theorem toList_entryHeader (module : Nat) :
    (header module 0).toList =
      ("#ifndef " ++ includeGuard module 0 ++ "\n#define " ++ includeGuard module 0
        ++ "\n__attribute__ ((visibility(\"default\"))) int ").toList
      ++ ("initModule".toList ++ (Nat.toDigits 10 module
        ++ '(' :: "int);\nint func0(int a, int b);\n#endif\n".toList)) := by
  have zero : Nat.toDigits 10 0 = ['0'] := rfl
  rw [header, toList_unlines]
  simp [initializerDeclaration, zero]

theorem toList_entrySource (module : Nat) (shape : Shape) :
    (source module 0 shape).toList =
      ((shape.dependencies 0).map includeLine).flatMap (fun line => line.toList ++ ['\n'])
        ++ "int func0(int a, int b) \x7b\n    return a + b".toList
        ++ (shape.dependencies 0).flatMap (fun dependency => (callTerm dependency).toList)
        ++ ";\n\x7d\nint ".toList
      ++ ("initModule".toList ++ (Nat.toDigits 10 module
        ++ '(' :: "int a) \x7b\n    return func0(a, a + 1);\n\x7d\n".toList)) := by
  have zero : Nat.toDigits 10 0 = ['0'] := rfl
  rw [source, toList_unlines]
  simp [initializerDefinition, zero, List.flatMap_map]

/-- Up to the end of the guards, and in attributes and declarations, there is no such letter. -/
theorem marks_header (module file : Nat) : Marks 'o' (header module file) module file where
  once := by decide
  no_digit := by decide
  entry := by
    rintro rfl
    exact ⟨_, _, toList_entryHeader module, by simp [Text.not_mem_numeral], by decide⟩
  plain := by
    intro no_entry
    rw [header, toList_unlines]
    simp [initializerDeclaration, no_entry, Text.not_mem_numeral]

/-- Includes, definitions and calls are all in small letters. -/
theorem marks_source (module file : Nat) (shape : Shape) :
    Marks 'M' (source module file shape) module file where
  once := by decide
  no_digit := by decide
  entry := by
    rintro rfl
    exact ⟨_, _, toList_entrySource module shape,
      by simp [includeLine, callTerm, Text.not_mem_numeral], by decide⟩
  plain := by
    intro no_entry
    rw [source, toList_unlines]
    simp [initializerDefinition, no_entry, includeLine, callTerm, Text.not_mem_numeral]

theorem moduleDescription_plain (backend : Backend) (module files : Nat) :
    'M' ∉ (Description.module backend module files).toList := by
  have name_plain : 'M' ∉ (Description.libraryName module).toList := by
    rw [Description.libraryName_eq_moduleDirectory]
    simp [Text.not_mem_numeral]
  cases backend with
  | cmake => simp [Description.module, Description.CMake.module, name_plain, Text.not_mem_numeral]
  | meique =>
      simp [Description.module, Description.Meique.module, name_plain, toList_unlines,
        Text.not_mem_numeral]

theorem not_mem_intercalate {character : Char} {separator : List Char} {parts : List (List Char)}
    (separator_plain : character ∉ separator) (plain : ∀ part ∈ parts, character ∉ part) :
    character ∉ separator.intercalate parts := by
  cases parts with
  | nil => simp
  | cons first rest =>
      rw [List.forall_mem_cons] at plain
      rw [Text.intercalate_cons]
      simpa [plain.1, separator_plain] using plain.2

theorem rootDescription_plain (backend : Backend) (modules : Nat) :
    'M' ∉ (Description.root backend modules).toList := by
  cases backend with
  | cmake =>
      simp [Description.root, Description.CMake.root, Description.CMake.arguments,
        Description.libraryName_eq_moduleDirectory, Description.executableName, mainName,
        toList_unlines, List.flatMap_map, Text.not_mem_numeral]
  | meique =>
      have directories_plain : 'M' ∉ [',', ' '].intercalate ((List.range modules).map
          fun module => (Description.Meique.quoted (moduleDirectory module)).toList) := by
        apply not_mem_intercalate (by decide)
        simp [Description.Meique.quoted, Text.not_mem_numeral]
      simpa [Description.root, Description.Meique.root, Description.Meique.useLines,
        Description.Meique.quoted, List.zip_map', Description.libraryName_eq_moduleDirectory,
        Description.executableName, mainName, toList_unlines, List.flatMap_map,
        List.flatMap_assoc, Text.not_mem_numeral, Function.comp_def] using directories_plain

theorem length_mentionsOf_main (modules module : Nat) :
    (mentionsOf module (main modules)).length = if module < modules then 1 else 0 := by
  have begins : '(' :: [] <+: '(' :: (Nat.toDigits 10 module ++ ");\n".toList) := ⟨_, rfl⟩
  rw [mentionsOf, toList_mentioned, occurrences_initializer_main (by decide) begins]
  split <;> rfl

end Source

namespace Artifact

variable {root : Path} {shape : Shape} {backends : List Backend}

/-- The artifacts that mention the initializer of a module. -/
def mentioners (module : Nat) : List Artifact := [.header module 0, .source module 0, .main]

theorem length_mentionsOf_text {artifact : Artifact} (belongs : artifact.Belongs shape backends)
    (module : Nat) :
    (Source.mentionsOf module (artifact.text shape)).length =
      if module < shape.modules ∧ artifact ∈ mentioners module then 1 else 0 := by
  cases artifact with
  | main => simp [text, Source.length_mentionsOf_main, mentioners]
  | header other file =>
      have other_lt : other < shape.modules := belongs.1
      rw [text, (Source.marks_header other file).length_mentionsOf]
      apply if_congr _ rfl rfl
      simp only [mentioners, List.mem_cons, header.injEq, reduceCtorEq, List.not_mem_nil, or_false]
      constructor
      · rintro ⟨rfl, entry⟩
        exact ⟨other_lt, rfl, entry⟩
      · exact And.right
  | source other file =>
      have other_lt : other < shape.modules := belongs.1
      rw [text, (Source.marks_source other file shape).length_mentionsOf]
      apply if_congr _ rfl rfl
      simp only [mentioners, List.mem_cons, source.injEq, reduceCtorEq, List.not_mem_nil, or_false,
        false_or]
      constructor
      · rintro ⟨rfl, entry⟩
        exact ⟨other_lt, rfl, entry⟩
      · exact And.right
  | moduleDescription other backend =>
      rw [text, Source.mentionsOf_eq_nil (by decide) (Source.moduleDescription_plain _ _ _)]
      simp [mentioners]
  | rootDescription backend =>
      rw [text, Source.mentionsOf_eq_nil (by decide) (Source.rootDescription_plain _ _)]
      simp [mentioners]

/-- The artifacts of a tree that mention the initializer of a module, up to order. -/
theorem filter_mentionsOf_perm (distinct : backends.Nodup) (hasFiles : 0 < shape.filesPerModule)
    (module : Nat) :
    ((ofTree shape backends).filter
      fun artifact => Source.mentionsOf module (artifact.text shape) ≠ []).Perm
      (if module < shape.modules then mentioners module else []) := by
  have mentioned_iff : ∀ artifact : Artifact, artifact.Belongs shape backends →
      (Source.mentionsOf module (artifact.text shape) ≠ [] ↔
        module < shape.modules ∧ artifact ∈ mentioners module) := by
    intro artifact belongs
    rw [← List.length_pos_iff_ne_nil, length_mentionsOf_text belongs]
    split <;> simp [*]
  rw [List.perm_ext_iff_of_nodup ((nodup_ofTree distinct shape).filter _)]
  · intro artifact
    rw [List.mem_filter, mem_ofTree, decide_eq_true_eq, List.mem_ite_nil_right]
    constructor
    · rintro ⟨belongs, mentioned⟩
      exact (mentioned_iff artifact belongs).mp mentioned
    · rintro ⟨module_lt, mentioner⟩
      have belongs : artifact.Belongs shape backends := by
        simp only [mentioners, List.mem_cons, List.not_mem_nil, or_false] at mentioner
        rcases mentioner with rfl | rfl | rfl
        · exact ⟨module_lt, hasFiles⟩
        · exact ⟨module_lt, hasFiles⟩
        · trivial
      exact ⟨belongs, (mentioned_iff artifact belongs).mpr ⟨module_lt, mentioner⟩⟩
  · split
    · simp [mentioners]
    · exact List.nodup_nil

end Artifact

/-- In a tree each initializer is mentioned once in each of three files, and nowhere else. -/
theorem Store.IsTree.mentionedInEntries {store : Store} {root : Path} {shape : Shape}
    {backends : List Backend} (tree : store.IsTree root shape backends) (distinct : backends.Nodup)
    (hasFiles : 0 < shape.filesPerModule) :
    Source.MentionedInEntries store.fileList root shape := by
  have counted : ∀ module, (Source.mentioning module store.fileList).Perm
      ((if module < shape.modules then Artifact.mentioners module else []).map fun artifact =>
        (artifact.path root, (Source.mentionsOf module (artifact.text shape)).length)) := by
    intro module
    have kept := tree.files.filter fun file => Source.mentionsOf module file.2 ≠ []
    rw [List.filter_map] at kept
    have listed := kept.map fun file => (file.1, (Source.mentionsOf module file.2).length)
    rw [List.map_map] at listed
    exact listed.trans ((Artifact.filter_mentionsOf_perm distinct hasFiles module).map _)
  constructor
  · intro module module_lt
    have once := counted module
    rw [if_pos module_lt] at once
    simpa [Artifact.mentioners, Artifact.path, Artifact.text, Source.length_mentionsOf_main,
      (Source.marks_header module 0).length_mentionsOf,
      (Source.marks_source module 0 shape).length_mentionsOf, module_lt] using once
  · intro module beyond
    have never := counted module
    rw [if_neg (by omega)] at never
    exact List.perm_nil.mp never

/-- Headers and sources mention an initializer only for the entry file, once and by the number of
the module, and descriptions mention none. In whatever order the workers take their turns, in the
tree that is left each initializer is mentioned in the three files that declare, define and call
it. -/
theorem initializers_mentioned_in_entries :
    (∀ module file,
      (Source.mentions (Source.header module file) ≠ [] ↔ file = 0) ∧
      (file = 0 → Source.MentionsOnly module (Source.header module file))) ∧
    (∀ module file shape, 0 < shape.filesPerModule →
      ∃ text, Source.source? module file shape = .ok text ∧
        (Source.mentions text ≠ [] ↔ file = 0) ∧ (file = 0 → Source.MentionsOnly module text)) ∧
    (∀ backend module files,
      Source.mentions (Description.module backend module files) = []) ∧
    (∀ backend modules, Source.mentions (Description.root backend modules) = []) ∧
    ∀ (shape : Shape) (backends : List Backend) (parallel : Bool) (root : Path)
      (recording : Bool), shape.validate = .ok () →
      let generator := Generator.create shape backends parallel
      let own := generator.run Store.sink root recording .empty
      generator.MayEnd Store.sink root recording .empty own.1 own.2 ∧
      ∀ result final, generator.MayEnd Store.sink root recording .empty result final →
        (∃ manifest, result = .ok manifest) ∧
          Source.MentionedInEntries final.fileList root shape := by
  refine ⟨?_, ?_, ?_, ?_, ?_⟩
  · intro module file
    have marks := Source.marks_header module file
    exact ⟨marks.mentions_ne_nil_iff, marks.mentionsOnly⟩
  · intro module file shape hasFiles
    have marks := Source.marks_source module file shape
    exact ⟨_, Source.source?_eq_ok hasFiles, marks.mentions_ne_nil_iff, marks.mentionsOnly⟩
  · intro backend module files
    exact Source.mentions_eq_nil (by decide) (Source.moduleDescription_plain backend module files)
  · intro backend modules
    exact Source.mentions_eq_nil (by decide) (Source.rootDescription_plain backend modules)
  · intro shape backends parallel root recording valid generator own
    refine ⟨generator.mayEnd_run Store.sink root recording .empty, ?_⟩
    intro result final mayEnd
    rcases mayEnd.exists_perm valid with ⟨calls, perm, rfl, succeeded⟩
    have distinct := Backend.nodup_distinct backends
    have tree := Store.isTree_after distinct perm
    exact ⟨⟨_, succeeded⟩,
      tree.mentionedInEntries distinct ((Shape.validate_eq_ok_iff shape).mp valid).1⟩

/-- The initializer of module 1 is not taken for that of module 11. -/
theorem initializers_mentioned_in_entries_twelve_modules :
    Shape.validate ⟨3, 2, 12⟩ = .ok () ∧ 0 < (⟨3, 2, 12⟩ : Shape).filesPerModule ∧
      (∃ text, Source.source? 11 0 ⟨3, 2, 12⟩ = .ok text ∧ Source.MentionsOnly 11 text) ∧
      (Source.mentioning 1 ((Generator.create ⟨3, 2, 12⟩ [.cmake, .meique] true).run Store.sink
        ⟨"out"⟩ true .empty).2.fileList).Perm
        [(Tree.headerPath (Tree.modulePath ⟨"out"⟩ 1) 0, 1),
          (Tree.sourcePath (Tree.modulePath ⟨"out"⟩ 1) 0, 1), (Tree.mainPath ⟨"out"⟩, 1)] := by
  have valid : Shape.validate ⟨3, 2, 12⟩ = .ok () := rfl
  have hasFiles : 0 < (⟨3, 2, 12⟩ : Shape).filesPerModule := by decide
  rcases initializers_mentioned_in_entries with ⟨_, sources, _, _, trees⟩
  rcases sources 11 0 ⟨3, 2, 12⟩ hasFiles with ⟨text, rendered, _, only⟩
  rcases trees ⟨3, 2, 12⟩ [.cmake, .meique] true ⟨"out"⟩ true valid with ⟨run_ends, ends⟩
  exact ⟨valid, hasFiles, ⟨text, rendered, only rfl⟩, (ends _ _ run_ends).2.within 1 (by decide)⟩

end BenchTree
