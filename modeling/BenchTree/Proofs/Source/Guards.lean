import BenchTree.Proofs.Run.Counting
import BenchTree.Proofs.Source.Main
import BenchTree.Proofs.Source.Preprocessor

/-!
# Include guards

A header is guarded by a name made of the numbers of its module and file. Different headers have
different guards, since each numeral in a guard ends where no digit follows. So a unit that includes
several headers, some of them more than once, is left with the declarations of all of them: a header
is left out only where its own guard is defined, and then it was kept before. This is shown of any
unit made of headers and other lines, and from it of every source of a tree.
-/

namespace BenchTree

namespace Source

/-- What stands between the guard of a header and its end. -/
def headerBody (module file : Nat) : List String :=
  initializerDeclaration module file ++ ["int func" ++ toString file ++ "(int a, int b);"]

/-- A text is guarded by a name: it begins with the condition that the name is not defined, then
defines it, and ends with the end of the group. There is no other directive. -/
structure Guarded (guard text : String) : Prop where
  begins : (Text.lines text.toList).take 2 =
    [("#ifndef " ++ guard).toList, ("#define " ++ guard).toList]
  ends : ∃ before, Text.lines text.toList = before ++ ["#endif".toList, []]
  directives : (Text.lines text.toList).filter isDirective =
    [("#ifndef " ++ guard).toList, ("#define " ++ guard).toList, "#endif".toList]

/-- The name that guards a text, by its first line. -/
def guard? (text : String) : Option String :=
  match (Text.lines text.toList).head?.bind directive? with
  | some (.unlessDefined name) => some name
  | _ => none

/-- The lines of a unit that includes headers, in this order, and has no guards of its own. -/
inductive Includes : List (Nat × Nat) → List (List Char) → Prop where
  | nothing : Includes [] []
  | ofHeader (module file : Nat) {headers : List (Nat × Nat)} {unit : List (List Char)}
      (rest : Includes headers unit) :
      Includes ((module, file) :: headers) (Text.lines (header module file).toList ++ unit)
  | ofLine {line : List Char} (plain : directive? line = none) {headers : List (Nat × Nat)}
      {unit : List (List Char)} (rest : Includes headers unit) :
      Includes headers (line :: unit)

/-- What a unit says when it has been preprocessed. -/
def preprocessed (unit : List (List Char)) : List Item := (preprocess [] [] unit).flatMap readLine

/-- A file that a text includes is found, and what it declares is declared in the unit. -/
def DeclaresIncluded (lookup : String → Option String) (text file : String) : Prop :=
  ∃ header, lookup file = some header ∧ ∀ function, .declares function ∈ items header →
    .declares function ∈ preprocessed (expand lookup text)

theorem includeGuard_inj {module other file otherFile : Nat} :
    includeGuard module file = includeGuard other otherFile ↔
      module = other ∧ file = otherFile := by
  constructor
  · intro same
    have spelled : ∀ module file, (includeGuard module file).toList = "MODULE".toList
        ++ (Nat.toDigits 10 module ++ '_' :: ("HEADER".toList
          ++ (Nat.toDigits 10 file ++ '_' :: ['H']))) := by
      simp
    rw [← String.toList_inj, spelled, spelled, List.append_cancel_left_eq,
      Text.numeral_append_inj (Text.endsNumeral_cons (by decide) _)
        (Text.endsNumeral_cons (by decide) _)] at same
    rcases same with ⟨same_module, same_rest⟩
    rw [List.cons_inj_right, List.append_cancel_left_eq,
      Text.numeral_append_inj (Text.endsNumeral_cons (by decide) _)
        (Text.endsNumeral_cons (by decide) _)] at same_rest
    exact ⟨same_module, same_rest.1⟩
  · rintro ⟨rfl, rfl⟩
    rfl

theorem isName_includeGuard (module file : Nat) : Text.IsName (includeGuard module file) := by
  have digits : ∀ number, ∀ digit ∈ Nat.toDigits 10 number, Text.isNameLetter digit = true := by
    intro number digit digit_mem
    have isDigit : digit.isDigit = true :=
      Nat.isDigit_of_mem_toDigits (by decide) (by decide) digit_mem
    simp [Text.isNameLetter, Char.isAlphanum, isDigit]
  constructor
  · rw [Ne, ← String.toList_inj]
    simp
  · rw [toList_includeGuard]
    simp only [List.forall_mem_append]
    exact ⟨⟨⟨⟨List.all_eq_true.mp (by decide), digits module⟩, List.all_eq_true.mp (by decide)⟩,
      digits file⟩, List.all_eq_true.mp (by decide)⟩

theorem headerBody_plain (module file : Nat) :
    ∀ line ∈ (headerBody module file).map String.toList, '#' ∉ line := by
  by_cases entry : file = 0
  · simp [headerBody, initializerDeclaration, entry, Text.not_mem_numeral]
  · simp [headerBody, initializerDeclaration, entry, Text.not_mem_numeral]

theorem lines_header (module file : Nat) :
    Text.lines (header module file).toList =
      ("#ifndef " ++ includeGuard module file).toList
        :: ("#define " ++ includeGuard module file).toList
        :: ((headerBody module file).map String.toList ++ "#endif".toList :: [[]]) := by
  have spelled : header module file = unlines
      (["#ifndef " ++ includeGuard module file, "#define " ++ includeGuard module file]
        ++ headerBody module file ++ ["#endif"]) := by
    simp [header, headerBody]
  have one_line : ∀ text ∈ ["#ifndef " ++ includeGuard module file,
      "#define " ++ includeGuard module file] ++ headerBody module file ++ ["#endif"],
      '\n' ∉ text.toList := by
    by_cases entry : file = 0
    · simp [headerBody, initializerDeclaration, entry, Text.not_mem_numeral]
    · simp [headerBody, initializerDeclaration, entry, Text.not_mem_numeral]
  rw [spelled, Text.lines_unlines one_line]
  simp only [List.map_append, List.map_cons, List.map_nil, List.append_assoc, List.cons_append,
    List.nil_append]

theorem guarded_header (module file : Nat) :
    Guarded (includeGuard module file) (header module file) := by
  constructor
  · rw [lines_header]
    rfl
  · rw [lines_header]
    exact ⟨_ :: _ :: (headerBody module file).map String.toList, rfl⟩
  · have opening : isDirective ("#ifndef " ++ includeGuard module file).toList = true := by
      rw [String.toList_append]
      rfl
    have definition : isDirective ("#define " ++ includeGuard module file).toList = true := by
      rw [String.toList_append]
      rfl
    have body_plain : ((headerBody module file).map String.toList).filter isDirective = [] := by
      rw [List.filter_eq_nil_iff]
      intro line line_mem
      rw [isDirective_of_not_mem (headerBody_plain module file line line_mem)]
      exact Bool.false_ne_true
    rw [lines_header, List.filter_cons_of_pos opening, List.filter_cons_of_pos definition,
      List.filter_append, body_plain]
    rfl

theorem guard?_header (module file : Nat) :
    guard? (header module file) = some (includeGuard module file) := by
  rw [guard?, lines_header, List.head?_cons, Option.bind_some,
    directive?_unlessDefined (isName_includeGuard module file).isWord]

theorem header_inj {module other file otherFile : Nat} :
    header module file = header other otherFile ↔ module = other ∧ file = otherFile := by
  constructor
  · intro same
    have guards := congrArg guard? same
    rwa [guard?_header, guard?_header, Option.some_inj, includeGuard_inj] at guards
  · rintro ⟨rfl, rfl⟩
    rfl

/-- What a header says is said between its guard and its end. -/
theorem items_headerBody (module file : Nat) :
    items (header module file) =
      ((headerBody module file).map String.toList).flatMap readLine := by
  have last : readLine "#endif".toList = [] := rfl
  have behind : readLine [] = [] := rfl
  rw [items, lines_header]
  simp only [List.flatMap_append, List.flatMap_cons, List.flatMap_nil, readLine_guard, last, behind,
    List.nil_append, List.append_nil]

theorem preprocess_header (defined : List String) (module file : Nat) (rest : List (List Char)) :
    preprocess defined [] (Text.lines (header module file).toList ++ rest) =
      if includeGuard module file ∈ defined then [] :: preprocess defined [] rest
      else (headerBody module file).map String.toList
        ++ [] :: preprocess (includeGuard module file :: defined) [] rest := by
  have plain : ∀ line ∈ (headerBody module file).map String.toList, directive? line = none :=
    fun line line_mem => directive?_of_not_mem (headerBody_plain module file line line_mem)
  have blank : ∀ names, preprocess names [] ([] :: rest) = [] :: preprocess names [] rest :=
    fun _ => rfl
  have spelled : Text.lines (header module file).toList ++ rest =
      ("#ifndef " ++ includeGuard module file).toList
        :: ("#define " ++ includeGuard module file).toList
        :: ((headerBody module file).map String.toList ++ "#endif".toList :: [] :: rest) := by
    rw [lines_header]
    simp only [List.cons_append, List.append_assoc, List.nil_append]
  rw [spelled, preprocess_guarded plain (isName_includeGuard module file).isWord, blank, blank]

/-- What a header says is kept in a unit that includes it, if its guard is not defined before. -/
theorem Includes.mem_preprocess {headers : List (Nat × Nat)} {unit : List (List Char)}
    (includes : Includes headers unit) {module file : Nat} (included : (module, file) ∈ headers)
    {defined : List String} (undefined : includeGuard module file ∉ defined) {item : Item}
    (said : item ∈ items (header module file)) :
    item ∈ (preprocess defined [] unit).flatMap readLine := by
  induction includes generalizing defined with
  | nothing => cases included
  | ofHeader other otherFile rest ih =>
      rw [preprocess_header]
      by_cases present : includeGuard other otherFile ∈ defined
      · -- The header here is left out, so it is not the one in question.
        rcases List.mem_cons.mp included with same | later
        · cases same
          exact absurd present undefined
        · rw [if_pos present, List.flatMap_cons]
          exact List.mem_append_right _ (ih later undefined)
      · rw [if_neg present, List.flatMap_append, ← items_headerBody]
        rcases List.mem_cons.mp included with same | later
        · cases same
          exact List.mem_append_left _ said
        · by_cases same : module = other ∧ file = otherFile
          · rcases same with ⟨rfl, rfl⟩
            exact List.mem_append_left _ said
          · have still_undefined :
                includeGuard module file ∉ includeGuard other otherFile :: defined := by
              rw [List.mem_cons, includeGuard_inj, not_or]
              exact ⟨same, undefined⟩
            rw [List.flatMap_cons]
            exact List.mem_append_right _ (List.mem_append_right _ (ih later still_undefined))
  | ofLine plain rest ih =>
      rw [preprocess, plain]
      exact List.mem_append_right _ (ih included undefined)

/-- What an included header declares is declared in the unit. -/
theorem Includes.declares {lookup : String → Option String} {text : String}
    {headers : List (Nat × Nat)} (includes : Includes headers (expand lookup text))
    {included : Nat × Nat} (included_mem : included ∈ headers) {file : String}
    (found : lookup file = some (header included.1 included.2)) :
    DeclaresIncluded lookup text file := by
  refine ⟨_, found, ?_⟩
  intro function declared
  exact includes.mem_preprocess included_mem List.not_mem_nil declared

theorem Includes.lines {others : List (List Char)} (plain : ∀ line ∈ others, '#' ∉ line) :
    Includes [] others := by
  induction others with
  | nil => exact .nothing
  | cons first rest ih =>
      rw [List.forall_mem_cons] at plain
      exact .ofLine (directive?_of_not_mem plain.1) (ih plain.2)

/-- A text that begins with lines that include headers becomes a unit that includes them. -/
theorem includes_expand {lookup : String → Option String} {text : String}
    {headers : List (Nat × Nat)} {spell : Nat × Nat → String} {others : List (List Char)}
    (spelled : Text.lines text.toList =
      headers.map (fun header => ("#include \"" ++ spell header ++ "\"").toList) ++ others)
    (one_quotation : ∀ header, '"' ∉ (spell header).toList)
    (found : ∀ included ∈ headers,
      lookup (spell included) = some (header included.1 included.2))
    (plain : ∀ line ∈ others, '#' ∉ line) : Includes headers (expand lookup text) := by
  have others_expanded : others.flatMap (expandLine lookup) = others := by
    rw [List.flatMap_congr fun line line_mem => expandLine_of_not_mem (plain line line_mem) lookup]
    exact List.flatMap_singleton' others
  rw [expand, spelled, List.flatMap_append, others_expanded]
  clear spelled
  induction headers with
  | nil => exact .lines plain
  | cons first rest ih =>
      rw [List.forall_mem_cons] at found
      have expanded : expandLine lookup ("#include \"" ++ spell first ++ "\"").toList =
          Text.lines (header first.1 first.2).toList := by
        rw [expandLine, readLine_include (one_quotation first)]
        simp only [found.1, Option.map_some, Option.getD_some]
      rw [List.map_cons, List.flatMap_cons, expanded, List.append_assoc]
      exact .ofHeader first.1 first.2 (ih found.2)

/-- The main source becomes a unit that includes every entry header. -/
theorem includes_expand_main {lookup : String → Option String} (modules : Nat)
    (found : ∀ module < modules,
      lookup (moduleDirectory module ++ "/0.h") = some (header module 0)) :
    Includes ((List.range modules).map fun module => (module, 0))
      (expand lookup (main modules)) := by
  have lines_spelled : Text.lines (main modules).toList =
      ((List.range modules).map fun module => (module, 0)).map (fun included =>
        ("#include \"" ++ (moduleDirectory included.1 ++ "/0.h") ++ "\"").toList)
      ++ ((mainBody modules).map String.toList ++ [[]]) := by
    rw [lines_main]
    simp
  apply includes_expand lines_spelled
  · simp [Text.not_mem_numeral]
  · simpa using found
  · exact mainBody_plain modules

/-- The source of a file becomes a unit that includes the headers of its dependencies. -/
theorem includes_expand_source {lookup : String → Option String} (module file : Nat)
    (shape : Shape)
    (found : ∀ dependency ∈ shape.dependencies file,
      lookup (headerName dependency) = some (header module dependency)) :
    Includes ((shape.dependencies file).map fun dependency => (module, dependency))
      (expand lookup (source module file shape)) := by
  have lines_spelled : Text.lines (source module file shape).toList =
      ((shape.dependencies file).map fun dependency => (module, dependency)).map (fun included =>
        ("#include \"" ++ headerName included.2 ++ "\"").toList)
      ++ ((["int func" ++ toString file ++ "(int a, int b) \x7b",
          "    return a + b" ++ String.join ((shape.dependencies file).map callTerm) ++ ";", "\x7d"]
        ++ initializerDefinition module file).map String.toList ++ [[]]) := by
    rw [lines_source]
    simp [includeLine]
  apply includes_expand lines_spelled
  · simp [Text.not_mem_numeral]
  · simpa using found
  · by_cases entry : file = 0
    · simp [or_imp, forall_and, initializerDefinition, entry, callTerm, Text.not_mem_numeral]
    · simp [or_imp, forall_and, initializerDefinition, entry, callTerm, Text.not_mem_numeral]

end Source

namespace Store

/-- The headers in a store. -/
def headers (store : Store) : List (Path × String) :=
  store.fileList.filter fun file => file.1.EndsIn ".h"

/-- The headers in a store are guarded by different names, and what they declare is declared in
every source that includes them. -/
structure GuardsApart (store : Store) (shape : Shape) : Prop where
  count : store.headers.length = shape.modules * shape.filesPerModule
  guarded : ∀ file ∈ store.headers, ∃ guard,
    Source.guard? file.2 = some guard ∧ Source.Guarded guard file.2
  guards : (store.headers.map fun file => Source.guard? file.2).Nodup
  texts : (store.headers.map Prod.snd).Nodup
  /-- Included files are looked for in the directory of the source. -/
  declared : ∀ path text directory, (path, text) ∈ store.fileList → path.EndsIn ".c" →
    path.LiesIn directory → ∀ file, .includes file ∈ Source.items text →
    Source.DeclaresIncluded (fun name => store.get? (directory.join name)) text file

end Store

namespace Artifact

variable {root : Path} {artifact : Artifact}

/-- The headers of a tree are those of the files. -/
theorem endsIn_header_iff :
    (artifact.path root).EndsIn ".h" ↔ ∃ module file, artifact = .header module file := by
  constructor
  · intro header
    rcases endsIn_iff.mp header with ⟨name, last, before, spelled⟩
    have letters : name.toList.getLast? = some 'h' := by simp [← spelled]
    -- No other kind of artifact has a name that ends in this letter.
    cases artifact with
    | main =>
        rw [names, List.getLast?_singleton, Option.some_inj] at last
        simp [← last, Source.mainName] at letters
    | header module file => exact ⟨module, file, rfl⟩
    | source module file =>
        rw [names, List.getLast?_cons_cons, List.getLast?_singleton, Option.some_inj] at last
        simp [← last] at letters
    | moduleDescription module backend =>
        exact absurd header (not_endsIn_moduleDescription (.inl rfl))
    | rootDescription backend =>
        rw [names, List.getLast?_singleton, Option.some_inj] at last
        cases backend <;> simp [← last, Backend.fileName] at letters
  · rintro ⟨module, file, rfl⟩
    exact endsIn_header module file

end Artifact

/-- A file lies directly in one directory only. -/
theorem Path.LiesIn.same {path left right : Path} (inside_left : path.LiesIn left)
    (inside_right : path.LiesIn right) : left.Same right := by
  rcases inside_left with ⟨name, spelled⟩
  rcases inside_right with ⟨other, same⟩
  rw [spelled] at same
  exact (List.append_inj' same rfl).1

theorem Store.nodup_headers (store : Store) : store.headers.Nodup :=
  ((pairwise_fileList store).imp fun before same => before.ne (by rw [same])).filter _

namespace Store.IsTree

variable {store : Store} {root : Path} {shape : Shape} {backends : List Backend}
  (tree : store.IsTree root shape backends)

include tree

theorem mem_fileList {file : Path × String} :
    file ∈ store.fileList ↔ ∃ artifact : Artifact, artifact.Belongs shape backends ∧
      (artifact.path root, artifact.text shape) = file := by
  simp only [tree.files.mem_iff, List.mem_map, Artifact.mem_ofTree]

theorem mem_headers {file : Path × String} :
    file ∈ store.headers ↔ ∃ module < shape.modules, ∃ number < shape.filesPerModule,
      ((Artifact.header module number).path root, Source.header module number) = file := by
  rw [headers, List.mem_filter, decide_eq_true_eq, tree.mem_fileList]
  constructor
  · rintro ⟨⟨artifact, belongs, rfl⟩, header⟩
    rcases Artifact.endsIn_header_iff.mp header with ⟨module, number, rfl⟩
    exact ⟨module, belongs.1, number, belongs.2, rfl⟩
  · rintro ⟨module, module_lt, number, number_lt, rfl⟩
    exact ⟨⟨.header module number, ⟨module_lt, number_lt⟩, rfl⟩,
      Artifact.endsIn_header module number⟩

theorem length_headers : store.headers.length = shape.modules * shape.filesPerModule := by
  have weighs : ∀ artifact : Artifact, artifact.Belongs shape backends →
      (if (artifact.path root).EndsIn ".h" then 1 else 0) = artifact.weigh 1 0 0 := by
    intro artifact _
    by_cases header : (artifact.path root).EndsIn ".h"
    · rcases Artifact.endsIn_header_iff.mp header with ⟨module, file, rfl⟩
      exact if_pos header
    · rw [if_neg header]
      cases artifact with
      | header module file => exact absurd (Artifact.endsIn_header module file) header
      | main | source | moduleDescription | rootDescription => rfl
  have counted := tree.sum_filter_files (fun file => file.1.EndsIn ".h") (fun _ => 1) weighs
  simpa [headers] using counted

/-- The file of an artifact is found under any spelling of its path. -/
theorem get?_of_same {artifact : Artifact} (belongs : artifact.Belongs shape backends) {path : Path}
    (same : (artifact.path root).Same path) : store.get? path = some (artifact.text shape) :=
  get?_eq_some_iff.mpr ⟨_, tree.mem_fileList.mpr ⟨artifact, belongs, rfl⟩, same⟩

theorem get?_header {directory : Path} {module : Nat}
    (beside : directory.Same (Tree.modulePath root module))
    (module_lt : module < shape.modules) {file : Nat} (file_lt : file < shape.filesPerModule) :
    store.get? (directory.join (Source.headerName file)) = some (Source.header module file) := by
  have same : ((Artifact.header module file).path root).Same
      (directory.join (Source.headerName file)) := by
    rw [Path.Same, Path.components_join directory (Source.isOrdinary_headerName file), beside]
    exact Path.components_join _ (Source.isOrdinary_headerName file)
  have belongs : (Artifact.header module file).Belongs shape backends := ⟨module_lt, file_lt⟩
  exact tree.get?_of_same belongs same

theorem get?_entryHeader {directory : Path} (beside : directory.Same root)
    (hasFiles : 0 < shape.filesPerModule) {module : Nat} (module_lt : module < shape.modules) :
    store.get? (directory.join (Source.moduleDirectory module ++ "/0.h")) =
      some (Source.header module 0) := by
  have joined : directory.join (Source.moduleDirectory module ++ "/0.h") =
      (directory.join (Source.moduleDirectory module)).join (Source.headerName 0) := by
    have nested := Path.join_join directory (Source.isOrdinary_moduleDirectory module) "0.h"
    rw [String.append_assoc] at nested
    exact nested.symm
  have beside_module : (directory.join (Source.moduleDirectory module)).Same
      (Tree.modulePath root module) := by
    rw [Path.Same, Path.components_join directory (Source.isOrdinary_moduleDirectory module),
      beside, Artifact.components_modulePath]
  rw [joined]
  exact tree.get?_header beside_module module_lt hasFiles

theorem main_declaresIncluded {directory : Path} (beside : directory.Same root)
    (hasFiles : 0 < shape.filesPerModule) {file : String}
    (included : .includes file ∈ Source.items (Source.main shape.modules)) :
    Source.DeclaresIncluded (fun name => store.get? (directory.join name))
      (Source.main shape.modules) file := by
  have found : ∀ module < shape.modules,
      store.get? (directory.join (Source.moduleDirectory module ++ "/0.h")) =
        some (Source.header module 0) := fun _ module_lt =>
    tree.get?_entryHeader beside hasFiles module_lt
  rcases Source.includes_mem_main.mp included with ⟨module, module_lt, rfl⟩
  have module_mem : (module, 0) ∈ (List.range shape.modules).map fun module => (module, 0) :=
    List.mem_map.mpr ⟨module, List.mem_range.mpr module_lt, rfl⟩
  exact (Source.includes_expand_main shape.modules found).declares module_mem (found _ module_lt)

theorem source_declaresIncluded {directory : Path} {module : Nat}
    (beside : directory.Same (Tree.modulePath root module)) (module_lt : module < shape.modules)
    (hasFiles : 0 < shape.filesPerModule) {number : Nat} {file : String}
    (included : .includes file ∈ Source.items (Source.source module number shape)) :
    Source.DeclaresIncluded (fun name => store.get? (directory.join name))
      (Source.source module number shape) file := by
  have found : ∀ dependency ∈ shape.dependencies number,
      store.get? (directory.join (Source.headerName dependency)) =
        some (Source.header module dependency) := fun _ dependency_mem =>
    tree.get?_header beside module_lt (Shape.lt_of_mem_dependencies hasFiles dependency_mem)
  rcases Source.includes_mem_source.mp included with ⟨dependency, dependency_mem, rfl⟩
  have included_mem : (module, dependency) ∈
      (shape.dependencies number).map fun dependency => (module, dependency) :=
    List.mem_map.mpr ⟨dependency, dependency_mem, rfl⟩
  exact (Source.includes_expand_source module number shape found).declares included_mem
    (found _ dependency_mem)

theorem guardsApart (hasFiles : 0 < shape.filesPerModule) : store.GuardsApart shape := by
  have told_apart : ∀ left ∈ store.headers, ∀ right ∈ store.headers,
      Source.guard? left.2 = Source.guard? right.2 → left = right := by
    intro left left_mem right right_mem same
    rcases tree.mem_headers.mp left_mem with ⟨module, _, file, _, rfl⟩
    rcases tree.mem_headers.mp right_mem with ⟨other, _, otherFile, _, rfl⟩
    rw [Source.guard?_header, Source.guard?_header, Option.some_inj,
      Source.includeGuard_inj] at same
    rw [same.1, same.2]
  constructor
  · exact tree.length_headers
  · intro file file_mem
    rcases tree.mem_headers.mp file_mem with ⟨module, _, number, _, rfl⟩
    exact ⟨_, Source.guard?_header module number, Source.guarded_header module number⟩
  · exact store.nodup_headers.map_on told_apart
  · apply store.nodup_headers.map_on
    intro left left_mem right right_mem same
    exact told_apart left left_mem right right_mem (congrArg Source.guard? same)
  · intro path text directory file_mem source inside file included
    rcases tree.mem_fileList.mp file_mem with ⟨artifact, belongs, same⟩
    rcases Prod.mk.inj same with ⟨rfl, rfl⟩
    rcases Artifact.eq_main_or_eq_source source with rfl | ⟨module, number, rfl⟩
    · have in_root : (Artifact.main.path root).LiesIn root :=
        ⟨Source.mainName, Path.components_join root Source.isOrdinary_mainName⟩
      exact tree.main_declaresIncluded (inside.same in_root) hasFiles included
    · have in_module : ((Artifact.source module number).path root).LiesIn
          (Tree.modulePath root module) := Artifact.liesIn_modulePath_iff.mpr rfl
      exact tree.source_declaresIncluded (inside.same in_module) belongs.1 hasFiles included

end Store.IsTree

/-- Different headers have different guards and texts, and every header begins and ends with its
guard and has no other directive. So whatever headers a unit includes, what each of them declares
is declared in it. In whatever order the workers take their turns, this holds of the headers of the
tree that is left and of every source in it. -/
theorem include_guards_apart :
    (∀ module file other otherFile,
      Source.includeGuard module file = Source.includeGuard other otherFile ↔
        module = other ∧ file = otherFile) ∧
    (∀ module file,
      Source.Guarded (Source.includeGuard module file) (Source.header module file)) ∧
    (∀ module file other otherFile,
      Source.header module file = Source.header other otherFile ↔
        module = other ∧ file = otherFile) ∧
    (∀ headers unit, Source.Includes headers unit → ∀ module file, (module, file) ∈ headers →
      ∀ function, .declares function ∈ Source.items (Source.header module file) →
        .declares function ∈ Source.preprocessed unit) ∧
    ∀ (shape : Shape) (backends : List Backend) (parallel : Bool) (root : Path)
      (recording : Bool), shape.validate = .ok () →
      let generator := Generator.create shape backends parallel
      let own := generator.run Store.sink root recording .empty
      generator.MayEnd Store.sink root recording .empty own.1 own.2 ∧
      ∀ result final, generator.MayEnd Store.sink root recording .empty result final →
        (∃ manifest, result = .ok manifest) ∧ final.GuardsApart shape := by
  refine ⟨?_, Source.guarded_header, ?_, ?_, ?_⟩
  · intro module file other otherFile
    exact Source.includeGuard_inj
  · intro module file other otherFile
    exact Source.header_inj
  · intro headers unit includes module file included function declared
    exact includes.mem_preprocess included List.not_mem_nil declared
  · intro shape backends parallel root recording valid generator own
    refine ⟨generator.mayEnd_run Store.sink root recording .empty, ?_⟩
    intro result final mayEnd
    rcases mayEnd.exists_perm valid with ⟨calls, perm, rfl, succeeded⟩
    have tree := Store.isTree_after (Backend.nodup_distinct backends) perm
    exact ⟨⟨_, succeeded⟩, tree.guardsApart ((Shape.validate_eq_ok_iff shape).mp valid).1⟩

/-- A header that is included again behind another one is left out only there. -/
theorem include_guards_apart_repeated_header :
    let unit := Text.lines (Source.header 1 0).toList
      ++ (Text.lines (Source.header 11 2).toList ++ (Text.lines (Source.header 1 0).toList ++ []))
    Source.Includes [(1, 0), (11, 2), (1, 0)] unit ∧
      .declares (Source.initializerName 1) ∈ Source.items (Source.header 1 0) ∧
      .declares (Source.initializerName 1) ∈ Source.preprocessed unit ∧
      Shape.validate ⟨3, 7, 12⟩ = .ok () ∧
      ((Generator.create ⟨3, 7, 12⟩ [.meique] true).run Store.sink ⟨"./tree//"⟩ false
        .empty).2.GuardsApart ⟨3, 7, 12⟩ := by
  intro unit
  have includes : Source.Includes [(1, 0), (11, 2), (1, 0)] unit :=
    .ofHeader 1 0 (.ofHeader 11 2 (.ofHeader 1 0 .nothing))
  have declared := Source.declares_initializer_mem_header 1
  have valid : Shape.validate ⟨3, 7, 12⟩ = .ok () := rfl
  rcases include_guards_apart with ⟨_, _, _, units, trees⟩
  rcases trees ⟨3, 7, 12⟩ [.meique] true ⟨"./tree//"⟩ false valid with ⟨run_ends, ends⟩
  exact ⟨includes, declared, units _ _ includes 1 0 (by decide) _ declared, valid,
    (ends _ _ run_ends).2⟩

end BenchTree
