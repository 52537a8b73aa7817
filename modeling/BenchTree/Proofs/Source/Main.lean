import BenchTree.Proofs.Source.Contents
import BenchTree.Proofs.Text.Occurrence

/-!
# What the main source includes and calls

The main source includes the entry header of every module and then calls every initializer, both in
the order of the modules and each once. This is shown of the offsets at which the lines and calls
occur in the text, and of the numbers that are read back out of it. The lines of different modules
differ in a numeral only, and one numeral may begin with another; what follows a numeral keeps them
apart. The number of modules can be told from the text.
-/

namespace BenchTree.Source

/-- The call of a module's initializer, which passes the number of the module. -/
def initializerCall (module : Nat) : String :=
  initializerName module ++ "(" ++ toString module ++ ");"

/-- Where a text includes the entry header of a module. -/
def includeOffsets (text : String) (module : Nat) : List Nat :=
  Text.occurrences (entryIncludeLine module).toList text.toList

/-- Where a text calls the initializer of a module. -/
def callOffsets (text : String) (module : Nat) : List Nat :=
  Text.occurrences (initializerCall module).toList text.toList

/-- The module whose entry header has the given path. -/
def entryModule? (file : String) : Option Nat := Text.numberBetween? "module" "/0.h" file

/-- The module whose initializer is called with the number of the module. -/
def initializedModule? (call : String × String) : Option Nat :=
  (Text.numberBetween? "initModule" "" call.1).filter (toString · = call.2)

/-- A text includes the entry headers of all modules and calls all initializers, in order. -/
structure InitializesInOrder (text : String) (modules : Nat) : Prop where
  includeLines : ∀ module, (Text.lines text.toList).count (entryIncludeLine module).toList =
    if module < modules then 1 else 0
  includes : ∀ module,
    (includeOffsets text module).length = if module < modules then 1 else 0
  calls : ∀ module, (callOffsets text module).length = if module < modules then 1 else 0
  includesOrdered : ∀ left right, left < right →
    ∀ leftOffset ∈ includeOffsets text left, ∀ rightOffset ∈ includeOffsets text right,
      leftOffset < rightOffset
  callsOrdered : ∀ left right, left < right →
    ∀ leftOffset ∈ callOffsets text left, ∀ rightOffset ∈ callOffsets text right,
      leftOffset < rightOffset
  /-- Every header is included before any initializer is called. -/
  includesFirst : ∀ included called,
    ∀ includeOffset ∈ includeOffsets text included, ∀ callOffset ∈ callOffsets text called,
      includeOffset < callOffset
  /-- The text includes nothing but these headers. -/
  entryModules : ((items text).filterMap Item.includedFile?).mapM entryModule? =
    some (List.range modules)
  /-- The text calls nothing but these initializers. -/
  initializedModules : ((items text).filterMap Item.call?).mapM initializedModule? =
    some (List.range modules)

@[simp]
theorem toList_entryIncludeLine (module : Nat) :
    (entryIncludeLine module).toList =
      "#include \"module".toList ++ (Nat.toDigits 10 module ++ '/' :: "0.h\"".toList) := by
  simp [entryIncludeLine]

@[simp]
theorem toList_initializerCall (module : Nat) :
    (initializerCall module).toList = "initModule".toList
      ++ (Nat.toDigits 10 module ++ '(' :: (Nat.toDigits 10 module ++ ");".toList)) := by
  simp [initializerCall]

theorem toList_unlines (texts : List String) :
    (unlines texts).toList = texts.flatMap fun text => text.toList ++ ['\n'] := by
  simp [unlines, List.flatMap_map]

/-- The part of the main source that includes the entry header of a module. -/
def includePart (module : Nat) : List Char := (entryIncludeLine module).toList ++ ['\n']

/-- The part of the main source that calls the initializer of a module. -/
def callPart (module : Nat) : List Char := (initializerCallLine module).toList ++ ['\n']

/-- The part of the main source that opens its function. -/
def mainOpening : List Char := "\nint main() \x7b\n".toList

/-- The part of the main source that closes its function. -/
def mainClosing : List Char := "    return 0;\n\x7d\n".toList

theorem toList_main (modules : Nat) :
    (main modules).toList = (List.range modules).flatMap includePart
      ++ (mainOpening ++ ((List.range modules).flatMap callPart ++ mainClosing)) := by
  have opening : ["", "int main() \x7b"].flatMap (fun text => text.toList ++ ['\n']) =
      mainOpening := rfl
  have closing : ["    return 0;", "\x7d"].flatMap (fun text => text.toList ++ ['\n']) =
      mainClosing := rfl
  rw [main, toList_unlines]
  simp only [List.flatMap_append, List.flatMap_map, opening, closing, List.append_assoc]
  rfl

section

variable {pattern : List Char} (one_line : '\n' ∉ pattern)

include one_line

theorem closes_includePart (module : Nat) : Text.Closes pattern (includePart module) :=
  Text.closes_concat one_line _

theorem closes_callPart (module : Nat) : Text.Closes pattern (callPart module) :=
  Text.closes_concat one_line _

/-- A pattern that does not occur in the frame of the main function occurs in the lines that belong
to the modules. -/
theorem occurrences_main (opening : Text.occurrences pattern mainOpening = [])
    (closing : Text.occurrences pattern mainClosing = []) (modules : Nat) :
    Text.occurrences pattern (main modules).toList =
      Text.occurrences pattern ((List.range modules).flatMap includePart)
        ++ (Text.occurrences pattern ((List.range modules).flatMap callPart)).map
          (((List.range modules).flatMap includePart).length + mainOpening.length + ·) := by
  have opening_closes : Text.Closes pattern mainOpening :=
    Text.closes_concat one_line "\nint main() \x7b".toList
  rw [toList_main,
    Text.occurrences_append (Text.closes_flatMap (closes_includePart one_line) _),
    Text.occurrences_append opening_closes, opening,
    Text.occurrences_append (Text.closes_flatMap (closes_callPart one_line) _), closing]
  simp [Function.comp_def, Nat.add_assoc]

end

theorem occurrences_includePart (module part : Nat) :
    Text.occurrences (entryIncludeLine module).toList (includePart part) =
      if part = module then [0] else [] := by
  have spelled : includePart part =
      [] ++ ("#include \"module".toList ++ (Nat.toDigits 10 part ++ '/' :: "0.h\"\n".toList)) := by
    simp [includePart]
  have once : "#include \"module".toList.count '#' = 1 := by decide
  rw [toList_entryIncludeLine, spelled]
  apply Text.occurrences_of_numbered_mark once
  · decide
  · decide
  · decide
  · decide
  · exact Text.endsNumeral_cons (by decide) _
  · exact fun _ => by decide

/-- The initializer of a module is mentioned in the line that calls it. -/
theorem occurrences_callPart {module part : Nat} {ending : List Char}
    (begins : part = module → '(' :: ending <+:
      '(' :: (Nat.toDigits 10 part ++ ");\n".toList)) :
    Text.occurrences ("initModule".toList ++ (Nat.toDigits 10 module ++ '(' :: ending))
        (callPart part) =
      if part = module then [4] else [] := by
  have spelled : callPart part = "    ".toList ++ ("initModule".toList
      ++ (Nat.toDigits 10 part ++ '(' :: (Nat.toDigits 10 part ++ ");\n".toList))) := by
    simp [callPart]
  have once : "initModule".toList.count 'M' = 1 := by decide
  rw [spelled]
  apply Text.occurrences_of_numbered_mark once
  · decide
  · simp [Text.not_mem_numeral]
  · decide
  · decide
  · exact Text.endsNumeral_cons (by decide) _
  · exact begins

theorem includeOffsets_main (modules module : Nat) :
    includeOffsets (main modules) module =
      if module < modules then [((List.range module).flatMap includePart).length] else [] := by
  have one_line : '\n' ∉ (entryIncludeLine module).toList := by
    simp [Text.not_mem_numeral]
  have marked : '#' ∈ (entryIncludeLine module).toList := by simp
  have calls_plain : '#' ∉ (List.range modules).flatMap callPart := by
    simp [callPart, Text.not_mem_numeral]
  rw [includeOffsets,
    occurrences_main one_line (Text.occurrences_of_not_mem marked (by decide))
      (Text.occurrences_of_not_mem marked (by decide)),
    Text.occurrences_of_not_mem marked calls_plain,
    Text.occurrences_flatMap_range (closes_includePart one_line) (occurrences_includePart module)]
  simp

/-- Where the main source mentions the initializer of a module: in the line that calls it. -/
theorem occurrences_initializer_main {module : Nat} {ending : List Char}
    (one_line : '\n' ∉ ending)
    (begins : '(' :: ending <+: '(' :: (Nat.toDigits 10 module ++ ");\n".toList))
    (modules : Nat) :
    Text.occurrences ("initModule".toList ++ (Nat.toDigits 10 module ++ '(' :: ending))
        (main modules).toList =
      if module < modules then
        [((List.range modules).flatMap includePart).length + mainOpening.length
          + (((List.range module).flatMap callPart).length + 4)]
      else [] := by
  have pattern_one_line : '\n' ∉
      "initModule".toList ++ (Nat.toDigits 10 module ++ '(' :: ending) := by
    simp [Text.not_mem_numeral, one_line]
  have marked : 'M' ∈ "initModule".toList ++ (Nat.toDigits 10 module ++ '(' :: ending) := by
    simp
  have includes_plain : 'M' ∉ (List.range modules).flatMap includePart := by
    simp [includePart, Text.not_mem_numeral]
  have found : ∀ part, Text.occurrences
      ("initModule".toList ++ (Nat.toDigits 10 module ++ '(' :: ending)) (callPart part) =
        if part = module then [4] else [] := by
    intro part
    apply occurrences_callPart
    rintro rfl
    exact begins
  rw [occurrences_main pattern_one_line (Text.occurrences_of_not_mem marked (by decide))
      (Text.occurrences_of_not_mem marked (by decide)),
    Text.occurrences_of_not_mem marked includes_plain,
    Text.occurrences_flatMap_range (closes_callPart pattern_one_line) found]
  by_cases among : module < modules <;> simp [among]

theorem callOffsets_main (modules module : Nat) :
    callOffsets (main modules) module =
      if module < modules then
        [((List.range modules).flatMap includePart).length + mainOpening.length
          + (((List.range module).flatMap callPart).length + 4)]
      else [] := by
  rw [callOffsets, toList_initializerCall]
  apply occurrences_initializer_main
  · simp [Text.not_mem_numeral]
  · exact ⟨['\n'], by simp⟩

/-- The lines of the main source behind those that include headers. -/
def mainBody (modules : Nat) : List String :=
  ["", "int main() \x7b"] ++ (List.range modules).map initializerCallLine
    ++ ["    return 0;", "\x7d"]

theorem lines_main (modules : Nat) :
    Text.lines (main modules).toList =
      (List.range modules).map (fun module => (entryIncludeLine module).toList)
        ++ ((mainBody modules).map String.toList ++ [[]]) := by
  have spelled : main modules =
      unlines ((List.range modules).map entryIncludeLine ++ mainBody modules) := by
    simp [main, mainBody]
  have one_line : ∀ text ∈ (List.range modules).map entryIncludeLine ++ mainBody modules,
      '\n' ∉ text.toList := by
    simp [mainBody, or_imp, forall_and, Text.not_mem_numeral]
  rw [spelled, Text.lines_unlines one_line, List.map_append, List.map_map, List.append_assoc]
  rfl

theorem mainBody_plain (modules : Nat) :
    ∀ line ∈ (mainBody modules).map String.toList ++ [[]], '#' ∉ line := by
  simp [mainBody, or_imp, forall_and, Text.not_mem_numeral]

theorem entryIncludeLine_inj {left right : Nat} :
    entryIncludeLine left = entryIncludeLine right ↔ left = right := by
  rw [← String.toList_inj, toList_entryIncludeLine, toList_entryIncludeLine,
    List.append_cancel_left_eq,
    Text.numeral_append_inj (Text.endsNumeral_cons (by decide) _)
      (Text.endsNumeral_cons (by decide) _)]
  simp

/-- The main source has one line that includes the entry header of a module. -/
theorem count_lines_main (modules module : Nat) :
    (Text.lines (main modules).toList).count (entryIncludeLine module).toList =
      if module < modules then 1 else 0 := by
  have injective : Function.Injective fun module => (entryIncludeLine module).toList :=
    fun _ _ same => entryIncludeLine_inj.mp (String.toList_inj.mp same)
  have marked : '#' ∈ (entryIncludeLine module).toList := by simp
  have elsewhere : (entryIncludeLine module).toList ∉
      (mainBody modules).map String.toList ++ [[]] :=
    fun line_mem => mainBody_plain modules _ line_mem marked
  rw [lines_main, List.count_append, List.count_eq_zero_of_not_mem elsewhere, Nat.add_zero]
  exact (List.count_map_of_injective _ _ injective module).trans List.count_range

theorem entryModules_main (modules : Nat) :
    ((items (main modules)).filterMap Item.includedFile?).mapM entryModule? =
      some (List.range modules) := by
  have reads : ∀ module, entryModule? (moduleDirectory module ++ "/0.h") = some module := by
    intro module
    have ends : Text.EndsNumeral "/0.h".toList := Text.endsNumeral_cons (by decide) _
    exact (Text.numberBetween?_eq_some_iff ends).mpr (by simp)
  have files : (items (main modules)).filterMap Item.includedFile? =
      (List.range modules).map fun module => moduleDirectory module ++ "/0.h" := by
    rw [items_main]
    simp [Item.includedFile?, List.filterMap_map, Function.comp_def]
  rw [files, mapM_map_of_read reads]

theorem initializedModules_main (modules : Nat) :
    ((items (main modules)).filterMap Item.call?).mapM initializedModule? =
      some (List.range modules) := by
  have reads : ∀ module,
      initializedModule? (initializerName module, toString module) = some module := by
    intro module
    simp [initializedModule?, numberBetween?_initializerName]
  have calls : (items (main modules)).filterMap Item.call? =
      (List.range modules).map fun module => (initializerName module, toString module) := by
    have no_call : Item.call? (.defines "main") = none := rfl
    rw [items_main, List.filterMap_append, List.filterMap_cons_none no_call]
    simp [Item.call?, List.filterMap_map, Function.comp_def]
  rw [calls, mapM_map_of_read reads]

theorem main_inj {left right : Nat} : main left = main right ↔ left = right := by
  constructor
  · intro same
    have read := entryModules_main left
    rw [same, entryModules_main right, Option.some_inj] at read
    simpa using congrArg List.length read.symm
  · rintro rfl
    rfl

theorem initializesInOrder_main (modules : Nat) : InitializesInOrder (main modules) modules := by
  have includes_longer : StrictMono fun count => ((List.range count).flatMap includePart).length :=
    Text.strictMono_length_flatMap_range (by simp [includePart])
  have calls_longer : StrictMono fun count => ((List.range count).flatMap callPart).length :=
    Text.strictMono_length_flatMap_range (by simp [callPart])
  constructor
  · exact count_lines_main modules
  · intro module
    rw [includeOffsets_main]
    split <;> rfl
  · intro module
    rw [callOffsets_main]
    split <;> rfl
  · intro left right before leftOffset left_mem rightOffset right_mem
    rw [includeOffsets_main, List.mem_ite_nil_right, List.mem_singleton] at left_mem right_mem
    rw [left_mem.2, right_mem.2]
    exact includes_longer before
  · intro left right before leftOffset left_mem rightOffset right_mem
    rw [callOffsets_main, List.mem_ite_nil_right, List.mem_singleton] at left_mem right_mem
    rw [left_mem.2, right_mem.2]
    exact Nat.add_lt_add_left (Nat.add_lt_add_right (calls_longer before) _) _
  · intro included called includeOffset include_mem callOffset call_mem
    rw [includeOffsets_main, List.mem_ite_nil_right, List.mem_singleton] at include_mem
    rw [callOffsets_main, List.mem_ite_nil_right, List.mem_singleton] at call_mem
    rw [include_mem.2, call_mem.2, Nat.add_assoc]
    exact Nat.lt_add_right _ (includes_longer include_mem.1)
  · exact entryModules_main modules
  · exact initializedModules_main modules

/-- The main source includes every entry header and calls every initializer once, all includes
first and both in the order of the modules, whose number can be told from the text. -/
theorem main_initializes_each_module (modules : Nat) :
    InitializesInOrder (main modules) modules ∧
      ∀ others, main others = main modules ↔ others = modules :=
  ⟨initializesInOrder_main modules, fun _ => main_inj⟩

end BenchTree.Source
