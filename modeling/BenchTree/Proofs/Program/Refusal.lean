import BenchTree.Proofs.Config.Loading
import BenchTree.Proofs.Program.CompletionLine
import BenchTree.Proofs.Program.Runs

/-!
# Refused runs

A run is refused when its arguments cannot be read, when the configuration that they name cannot be
read or does not fit, or when the two together describe no tree. All of this is found out before
anything is written, so a refused run leaves the disk as it was, in whatever order workers would
have taken their turns.
-/

namespace BenchTree

/-- Why a run is refused, with the exit code that tells so. Help and version texts are no failures,
but nothing is generated either. -/
inductive Refuses (arguments : List String) (disk : Disk) : UInt32 → Prop where
  | usage {problem : CommandLine.UsageError}
      (parsed : CommandLine.parse arguments = .error (.usage problem)) : Refuses arguments disk 2
  | help {isLong : Bool} (parsed : CommandLine.parse arguments = .error (.help isLong)) :
      Refuses arguments disk 0
  | version (parsed : CommandLine.parse arguments = .error .version) : Refuses arguments disk 0
  | unreadable {command : CommandLine} {path : String} {problem : IoError}
      (parsed : CommandLine.parse arguments = .ok command) (named : command.config = some path)
      (unread : disk.readText ⟨path⟩ = .error problem) : Refuses arguments disk 1
  | malformed {command : CommandLine} {path text : String}
      (parsed : CommandLine.parse arguments = .ok command) (named : command.config = some path)
      (held : disk.readText ⟨path⟩ = .ok text) (malformed : Toml.parse? text = none) :
      Refuses arguments disk 1
  | unfitting {command : CommandLine} {path text : String} {entries : List (String × Toml.Value)}
      (parsed : CommandLine.parse arguments = .ok command) (named : command.config = some path)
      (held : disk.readText ⟨path⟩ = .ok text) (described : Toml.parse? text = some entries)
      (unfitting : ∀ config, ¬Config.Fits entries config) : Refuses arguments disk 1
  | noFiles {command : CommandLine} {config : Option Config}
      (parsed : CommandLine.parse arguments = .ok command)
      (loaded : command.loadConfig disk = .ok config)
      (absent : (command.resolve config).shape.filesPerModule = 0) : Refuses arguments disk 1
  | noModules {command : CommandLine} {config : Option Config}
      (parsed : CommandLine.parse arguments = .ok command)
      (loaded : command.loadConfig disk = .ok config)
      (absent : (command.resolve config).shape.modules = 0) : Refuses arguments disk 1

/-! ## What is told -/

namespace CommandLine

/-- A text that is written out tells its letters without being decoded. -/
theorem any_toList_ofList {letters : List Char} {test : Char → Bool}
    (absent : letters.any test = false) : (String.ofList letters).toList.any test = false := by
  rwa [String.toList_ofList]

theorem noDigit_helpLines (isLong : Bool) :
    ∀ line ∈ if isLong then longHelpLines else shortHelpLines,
      line.toList.any Char.isDigit = false := by
  cases isLong
  all_goals
    simp only [longHelpLines, shortHelpLines, reduceIte, Bool.false_eq_true,
      List.forall_mem_cons, String.toList_append, List.any_append, Bool.or_eq_false_iff]
    and_intros
  all_goals first | exact any_toList_ofList (by decide) | exact List.forall_mem_nil _

/-- No help has a digit in it, whereas a completion line counts modules. -/
theorem noDigit_helpText (isLong : Bool) : (helpText isLong).toList.any Char.isDigit = false := by
  rw [helpText, endLines, String.toList_join, List.any_eq_false]
  intro character character_mem
  rcases List.mem_flatMap.mp character_mem with ⟨ended, ended_mem, character_mem⟩
  rcases List.mem_map.mp ended_mem with ⟨line, line_mem, rfl⟩
  rw [String.toList_append, List.mem_append] at character_mem
  rcases character_mem with character_mem | character_mem
  · exact List.any_eq_false.mp (noDigit_helpLines isLong line line_mem) character character_mem
  · rw [List.mem_singleton.mp character_mem]
    decide

/-- No completion line occurs in a text. -/
def TellsNoCompletion (text : String) : Prop :=
  ∀ (command : CommandLine) (summary : Summary),
    ¬(command.completionLine summary).toList <:+: text.toList

theorem tellsNoCompletion_of_noDigit {text : String}
    (noDigit : text.toList.any Char.isDigit = false) : TellsNoCompletion text := by
  intro command summary isInfix
  have digit_mem : (Nat.toDigits 10 summary.modules).head Nat.toDigits_ne_nil ∈ text.toList := by
    apply isInfix.subset
    rw [toList_completionLine]
    exact List.mem_append_right _ (List.mem_append_left _ (List.head_mem _))
  have digit := Nat.isDigit_of_mem_toDigits (b := 10) (by decide) (by decide)
    (List.head_mem (Nat.toDigits_ne_nil (b := 10) (n := summary.modules)))
  exact List.any_eq_false.mp noDigit _ digit_mem digit

theorem tellsNoCompletion_versionText : TellsNoCompletion versionText := by
  intro command summary isInfix
  have capital_mem : 'G' ∈ versionText.toList := by
    apply isInfix.subset
    rw [toList_completionLine]
    exact List.mem_append_left _ (by simp)
  revert capital_mem
  decide

/-! ## What is done -/

variable {command : CommandLine} {disk final : Disk} {result : Except RunError Summary}

theorem MayExecute.eq_of_refused {problem : RunError}
    (mayExecute : command.MayExecute disk result final)
    (refused : command.loadConfig disk = .error problem) :
    result = .error problem ∧ final = disk := by
  cases mayExecute with
  | refused other =>
      rw [refused] at other
      exact ⟨congrArg _ (Except.error.inj other).symm, rfl⟩
  | generated loaded _ =>
      rw [refused] at loaded
      cases loaded

theorem MayGenerate.eq_of_invalid {generator : Generator} {problem : ShapeError}
    {counted : Except GenerateError Summary}
    (mayGenerate : command.MayGenerate generator disk counted final)
    (invalid : generator.shape.validate = .error problem) :
    counted = .error (.shape problem) ∧ final = disk := by
  cases mayGenerate with
  | failed mayEnd =>
      rcases mayEnd.eq_of_invalid invalid with ⟨failed_eq, rfl⟩
      exact ⟨congrArg _ (Except.error.inj failed_eq), rfl⟩
  | counted _ mayEnd => cases (mayEnd.eq_of_invalid invalid).1
  | saved _ mayEnd _ => cases (mayEnd.eq_of_invalid invalid).1
  | unsaved _ mayEnd _ => cases (mayEnd.eq_of_invalid invalid).1

theorem MayExecute.eq_of_invalid {config : Option Config} {problem : ShapeError}
    (mayExecute : command.MayExecute disk result final)
    (loaded : command.loadConfig disk = .ok config)
    (invalid : (command.resolve config).shape.validate = .error problem) :
    result = .error (.generate (.shape problem)) ∧ final = disk := by
  cases mayExecute with
  | refused refused =>
      rw [loaded] at refused
      cases refused
  | generated other mayGenerate =>
      rw [loaded] at other
      obtain rfl := Except.ok.inj other
      rcases mayGenerate.eq_of_invalid invalid with ⟨rfl, rfl⟩
      exact ⟨rfl, rfl⟩

theorem loadConfig_eq_error {path : String} {problem : ConfigError}
    (named : command.config = some path) (refused : Config.load disk ⟨path⟩ = .error problem) :
    command.loadConfig disk = .error (.config ⟨path⟩ problem) := by
  rw [loadConfig_of_some _ _ named, refused]

end CommandLine

section

variable {effect : Text.BlankEffect} {arguments : List String} {disk : Disk} {code : UInt32}
  {command : CommandLine} {config : Option Config} {outcome : RunResult}

theorem MayRun.eq_of_refused {problem : RunError} (mayRun : MayRun effect arguments disk outcome)
    (parsed : CommandLine.parse arguments = .ok command)
    (refused : command.loadConfig disk = .error problem) :
    outcome = ⟨command.report (.error problem), disk⟩ := by
  rcases mayRun.exists_mayExecute parsed with ⟨result, report_eq, mayExecute⟩
  rcases mayExecute.eq_of_refused refused with ⟨rfl, disk_eq⟩
  rw [← report_eq, ← disk_eq]

theorem MayRun.eq_of_invalid {problem : ShapeError} (mayRun : MayRun effect arguments disk outcome)
    (parsed : CommandLine.parse arguments = .ok command)
    (loaded : command.loadConfig disk = .ok config)
    (invalid : (command.resolve config).shape.validate = .error problem) :
    outcome = ⟨command.report (.error (.generate (.shape problem))), disk⟩ := by
  rcases mayRun.exists_mayExecute parsed with ⟨result, report_eq, mayExecute⟩
  rcases mayExecute.eq_of_invalid loaded invalid with ⟨rfl, disk_eq⟩
  rw [← report_eq, ← disk_eq]

/-- A report is all that a run can come to: it is told with the exit code, it tells no completion,
and the disk stays as it is. -/
structure Settles (effect : Text.BlankEffect) (arguments : List String) (disk : Disk)
    (code : UInt32) (report : Report) : Prop where
  exitCode : report.exitCode = code
  untold : CommandLine.TellsNoCompletion report.output
  settled : ∀ outcome, MayRun effect arguments disk outcome → outcome = ⟨report, disk⟩

theorem settles_of_interrupted {interruption : CommandLine.Interruption}
    (parsed : CommandLine.parse arguments = .error interruption)
    (untold : CommandLine.TellsNoCompletion (interruption.report effect).output) :
    Settles effect arguments disk (interruption.report effect).exitCode
      (interruption.report effect) :=
  ⟨rfl, untold, fun _ mayRun => mayRun.eq_of_parse_eq_error parsed⟩

theorem settles_of_refused {problem : RunError}
    (parsed : CommandLine.parse arguments = .ok command)
    (refused : command.loadConfig disk = .error problem) :
    Settles effect arguments disk 1 (command.report (.error problem)) :=
  ⟨rfl, CommandLine.tellsNoCompletion_of_noDigit rfl,
    fun _ mayRun => mayRun.eq_of_refused parsed refused⟩

theorem settles_of_invalid {problem : ShapeError}
    (parsed : CommandLine.parse arguments = .ok command)
    (loaded : command.loadConfig disk = .ok config)
    (invalid : (command.resolve config).shape.validate = .error problem) :
    Settles effect arguments disk 1
      (command.report (.error (.generate (.shape problem)))) :=
  ⟨rfl, CommandLine.tellsNoCompletion_of_noDigit rfl,
    fun _ mayRun => mayRun.eq_of_invalid parsed loaded invalid⟩

theorem Refuses.exists_settles (refuses : Refuses arguments disk code)
    (effect : Text.BlankEffect) : ∃ report, Settles effect arguments disk code report := by
  cases refuses with
  | usage parsed =>
      exact ⟨_, settles_of_interrupted parsed (CommandLine.tellsNoCompletion_of_noDigit rfl)⟩
  | @help isLong parsed =>
      exact ⟨_, settles_of_interrupted parsed
        (CommandLine.tellsNoCompletion_of_noDigit (CommandLine.noDigit_helpText isLong))⟩
  | version parsed =>
      exact ⟨_, settles_of_interrupted parsed CommandLine.tellsNoCompletion_versionText⟩
  | @unreadable _ path problem parsed named failed =>
      have refused : Config.load disk ⟨path⟩ = .error (.storage problem) := by
        rw [Config.load, failed]
        rfl
      exact ⟨_, settles_of_refused parsed (CommandLine.loadConfig_eq_error named refused)⟩
  | @malformed _ path _ parsed named held malformed =>
      have refused : Config.load disk ⟨path⟩ = .error .malformed := by
        rw [Config.load, held]
        simp only [Config.ofFile, Config.ofText, malformed]
      exact ⟨_, settles_of_refused parsed (CommandLine.loadConfig_eq_error named refused)⟩
  | @unfitting _ path _ _ parsed named held described unfitting =>
      rcases refused : Config.load disk ⟨path⟩ with problem | config
      · exact ⟨_, settles_of_refused parsed (CommandLine.loadConfig_eq_error named refused)⟩
      · exact absurd ((Config.load_eq_ok_iff held described).mp refused) (unfitting config)
  | noFiles parsed loaded absent =>
      exact ⟨_, settles_of_invalid parsed loaded (if_pos absent)⟩
  | noModules parsed loaded absent =>
      rcases checked : ((CommandLine.resolve _ _).shape).validate with problem | _
      · exact ⟨_, settles_of_invalid parsed loaded checked⟩
      · exact absurd absent (((Shape.validate_eq_ok_iff _).mp checked).2).ne'

/-- A refused run leaves the disk as it was and tells no completion, and its exit code says whether
the arguments were at fault, were a question, or were accepted in vain. No other run is possible. -/
theorem Refuses.changes_nothing (refuses : Refuses arguments disk code)
    (effect : Text.BlankEffect) :
    (runProgram effect arguments disk).disk = disk ∧
    (runProgram effect arguments disk).report.exitCode = code ∧
    CommandLine.TellsNoCompletion (runProgram effect arguments disk).report.output ∧
    ∀ outcome, MayRun effect arguments disk outcome →
      outcome = runProgram effect arguments disk := by
  rcases refuses.exists_settles effect with ⟨report, settles⟩
  rw [settles.settled _ (mayRun_runProgram effect arguments disk)]
  exact ⟨rfl, settles.exitCode, settles.untold, settles.settled⟩

theorem Refuses.changes_nothing_no_modules :
    let text := "[generate]\nmodules = 0\n"
    let disk : Disk := ⟨[(["work"], .directory), (["work", "c.toml"], .file text.toUTF8)],
      ["work"]⟩
    let effect : Text.BlankEffect := .ends
    (runProgram effect ["3", "--config=c.toml", "--jobs"] disk).disk = disk ∧
    (runProgram effect ["3", "--config=c.toml", "--jobs"] disk).report.exitCode = 1 ∧
    (runProgram effect ["3", "--files"] disk).disk = disk ∧
    (runProgram effect ["3", "--files"] disk).report.exitCode = 2 := by
  intro text disk effect
  have parsed : CommandLine.parse ["3", "--config=c.toml", "--jobs"] =
      .ok ⟨some 3, none, none, ".", some "c.toml", [], true, none, false⟩ := by rfl
  have loaded : CommandLine.loadConfig
      ⟨some 3, none, none, ".", some "c.toml", [], true, none, false⟩ disk =
        .ok (some ⟨some ⟨none, none, some 0, none, none⟩⟩) := by decide +kernel
  have no_modules := (Refuses.noModules parsed loaded rfl).changes_nothing effect
  have unknown : ∃ problem, CommandLine.parse ["3", "--files"] = .error (.usage problem) :=
    ⟨_, rfl⟩
  rcases unknown with ⟨problem, unknown⟩
  have refused : Refuses ["3", "--files"] disk 2 := .usage unknown
  have usage := refused.changes_nothing effect
  exact ⟨no_modules.1, no_modules.2.1, usage.1, usage.2.1⟩

end

end BenchTree
