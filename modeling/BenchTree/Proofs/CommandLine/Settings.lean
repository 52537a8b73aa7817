import BenchTree.Proofs.CommandLine.Arguments

/-!
# Lines and their settings

Behind a settled beginning a line is accepted exactly when it spells settings that may be given one
after the other, and it amounts to what these leave. From the spelling to the result the argument
follows the rules of the grammar; from the result back to a spelling it goes along the line, where
each argument that is not refused has the form of one rule.
-/

namespace BenchTree.CommandLine

namespace Progress

/-- The progress after several settings, if they may be given one after the other. -/
def acceptAll? (progress : Progress) (settings : List Setting) : Option Progress :=
  settings.foldlM accept? progress

@[simp]
theorem acceptAll?_nil (progress : Progress) : progress.acceptAll? [] = some progress := rfl

@[simp]
theorem acceptAll?_cons (progress : Progress) (first : Setting) (rest : List Setting) :
    progress.acceptAll? (first :: rest) =
      (progress.accept? first).bind fun next => next.acceptAll? rest := rfl

theorem accept?_behindDashes (progress : Progress) (setting : Setting) :
    progress.behindDashes.accept? setting = (progress.accept? setting).map behindDashes := by
  cases setting with
  | number value =>
      have places : progress.behindDashes.places = progress.places := rfl
      simp only [accept?, places]
      split
      · rfl
      · rename_i position later _
        exact congrArg some (fill_behindDashes { progress with places := later } position value)
  | given option value => exact setOption_behindDashes progress option value
  | jobs => cases given : progress.jobs <;> simp [accept?, behindDashes, given]
  | quiet => cases given : progress.quiet <;> simp [accept?, behindDashes, given]

theorem acceptAll?_behindDashes (progress : Progress) (settings : List Setting) :
    progress.behindDashes.acceptAll? settings =
      (progress.acceptAll? settings).map behindDashes := by
  induction settings generalizing progress with
  | nil => rfl
  | cons first rest ih =>
      simp only [acceptAll?_cons, accept?_behindDashes, Option.bind_map]
      rw [Option.map_bind]
      apply Option.bind_congr
      intro next _
      exact ih next

end Progress

theorem isFree_of_isNumeral {text : String} {value : Nat} (numeral : Word.IsNumeral text value) :
    IsFree text := by
  rcases numeral.spelled with ⟨digits, nonempty, isDigit, spelled | spelled, _⟩
  · right
    intro dash
    rw [spelled] at dash
    exact absurd (isDigit '-' (List.mem_of_mem_head? dash)) (by decide)
  · right
    simp [spelled]

namespace Progress

theorem attachedToLetter_value {value : String} (nonempty : value ≠ "")
    (noEquals : value.toList.head? ≠ some '=') : attachedToLetter value.toList = some value := by
  unfold attachedToLetter
  split
  · rename_i empty
    exact absurd (String.toList_eq_nil_iff.mp empty) nonempty
  · rename_i equals
    simp [equals] at noEquals
  · rw [String.ofList_toList]

variable {progress final : Progress}

theorem remainder_settled_nil (nothing : progress.pending = .nothing) :
    progress.remainder [] = some progress.result := by
  rw [remainder_nil, settle_of_settled nothing]
  rfl

theorem remainder_of_numerals {texts : List String} {numbers : List Nat}
    (numerals : List.Forall₂ Word.IsNumeral texts numbers) (nothing : progress.pending = .nothing)
    (onlyPlaces : progress.onlyPlaces = true)
    (accepted : progress.acceptAll? (numbers.map .number) = some final) :
    progress.remainder texts = some final.result := by
  induction numerals generalizing progress with
  | nil =>
      cases accepted
      exact remainder_settled_nil nothing
  | cons numeral _ ih =>
      rw [List.map_cons, acceptAll?_cons, Option.bind_eq_some_iff] at accepted
      rcases accepted with ⟨next, first_accepted, accepted⟩
      rcases accept?_settled nothing first_accepted with ⟨next_nothing, same_mode⟩
      rw [remainder_behindDashes nothing onlyPlaces, Word.read_eq_ok_iff.mpr numeral]
      simp only [Except.toOption, Option.bind_some, first_accepted]
      exact ih next_nothing (same_mode.trans onlyPlaces) accepted

theorem acceptAll?_settled {settings : List Setting} (nothing : progress.pending = .nothing)
    (accepted : progress.acceptAll? settings = some final) :
    final.pending = .nothing ∧ final.onlyPlaces = progress.onlyPlaces := by
  induction settings generalizing progress with
  | nil =>
      cases accepted
      exact ⟨nothing, rfl⟩
  | cons first rest ih =>
      rw [acceptAll?_cons, Option.bind_eq_some_iff] at accepted
      rcases accepted with ⟨next, first_accepted, accepted⟩
      rcases accept?_settled nothing first_accepted with ⟨next_nothing, same_mode⟩
      rcases ih next_nothing accepted with ⟨final_nothing, final_mode⟩
      exact ⟨final_nothing, final_mode.trans same_mode⟩

/-- Behind the arguments a line is read on from the given progress; behind two dashes it ends. -/
def LeadsTo (progress : Progress) (arguments : List String) (final : Progress) : Prop :=
  ∀ rest, ("--" ∈ arguments → rest = []) →
    progress.remainder (arguments ++ rest) = final.remainder rest

/-- What an argument settles first and those behind it later makes up the whole. -/
theorem leadsTo_of_first {arguments others : List String} {first : Setting}
    {later : List Setting} (nothing : progress.pending = .nothing)
    (anywhere : progress.onlyPlaces = false)
    (settles : ∀ rest, progress.remainder (arguments ++ rest) =
      (progress.accept? first).bind fun next => next.remainder (others ++ rest))
    (inside : "--" ∈ others → "--" ∈ arguments)
    (accepted : progress.acceptAll? (first :: later) = some final)
    (others_lead : ∀ {next : Progress}, next.pending = .nothing → next.onlyPlaces = false →
      next.acceptAll? later = some final → next.LeadsTo others final) :
    progress.LeadsTo arguments final := by
  rw [acceptAll?_cons, Option.bind_eq_some_iff] at accepted
  rcases accepted with ⟨next, first_accepted, accepted⟩
  rcases accept?_settled nothing first_accepted with ⟨next_nothing, same_mode⟩
  intro rest noDashes
  rw [settles, first_accepted]
  exact others_lead next_nothing (same_mode.trans anywhere) accepted rest (noDashes ∘ inside)

section

variable (nothing : progress.pending = .nothing) (anywhere : progress.onlyPlaces = false)

include nothing anywhere

theorem remainder_numeral {text : String} {value : Nat} (numeral : Word.IsNumeral text value)
    (rest : List String) : progress.remainder (text :: rest) =
      (progress.accept? (.number value)).bind fun next => next.remainder rest := by
  rw [remainder_free nothing anywhere (isFree_of_isNumeral numeral),
    Word.read_eq_ok_iff.mpr numeral]
  rfl

theorem remainder_name (option : ValueOption) (rest : List String) :
    progress.remainder (("--" ++ option.name) :: rest) =
      (progress.awaiting option).remainder rest := by
  have spelled : ("--" ++ option.name).toList = '-' :: '-' :: option.name.toList := by simp
  have nonempty : option.name.toList ≠ [] := by cases option <;> decide
  rw [remainder_long anywhere spelled nonempty, takeLong_name nothing]
  rfl

theorem remainder_attached (option : ValueOption) (value : String) (rest : List String) :
    progress.remainder (("--" ++ option.name ++ "=" ++ value) :: rest) =
      (progress.accept? (.given option value)).bind fun next => next.remainder rest := by
  have spelled : ("--" ++ option.name ++ "=" ++ value).toList =
      '-' :: '-' :: (option.name.toList ++ '=' :: value.toList) := by simp
  rw [remainder_long anywhere spelled (by simp), takeLong_attached nothing, String.ofList_toList]

theorem remainder_switch {argument : String} {switch : Switch}
    (spelled : argument.toList = '-' :: '-' :: switch.name.toList) (rest : List String) :
    progress.remainder (argument :: rest) =
      (switch.setting?.bind progress.accept?).bind fun next => next.remainder rest := by
  have nonempty : switch.name.toList ≠ [] := by cases switch <;> decide
  rw [remainder_long anywhere spelled nonempty, takeLong_switch nothing]

theorem remainder_jobs (rest : List String) :
    progress.remainder ("--jobs" :: rest) =
      (progress.accept? .jobs).bind fun next => next.remainder rest := by
  have spelled : "--jobs".toList = '-' :: '-' :: Switch.jobs.name.toList := rfl
  exact remainder_switch nothing anywhere spelled rest

theorem remainder_longQuiet (rest : List String) :
    progress.remainder ("--quiet" :: rest) =
      (progress.accept? .quiet).bind fun next => next.remainder rest := by
  have spelled : "--quiet".toList = '-' :: '-' :: Switch.quiet.name.toList := rfl
  exact remainder_switch nothing anywhere spelled rest

theorem remainder_out (letters : String) (rest : List String) :
    progress.remainder (("-o" ++ letters) :: rest) =
      ((attachedToLetter letters.toList).elim (some (progress.awaiting .out)) fun value =>
        progress.accept? (.given .out value)).bind fun next => next.remainder rest := by
  have spelled : ("-o" ++ letters).toList = '-' :: 'o' :: letters.toList := by simp
  rw [remainder_letters anywhere spelled (by decide), takeLetters_out nothing]

theorem remainder_quiet (rest : List String) :
    progress.remainder ("-q" :: rest) =
      (progress.accept? .quiet).bind fun next => next.remainder rest := by
  have spelled : "-q".toList = ['-', 'q'] := rfl
  have found : shortSwitch? 'q' = some .quiet := rfl
  have settled : Switch.quiet.setting?.bind progress.accept? = progress.accept? .quiet := rfl
  rw [remainder_letters anywhere spelled (by decide), takeLetters_switch nothing found, settled]
  cases progress.accept? .quiet <;> rfl

/-- A cluster is read as if its letters stood in arguments of their own. -/
theorem remainder_clustered (letters : String) (rest : List String) :
    progress.remainder (("-qo" ++ letters) :: rest) =
      (progress.accept? .quiet).bind fun next => next.remainder (("-o" ++ letters) :: rest) := by
  have spelled : ("-qo" ++ letters).toList = '-' :: 'q' :: 'o' :: letters.toList := by simp
  have out_spelled : ("-o" ++ letters).toList = '-' :: 'o' :: letters.toList := by simp
  have found : shortSwitch? 'q' = some .quiet := rfl
  have settled : Switch.quiet.setting?.bind progress.accept? = progress.accept? .quiet := rfl
  rw [remainder_letters anywhere spelled (by decide), takeLetters_switch nothing found, settled,
    Option.bind_assoc]
  apply Option.bind_congr
  intro next accepted
  have next_anywhere := (accept?_settled nothing accepted).2.trans anywhere
  rw [remainder_letters next_anywhere out_spelled (by decide)]

end

/-- A spelling of settings that may be given leads to where these lead. -/
theorem leadsTo_of_spells {settings : List Setting} {arguments : List String}
    (spells : Spells settings arguments) (nothing : progress.pending = .nothing)
    (anywhere : progress.onlyPlaces = false)
    (accepted : progress.acceptAll? settings = some final) : progress.LeadsTo arguments final := by
  induction spells generalizing progress with
  | nothing =>
      cases accepted
      exact fun _ _ => rfl
  | @dashes numbers texts numerals =>
      have accepted_behind := acceptAll?_behindDashes progress (numbers.map .number)
      rw [accepted, Option.map_some] at accepted_behind
      have behind_nothing : progress.behindDashes.pending = .nothing := nothing
      have numbers_read := remainder_of_numerals numerals behind_nothing rfl accepted_behind
      have final_nothing := (acceptAll?_settled nothing accepted).1
      intro rest noDashes
      obtain rfl := noDashes List.mem_cons_self
      rw [List.append_nil, remainder_dashes anywhere, numbers_read,
        remainder_settled_nil final_nothing]
      rfl
  | number numeral _ ih =>
      exact leadsTo_of_first nothing anywhere
        (fun _ => remainder_numeral nothing anywhere numeral _) (List.mem_cons_of_mem _) accepted ih
  | separate option free _ ih =>
      refine leadsTo_of_first nothing anywhere (fun rest => ?_)
        (fun inside => List.mem_cons_of_mem _ (List.mem_cons_of_mem _ inside)) accepted ih
      rw [List.cons_append, remainder_name nothing anywhere, List.cons_append,
        remainder_awaiting_free anywhere nothing option free]
  | attached option value _ ih =>
      exact leadsTo_of_first nothing anywhere
        (fun _ => remainder_attached nothing anywhere option value _) (List.mem_cons_of_mem _)
        accepted ih
  | shortSeparate free _ ih =>
      refine leadsTo_of_first nothing anywhere (fun rest => ?_)
        (fun inside => List.mem_cons_of_mem _ (List.mem_cons_of_mem _ inside)) accepted ih
      rw [← remainder_awaiting_free anywhere nothing .out free]
      exact remainder_out nothing anywhere "" _
  | @shortEquals value _ arguments _ ih =>
      refine leadsTo_of_first nothing anywhere (fun rest => ?_) (List.mem_cons_of_mem _) accepted ih
      have spelled : "-o=" ++ value = "-o" ++ ("=" ++ value) := by
        rw [← String.append_assoc]
        rfl
      have attached : attachedToLetter ("=" ++ value).toList = some value := by
        simp [attachedToLetter]
      rw [spelled, List.cons_append, remainder_out nothing anywhere, attached]
      rfl
  | @shortAttached value _ arguments nonempty noEquals _ ih =>
      refine leadsTo_of_first nothing anywhere (fun rest => ?_) (List.mem_cons_of_mem _) accepted ih
      rw [List.cons_append, remainder_out nothing anywhere,
        attachedToLetter_value nonempty noEquals]
      rfl
  | jobs _ ih =>
      exact leadsTo_of_first nothing anywhere (fun _ => remainder_jobs nothing anywhere _)
        (List.mem_cons_of_mem _) accepted ih
  | quiet spelled _ ih =>
      rcases spelled with rfl | rfl
      · exact leadsTo_of_first nothing anywhere (fun _ => remainder_longQuiet nothing anywhere _)
          (List.mem_cons_of_mem _) accepted ih
      · exact leadsTo_of_first nothing anywhere (fun _ => remainder_quiet nothing anywhere _)
          (List.mem_cons_of_mem _) accepted ih
  | @clustered letters _ arguments _ ih =>
      have noDashes : "--" ≠ "-o" ++ letters := fun same => by
        simpa using congrArg String.toList same
      have inside : "--" ∈ ("-o" ++ letters) :: arguments →
          "--" ∈ ("-qo" ++ letters) :: arguments := fun behind =>
        List.mem_cons_of_mem _ (List.mem_of_ne_of_mem noDashes behind)
      refine leadsTo_of_first nothing anywhere (fun rest => ?_) inside accepted ih
      exact remainder_clustered nothing anywhere letters (arguments ++ rest)

/-- A spelling of settings that may be given is read as what these amount to. -/
theorem remainder_of_spells {settings : List Setting} {arguments : List String}
    (spells : Spells settings arguments) (nothing : progress.pending = .nothing)
    (anywhere : progress.onlyPlaces = false)
    (accepted : progress.acceptAll? settings = some final) :
    progress.remainder arguments = some final.result := by
  have read := leadsTo_of_spells spells nothing anywhere accepted [] fun _ => rfl
  rwa [List.append_nil, remainder_settled_nil (acceptAll?_settled nothing accepted).1] at read

theorem shortSwitch?_eq_some {letter : Char} {switch : Switch}
    (found : shortSwitch? letter = some switch) :
    letter = 'q' ∧ switch = .quiet ∨ switch.setting? = none := by
  unfold shortSwitch? at found
  split at found <;> cases found
  · exact Or.inl ⟨rfl, rfl⟩
  · exact Or.inr rfl
  · exact Or.inr rfl

theorem quiet_of_accept? {next : Progress} (accepted : progress.accept? .quiet = some next) :
    next.quiet = true := by
  simp only [accept?] at accepted
  split at accepted <;> cases accepted
  rfl

/-- Behind the letter of a switch only the letter of an option can follow. -/
theorem takeLetters_quiet_again (nothing : progress.pending = .nothing)
    (quiet : progress.quiet = true) {letter : Char} (other : letter ≠ 'o')
    (letters : List Char) : (progress.takeLetters (letter :: letters)).toOption = none := by
  cases found : shortSwitch? letter with
  | none =>
      rw [takeLetters_cons other, found]
      rfl
  | some switch =>
      rw [takeLetters_switch nothing found]
      rcases shortSwitch?_eq_some found with ⟨_, rfl⟩ | no_setting
      · simp [Switch.setting?, accept?, quiet]
      · simp [no_setting]

/-- A line spells settings that lead from here to what it amounts to. -/
def SpellsFrom (progress : Progress) (arguments : List String) (commandLine : CommandLine) : Prop :=
  ∃ settings final, Spells settings arguments ∧ progress.acceptAll? settings = some final ∧
    final.result = commandLine

section

variable {next : Progress} {arguments rest : List String} {commandLine : CommandLine}

theorem SpellsFrom.first {setting : Setting} (spells_rest : next.SpellsFrom rest commandLine)
    (accepted : progress.accept? setting = some next)
    (spells : ∀ {settings}, Spells settings rest → Spells (setting :: settings) arguments) :
    progress.SpellsFrom arguments commandLine := by
  rcases spells_rest with ⟨settings, final, settings_spell, settings_accepted, result⟩
  refine ⟨setting :: settings, final, spells settings_spell, ?_, result⟩
  rw [acceptAll?_cons, accepted]
  exact settings_accepted

theorem spellsFrom_behindDashes (nothing : progress.pending = .nothing)
    (onlyPlaces : progress.onlyPlaces = true)
    (read : progress.remainder arguments = some commandLine) :
    ∃ numbers final, List.Forall₂ Word.IsNumeral arguments numbers ∧
      progress.acceptAll? (numbers.map .number) = some final ∧ final.result = commandLine := by
  induction arguments generalizing progress with
  | nil =>
      rw [remainder_settled_nil nothing] at read
      exact ⟨[], progress, .nil, rfl, Option.some.inj read⟩
  | cons text rest ih =>
      rw [remainder_behindDashes nothing onlyPlaces, Option.bind_eq_some_iff] at read
      rcases read with ⟨value, value_read, read⟩
      rw [toOption_eq_some_iff, Word.read_eq_ok_iff] at value_read
      rcases Option.bind_eq_some_iff.mp read with ⟨next, accepted, read⟩
      rcases accept?_settled nothing accepted with ⟨next_nothing, same_mode⟩
      rcases ih next_nothing (same_mode.trans onlyPlaces) read with
        ⟨numbers, final, numerals, numbers_accepted, result⟩
      refine ⟨value :: numbers, final, .cons value_read numerals, ?_, result⟩
      rw [List.map_cons, acceptAll?_cons, accepted]
      exact numbers_accepted

/-- Every shorter rest of a line that is accepted spells settings. -/
def ShorterSpells (arguments : List String) (commandLine : CommandLine) : Prop :=
  ∀ {next : Progress} {rest : List String}, rest.length < arguments.length →
    next.pending = .nothing → next.onlyPlaces = false →
    next.remainder rest = some commandLine → next.SpellsFrom rest commandLine

theorem ShorterSpells.first (shorter : ShorterSpells arguments commandLine)
    (nothing : progress.pending = .nothing) (anywhere : progress.onlyPlaces = false)
    {setting : Setting} (shorter_rest : rest.length < arguments.length)
    (read : ((progress.accept? setting).bind fun next => next.remainder rest) = some commandLine)
    (spells : ∀ {settings}, Spells settings rest → Spells (setting :: settings) arguments) :
    progress.SpellsFrom arguments commandLine := by
  rcases Option.bind_eq_some_iff.mp read with ⟨next, accepted, read⟩
  rcases accept?_settled nothing accepted with ⟨next_nothing, same_mode⟩
  exact (shorter shorter_rest next_nothing (same_mode.trans anywhere) read).first accepted spells

variable {argument : String}

section

variable (shorter : ShorterSpells (argument :: rest) commandLine)
  (nothing : progress.pending = .nothing) (anywhere : progress.onlyPlaces = false)

include shorter nothing anywhere

theorem ShorterSpells.awaiting {option : ValueOption}
    (read : (progress.awaiting option).remainder rest = some commandLine)
    (spells : ∀ {value settings later}, IsFree value → Spells settings later →
      Spells (.given option value :: settings) (argument :: value :: later)) :
    progress.SpellsFrom (argument :: rest) commandLine := by
  by_cases has_value : ∃ value later, rest = value :: later ∧ IsFree value
  · rcases has_value with ⟨value, later, rfl, free⟩
    rw [remainder_awaiting_free anywhere nothing option free] at read
    exact shorter.first nothing anywhere (by simp) read fun settings_spell =>
      spells free settings_spell
  · push Not at has_value
    rw [remainder_awaiting_eq_none anywhere option has_value] at read
    cases read

theorem ShorterSpells.attached {next : Progress} {name value : List Char}
    (spelled : argument.toList = '-' :: '-' :: (name ++ '=' :: value)) (noEquals : '=' ∉ name)
    (taken : (progress.takeLong (name ++ '=' :: value)).toOption = some next)
    (read : next.remainder rest = some commandLine) :
    progress.SpellsFrom (argument :: rest) commandLine := by
  simp only [takeLong, splitAttached_value noEquals] at taken
  cases found : longOption? (String.ofList name) with
  | none =>
      cases found_switch : longSwitch? (String.ofList name) <;>
        simp [found, found_switch, Except.toOption] at taken
  | some option =>
      have name_eq := longOption?_eq_some found
      have argument_eq : argument = "--" ++ option.name ++ "=" ++ String.ofList value := by
        apply String.toList_injective
        simp [spelled, ← name_eq]
      rw [argument_eq] at shorter ⊢
      rw [found] at taken
      have accepted := (takeOption_settled nothing option (some _)).symm.trans taken
      apply shorter.first nothing anywhere (by simp) _ (.attached option _)
      rw [Option.bind_eq_some_iff]
      exact ⟨next, accepted, read⟩

theorem ShorterSpells.switch {next : Progress} (switch : Switch)
    (argument_eq : argument = "--" ++ switch.name)
    (taken : (progress.flip switch true).toOption = some next)
    (read : next.remainder rest = some commandLine) :
    progress.SpellsFrom (argument :: rest) commandLine := by
  rw [argument_eq] at shorter ⊢
  rw [flip_settled nothing] at taken
  have settles : ((switch.setting?.bind progress.accept?).bind fun next =>
      next.remainder rest) = some commandLine :=
    Option.bind_eq_some_iff.mpr ⟨next, taken, read⟩
  cases switch with
  | jobs =>
      simp only [Switch.setting?, Option.bind_some] at settles
      exact shorter.first nothing anywhere (by simp) settles .jobs
  | quiet =>
      simp only [Switch.setting?, Option.bind_some] at settles
      exact shorter.first nothing anywhere (by simp) settles (.quiet (Or.inl rfl))
  | help => cases settles
  | version => cases settles

theorem ShorterSpells.named {next : Progress} {text : List Char}
    (spelled : argument.toList = '-' :: '-' :: text) (noEquals : '=' ∉ text)
    (taken : (progress.takeLong text).toOption = some next)
    (read : next.remainder rest = some commandLine) :
    progress.SpellsFrom (argument :: rest) commandLine := by
  simp only [takeLong, splitAttached_name noEquals] at taken
  cases found : longOption? (String.ofList text) with
  | some option =>
      have name_eq := longOption?_eq_some found
      have argument_eq : argument = "--" ++ option.name := by
        apply String.toList_injective
        simp [spelled, ← name_eq]
      rw [argument_eq] at shorter ⊢
      rw [found] at taken
      have awaits := (takeOption_settled nothing option none).symm.trans taken
      cases awaits
      exact shorter.awaiting nothing anywhere read (.separate option)
  | none =>
      cases found_switch : longSwitch? (String.ofList text) with
      | none => simp [found, found_switch, Except.toOption] at taken
      | some switch =>
          have name_eq := longSwitch?_eq_some found_switch
          have argument_eq : argument = "--" ++ switch.name := by
            apply String.toList_injective
            simp [spelled, ← name_eq]
          simp only [found, found_switch] at taken
          exact shorter.switch nothing anywhere switch argument_eq taken read

theorem ShorterSpells.long {text : List Char} (spelled : argument.toList = '-' :: '-' :: text)
    (nonempty : text ≠ [])
    (read : progress.remainder (argument :: rest) = some commandLine) :
    progress.SpellsFrom (argument :: rest) commandLine := by
  rw [remainder_long anywhere spelled nonempty, Option.bind_eq_some_iff] at read
  rcases read with ⟨next, taken, read⟩
  by_cases equals : '=' ∈ text
  · rcases List.eq_append_cons_of_mem equals with ⟨name, value, rfl, noEquals⟩
    exact shorter.attached nothing anywhere spelled noEquals taken read
  · exact shorter.named nothing anywhere spelled equals taken read

end

theorem ShorterSpells.out {letters : String}
    (shorter : ShorterSpells (("-o" ++ letters) :: rest) commandLine)
    (nothing : progress.pending = .nothing) (anywhere : progress.onlyPlaces = false)
    (read : progress.remainder (("-o" ++ letters) :: rest) = some commandLine) :
    progress.SpellsFrom (("-o" ++ letters) :: rest) commandLine := by
  rw [remainder_out nothing anywhere] at read
  by_cases empty : letters = ""
  · subst empty
    exact shorter.awaiting nothing anywhere read .shortSeparate
  · by_cases equals : letters.toList.head? = some '='
    · rcases List.head?_eq_some_iff.mp equals with ⟨value, letters_eq⟩
      have spelled : "-o" ++ letters = "-o=" ++ String.ofList value := by
        apply String.toList_injective
        simp [letters_eq]
      simp only [letters_eq, attachedToLetter, Option.elim_some] at read
      rw [spelled] at shorter ⊢
      exact shorter.first nothing anywhere (by simp) read (.shortEquals _)
    · rw [attachedToLetter_value empty equals, Option.elim_some] at read
      exact shorter.first nothing anywhere (by simp) read (.shortAttached empty equals)

/-- Behind the letter of the switch that was taken there is nothing, or the letter of an option. -/
theorem ShorterSpells.quiet (shorter : ShorterSpells (argument :: rest) commandLine)
    (nothing : progress.pending = .nothing) (anywhere : progress.onlyPlaces = false)
    {next last : Progress} {letters : List Char} (spelled : argument.toList = '-' :: 'q' :: letters)
    (accepted : progress.accept? .quiet = some next)
    (taken : (next.takeLetters letters).toOption = some last)
    (read : last.remainder rest = some commandLine) :
    progress.SpellsFrom (argument :: rest) commandLine := by
  rcases accept?_settled nothing accepted with ⟨next_nothing, same_mode⟩
  have next_anywhere := same_mode.trans anywhere
  cases letters with
  | nil =>
      cases taken
      have argument_eq : argument = "-q" := String.toList_injective spelled
      rw [argument_eq] at shorter ⊢
      exact (shorter (by simp) next_nothing next_anywhere read).first accepted
        (.quiet (Or.inr rfl))
  | cons second more =>
      by_cases out_second : second = 'o'
      · have argument_eq : argument = "-qo" ++ String.ofList more := by
          apply String.toList_injective
          simp [spelled, out_second]
        have out_spelled : ("-o" ++ String.ofList more).toList = '-' :: 'o' :: more := by
          simp
        have out_read : next.remainder (("-o" ++ String.ofList more) :: rest) =
            some commandLine := by
          rw [remainder_letters next_anywhere out_spelled (by decide), Option.bind_eq_some_iff]
          exact ⟨last, out_second ▸ taken, read⟩
        have out_shorter : ShorterSpells (("-o" ++ String.ofList more) :: rest) commandLine :=
          shorter
        rw [argument_eq]
        exact (out_shorter.out next_nothing next_anywhere out_read).first accepted .clustered
      · rw [takeLetters_quiet_again next_nothing (quiet_of_accept? accepted) out_second] at taken
        cases taken

theorem ShorterSpells.letters (shorter : ShorterSpells (argument :: rest) commandLine)
    (nothing : progress.pending = .nothing) (anywhere : progress.onlyPlaces = false)
    {letter : Char} {letters : List Char} (spelled : argument.toList = '-' :: letter :: letters)
    (other : letter ≠ '-') (read : progress.remainder (argument :: rest) = some commandLine) :
    progress.SpellsFrom (argument :: rest) commandLine := by
  by_cases out : letter = 'o'
  · have argument_eq : argument = "-o" ++ String.ofList letters := by
      apply String.toList_injective
      simp [spelled, out]
    rw [argument_eq] at shorter read ⊢
    exact shorter.out nothing anywhere read
  · rw [remainder_letters anywhere spelled other] at read
    cases found : shortSwitch? letter with
    | none =>
        rw [takeLetters_cons out, found] at read
        cases read
    | some switch =>
        rw [takeLetters_switch nothing found] at read
        rcases shortSwitch?_eq_some found with ⟨rfl, rfl⟩ | no_setting
        · simp only [Switch.setting?, Option.bind_some] at read
          rcases Option.bind_eq_some_iff.mp read with ⟨last, letters_taken, last_read⟩
          rcases Option.bind_eq_some_iff.mp letters_taken with ⟨next, accepted, later_taken⟩
          exact shorter.quiet nothing anywhere spelled accepted later_taken last_read
        · rw [no_setting] at read
          cases read

/-- A line that is accepted spells the settings that lead to what it amounts to. -/
theorem spellsFrom_of_remainder (nothing : progress.pending = .nothing)
    (anywhere : progress.onlyPlaces = false)
    (read : progress.remainder arguments = some commandLine) :
    progress.SpellsFrom arguments commandLine := by
  -- Every way to start a line leaves a shorter rest, but not always one argument less.
  induction length : arguments.length using Nat.strong_induction_on
    generalizing progress arguments with
  | _ length ih =>
      subst length
      have shorter : ShorterSpells arguments commandLine :=
        fun shorter_rest next_nothing next_anywhere next_read =>
          ih _ shorter_rest next_nothing next_anywhere next_read rfl
      cases arguments with
      | nil =>
          rw [remainder_settled_nil nothing] at read
          exact ⟨[], progress, .nothing, rfl, Option.some.inj read⟩
      | cons argument rest =>
          rcases shape argument with
            free | rfl | ⟨first, later, text⟩ | ⟨letter, later, other, text⟩
          · rw [remainder_free nothing anywhere free, Option.bind_eq_some_iff] at read
            rcases read with ⟨value, value_read, read⟩
            rw [toOption_eq_some_iff, Word.read_eq_ok_iff] at value_read
            exact shorter.first nothing anywhere (by simp) read (.number value_read)
          · rw [remainder_dashes anywhere] at read
            have behind_nothing : progress.behindDashes.pending = .nothing := nothing
            rcases spellsFrom_behindDashes behind_nothing rfl read with
              ⟨numbers, final, numerals, accepted, result⟩
            rw [acceptAll?_behindDashes, Option.map_eq_some_iff] at accepted
            rcases accepted with ⟨final, accepted, rfl⟩
            exact ⟨_, final, .dashes numerals, accepted, result⟩
          · exact shorter.long nothing anywhere text (List.cons_ne_nil _ _) read
          · exact shorter.letters nothing anywhere text other read

/-- Behind a settled beginning exactly the lines that spell settings are accepted. -/
theorem remainder_eq_some_iff (nothing : progress.pending = .nothing)
    (anywhere : progress.onlyPlaces = false) :
    progress.remainder arguments = some commandLine ↔
      progress.SpellsFrom arguments commandLine := by
  constructor
  · exact spellsFrom_of_remainder nothing anywhere
  · rintro ⟨settings, final, spells, accepted, rfl⟩
    exact remainder_of_spells spells nothing anywhere accepted

end

end Progress

end BenchTree.CommandLine
