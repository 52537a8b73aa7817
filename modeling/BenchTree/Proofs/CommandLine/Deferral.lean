import BenchTree.Proofs.CommandLine.Grammar

/-!
# Values that wait for their check

A value is checked only when the next place, known option or the end of the line is met. That
decides which of two problems is reported, but not whether there is one: a line is accepted, with
the same result, when every value is checked at once. So the reading of an argument behind a
settled beginning amounts to one setting, and the rest of the line is read from there.
-/

namespace BenchTree.CommandLine.Progress

theorem toOption_bind {Problem Value Result : Type} (outcome : Except Problem Value)
    (next : Value → Except Problem Result) :
    (outcome >>= next).toOption = outcome.toOption.bind fun value => (next value).toOption := by
  cases outcome <;> rfl

theorem toOption_eq_some_iff {Problem Value : Type} {outcome : Except Problem Value}
    {value : Value} : outcome.toOption = some value ↔ outcome = .ok value := by
  cases outcome <;> simp [Except.toOption]

/-- What the settings so far amount to. -/
def result (progress : Progress) : CommandLine where
  files := progress.files
  deps := progress.deps
  modules := progress.modules
  out := progress.out.getD "."
  config := progress.config
  backends := progress.backends
  jobs := progress.jobs
  manifest := progress.manifest
  quiet := progress.quiet

/-- What is read in the end, if the remaining arguments are accepted. -/
def remainder (progress : Progress) (arguments : List String) : Option CommandLine :=
  (arguments.foldlM take progress >>= finish).toOption

/-- The number at a place is given. -/
def fill (progress : Progress) (position : Position) (value : Nat) : Progress :=
  match position with
  | .files => { progress with files := some value }
  | .deps => { progress with deps := some value }
  | .modules => { progress with modules := some value }

/-- The progress after a setting, if that may be given. -/
def accept? (progress : Progress) : Setting → Option Progress
  | .number value =>
      match progress.places with
      | [] => none
      | position :: places => some ({ progress with places := places }.fill position value)
  | .given option value => (progress.setOption option value).toOption
  | .jobs => if progress.jobs then none else some { progress with jobs := true }
  | .quiet => if progress.quiet then none else some { progress with quiet := true }

/-- The same progress behind two dashes. -/
def behindDashes (progress : Progress) : Progress := { progress with onlyPlaces := true }

/-- An option waits for its value. -/
def IsWaiting (progress : Progress) : Prop := ∃ option, progress.pending = .option option none

variable {progress settled : Progress} {arguments : List String}

@[simp]
theorem remainder_nil (progress : Progress) :
    progress.remainder [] = progress.settle.toOption.map result := by
  have finished : progress.finish.toOption = progress.settle.toOption.map result := by
    rw [finish, toOption_bind]
    cases progress.settle <;> rfl
  exact finished

@[simp]
theorem remainder_cons (progress : Progress) (first : String) (rest : List String) :
    progress.remainder (first :: rest) =
      (progress.take first).toOption.bind fun next => next.remainder rest := by
  rw [remainder, List.foldlM_cons, bind_assoc, toOption_bind]
  rfl

/-- Nothing waits any more, and what is still to come is as before. -/
structure SettlesTo (progress settled : Progress) : Prop where
  settles : progress.settle = .ok settled
  pending : settled.pending = .nothing
  places : settled.places = progress.places
  onlyPlaces : settled.onlyPlaces = progress.onlyPlaces

theorem setPosition_eq (progress : Progress) (position : Position) (text : String) :
    (progress.setPosition position text).toOption =
      (Word.read text).toOption.map (progress.fill position) := by
  rw [setPosition]
  cases Word.read text with
  | error reason => rfl
  | ok value => cases position <;> rfl

theorem setOption_untouched {option : ValueOption} {value : String} {next : Progress}
    (set : progress.setOption option value = .ok next) :
    next.pending = progress.pending ∧ next.places = progress.places ∧
      next.onlyPlaces = progress.onlyPlaces := by
  cases option with
  | backend =>
      simp only [setOption] at set
      split at set
      · cases set
        exact ⟨rfl, rfl, rfl⟩
      · split at set <;> cases set
  | _ =>
      simp only [setOption] at set
      split at set
      · cases set
      · cases set
        exact ⟨rfl, rfl, rfl⟩

theorem setPosition_untouched {position : Position} {text : String} {next : Progress}
    (set : progress.setPosition position text = .ok next) :
    next.pending = progress.pending ∧ next.places = progress.places ∧
      next.onlyPlaces = progress.onlyPlaces := by
  simp only [setPosition] at set
  split at set
  · cases set
  · split at set <;> cases set <;> exact ⟨rfl, rfl, rfl⟩

theorem settlesTo (settles : progress.settle = .ok settled) : progress.SettlesTo settled := by
  have untouched : settled.pending = .nothing ∧ settled.places = progress.places ∧
      settled.onlyPlaces = progress.onlyPlaces := by
    have settling := settles
    simp only [settle] at settling
    split at settling
    · cases settling
      exact ⟨rfl, rfl, rfl⟩
    · cases settling
    · exact setOption_untouched settling
    · exact setPosition_untouched settling
  exact ⟨settles, untouched.1, untouched.2.1, untouched.2.2⟩

theorem settle_of_settled (nothing : progress.pending = .nothing) :
    progress.settle = .ok progress := by
  cases progress
  cases nothing
  rfl

theorem SettlesTo.again (step : progress.SettlesTo settled) : settled.settle = .ok settled :=
  settle_of_settled step.pending

/-- What settles first and then goes on regardless of what was pending may be settled before. -/
theorem deferred {step : Progress → Except Interruption Progress}
    {next : Progress → Except Interruption Progress}
    (settles_first : ∀ start : Progress, step start = start.settle >>= next) :
    (step progress).toOption =
      progress.settle.toOption.bind fun settled => (step settled).toOption := by
  rw [settles_first, toOption_bind]
  cases settles : progress.settle with
  | error problem => rfl
  | ok settled =>
      have again : settled.settle = .ok settled := (settlesTo settles).again
      simp only [Except.toOption, Option.bind_some, settles_first, again]
      rfl

theorem takeOption_deferred (option : ValueOption) (attached : Option String) :
    (progress.takeOption option attached).toOption = progress.settle.toOption.bind
      fun settled => (settled.takeOption option attached).toOption :=
  deferred fun _ => rfl

theorem flip_deferred (switch : Switch) (isLong : Bool) :
    (progress.flip switch isLong).toOption = progress.settle.toOption.bind
      fun settled => (settled.flip switch isLong).toOption :=
  deferred fun _ => rfl

theorem takePlace_deferred (argument : String) :
    (progress.takePlace argument).toOption = progress.settle.toOption.bind
      fun settled => (settled.takePlace argument).toOption := by
  cases places : progress.places with
  | nil =>
      have refused : ∀ {start : Progress}, start.places = [] →
          (start.takePlace argument).toOption = none := by
        intro start no_places
        rw [takePlace, no_places]
        rfl
      rw [refused places, eq_comm, Option.bind_eq_none_iff]
      intro settled settles
      rw [toOption_eq_some_iff] at settles
      exact refused ((settlesTo settles).places.trans places)
  | cons position later =>
      cases settles : progress.settle with
      | error problem =>
          rw [takePlace, places, settles]
          rfl
      | ok settled =>
          have step := settlesTo settles
          have same : progress.takePlace argument = settled.takePlace argument := by
            rw [takePlace, takePlace, step.places, places, settles, step.again]
          rw [same]
          rfl

theorem takeLong_deferred (text : List Char) :
    (progress.takeLong text).toOption = progress.settle.toOption.bind
      fun settled => (settled.takeLong text).toOption := by
  have refused : ∀ problem : Interruption, (none : Option Progress) =
      progress.settle.toOption.bind fun _ => (Except.error problem).toOption := by
    intro problem
    cases progress.settle <;> rfl
  simp only [takeLong]
  split
  · exact takeOption_deferred _ _
  · split
    · exact refused _
    · exact flip_deferred _ _
  · exact refused _

theorem takeLetters_cons {letter : Char} (other : letter ≠ 'o') (rest : List Char) :
    progress.takeLetters (letter :: rest) =
      match shortSwitch? letter with
      | some switch => progress.flip switch false >>= fun next => next.takeLetters rest
      | none => .error (.usage (.unknownArgument ("-" ++ String.singleton letter))) :=
  takeLetters.eq_3 progress letter rest other

theorem takeLetters_deferred {letters : List Char} (nonempty : letters ≠ []) :
    (progress.takeLetters letters).toOption = progress.settle.toOption.bind
      fun settled => (settled.takeLetters letters).toOption := by
  cases letters with
  | nil => exact absurd rfl nonempty
  | cons letter rest =>
      by_cases out : letter = 'o'
      · subst out
        exact takeOption_deferred _ _
      · simp only [takeLetters_cons out]
        cases shortSwitch? letter with
        | none => cases progress.settle <;> rfl
        | some switch =>
            simp only [toOption_bind]
            rw [flip_deferred, Option.bind_assoc]

/-- What an argument looks like where options may stand. -/
inductive Shape (argument : String) : Prop where
  | free (free : IsFree argument)
  | dashes (same : argument = "--")
  | long (first : Char) (rest : List Char) (text : argument.toList = '-' :: '-' :: first :: rest)
  | letters (letter : Char) (rest : List Char) (other : letter ≠ '-')
      (text : argument.toList = '-' :: letter :: rest)

theorem shape (argument : String) : Shape argument := by
  cases text : argument.toList with
  | nil => exact .free (Or.inr (by simp [text]))
  | cons first rest =>
      by_cases dash : first = '-'
      · subst dash
        cases rest with
        | nil => exact .free (Or.inl (String.toList_injective text))
        | cons second later =>
            by_cases dash : second = '-'
            · subst dash
              cases later with
              | nil => exact .dashes (String.toList_injective text)
              | cons third others => exact .long third others text
            · exact .letters second later dash text
      · exact .free (Or.inr (by simpa [text] using dash))

theorem take_place (onlyPlaces : progress.onlyPlaces = true) (argument : String) :
    progress.take argument = progress.takePlace argument := by
  rw [take, if_pos onlyPlaces]

section

variable (anywhere : progress.onlyPlaces = false)

include anywhere

theorem take_free {argument : String} (free : IsFree argument) :
    progress.take argument = progress.takeValue argument := by
  rw [take, anywhere, if_neg Bool.false_ne_true]
  rcases free with rfl | free
  · rfl
  · split
    · rfl
    · rename_i text
      simp [text] at free
    · rename_i text
      simp [text] at free
    · rename_i text
      simp [text] at free
    · rfl

theorem take_dashes : progress.take "--" = .ok progress.behindDashes := by
  rw [take, anywhere]
  rfl

theorem take_long {argument : String} {first : Char} {rest : List Char}
    (text : argument.toList = '-' :: '-' :: first :: rest) :
    progress.take argument = progress.takeLong (first :: rest) := by
  rw [take, anywhere, text]
  rfl

theorem take_letters {argument : String} {letter : Char} {rest : List Char} (other : letter ≠ '-')
    (text : argument.toList = '-' :: letter :: rest) :
    progress.take argument = progress.takeLetters (letter :: rest) := by
  rw [take, anywhere, if_neg Bool.false_ne_true, text]
  split
  · rename_i same
    cases same
  · rename_i same
    exact absurd (List.cons.inj (List.cons.inj same).2).1 other
  · rename_i same
    exact absurd (List.cons.inj (List.cons.inj same).2).1 other
  · rename_i same
    rw [← (List.cons.inj same).2]
  · rename_i no_letters
    exact absurd rfl (no_letters _)

end

theorem takeValue_of_not_waiting (notWaiting : ¬progress.IsWaiting) (argument : String) :
    progress.takeValue argument = progress.takePlace argument := by
  rw [takeValue]
  split
  · rename_i option pending
    exact absurd ⟨option, pending⟩ notWaiting
  · rfl

theorem not_isWaiting_of_settled (nothing : progress.pending = .nothing) :
    ¬progress.IsWaiting := by
  rintro ⟨option, pending⟩
  rw [nothing] at pending
  cases pending

/-- An argument is taken in the same way after what is pending is settled. -/
theorem take_deferred (notWaiting : ¬progress.IsWaiting) {argument : String}
    (noDashes : progress.onlyPlaces = true ∨ argument ≠ "--") :
    (progress.take argument).toOption = progress.settle.toOption.bind
      fun settled => (settled.take argument).toOption := by
  have settling : ∀ settled, progress.settle.toOption = some settled →
      progress.SettlesTo settled := fun settled settles =>
    settlesTo (toOption_eq_some_iff.mp settles)
  cases mode : progress.onlyPlaces with
  | true =>
      rw [take_place mode, takePlace_deferred]
      apply Option.bind_congr
      intro settled settles
      rw [take_place ((settling settled settles).onlyPlaces.trans mode)]
  | false =>
      have anywhere : ∀ settled, progress.settle.toOption = some settled →
          settled.onlyPlaces = false := fun settled settles =>
        (settling settled settles).onlyPlaces.trans mode
      rcases shape argument with free | same | ⟨first, rest, text⟩ | ⟨letter, rest, other, text⟩
      · rw [take_free mode free, takeValue_of_not_waiting notWaiting, takePlace_deferred]
        apply Option.bind_congr
        intro settled settles
        rw [take_free (anywhere settled settles) free, takeValue_of_not_waiting
          (not_isWaiting_of_settled (settling settled settles).pending)]
      · exact absurd same (noDashes.resolve_left (by simp [mode]))
      · rw [take_long mode text, takeLong_deferred]
        apply Option.bind_congr
        intro settled settles
        rw [take_long (anywhere settled settles) text]
      · rw [take_letters mode other text, takeLetters_deferred (List.cons_ne_nil _ _)]
        apply Option.bind_congr
        intro settled settles
        rw [take_letters (anywhere settled settles) other text]

theorem setOption_behindDashes (progress : Progress) (option : ValueOption) (value : String) :
    (progress.behindDashes.setOption option value).toOption =
      (progress.setOption option value).toOption.map behindDashes := by
  cases option with
  | backend =>
      simp only [setOption]
      split
      · rfl
      · split <;> rfl
  | out =>
      cases given : progress.out <;> simp [setOption, behindDashes, given, Except.toOption]
  | config =>
      cases given : progress.config <;> simp [setOption, behindDashes, given, Except.toOption]
  | manifest =>
      cases given : progress.manifest <;> simp [setOption, behindDashes, given, Except.toOption]

theorem fill_behindDashes (progress : Progress) (position : Position) (value : Nat) :
    progress.behindDashes.fill position value = (progress.fill position value).behindDashes := by
  cases position <;> rfl

theorem settle_behindDashes (progress : Progress) :
    progress.behindDashes.settle.toOption = progress.settle.toOption.map behindDashes := by
  have same : progress.behindDashes.pending = progress.pending := rfl
  simp only [settle, same]
  cases progress.pending with
  | nothing => rfl
  | option option value =>
      cases value with
      | none => rfl
      | some value =>
          exact setOption_behindDashes { progress with pending := .nothing } option value
  | position position text =>
      simp only [setPosition_eq, Option.map_map]
      congr 1
      funext value
      exact fill_behindDashes { progress with pending := .nothing } position value

/-- Nothing is decided by what is pending but the problem that is reported first. -/
theorem remainder_deferred (notWaiting : ¬progress.IsWaiting) (arguments : List String) :
    progress.remainder arguments =
      progress.settle.toOption.bind fun settled => settled.remainder arguments := by
  induction arguments generalizing progress with
  | nil =>
      simp only [remainder_nil]
      cases settles : progress.settle with
      | error problem => rfl
      | ok settled =>
          simp only [Except.toOption, Option.bind_some, (settlesTo settles).again]
  | cons first rest ih =>
      simp only [remainder_cons]
      by_cases noDashes : progress.onlyPlaces = true ∨ first ≠ "--"
      · rw [take_deferred notWaiting noDashes, Option.bind_assoc]
      · push Not at noDashes
        rcases noDashes with ⟨mode, rfl⟩
        have anywhere : progress.onlyPlaces = false := by simpa using mode
        have still : ¬progress.behindDashes.IsWaiting := notWaiting
        rw [take_dashes anywhere]
        simp only [Except.toOption, Option.bind_some]
        rw [ih still, settle_behindDashes, Option.bind_map]
        apply Option.bind_congr
        intro settled settles
        have settling := settlesTo (toOption_eq_some_iff.mp settles)
        rw [take_dashes (settling.onlyPlaces.trans anywhere)]
        rfl

end BenchTree.CommandLine.Progress
