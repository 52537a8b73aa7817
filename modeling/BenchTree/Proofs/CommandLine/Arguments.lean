import BenchTree.Proofs.CommandLine.Deferral

/-!
# What one argument settles

Behind a settled beginning, where options may stand, an argument has one of a few forms, or the line
is refused. Each form amounts to a setting, to two for a cluster, or makes an option wait for its
value. These facts are equations about the rest of the line, so that they serve for reading a
spelling as well as for finding the spelling of what was read.
-/

namespace BenchTree.CommandLine

theorem takeWhile_ne_equals {name : List Char} (noEquals : '=' ∉ name) :
    ∀ letter ∈ name, decide (letter ≠ '=') = true := by
  intro letter letter_mem
  rw [decide_eq_true_eq]
  rintro rfl
  exact noEquals letter_mem

theorem splitAttached_name {name : List Char} (noEquals : '=' ∉ name) :
    splitAttached name = (String.ofList name, none) := by
  have kept := takeWhile_ne_equals noEquals
  rw [splitAttached, List.takeWhile_eq_self_iff.mpr kept, List.dropWhile_eq_nil_iff.mpr kept]

theorem splitAttached_value {name : List Char} (noEquals : '=' ∉ name) (value : List Char) :
    splitAttached (name ++ '=' :: value) = (String.ofList name, some (String.ofList value)) := by
  have kept := takeWhile_ne_equals noEquals
  rw [splitAttached, List.takeWhile_append_of_pos kept, List.dropWhile_append_of_pos kept]
  simp

theorem longOption?_name (option : ValueOption) : longOption? option.name = some option := by
  cases option <;> rfl

theorem longOption?_eq_some {name : String} {option : ValueOption}
    (found : longOption? name = some option) : name = option.name := by
  unfold longOption? at found
  split at found <;> cases found <;> rfl

/-- The long name of a switch. -/
def Switch.name : Switch → String
  | .jobs => "jobs"
  | .quiet => "quiet"
  | .help => "help"
  | .version => "version"

theorem noEquals_name (option : ValueOption) : '=' ∉ option.name.toList := by
  cases option <;> decide

theorem longSwitch?_name (switch : Switch) : longSwitch? switch.name = some switch := by
  cases switch <;> rfl

theorem longSwitch?_eq_some {name : String} {switch : Switch}
    (found : longSwitch? name = some switch) : name = switch.name := by
  unfold longSwitch? at found
  split at found <;> cases found <;> rfl

theorem longOption?_switch (switch : Switch) : longOption? switch.name = none := by
  cases switch <;> rfl

theorem noEquals_switch (switch : Switch) : '=' ∉ switch.name.toList := by
  cases switch <;> decide

/-- What a switch settles; the others end the reading. -/
def Switch.setting? : Switch → Option Setting
  | .jobs => some .jobs
  | .quiet => some .quiet
  | .help => none
  | .version => none

namespace Progress

variable {progress : Progress}

theorem flip_settled (nothing : progress.pending = .nothing) (switch : Switch) (isLong : Bool) :
    (progress.flip switch isLong).toOption = switch.setting?.bind progress.accept? := by
  rw [flip, settle_of_settled nothing]
  cases switch with
  | jobs =>
      cases given : progress.jobs <;>
        simp [Switch.setting?, accept?, given, bind, Except.bind, Except.toOption]
  | quiet =>
      cases given : progress.quiet <;>
        simp [Switch.setting?, accept?, given, bind, Except.bind, Except.toOption]
  | help => rfl
  | version => rfl

theorem accept?_settled (nothing : progress.pending = .nothing) {setting : Setting}
    {next : Progress} (accepted : progress.accept? setting = some next) :
    next.pending = .nothing ∧ next.onlyPlaces = progress.onlyPlaces := by
  cases setting with
  | number value =>
      simp only [accept?] at accepted
      split at accepted
      · cases accepted
      · rename_i position places _
        cases accepted
        cases position <;> exact ⟨nothing, rfl⟩
  | given option value =>
      have untouched := setOption_untouched (toOption_eq_some_iff.mp accepted)
      exact ⟨untouched.1.trans nothing, untouched.2.2⟩
  | jobs =>
      simp only [accept?] at accepted
      split at accepted <;> cases accepted
      exact ⟨nothing, rfl⟩
  | quiet =>
      simp only [accept?] at accepted
      split at accepted <;> cases accepted
      exact ⟨nothing, rfl⟩

/-- An option waits for its value. -/
def awaiting (progress : Progress) (option : ValueOption) : Progress :=
  { progress with pending := .option option none }

theorem takeOption_settled (nothing : progress.pending = .nothing) (option : ValueOption)
    (attached : Option String) : (progress.takeOption option attached).toOption =
      attached.elim (some (progress.awaiting option)) fun value =>
        progress.accept? (.given option value) := by
  rw [takeOption, settle_of_settled nothing]
  cases attached <;> rfl

/-- A value that waits for its check is checked in the end, as if it were checked at once. -/
theorem remainder_value (nothing : progress.pending = .nothing) (option : ValueOption)
    (value : String) (rest : List String) :
    { progress with pending := .option option (some value) }.remainder rest =
      (progress.accept? (.given option value)).bind fun next => next.remainder rest := by
  have notWaiting : ¬{ progress with pending := .option option (some value) }.IsWaiting := by
    rintro ⟨_, pending⟩
    cases pending
  have settles : { progress with pending := .option option (some value) }.settle =
      progress.setOption option value := by
    cases progress
    cases nothing
    rfl
  rw [remainder_deferred notWaiting, settles]
  rfl

theorem remainder_position (nothing : progress.pending = .nothing) (position : Position)
    (places : List Position) (text : String) (rest : List String) :
    { progress with pending := .position position text, places := places }.remainder rest =
      (Word.read text).toOption.bind fun value =>
        ({ progress with places := places }.fill position value).remainder rest := by
  have notWaiting :
      ¬{ progress with pending := .position position text, places := places }.IsWaiting := by
    rintro ⟨_, pending⟩
    cases pending
  have settles : { progress with pending := .position position text, places := places }.settle =
      { progress with places := places }.setPosition position text := by
    cases progress
    cases nothing
    rfl
  rw [remainder_deferred notWaiting, settles, setPosition_eq, Option.bind_map]
  rfl

/-- An argument that takes the next place gives a number. -/
theorem remainder_takePlace (nothing : progress.pending = .nothing) (text : String)
    (rest : List String) :
    ((progress.takePlace text).toOption.bind fun next => next.remainder rest) =
      (Word.read text).toOption.bind fun value =>
        (progress.accept? (.number value)).bind fun next => next.remainder rest := by
  cases still : progress.places with
  | nil =>
      rw [takePlace, still]
      simp only [accept?, still, Option.bind_none]
      cases (Word.read text).toOption <;> rfl
  | cons position places =>
      rw [takePlace, still, settle_of_settled nothing]
      simp only [accept?, still, Option.bind_some]
      exact remainder_position nothing position places text rest

theorem remainder_behindDashes (nothing : progress.pending = .nothing)
    (onlyPlaces : progress.onlyPlaces = true) (text : String) (rest : List String) :
    progress.remainder (text :: rest) = (Word.read text).toOption.bind fun value =>
      (progress.accept? (.number value)).bind fun next => next.remainder rest := by
  rw [remainder_cons, take_place onlyPlaces, remainder_takePlace nothing]

theorem remainder_free (nothing : progress.pending = .nothing)
    (anywhere : progress.onlyPlaces = false) {text : String} (free : IsFree text)
    (rest : List String) :
    progress.remainder (text :: rest) = (Word.read text).toOption.bind fun value =>
      (progress.accept? (.number value)).bind fun next => next.remainder rest := by
  rw [remainder_cons, take_free anywhere free,
    takeValue_of_not_waiting (not_isWaiting_of_settled nothing), remainder_takePlace nothing]

/-- Behind two dashes nothing can settle what is missing. -/
theorem remainder_of_unsettled (onlyPlaces : progress.onlyPlaces = true)
    (unsettled : progress.settle.toOption = none) (arguments : List String) :
    progress.remainder arguments = none := by
  cases arguments with
  | nil => rw [remainder_nil, unsettled, Option.map_none]
  | cons argument rest =>
      rw [remainder_cons, take_place onlyPlaces, takePlace_deferred, unsettled]
      rfl

section

variable (anywhere : progress.onlyPlaces = false)

include anywhere

theorem remainder_dashes (rest : List String) :
    progress.remainder ("--" :: rest) = progress.behindDashes.remainder rest := by
  rw [remainder_cons, take_dashes anywhere]
  rfl

theorem remainder_long {argument : String} {text : List Char}
    (spelled : argument.toList = '-' :: '-' :: text) (nonempty : text ≠ []) (rest : List String) :
    progress.remainder (argument :: rest) =
      (progress.takeLong text).toOption.bind fun next => next.remainder rest := by
  cases text with
  | nil => exact absurd rfl nonempty
  | cons first later => rw [remainder_cons, take_long anywhere spelled]

theorem remainder_letters {argument : String} {letter : Char} {letters : List Char}
    (spelled : argument.toList = '-' :: letter :: letters) (other : letter ≠ '-')
    (rest : List String) :
    progress.remainder (argument :: rest) =
      (progress.takeLetters (letter :: letters)).toOption.bind fun next => next.remainder rest := by
  rw [remainder_cons, take_letters anywhere other spelled]

/-- An option that waits takes the next argument as its value. -/
theorem remainder_awaiting_free (nothing : progress.pending = .nothing) (option : ValueOption)
    {value : String} (free : IsFree value) (rest : List String) :
    (progress.awaiting option).remainder (value :: rest) =
      (progress.accept? (.given option value)).bind fun next => next.remainder rest := by
  have awaiting_anywhere : (progress.awaiting option).onlyPlaces = false := anywhere
  rw [← remainder_value nothing, remainder_cons, take_free awaiting_anywhere free]
  rfl

/-- An option that waits refuses everything that cannot be its value. -/
theorem remainder_awaiting_eq_none (option : ValueOption) {arguments : List String}
    (noValue : ∀ value rest, arguments = value :: rest → ¬IsFree value) :
    (progress.awaiting option).remainder arguments = none := by
  have unsettled : (progress.awaiting option).settle.toOption = none := rfl
  have awaiting_anywhere : (progress.awaiting option).onlyPlaces = false := anywhere
  cases arguments with
  | nil => rw [remainder_nil, unsettled, Option.map_none]
  | cons argument rest =>
      rw [remainder_cons]
      rcases shape argument with free | rfl | ⟨first, later, text⟩ | ⟨letter, later, other, text⟩
      · exact absurd free (noValue argument rest rfl)
      · rw [take_dashes awaiting_anywhere]
        exact remainder_of_unsettled rfl rfl rest
      · rw [take_long awaiting_anywhere text, takeLong_deferred, unsettled]
        rfl
      · rw [take_letters awaiting_anywhere other text,
          takeLetters_deferred (List.cons_ne_nil _ _), unsettled]
        rfl

end

section

variable (nothing : progress.pending = .nothing)

include nothing

theorem takeLong_name (option : ValueOption) :
    (progress.takeLong option.name.toList).toOption = some (progress.awaiting option) := by
  simp only [takeLong, splitAttached_name (noEquals_name option), String.ofList_toList,
    longOption?_name]
  exact takeOption_settled nothing option none

theorem takeLong_attached (option : ValueOption) (value : List Char) :
    (progress.takeLong (option.name.toList ++ '=' :: value)).toOption =
      progress.accept? (.given option (String.ofList value)) := by
  simp only [takeLong, splitAttached_value (noEquals_name option), String.ofList_toList,
    longOption?_name]
  exact takeOption_settled nothing option (some _)

theorem takeLong_switch (switch : Switch) :
    (progress.takeLong switch.name.toList).toOption = switch.setting?.bind progress.accept? := by
  simp only [takeLong, splitAttached_name (noEquals_switch switch), String.ofList_toList,
    longSwitch?_name, longOption?_switch]
  exact flip_settled nothing switch true

theorem takeLetters_out (letters : List Char) :
    (progress.takeLetters ('o' :: letters)).toOption =
      (attachedToLetter letters).elim (some (progress.awaiting .out)) fun value =>
        progress.accept? (.given .out value) :=
  takeOption_settled nothing .out (attachedToLetter letters)

theorem takeLetters_switch {letter : Char} {switch : Switch}
    (found : shortSwitch? letter = some switch) (letters : List Char) :
    (progress.takeLetters (letter :: letters)).toOption =
      (switch.setting?.bind progress.accept?).bind fun next =>
        (next.takeLetters letters).toOption := by
  have other : letter ≠ 'o' := by
    rintro rfl
    cases found
  simp only [takeLetters_cons other, found, toOption_bind, flip_settled nothing]

end

end Progress

end BenchTree.CommandLine
