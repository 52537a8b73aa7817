import BenchTree.Proofs.CommandLine.Exactness

/-!
# A backend more on a command line

A backend may be asked for at every place of a line that comes before two dashes and does not part
an option from its value. The line is accepted exactly when the given name is one of the names, as
it stands, and when the line without it is accepted; then it asks for one backend more, behind those
that were asked for before. The argument goes by the settings that a line spells: what stands in
front leads to a progress, and what follows is read from there.
-/

namespace BenchTree.CommandLine

/-- One backend more, behind the first few. -/
def insertBackend (commandLine : CommandLine) (index : Nat) (backend : Backend) : CommandLine :=
  { commandLine with backends := commandLine.backends.insertIdx index backend }

variable {front back : List Setting} {earlier commandLine : CommandLine} {text : String}

namespace Progress

variable {progress : Progress} {arguments : List String}

theorem acceptAll?_append (progress : Progress) (front back : List Setting) :
    progress.acceptAll? (front ++ back) =
      (progress.acceptAll? front).bind fun next => next.acceptAll? back := by
  simp [acceptAll?, List.foldlM_append]

/-- Settings behind others give what a progress that collects these comes to with them. -/
theorem give_append_iff (accepted : start.acceptAll? front = some progress) :
    Give (front ++ back) commandLine ↔
      ∃ final, progress.acceptAll? back = some final ∧ final.result = commandLine := by
  simp only [give_iff, ← acceptAll?_start_iff, acceptAll?_append, accepted, Option.bind_some]

section

variable (nothing : progress.pending = .nothing) (anywhere : progress.onlyPlaces = false)

include nothing anywhere

/-- A setting in front of a line is one more setting that the line spells. -/
theorem bind_remainder_eq_some_iff (first : Setting) :
    ((progress.accept? first).bind fun next => next.remainder arguments) = some commandLine ↔
      ∃ later, Spells later arguments ∧ ∃ final,
        progress.acceptAll? (first :: later) = some final ∧ final.result = commandLine := by
  simp only [Option.bind_eq_some_iff, acceptAll?_cons]
  constructor
  · rintro ⟨next, accepted, read⟩
    rcases accept?_settled nothing accepted with ⟨next_nothing, same_mode⟩
    rw [remainder_eq_some_iff next_nothing (same_mode.trans anywhere)] at read
    rcases read with ⟨later, final, spells, later_accepted, result⟩
    exact ⟨later, spells, final, ⟨next, accepted, later_accepted⟩, result⟩
  · rintro ⟨later, spells, final, ⟨next, accepted, later_accepted⟩, result⟩
    rcases accept?_settled nothing accepted with ⟨next_nothing, same_mode⟩
    refine ⟨next, accepted, ?_⟩
    rw [remainder_eq_some_iff next_nothing (same_mode.trans anywhere)]
    exact ⟨later, final, spells, later_accepted, result⟩

/-- A backend is asked for in the same way with an equals sign and without. -/
theorem remainder_backend {spelled : List String}
    (spelled_mem : spelled ∈ [["--backend=" ++ text], ["--backend", text]]) (rest : List String) :
    progress.remainder (spelled ++ rest) =
      (progress.accept? (.given .backend text)).bind fun next => next.remainder rest := by
  simp only [List.mem_cons, List.not_mem_nil, or_false] at spelled_mem
  rcases spelled_mem with rfl | rfl
  · exact remainder_attached nothing anywhere .backend text rest
  · have awaits : progress.remainder (["--backend", text] ++ rest) =
        (progress.awaiting .backend).remainder (text :: rest) :=
      remainder_name nothing anywhere .backend (text :: rest)
    rw [awaits]
    by_cases free : IsFree text
    · exact remainder_awaiting_free anywhere nothing .backend free rest
    · -- What cannot follow the option is no name either.
      have unnamed : Backend.ofName? text = none := by
        by_contra named
        rcases Option.ne_none_iff_exists'.mp named with ⟨backend, found⟩
        rw [← ofName?_eq_some_iff.mp found] at free
        exact free (by cases backend <;> decide)
      have refused : progress.accept? (.given .backend text) = none := by
        simp only [accept?, setOption, unnamed]
        split <;> rfl
      have no_value : ∀ value others, text :: rest = value :: others → ¬IsFree value := by
        rintro _ _ ⟨⟩
        exact free
      rw [refused, remainder_awaiting_eq_none anywhere .backend no_value]
      rfl

end

end Progress

/-! ## Settings with one more -/

theorem numbers_insert (option : ValueOption) :
    numbers (front ++ .given option text :: back) = numbers (front ++ back) := by
  simp [numbers, Setting.number?, List.filterMap_cons]

theorem values_insert_of_ne {option wanted : ValueOption} (other : wanted ≠ option) :
    values wanted (front ++ .given option text :: back) = values wanted (front ++ back) := by
  simp [values, Setting.valueOf?, other.symm]

theorem values_insert_self (option : ValueOption) :
    values option (front ++ .given option text :: back) =
      values option front ++ text :: values option back := by
  simp [values, Setting.valueOf?]

theorem count_insert {option : ValueOption} {switch : Setting}
    (other : ∀ value, .given option value ≠ switch) :
    (front ++ .given option text :: back).count switch = (front ++ back).count switch := by
  rw [List.count_append, List.count_cons_of_ne (other text), ← List.count_append]

/-- Settings that differ in the backends only give command lines that differ in them only. -/
theorem Give.withBackends {settings others : List Setting} (give : Give settings commandLine)
    (same_numbers : numbers others = numbers settings)
    (same_values : ∀ option, option ≠ .backend → values option others = values option settings)
    (same_jobs : others.count .jobs = settings.count .jobs)
    (same_quiet : others.count .quiet = settings.count .quiet) {backends : List Backend}
    (named : values .backend others = backends.map Backend.name) :
    Give others { commandLine with backends := backends } where
  few := same_numbers ▸ give.few
  files := same_numbers ▸ give.files
  deps := same_numbers ▸ give.deps
  modules := same_numbers ▸ give.modules
  outOnce := by
    rw [same_values .out (by decide)]
    exact give.outOnce
  out := by
    rw [same_values .out (by decide)]
    exact give.out
  config := by
    rw [same_values .config (by decide)]
    exact give.config
  backends := named
  manifest := by
    rw [same_values .manifest (by decide)]
    exact give.manifest
  jobs := same_jobs ▸ give.jobs
  quiet := same_quiet ▸ give.quiet

/-- The backends of some settings are the first ones of every list with their names in front. -/
theorem Give.exists_backends (before : Give front earlier) {names : List String}
    {backends : List Backend}
    (named : values .backend front ++ names = backends.map Backend.name) :
    ∃ later, backends = earlier.backends ++ later ∧ names = later.map Backend.name := by
  rcases List.map_eq_append_iff.mp named.symm with ⟨first, later, rfl, first_named, later_named⟩
  rw [before.backends] at first_named
  obtain rfl := List.map_injective_iff.mpr name_injective first_named
  exact ⟨later, rfl, later_named.symm⟩

theorem insertIdx_append_length {Item : Type} (front back : List Item) (item : Item) :
    (front ++ back).insertIdx front.length item = front ++ item :: back := by
  induction front with
  | nil => rfl
  | cons first rest ih => simp [ih]

/-- Settings with a backend among them give a command line exactly when the backend has its name,
and the others give the command line without it. -/
theorem give_insert_backend_iff (before : Give front earlier) :
    Give (front ++ .given .backend text :: back) commandLine ↔
      ∃ backend others, text = backend.name ∧ Give (front ++ back) others ∧
        commandLine = others.insertBackend earlier.backends.length backend := by
  constructor
  · intro give
    have named := give.backends
    rw [values_insert_self] at named
    rcases before.exists_backends named with ⟨_ | ⟨backend, later⟩, backends_eq, names_eq⟩
    · cases names_eq
    · rcases List.cons.inj names_eq with ⟨text_eq, later_eq⟩
      refine ⟨backend, { commandLine with backends := earlier.backends ++ later }, text_eq,
        give.withBackends ?_ ?_ ?_ ?_ ?_, ?_⟩
      · exact (numbers_insert .backend).symm
      · exact fun option other => (values_insert_of_ne other).symm
      · exact (count_insert fun _ => by simp).symm
      · exact (count_insert fun _ => by simp).symm
      · rw [List.map_append, ← before.backends, ← later_eq]
        exact List.filterMap_append
      · rw [insertBackend, insertIdx_append_length, ← backends_eq]
  · rintro ⟨backend, others, rfl, give, rfl⟩
    have named := give.backends
    rw [values, List.filterMap_append] at named
    rcases before.exists_backends named with ⟨later, backends_eq, later_eq⟩
    refine give.withBackends (numbers_insert .backend)
      (fun option other => values_insert_of_ne other) (count_insert fun _ => by simp)
      (count_insert fun _ => by simp) ?_
    rw [values_insert_self, backends_eq, insertIdx_append_length, before.backends, List.map_append,
      List.map_cons]
    exact congrArg (fun names => _ ++ _ :: names) later_eq

/-- A line that is accepted may be continued, unless there are two dashes in it: its settings lead
to a progress from which what follows is read. -/
theorem exists_progress {arguments : List String} (read : parse arguments = .ok earlier)
    (noDashes : "--" ∉ arguments) :
    ∃ settings progress, Give settings earlier ∧
      Progress.start.acceptAll? settings = some progress ∧
      ∀ rest line, parse (arguments ++ rest) = .ok line ↔ progress.remainder rest = some line := by
  have start_read : Progress.start.remainder arguments = some earlier :=
    Progress.toOption_eq_some_iff.mpr read
  rcases Progress.spellsFrom_of_remainder rfl rfl start_read with
    ⟨settings, progress, spells, accepted, result⟩
  have give := Progress.give_iff.mpr
    ⟨progress, Progress.acceptAll?_start_iff.mp accepted, result⟩
  refine ⟨settings, progress, give, accepted, fun rest line => ?_⟩
  rw [← Progress.leadsTo_of_spells spells rfl rfl accepted rest (absurd · noDashes)]
  exact Progress.toOption_eq_some_iff.symm

/-- At every place before two dashes that parts no option from its value, one backend more is
accepted if it is asked for by its name, and nothing else. -/
theorem parse_insert_backend_iff {arguments rest spelled : List String}
    (read : parse arguments = .ok earlier) (noDashes : "--" ∉ arguments)
    (spelled_mem : spelled ∈ [["--backend=" ++ text], ["--backend", text]]) :
    parse (arguments ++ (spelled ++ rest)) = .ok commandLine ↔
      ∃ backend others, text = backend.name ∧ parse (arguments ++ rest) = .ok others ∧
        commandLine = others.insertBackend earlier.backends.length backend := by
  rcases exists_progress read noDashes with ⟨front, progress, front_give, accepted, continued⟩
  rcases Progress.acceptAll?_settled rfl accepted with ⟨nothing, anywhere⟩
  have without_iff : ∀ line, parse (arguments ++ rest) = .ok line ↔
      ∃ back, Spells back rest ∧ Give (front ++ back) line := by
    intro line
    rw [continued, Progress.remainder_eq_some_iff nothing anywhere]
    simp only [Progress.SpellsFrom, Progress.give_append_iff accepted, exists_and_left]
  have with_iff : parse (arguments ++ (spelled ++ rest)) = .ok commandLine ↔
      ∃ back, Spells back rest ∧ Give (front ++ .given .backend text :: back) commandLine := by
    rw [continued, Progress.remainder_backend nothing anywhere spelled_mem,
      Progress.bind_remainder_eq_some_iff nothing anywhere]
    simp only [Progress.give_append_iff accepted]
  simp only [with_iff, without_iff, give_insert_backend_iff front_give]
  constructor
  · rintro ⟨back, spells, backend, others, named, give, line_eq⟩
    exact ⟨backend, others, named, ⟨back, spells, give⟩, line_eq⟩
  · rintro ⟨backend, others, named, ⟨back, spells, give⟩, line_eq⟩
    exact ⟨back, spells, backend, others, named, give, line_eq⟩

end BenchTree.CommandLine
