import BenchTree.Proofs.Text.Numeral

/-!
# Where a pattern occurs in a text

A pattern occurs in a text wherever the text goes on with it. Two facts find all its occurrences. A
part that ends in a character which is not in the pattern is searched on its own, since no
occurrence reaches across its end. And where a character of the pattern stands once in the text, it
marks the only place to look at; what follows there decides. So a pattern with a numeral occurs in
a text that is like it when the numbers are the same.
-/

namespace BenchTree.Text

/-- The offsets at which a pattern, which must not be empty, occurs in a text. -/
def occurrences (pattern text : List Char) : List Nat :=
  (List.range text.length).filter fun offset => pattern.isPrefixOf (text.drop offset)

/-- No occurrence of the pattern begins in the text and reaches across its end. -/
def Closes (pattern text : List Char) : Prop := ∀ last ∈ text.getLast?, last ∉ pattern

section

variable {pattern : List Char}

theorem mem_occurrences {text : List Char} (nonempty : pattern ≠ []) {offset : Nat} :
    offset ∈ occurrences pattern text ↔ pattern <+: text.drop offset := by
  rw [occurrences, List.mem_filter, List.mem_range, List.isPrefixOf_iff_prefix]
  constructor
  · exact And.right
  · intro begins
    refine ⟨?_, begins⟩
    by_contra beyond
    rw [List.drop_eq_nil_of_le (by omega), List.prefix_nil] at begins
    exact nonempty begins

theorem closes_nil : Closes pattern [] := by simp [Closes]

theorem closes_concat {last : Char} (other : last ∉ pattern) (before : List Char) :
    Closes pattern (before ++ [last]) := by
  simpa [Closes] using other

theorem Closes.append {before after : List Char} (before_closes : Closes pattern before)
    (after_closes : Closes pattern after) : Closes pattern (before ++ after) := by
  intro last last_mem
  rw [List.getLast?_append, Option.mem_def, Option.or_eq_some_iff] at last_mem
  rcases last_mem with last_after | ⟨_, last_before⟩
  · exact after_closes last last_after
  · exact before_closes last last_before

theorem closes_flatMap {Member : Type} {part : Member → List Char}
    (closes : ∀ member, Closes pattern (part member)) (members : List Member) :
    Closes pattern (members.flatMap part) := by
  induction members with
  | nil => exact closes_nil
  | cons first rest ih => exact (closes first).append ih

/-- Within a text that closes, what follows makes no difference. -/
theorem Closes.prefix_append_iff {before : List Char} (closes : Closes pattern before)
    (nonempty : before ≠ []) (after : List Char) :
    pattern <+: before ++ after ↔ pattern <+: before := by
  constructor
  · intro begins
    rcases List.prefix_or_prefix_of_prefix begins (List.prefix_append before after) with
      inside | across
    · exact inside
    · have last_mem := across.subset (List.getLast_mem nonempty)
      exact absurd last_mem (closes _ (List.getLast?_eq_some_getLast nonempty))
  · exact fun begins => begins.trans (List.prefix_append before after)

/-- A part that closes and what follows it are searched one after the other. -/
theorem occurrences_append {before : List Char} (closes : Closes pattern before)
    (after : List Char) :
    occurrences pattern (before ++ after) =
      occurrences pattern before ++ (occurrences pattern after).map (before.length + ·) := by
  rw [occurrences, List.length_append, List.range_add, List.filter_append, List.filter_map]
  congr 1
  · apply List.filter_congr
    intro offset offset_mem
    have inside : offset < before.length := List.mem_range.mp offset_mem
    have rest_closes : Closes pattern (before.drop offset) := by
      rw [Closes, List.getLast?_drop, if_neg (by omega)]
      exact closes
    rw [Bool.eq_iff_iff, List.isPrefixOf_iff_prefix, List.isPrefixOf_iff_prefix,
      List.drop_append_of_le_length inside.le]
    exact rest_closes.prefix_append_iff (by simpa using inside) after
  · simp only [occurrences, Function.comp_def, List.drop_length_add_append]

theorem occurrences_of_not_mem {mark : Char} (mark_mem : mark ∈ pattern) {text : List Char}
    (plain : mark ∉ text) : occurrences pattern text = [] := by
  have nonempty : pattern ≠ [] := List.ne_nil_of_mem mark_mem
  rw [List.eq_nil_iff_forall_not_mem]
  intro offset offset_mem
  have begins := (mem_occurrences nonempty).mp offset_mem
  exact plain (List.mem_of_mem_drop (begins.subset mark_mem))

end

section

variable {mark : Char} {stem before after : List Char} (once : stem.count mark = 1)
  (before_plain : mark ∉ before) (after_plain : mark ∉ after)

include once before_plain after_plain

/-- Where a character of a stem stands nowhere else, the stem divides the text in one way. -/
theorem append_stem_inj {front behind : List Char} :
    front ++ (stem ++ behind) = before ++ (stem ++ after) ↔ front = before ∧ behind = after := by
  have mark_mem : mark ∈ stem := List.count_pos_iff.mp (by omega)
  constructor
  · intro same
    have front_plain : mark ∉ front := by
      have counted := congrArg (List.count mark) same
      simp only [List.count_append, once, List.count_eq_zero_of_not_mem before_plain,
        List.count_eq_zero_of_not_mem after_plain] at counted
      exact List.count_eq_zero.mp (by omega)
    -- The first mark of the text stands as far behind the one part as behind the other.
    have places := congrArg (List.idxOf mark) same
    rw [List.idxOf_append_of_notMem front_plain, List.idxOf_append_of_notMem before_plain,
      List.idxOf_append_of_mem mark_mem, List.idxOf_append_of_mem mark_mem,
      Nat.add_right_cancel_iff] at places
    rcases List.append_inj same places with ⟨same_front, same_rest⟩
    exact ⟨same_front, List.append_cancel_left same_rest⟩
  · rintro ⟨rfl, rfl⟩
    rfl

/-- So the stem occurs at one place. -/
theorem stem_prefix_drop_iff (ending : List Char) (offset : Nat) :
    stem ++ ending <+: (before ++ (stem ++ after)).drop offset ↔
      offset = before.length ∧ ending <+: after := by
  constructor
  · rintro ⟨behind, spelled⟩
    have whole : (before ++ (stem ++ after)).take offset ++ (stem ++ (ending ++ behind)) =
        before ++ (stem ++ after) := by
      rw [← List.append_assoc stem, spelled, List.take_append_drop]
    rcases (append_stem_inj once before_plain after_plain).mp whole with ⟨same_front, same_rest⟩
    have stem_long : 0 < stem.length := List.length_pos_of_mem
      (List.count_pos_iff.mp (show 0 < stem.count mark by omega))
    have lengths := congrArg List.length same_front
    simp only [List.length_take, List.length_append] at lengths
    exact ⟨by omega, behind, same_rest⟩
  · rintro ⟨rfl, begins⟩
    rw [List.drop_left]
    exact (List.prefix_append_right_inj _).mpr begins

theorem occurrences_of_mark (ending : List Char) :
    occurrences (stem ++ ending) (before ++ (stem ++ after)) =
      if ending.isPrefixOf after then [before.length] else [] := by
  have stem_long : 0 < stem.length := List.length_pos_of_mem
    (List.count_pos_iff.mp (show 0 < stem.count mark by omega))
  have marked : ∀ offset,
      (stem ++ ending).isPrefixOf ((before ++ (stem ++ after)).drop offset) =
        (decide (offset = before.length) && ending.isPrefixOf after) := by
    intro offset
    rw [Bool.eq_iff_iff, List.isPrefixOf_iff_prefix, Bool.and_eq_true, decide_eq_true_eq,
      List.isPrefixOf_iff_prefix]
    exact stem_prefix_drop_iff once before_plain after_plain ending offset
  simp only [occurrences, marked]
  by_cases begins : ending.isPrefixOf after = true
  · have place_mem : before.length ∈ List.range (before ++ (stem ++ after)).length := by
      rw [List.mem_range, List.length_append, List.length_append]
      omega
    simp only [begins, Bool.and_true, if_true]
    rw [List.filter_eq, List.count_eq_one_of_mem List.nodup_range place_mem]
    rfl
  · simp [begins]

/-- A numbered stem occurs where the number is the same. -/
theorem occurrences_of_numbered_mark (mark_other : mark.isDigit = false) {wanted number : Nat}
    {next : Char} {ending : List Char} (next_other : next.isDigit = false)
    (after_ends : EndsNumeral after)
    (begins : number = wanted → next :: ending <+: after) :
    occurrences (stem ++ (Nat.toDigits 10 wanted ++ next :: ending))
        (before ++ (stem ++ (Nat.toDigits 10 number ++ after))) =
      if number = wanted then [before.length] else [] := by
  have numbered_plain : mark ∉ Nat.toDigits 10 number ++ after := by
    rw [List.mem_append, not_or]
    exact ⟨not_mem_numeral mark_other, after_plain⟩
  rw [occurrences_of_mark once before_plain numbered_plain]
  simp only [List.isPrefixOf_iff_prefix, numeral_append_prefix_iff next_other after_ends]
  by_cases same : number = wanted
  · rw [if_pos ⟨same.symm, begins same⟩, if_pos same]
  · rw [if_neg fun both => same both.1.symm, if_neg same]

end

/-- Where numbered parts close and the pattern occurs in one of them, it occurs once when that part
is among them. -/
theorem occurrences_flatMap_range {pattern : List Char} {part : Nat → List Char}
    {marked offset : Nat} (closes : ∀ number, Closes pattern (part number))
    (found : ∀ number, occurrences pattern (part number) =
      if number = marked then [offset] else []) (count : Nat) :
    occurrences pattern ((List.range count).flatMap part) =
      if marked < count then [((List.range marked).flatMap part).length + offset] else [] := by
  induction count with
  | zero => rfl
  | succ count ih =>
      rw [List.range_succ, List.flatMap_append, List.flatMap_singleton,
        occurrences_append (closes_flatMap closes _), ih, found]
      rcases Nat.lt_trichotomy marked count with before | rfl | behind
      · rw [if_pos before, if_neg (by omega), if_pos (by omega)]
        rfl
      · rw [if_neg (Nat.lt_irrefl _), if_pos rfl, if_pos (by omega)]
        rfl
      · rw [if_neg (by omega), if_neg (by omega), if_neg (by omega)]
        rfl

theorem strictMono_length_flatMap_range {part : Nat → List Char}
    (nonempty : ∀ number, part number ≠ []) :
    StrictMono fun count => ((List.range count).flatMap part).length := by
  apply strictMono_nat_of_lt_succ
  intro count
  have longer := List.length_pos_of_ne_nil (nonempty count)
  simp only [List.range_succ, List.flatMap_append, List.flatMap_singleton, List.length_append]
  omega

end BenchTree.Text
