import BenchTree.Proofs.Json.Skipping

/-!
# Reading lists and records

A reader takes a token as a value when it does so behind any blanks and whatever follows. Words and
texts are taken by their readers, a list is taken when its elements are, and a record is taken when
the contents of its fields are: from an object in whatever order its members come, or from an array.
While a record is read, its state is told by the names of the fields that were read so far.
-/

namespace BenchTree.Json

variable {Result Element Partial : Type}

/-- A reader takes a token as a value, behind blanks and whatever follows. -/
structure Reader.Takes (read : Reader Result) (token : List Char) (value : Result) : Prop where
  starts : StartsToken token
  takes : ∀ {lead rest}, IsBlanks lead → EndsToken rest →
    read (lead ++ (token ++ rest)) = .ok (value, rest)

/-- A reader refuses a token for a reason, behind blanks and whatever follows. -/
structure Reader.Refuses (read : Reader Result) (token : List Char) (problem : Error) : Prop where
  starts : StartsToken token
  refuses : ∀ {lead rest}, IsBlanks lead → EndsToken rest →
    read (lead ++ (token ++ rest)) = .error problem

/-! ## Words and texts -/

theorem takes_word {token : List Char} {number : Nat} (spelled : SpellsNat token number)
    (fits : number ≤ Word.largest) : Reader.Takes readNat token number := by
  obtain rfl : token = Nat.toDigits 10 number := spelled
  have number_read := fun {rest} (ends : EndsToken rest) => readNumber_toDigits fits ends
  have is_whole := isWhole_toDigits number
  cases digits : Nat.toDigits 10 number with
  | nil => exact absurd digits is_whole.nonempty
  | cons first others =>
      rw [digits] at number_read is_whole
      have first_ne : ∀ {other : Char}, other.isDigit = false → first ≠ other :=
        is_whole.toIsDigits.first_ne
      have no_blank : isBlank first = false := by simp [isBlank, first_ne]
      refine ⟨⟨first, others, rfl, no_blank, by simp [first_ne]⟩, fun {lead rest} blank ends => ?_⟩
      have starts : startsNumber first = true := by
        simp [startsNumber, is_whole.each first List.mem_cons_self]
      have digits_read := number_read ends
      rw [List.cons_append] at digits_read ⊢
      rw [readNat, skipBlanks_lead blank no_blank]
      simp [starts, digits_read, bind, Except.bind, pure, Except.pure]

theorem takes_text (expected : Expected) {token : List Char} {text : String}
    (spelled : SpellsText token text) : Reader.Takes (readText expected) token text := by
  rcases spelled with ⟨letters, rfl, has_text⟩
  refine ⟨⟨_, _, rfl, by decide, by decide⟩, fun {lead rest} blank _ => ?_⟩
  have quoted := readString_append has_text rest
  rw [quote, List.cons_append, readText, skipBlanks_lead blank (by decide)]
  simpa using quoted

/-! ## Lists -/

theorem readElements_cons {read : Reader Element} {first : Padded} {value : Element}
    (taken : read.Takes first.token value) {later : List Padded} (nonempty : later ≠ [])
    (rest : List Char) :
    readElements read (elementsText (first :: later) rest) =
      (readElements read (elementsText later rest)).map fun (values, rest) =>
        (value :: values, rest) := by
  rcases List.exists_cons_of_ne_nil nonempty with ⟨second, others, rfl⟩
  have first_opened := takeClosing?_token first.lead_blank taken.starts (by decide : ']' ∈ _)
  have value_read := taken.takes first.lead_blank (endsToken_trail
    first.trail_blank (by decide : ',' ∈ _) (elementsText (second :: others) rest))
  have comma := readFollowing_comma first.trail_blank ']' (elementsText (second :: others) rest)
  rw [elementsText_cons, laterElements_cons, readElements]
  simp only [first_opened, Option.isSome_none, Bool.false_eq_true, if_false, value_read,
    comma, dif_pos (first.rest_shorter _), bind, Except.bind, pure, Except.pure]
  cases readElements read (elementsText (second :: others) rest) <;> rfl

theorem readElements_elementsText {read : Reader Element} {elements : List Padded}
    {values : List Element} (nonempty : elements ≠ [])
    (each : List.Forall₂ (fun element value => read.Takes element.token value) elements values)
    (rest : List Char) :
    readElements read (elementsText elements rest) = .ok (values, rest) := by
  induction each with
  | nil => exact absurd rfl nonempty
  | @cons element value elements values element_taken elements_taken ih =>
      cases elements with
      | nil =>
          cases elements_taken
          have first_opened := takeClosing?_token element.lead_blank element_taken.starts
            (by decide : ']' ∈ _)
          have value_read := element_taken.takes element.lead_blank
            (endsToken_trail element.trail_blank (by decide : ']' ∈ _) rest)
          have closed := readFollowing_closing element.trail_blank (by decide : ']' ∈ _) rest
          rw [elementsText_cons, laterElements_nil, readElements]
          simp [first_opened, value_read, closed, bind, Except.bind, pure, Except.pure]
      | cons second elements =>
          have nonempty_later := List.cons_ne_nil second elements
          rw [readElements_cons element_taken nonempty_later, ih nonempty_later]
          rfl

/-- The first element that is refused is what a list is refused for. -/
theorem readElements_refused {read : Reader Element} {before after : List Padded}
    {values : List Element} {element : Padded} {problem : Error}
    (each : List.Forall₂ (fun element value => read.Takes element.token value) before values)
    (refused : read.Refuses element.token problem) (rest : List Char) :
    readElements read (elementsText (before ++ element :: after) rest) = .error problem := by
  induction each with
  | nil =>
      have first_opened := takeClosing?_token element.lead_blank refused.starts
        (by decide : ']' ∈ _)
      have refusal := refused.refuses element.lead_blank
        (endsToken_laterElements element.trail_blank after rest)
      rw [List.nil_append, elementsText_cons, readElements]
      simp [first_opened, refusal, bind, Except.bind]
  | cons first_taken _ ih =>
      rw [List.cons_append, readElements_cons first_taken (by simp), ih]
      rfl

theorem readArray_arrayText {read : Reader Element} {elements : List Padded}
    (nonempty : elements ≠ []) (starts : ∀ element ∈ elements.head?, StartsToken element.token)
    {lead : List Char} (blank : IsBlanks lead) (rest : List Char) :
    readArray read (lead ++ (arrayText elements ++ rest)) =
      readElements read (elementsText elements rest) := by
  have opened := takeClosing?_elements nonempty starts rest
  rw [arrayText_append, readArray, skipBlanks_lead blank (by decide)]
  simp [opened]

theorem forall₂_trans {First Second Third : Type} {left : First → Second → Prop}
    {right : Second → Third → Prop} {both : First → Third → Prop} {firsts : List First}
    {seconds : List Second} {thirds : List Third} (left_each : List.Forall₂ left firsts seconds)
    (right_each : List.Forall₂ right seconds thirds)
    (compose : ∀ first second third, left first second → right second third → both first third) :
    List.Forall₂ both firsts thirds := by
  induction left_each generalizing thirds with
  | nil =>
      cases right_each
      exact .nil
  | cons left_holds _ ih =>
      cases right_each with
      | cons right_holds right_each =>
          exact .cons (compose _ _ _ left_holds right_holds) (ih right_each)

theorem exists_of_forall₂_append {First Second : Type} {relation : First → Second → Prop}
    {firsts : List First} {before after : List Second} {second : Second}
    (each : List.Forall₂ relation firsts (before ++ second :: after)) :
    ∃ front first back, firsts = front ++ first :: back ∧ List.Forall₂ relation front before ∧
      relation first second := by
  have front_each := List.forall₂_take_append _ _ _ each
  rcases List.forall₂_cons_right_iff.mp (List.forall₂_drop_append _ _ _ each) with
    ⟨first, back, holds, _, back_eq⟩
  refine ⟨firsts.take before.length, first, back, ?_, front_each, holds⟩
  rw [← back_eq, List.take_append_drop]

section

variable {Written : Type} {read : Reader Element} {spells : List Char → Written → Prop}
  {token : List Char}

theorem takes_list {written : List Written} {values : List Element}
    (spelled : SpellsList spells token written)
    (each : List.Forall₂ (fun written value => ∀ token, spells token written →
      read.Takes token value) written values) :
    Reader.Takes (readArray read) token values := by
  cases spelled with
  | empty blanks_blank =>
      cases each
      refine ⟨⟨_, _, rfl, by decide, by decide⟩, fun {lead rest} blank _ => ?_⟩
      have closed := takeClosing?_blanks blanks_blank (by decide : isBlank ']' = false) rest
      rw [List.cons_append, readArray, skipBlanks_lead blank (by decide)]
      simp [closed]
  | @elements elements _ nonempty spelled =>
      have taken : List.Forall₂ (fun element value => read.Takes element.token value) elements
          values := forall₂_trans spelled each fun _ _ _ spelled takes => takes _ spelled
      have starts : ∀ element ∈ elements.head?, StartsToken element.token := by
        cases taken with
        | nil => simp
        | cons first_taken _ => simpa using first_taken.starts
      refine ⟨⟨_, _, rfl, by decide, by decide⟩, fun {lead rest} blank _ => ?_⟩
      rw [readArray_arrayText nonempty starts blank, readElements_elementsText nonempty taken]

theorem refuses_list {before after : List Written} {written : Written} {values : List Element}
    {problem : Error} (spelled : SpellsList spells token (before ++ written :: after))
    (each : List.Forall₂ (fun written value => ∀ token, spells token written →
      read.Takes token value) before values)
    (refused : ∀ token, spells token written → read.Refuses token problem) :
    (readArray read).Refuses token problem := by
  generalize listed_eq : before ++ written :: after = listed at spelled
  cases spelled with
  | empty => simp at listed_eq
  | @elements elements _ nonempty spelled =>
      subst listed_eq
      rcases exists_of_forall₂_append spelled with
        ⟨front, element, later, rfl, front_spelled, element_spelled⟩
      have front_taken : List.Forall₂ (fun element value => read.Takes element.token value) front
          values := forall₂_trans front_spelled each fun _ _ _ spelled takes => takes _ spelled
      have starts : ∀ first ∈ (front ++ element :: later).head?, StartsToken first.token := by
        cases front_taken with
        | nil => simpa using (refused _ element_spelled).starts
        | cons first_taken _ => simpa using first_taken.starts
      refine ⟨⟨_, _, rfl, by decide, by decide⟩, fun {lead rest} blank _ => ?_⟩
      rw [readArray_arrayText nonempty starts blank,
        readElements_refused front_taken (refused _ element_spelled)]

end

/-! ## Records -/

/--
The fields of a record are read in stages: when the fields of some names are read, the record is
`stage` of these names, and a field whose content is spelled leads to the stage with its name.
-/
structure RecordField.Reads (field : RecordField Partial) (spells : List Char → Prop)
    (stage : List String → Partial) : Prop where
  isRead : ∀ names, field.isRead (stage names) = decide (field.name ∈ names)
  takes : ∀ names token, spells token →
    Reader.Takes (field.read (stage names)) token (stage (field.name :: names))

/-- All fields of a record are read in the same stages. -/
structure ReadsFields (fields : List (RecordField Partial)) (spells : String → List Char → Prop)
    (stage : List String → Partial) : Prop where
  nonempty : fields ≠ []
  distinct : (fields.map RecordField.name).Nodup
  each : ∀ field ∈ fields, field.Reads (spells field.name) stage

namespace ReadsFields

variable {fields : List (RecordField Partial)} {spells : String → List Char → Prop}
  {stage : List String → Partial}

/-- A field that was not read yet is read from its member. -/
theorem readMember_field (reads : ReadsFields fields spells stage) {names : List String}
    {key : String} {member : Member} (has_text : HasText member.letters key)
    (known : key ∈ fields.map RecordField.name) (fresh : key ∉ names)
    (spelled : spells key member.value.token) {rest : List Char}
    (ends : EndsToken (member.value.trail ++ rest)) :
    readMember fields (stage names) (member.text ++ rest) =
      .ok (stage (key :: names), member.value.trail ++ rest) := by
  have key_read := readString_append has_text (member.middle ++ ':' ::
    (member.value.lead ++ (member.value.token ++ (member.value.trail ++ rest))))
  have colon := skipBlanks_lead member.middle_blank (by decide : isBlank ':' = false)
    (member.value.lead ++ (member.value.token ++ (member.value.trail ++ rest)))
  cases found : fields.find? (fun field => field.name = key) with
  | none =>
      rcases List.mem_map.mp known with ⟨field, field_mem, named⟩
      have unnamed := List.find?_eq_none.mp found field field_mem
      exact absurd named (by simpa using unnamed)
  | some field =>
      have field_mem := List.mem_of_find?_eq_some found
      have named : field.name = key := by simpa using List.find?_some found
      have unread : field.isRead (stage names) = false := by
        rw [(reads.each field field_mem).isRead, named]
        simpa using fresh
      have content_read := ((reads.each field field_mem).takes names _ (named ▸ spelled)).takes
        member.value.lead_blank ends
      rw [named] at content_read
      rw [member.text_append, readMember, quote, List.cons_append,
        skipBlanks_lead member.lead_blank (by decide)]
      simp [key_read, found, unread, colon, content_read, bind, Except.bind]

/-- A member of another name is skipped. -/
theorem readMember_other {record : Partial} {key : String} {member : Member}
    (has_text : HasText member.letters key) (unknown : key ∉ fields.map RecordField.name)
    (is_value : IsValue member.value.token) {rest : List Char}
    (ends : EndsToken (member.value.trail ++ rest)) :
    readMember fields record (member.text ++ rest) = .ok (record, member.value.trail ++ rest) := by
  have key_read := readString_append has_text (member.middle ++ ':' ::
    (member.value.lead ++ (member.value.token ++ (member.value.trail ++ rest))))
  have colon := skipBlanks_lead member.middle_blank (by decide : isBlank ':' = false)
    (member.value.lead ++ (member.value.token ++ (member.value.trail ++ rest)))
  have skipped := (skips_of_isValue is_value).skips member.value.lead_blank ends
  have no_field : fields.find? (fun field => field.name = key) = none := by
    rw [List.find?_eq_none]
    intro field field_mem named
    exact unknown (List.mem_map.mpr ⟨field, field_mem, by simpa using named⟩)
  rw [member.text_append, readMember, quote, List.cons_append,
    skipBlanks_lead member.lead_blank (by decide)]
  simp [key_read, no_field, colon, skipped, bind, Except.bind, pure, Except.pure]

/-- The names of fields that were read behind members, the last one in front. -/
def namesBehind (known : List String) (members : List (String × Member)) (names : List String) :
    List String :=
  ((members.map Prod.fst).filter (· ∈ known)).reverse ++ names

theorem namesBehind_known {known names : List String} {key : String} (is_known : key ∈ known)
    (member : Member) (members : List (String × Member)) :
    namesBehind known ((key, member) :: members) names =
      namesBehind known members (key :: names) := by
  simp [namesBehind, is_known]

theorem namesBehind_unknown {known names : List String} {key : String} (is_unknown : key ∉ known)
    (member : Member) (members : List (String × Member)) :
    namesBehind known ((key, member) :: members) names = namesBehind known members names := by
  simp [namesBehind, is_unknown]

theorem readMember_append (reads : ReadsFields fields spells stage) {key : String}
    {member : Member} {members : List (String × Member)} {names : List String}
    (are_members : AreMembers (fields.map RecordField.name) spells ((key, member) :: members))
    (distinct : (namesBehind (fields.map RecordField.name) ((key, member) :: members) names).Nodup)
    {rest : List Char} (ends : EndsToken (member.value.trail ++ rest)) :
    ∃ after, readMember fields (stage names) (member.text ++ rest) =
        .ok (stage after, member.value.trail ++ rest) ∧
      namesBehind (fields.map RecordField.name) ((key, member) :: members) names =
        namesBehind (fields.map RecordField.name) members after := by
  have has_text := are_members.named _ List.mem_cons_self
  by_cases known : key ∈ fields.map RecordField.name
  · rw [namesBehind_known known] at distinct ⊢
    have fresh : key ∉ names := (List.nodup_cons.mp distinct.of_append_right).1
    exact ⟨key :: names, reads.readMember_field has_text known fresh
      (are_members.each _ List.mem_cons_self known) ends, rfl⟩
  · exact ⟨names, readMember_other has_text known
      (are_members.others _ List.mem_cons_self known) ends, namesBehind_unknown known _ _⟩

theorem readMembers_membersText (reads : ReadsFields fields spells stage)
    {members : List (String × Member)} (nonempty : members ≠ []) {names : List String}
    (are_members : AreMembers (fields.map RecordField.name) spells members)
    (distinct : (namesBehind (fields.map RecordField.name) members names).Nodup)
    (rest : List Char) :
    readMembers fields (stage names) (membersText (members.map Prod.snd) rest) =
      .ok (stage (namesBehind (fields.map RecordField.name) members names), rest) := by
  -- The names that were read grow with each known member, so they vary in the induction.
  induction members generalizing names with
  | nil => exact absurd rfl nonempty
  | cons keyed members ih =>
      rcases keyed with ⟨key, member⟩
      have later_are : AreMembers (fields.map RecordField.name) spells members :=
        ⟨fun later later_mem => are_members.named later (List.mem_cons_of_mem _ later_mem),
          fun later later_mem => are_members.each later (List.mem_cons_of_mem _ later_mem),
          fun later later_mem => are_members.others later (List.mem_cons_of_mem _ later_mem)⟩
      cases members with
      | nil =>
          rcases reads.readMember_append are_members distinct
            (endsToken_trail member.value.trail_blank (by decide : '\x7d' ∈ _) rest) with
            ⟨after, member_read, after_eq⟩
          have closed :=
            readFollowing_closing member.value.trail_blank (by decide : '\x7d' ∈ _) rest
          rw [after_eq, List.map_singleton, membersText_singleton, readMembers]
          simp [member_read, closed, namesBehind, bind, Except.bind, pure, Except.pure]
      | cons second members =>
          have later := fun after => @ih (List.cons_ne_nil _ _) after later_are
          rw [List.map_cons, List.map_cons, membersText_cons_cons, ← List.map_cons]
          generalize membersText ((second :: members).map Prod.snd) rest = behind at later
          rcases reads.readMember_append are_members distinct
            (endsToken_trail member.value.trail_blank (by decide : ',' ∈ _) behind) with
            ⟨after, member_read, after_eq⟩
          have comma := readFollowing_comma member.value.trail_blank '\x7d' behind
          rw [after_eq] at distinct ⊢
          rw [readMembers]
          simp only [member_read, comma, dif_pos (member.rest_shorter behind),
            later after distinct, bind, Except.bind]

theorem checkComplete_eq_ok (reads : ReadsFields fields spells stage) {names : List String}
    (all : fields.map RecordField.name ⊆ names) :
    checkComplete fields (stage names) = .ok () := by
  have none_missing : fields.find? (fun field => !field.isRead (stage names)) = none := by
    rw [List.find?_eq_none]
    intro field field_mem
    simp [(reads.each field field_mem).isRead, all (List.mem_map_of_mem field_mem)]
  rw [checkComplete, none_missing]

theorem readRecord_object (reads : ReadsFields fields spells stage) (name : String)
    {members : List (String × Member)}
    (are_members : AreMembers (fields.map RecordField.name) spells members)
    (each_once : ((members.map Prod.fst).filter (· ∈ fields.map RecordField.name)).Perm
      (fields.map RecordField.name)) {lead : List Char} (blank : IsBlanks lead)
    (rest : List Char) :
    ∃ names, fields.map RecordField.name ⊆ names ∧
      readRecord name fields (stage []) (lead ++ (objectText (members.map Prod.snd) ++ rest)) =
        .ok (stage names, rest) := by
  have perm : (namesBehind (fields.map RecordField.name) members []).Perm
      (fields.map RecordField.name) := by
    rw [namesBehind, List.append_nil]
    exact (List.reverse_perm _).trans each_once
  have nonempty : members ≠ [] := by
    rintro rfl
    exact reads.nonempty (List.map_eq_nil_iff.mp (List.Perm.nil_eq each_once).symm)
  have texts_nonempty : members.map Prod.snd ≠ [] := mt List.map_eq_nil_iff.mp nonempty
  have opened := takeClosing?_members texts_nonempty rest
  have members_read := reads.readMembers_membersText nonempty are_members
    (perm.nodup_iff.mpr reads.distinct) rest
  refine ⟨_, perm.symm.subset, ?_⟩
  rw [objectText_append, readRecord, skipBlanks_lead blank (by decide)]
  simp [opened, members_read, reads.checkComplete_eq_ok perm.symm.subset, bind, Except.bind, pure,
    Except.pure]

theorem readSequence_later (reads : ReadsFields fields spells stage) (name : String) (count : Nat)
    {later : List (RecordField Partial)} (known : ∀ field ∈ later, field ∈ fields)
    {elements : List Padded}
    (each : List.Forall₂ (fun element field => spells field.name element.token) elements later)
    {index : Nat} (behind_first : index ≠ 0) (names : List String) {trail : List Char}
    (blank : IsBlanks trail) (rest : List Char) :
    readSequence name count later index (stage names) (trail ++ laterElements elements rest) =
      .ok (stage ((later.map RecordField.name).reverse ++ names), rest) := by
  induction each generalizing index names trail with
  | nil =>
      have closed := takeClosing?_blanks blank (by decide : isBlank ']' = false) rest
      simp [readSequence, laterElements_nil, closed]
  | @cons element field elements later spelled _ ih =>
      rcases List.forall_mem_cons.mp known with ⟨field_mem, later_known⟩
      have content_taken := (reads.each field field_mem).takes names element.token spelled
      have unclosed := takeClosing?_token element.lead_blank content_taken.starts
        (by decide : ']' ∈ _) (element.trail ++ laterElements elements rest)
      have content_read := content_taken.takes element.lead_blank
        (endsToken_laterElements element.trail_blank elements rest)
      have later_read := ih later_known (Nat.succ_ne_zero index) (field.name :: names)
        element.trail_blank
      rw [← elementsText_cons] at unclosed content_read
      have comma := skipBlanks_lead blank (by decide : isBlank ',' = false)
        (elementsText (element :: elements) rest)
      have comma_unclosed :
          takeClosing? ']' (trail ++ ',' :: elementsText (element :: elements) rest) = none := by
        simp [takeClosing?, comma]
      rw [laterElements_cons, readSequence]
      simp [comma_unclosed, behind_first, comma, unclosed, content_read, later_read, bind,
        Except.bind]

theorem readRecord_array (reads : ReadsFields fields spells stage) (name : String)
    {elements : List Padded}
    (each : List.Forall₂ (fun element field => spells field.name element.token) elements fields)
    {lead : List Char} (blank : IsBlanks lead) (rest : List Char) :
    readRecord name fields (stage []) (lead ++ (arrayText elements ++ rest)) =
      .ok (stage (fields.map RecordField.name).reverse, rest) := by
  -- Only the first element has no comma in front of it.
  cases each with
  | nil => exact absurd rfl reads.nonempty
  | @cons element field elements later spelled later_spelled =>
      have content_taken := (reads.each field List.mem_cons_self).takes [] element.token spelled
      have unclosed := takeClosing?_token element.lead_blank content_taken.starts
        (by decide : ']' ∈ _) (element.trail ++ laterElements elements rest)
      have content_read := content_taken.takes element.lead_blank
        (endsToken_laterElements element.trail_blank elements rest)
      have later_read := reads.readSequence_later name (later.length + 1)
        (fun _ => List.mem_cons_of_mem field) later_spelled Nat.one_ne_zero [field.name]
        element.trail_blank rest
      rw [← elementsText_cons] at unclosed content_read
      rw [arrayText_append, readRecord, skipBlanks_lead blank (by decide)]
      simp [readSequence, unclosed, content_read, later_read, bind, Except.bind]

/-- A record is read, to the stage with all its fields, from whatever spells it. -/
theorem readRecord_spelled (reads : ReadsFields fields spells stage) (name : String)
    {token : List Char} (spelled : SpellsRecord (fields.map RecordField.name) spells token)
    {lead : List Char} (blank : IsBlanks lead) (rest : List Char) :
    ∃ names, fields.map RecordField.name ⊆ names ∧
      readRecord name fields (stage []) (lead ++ (token ++ rest)) = .ok (stage names, rest) := by
  cases spelled with
  | object are_members each_once =>
      exact reads.readRecord_object name are_members each_once blank rest
  | array each =>
      exact ⟨_, (List.reverse_perm _).symm.subset,
        reads.readRecord_array name (List.forall₂_map_right_iff.mp each) blank rest⟩

end ReadsFields

end BenchTree.Json
