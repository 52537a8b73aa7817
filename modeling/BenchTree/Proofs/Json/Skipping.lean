import BenchTree.Proofs.Json.Words

/-!
# Skipping values of which nothing is wanted

Whatever is a value by the grammar is skipped, with the blanks in front of it, and what follows is
left. The proof goes by the way the value is made: the elements of an array are skipped one by one,
and so are the members of an object.
-/

namespace BenchTree.Json

/-- A token starts with something that is no blank and no closing bracket. -/
def StartsToken (token : List Char) : Prop :=
  ∃ first others, token = first :: others ∧ isBlank first = false ∧ first ∉ [']', '\x7d']

/-! ## Brackets and commas -/

theorem takeClosing?_blanks {blanks : List Char} (blank : IsBlanks blanks) {closing : Char}
    (no_blank : isBlank closing = false) (rest : List Char) :
    takeClosing? closing (blanks ++ closing :: rest) = some rest := by
  simp [takeClosing?, skipBlanks_lead blank no_blank]

theorem takeClosing?_token {lead token : List Char} (blank : IsBlanks lead)
    (starts : StartsToken token) {closing : Char} (is_closing : closing ∈ [']', '\x7d'])
    (rest : List Char) : takeClosing? closing (lead ++ (token ++ rest)) = none := by
  rcases starts with ⟨first, others, rfl, no_blank, no_closing⟩
  have first_ne : first ≠ closing := by
    rintro rfl
    exact no_closing is_closing
  simp [takeClosing?, skipBlanks_lead blank no_blank, first_ne]

theorem readFollowing_comma {trail : List Char} (blank : IsBlanks trail) (closing : Char)
    (rest : List Char) : readFollowing closing (trail ++ ',' :: rest) = .ok (.member, rest) := by
  simp [readFollowing, skipBlanks_lead blank (by decide : isBlank ',' = false)]

theorem readFollowing_closing {trail : List Char} (blank : IsBlanks trail) {closing : Char}
    (is_closing : closing ∈ [']', '\x7d']) (rest : List Char) :
    readFollowing closing (trail ++ closing :: rest) = .ok (.finish, rest) := by
  simp only [List.mem_cons, List.not_mem_nil, or_false] at is_closing
  rcases is_closing with rfl | rfl
  · simp [readFollowing, skipBlanks_lead blank (by decide : isBlank ']' = false)]
  · simp [readFollowing, skipBlanks_lead blank (by decide : isBlank '\x7d' = false)]

theorem endsToken_trail {trail : List Char} (blank : IsBlanks trail) {next : Char}
    (ends : next ∈ [',', ']', '\x7d']) (rest : List Char) : EndsToken (trail ++ next :: rest) := by
  rcases trail with _ | ⟨first, others⟩
  · rintro _ ⟨⟩
    revert ends
    simp
    tauto
  · rintro _ ⟨⟩
    have first_blank := blank first List.mem_cons_self
    revert first_blank
    simp [isBlank]
    tauto

/-! ## Contents of brackets -/

/-- The elements of an array from one on, its end, and what follows. -/
def elementsText (elements : List Padded) (rest : List Char) : List Char :=
  [','].intercalate (elements.map Padded.text) ++ ']' :: rest

theorem arrayText_append (elements : List Padded) (rest : List Char) :
    arrayText elements ++ rest = '[' :: elementsText elements rest := by
  simp [arrayText, elementsText]

/-- The elements of an array behind one of them, its end, and what follows. -/
def laterElements (elements : List Padded) (rest : List Char) : List Char :=
  elements.flatMap (fun element => ',' :: element.text) ++ ']' :: rest

theorem elementsText_cons (element : Padded) (elements : List Padded) (rest : List Char) :
    elementsText (element :: elements) rest =
      element.lead ++ (element.token ++ (element.trail ++ laterElements elements rest)) := by
  simp [elementsText, laterElements, Padded.text, Text.intercalate_cons, List.flatMap_map]

theorem laterElements_nil (rest : List Char) : laterElements [] rest = ']' :: rest := rfl

theorem laterElements_cons (element : Padded) (elements : List Padded) (rest : List Char) :
    laterElements (element :: elements) rest = ',' :: elementsText (element :: elements) rest := by
  simp [elementsText_cons, laterElements, Padded.text]

theorem endsToken_laterElements {trail : List Char} (blank : IsBlanks trail)
    (elements : List Padded) (rest : List Char) :
    EndsToken (trail ++ laterElements elements rest) := by
  cases elements with
  | nil => exact endsToken_trail blank (by decide : ']' ∈ _) rest
  | cons element elements =>
      rw [laterElements_cons]
      exact endsToken_trail blank (by decide : ',' ∈ _) _

theorem Padded.rest_shorter (element : Padded) (rest : List Char) :
    rest.length < (element.lead ++ (element.token ++ (element.trail ++ ',' :: rest))).length := by
  simp only [List.length_append, List.length_cons]
  omega

/-- The members of an object from one on, its end, and what follows. -/
def membersText (members : List Member) (rest : List Char) : List Char :=
  [','].intercalate (members.map Member.text) ++ '\x7d' :: rest

theorem objectText_append (members : List Member) (rest : List Char) :
    objectText members ++ rest = '\x7b' :: membersText members rest := by
  simp [objectText, membersText]

theorem membersText_singleton (member : Member) (rest : List Char) :
    membersText [member] rest = member.text ++ '\x7d' :: rest := by
  simp [membersText]

theorem membersText_cons_cons (member second : Member) (members : List Member)
    (rest : List Char) :
    membersText (member :: second :: members) rest =
      member.text ++ ',' :: membersText (second :: members) rest := by
  simp [membersText, List.intercalate_cons_cons]

theorem Member.text_append (member : Member) (rest : List Char) :
    member.text ++ rest = member.lead ++ (quote member.letters ++ (member.middle ++ ':' ::
      (member.value.lead ++ (member.value.token ++ (member.value.trail ++ rest))))) := by
  simp [Member.text, Padded.text]

theorem Member.value_shorter (member : Member) (rest : List Char) :
    (member.value.lead ++ (member.value.token ++ (member.value.trail ++ rest))).length <
      (member.text ++ rest).length := by
  rw [member.text_append]
  simp only [List.length_append, List.length_cons]
  omega

theorem Member.rest_shorter (member : Member) (rest : List Char) :
    rest.length < (member.text ++ ',' :: rest).length := by
  simp only [List.length_append, List.length_cons]
  omega

/-- The contents of brackets are shorter than a text with the brackets. -/
theorem contents_shorter (lead : List Char) (opening : Char) (contents : List Char) :
    contents.length < (lead ++ opening :: contents).length := by
  simp only [List.length_append, List.length_cons]
  omega

/-! ## Values -/

/-- A token is skipped with the blanks in front of it, whatever follows. -/
structure Skips (token : List Char) : Prop where
  starts : StartsToken token
  skips : ∀ {lead rest}, IsBlanks lead → EndsToken rest →
    skipValue (lead ++ (token ++ rest)) = .ok rest

/-- A token that starts neither an array nor an object is skipped as a scalar. -/
theorem skips_scalar {first : Char} {others : List Char} (no_blank : isBlank first = false)
    (no_bracket : first ∉ ['[', ']', '\x7b', '\x7d'])
    (scalar : ∀ {rest}, EndsToken rest → skipScalar (first :: (others ++ rest)) = .ok rest) :
    Skips (first :: others) := by
  simp only [List.mem_cons, List.not_mem_nil, or_false, not_or] at no_bracket
  refine ⟨⟨first, others, rfl, no_blank, by simp [no_bracket]⟩, fun lead ends => ?_⟩
  rw [skipValue, List.cons_append, skipBlanks_lead lead no_blank]
  simp [no_bracket, scalar ends]

theorem skips_number {token : List Char} (is_number : IsNumber token) : Skips token := by
  have scalar : ∀ {rest}, EndsToken rest →
      (do return (← readNumberParts (token ++ rest)).2) = Except.ok rest := by
    intro rest ends
    rcases readNumberParts_append is_number ends with ⟨parts, parts_read⟩
    rw [parts_read]
    rfl
  rcases is_number.starts with ⟨first, others, rfl, starts⟩
  have first_ne : ∀ other : Char, other.isDigit = false → other ≠ '-' → first ≠ other := by
    rintro other no_digit no_minus rfl
    rcases starts with is_digit | is_minus
    · rw [is_digit] at no_digit
      cases no_digit
    · exact no_minus is_minus
  refine skips_scalar (by simp [isBlank, first_ne]) (by simp [first_ne]) fun ends => ?_
  rw [← scalar ends, skipScalar]
  · rfl
  all_goals simp [first_ne]

theorem skips_string {letters : List Char} {pieces : List Piece}
    (has_pieces : HasPieces letters pieces) : Skips (quote letters) := by
  refine skips_scalar (by decide) (by decide) fun {rest} _ => ?_
  rw [List.append_assoc, List.singleton_append, skipScalar, readPieces_append has_pieces]
  rfl

theorem skips_emptyArray {blanks : List Char} (blank : IsBlanks blanks) :
    Skips ('[' :: (blanks ++ [']'])) := by
  refine ⟨⟨_, _, rfl, by decide, by decide⟩, fun lead _ => ?_⟩
  rw [skipValue, List.cons_append, skipBlanks_lead lead (by decide)]
  simp [takeClosing?_blanks blank (by decide : isBlank ']' = false)]

theorem skipElements_elementsText {elements : List Padded} (nonempty : elements ≠ [])
    (each : ∀ element ∈ elements, Skips element.token) (rest : List Char) :
    skipElements (elementsText elements rest) = .ok rest := by
  induction elements with
  | nil => exact absurd rfl nonempty
  | cons element elements ih =>
      rcases List.forall_mem_cons.mp each with ⟨element_skips, elements_skip⟩
      cases elements with
      | nil =>
          have skipped := element_skips.skips element.lead_blank
            (endsToken_trail element.trail_blank (by decide : ']' ∈ _) rest)
          have closed := readFollowing_closing element.trail_blank (by decide : ']' ∈ _) rest
          rw [elementsText_cons, laterElements_nil, skipElements]
          simp [skipped, closed, bind, Except.bind, pure, Except.pure]
      | cons second elements =>
          have later := ih (List.cons_ne_nil _ _) elements_skip
          have skipped := element_skips.skips element.lead_blank (endsToken_trail
            element.trail_blank (by decide : ',' ∈ _) (elementsText (second :: elements) rest))
          have comma := readFollowing_comma element.trail_blank ']'
            (elementsText (second :: elements) rest)
          rw [elementsText_cons, laterElements_cons, skipElements]
          simp only [skipped, comma, bind, Except.bind, dif_pos (element.rest_shorter _), later]

/-- The elements of an array are not its end. -/
theorem takeClosing?_elements {elements : List Padded} (nonempty : elements ≠ [])
    (starts : ∀ element ∈ elements.head?, StartsToken element.token) (rest : List Char) :
    takeClosing? ']' (elementsText elements rest) = none := by
  rcases elements with _ | ⟨element, elements⟩
  · exact absurd rfl nonempty
  · rw [elementsText_cons]
    exact takeClosing?_token element.lead_blank (starts element rfl) (by decide) _

theorem skips_array {elements : List Padded} (nonempty : elements ≠ [])
    (each : ∀ element ∈ elements, Skips element.token) : Skips (arrayText elements) := by
  refine ⟨⟨_, _, rfl, by decide, by decide⟩, fun {lead rest} blank _ => ?_⟩
  have opened := takeClosing?_elements nonempty (fun element is_head =>
    (each element (List.mem_of_mem_head? is_head)).starts) rest
  have skipped := skipElements_elementsText nonempty each rest
  have shorter := contents_shorter lead '[' (elementsText elements rest)
  rw [arrayText_append, skipValue]
  simp only [skipBlanks_lead blank (by decide : isBlank '[' = false), opened, dif_pos shorter,
    skipped]

theorem skips_emptyObject {blanks : List Char} (blank : IsBlanks blanks) :
    Skips ('\x7b' :: (blanks ++ ['\x7d'])) := by
  refine ⟨⟨_, _, rfl, by decide, by decide⟩, fun lead _ => ?_⟩
  rw [skipValue, List.cons_append, skipBlanks_lead lead (by decide)]
  simp [takeClosing?_blanks blank (by decide : isBlank '\x7d' = false)]

theorem skipKey_append {lead letters middle : List Char} (lead_blank : IsBlanks lead)
    {pieces : List Piece} (has_pieces : HasPieces letters pieces) (middle_blank : IsBlanks middle)
    (rest : List Char) :
    skipKey (lead ++ (quote letters ++ (middle ++ ':' :: rest))) = .ok rest := by
  have quoted := readPieces_append has_pieces (middle ++ ':' :: rest)
  have colon := skipBlanks_lead middle_blank (by decide : isBlank ':' = false) rest
  rw [skipKey, quote, List.cons_append, skipBlanks_lead lead_blank (by decide)]
  simp [quoted, colon, bind, Except.bind, pure, Except.pure]

theorem skipMembers_membersText {members : List Member} (nonempty : members ≠ [])
    (keys : ∀ member ∈ members, ∃ pieces, HasPieces member.letters pieces)
    (each : ∀ member ∈ members, Skips member.value.token) (rest : List Char) :
    skipMembers (membersText members rest) = .ok rest := by
  induction members with
  | nil => exact absurd rfl nonempty
  | cons member members ih =>
      rcases List.forall_mem_cons.mp each with ⟨member_skips, members_skip⟩
      rcases List.forall_mem_cons.mp keys with ⟨⟨pieces, has_pieces⟩, keys⟩
      have key_skipped := skipKey_append member.lead_blank has_pieces member.middle_blank
      cases members with
      | nil =>
          have skipped := member_skips.skips member.value.lead_blank
            (endsToken_trail member.value.trail_blank (by decide : '\x7d' ∈ _) rest)
          have closed :=
            readFollowing_closing member.value.trail_blank (by decide : '\x7d' ∈ _) rest
          have shorter := member.value_shorter ('\x7d' :: rest)
          rw [membersText_singleton, skipMembers]
          simp only [member.text_append] at shorter ⊢
          simp only [key_skipped, bind, Except.bind, dif_pos shorter, skipped, closed, pure,
            Except.pure]
      | cons second members =>
          have later := ih (List.cons_ne_nil _ _) keys members_skip
          rw [membersText_cons_cons]
          generalize membersText (second :: members) rest = behind at later
          have skipped := member_skips.skips member.value.lead_blank
            (endsToken_trail member.value.trail_blank (by decide : ',' ∈ _) behind)
          have comma := readFollowing_comma member.value.trail_blank '\x7d' behind
          have shorter := member.value_shorter (',' :: behind)
          have rest_shorter := member.rest_shorter behind
          rw [skipMembers]
          simp only [member.text_append] at shorter rest_shorter ⊢
          simp only [key_skipped, bind, Except.bind, dif_pos shorter, skipped, comma,
            dif_pos rest_shorter, later]

/-- The members of an object are not its end. -/
theorem takeClosing?_members {members : List Member} (nonempty : members ≠ [])
    (rest : List Char) : takeClosing? '\x7d' (membersText members rest) = none := by
  rcases members with _ | ⟨member, members⟩
  · exact absurd rfl nonempty
  · have starts : StartsToken (quote member.letters) := ⟨_, _, rfl, by decide, by decide⟩
    rw [membersText, List.map_cons, Text.intercalate_cons, List.append_assoc, member.text_append]
    exact takeClosing?_token member.lead_blank starts (by decide) _

theorem skips_object {members : List Member} (nonempty : members ≠ [])
    (keys : ∀ member ∈ members, ∃ pieces, HasPieces member.letters pieces)
    (each : ∀ member ∈ members, Skips member.value.token) : Skips (objectText members) := by
  refine ⟨⟨_, _, rfl, by decide, by decide⟩, fun {lead rest} blank _ => ?_⟩
  have opened := takeClosing?_members nonempty rest
  have skipped := skipMembers_membersText nonempty keys each rest
  have shorter := contents_shorter lead '\x7b' (membersText members rest)
  rw [objectText_append, skipValue]
  simp only [skipBlanks_lead blank (by decide : isBlank '\x7b' = false), opened, dif_pos shorter,
    skipped]

/-- Every value is skipped. -/
theorem skips_of_isValue {token : List Char} (is_value : IsValue token) : Skips token := by
  induction is_value with
  | null => exact skips_scalar (by decide) (by decide) fun _ => rfl
  | true => exact skips_scalar (by decide) (by decide) fun _ => rfl
  | false => exact skips_scalar (by decide) (by decide) fun _ => rfl
  | number is_number => exact skips_number is_number
  | string has_pieces => exact skips_string has_pieces
  | emptyArray blank => exact skips_emptyArray blank
  | array nonempty _ ih => exact skips_array nonempty ih
  | emptyObject blank => exact skips_emptyObject blank
  | object nonempty keys _ ih => exact skips_object nonempty keys ih

end BenchTree.Json
