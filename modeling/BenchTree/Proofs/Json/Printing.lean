import BenchTree.Json.Printer
import BenchTree.Proofs.Json.Words

/-!
# Printed JSON

What the printer writes follows the grammar, in every layout that breaks lines with blanks: the
string of a text spells the text, a printed array spells a list when its elements do, and a printed
object spells a record when its members spell the fields.
-/

namespace BenchTree.Json

variable {Element : Type}

/-! ## Texts -/

/-- A piece of a string stands for a character. -/
structure Piece.StandsFor (piece : Piece) (character : Char) : Prop where
  spelled : ∀ {letters pieces}, HasPieces letters pieces →
    HasPieces (escapeChar character ++ letters) (piece :: pieces)
  joined : ∀ pieces, joinPieces? (piece :: pieces) = (joinPieces? pieces).map (character :: ·)

theorem hexUnit?_digitChar :
    ∀ value < 0x20, hexUnit? '0' '0' (Nat.digitChar (value / 16)) (Nat.digitChar (value % 16)) =
      some value := by
  decide

theorem standsFor_escape {letter character : Char}
    (escape_eq : escapeChar character = ['\\', letter])
    (escapes : unescape? letter = some character) :
    (Piece.character character).StandsFor character where
  spelled later := by
    rw [escape_eq]
    exact .escape escapes later
  joined _ := rfl

theorem standsFor_unit {character : Char} (control : character.toNat < 0x20)
    (escape_eq : escapeChar character = ['\\', 'u', '0', '0',
      Nat.digitChar (character.toNat / 16), Nat.digitChar (character.toNat % 16)]) :
    (Piece.unit character.toNat).StandsFor character where
  spelled later := by
    rw [escape_eq]
    exact .unit (hexUnit?_digitChar _ control) later
  joined pieces := by rw [joinPieces?_unit (by omega), Char.ofNat_toNat]

theorem standsFor_self {character : Char} (visible : 0x20 ≤ character.toNat)
    (no_quote : character ≠ '"') (no_backslash : character ≠ '\\')
    (escape_eq : escapeChar character = [character]) :
    (Piece.character character).StandsFor character where
  spelled later := by
    rw [escape_eq]
    exact .plain visible no_quote no_backslash later
  joined _ := rfl

theorem exists_standsFor (character : Char) : ∃ piece : Piece, piece.StandsFor character := by
  fun_cases escapeChar character with
  | case8 _ _ _ _ _ _ _ _ control =>
      refine ⟨_, standsFor_unit control ?_⟩
      rw [escapeChar, if_pos control] <;> assumption
  | case9 _ no_quote no_backslash _ _ _ _ _ no_control =>
      refine ⟨_, standsFor_self (Nat.le_of_not_lt no_control) no_quote no_backslash ?_⟩
      rw [escapeChar, if_neg no_control] <;> assumption
  -- What is left are the characters that have an escape of one letter.
  | _ => exact ⟨_, standsFor_escape rfl rfl⟩

/-- The letters of a printed string stand for its text. -/
theorem hasText_escaped (text : String) :
    HasText (text.toList.flatMap escapeChar) text := by
  unfold HasText
  generalize text.toList = characters
  induction characters with
  | nil => exact ⟨[], .nil, rfl⟩
  | cons character characters ih =>
      rcases ih with ⟨pieces, has_pieces, joined⟩
      rcases exists_standsFor character with ⟨piece, stands_for⟩
      refine ⟨piece :: pieces, stands_for.spelled has_pieces, ?_⟩
      rw [stands_for.joined, joined, Option.map_some]

theorem toList_stringText (text : String) :
    (stringText text).toList = quote (text.toList.flatMap escapeChar) := by
  simp [stringText, quote]

theorem spellsText_stringText (text : String) : SpellsText (stringText text).toList text :=
  ⟨_, toList_stringText text, hasText_escaped text⟩

/-! ## Layouts -/

/-- A layout breaks lines with blanks, and sets blanks behind colons. -/
structure Layout.IsBlank (layout : Layout) : Prop where
  lineBreak : ∀ depth, IsBlanks (layout.lineBreak depth).toList
  colon : ∃ gap, layout.colon.toList = ':' :: gap ∧ IsBlanks gap

theorem Layout.compact_isBlank : Layout.compact.IsBlank where
  lineBreak _ := by simp [compact, IsBlanks]
  colon := ⟨[], by simp [compact], by simp [IsBlanks]⟩

theorem Layout.pretty_isBlank : Layout.pretty.IsBlank where
  lineBreak depth letter letter_mem := by
    simp only [pretty, String.toList_append, String.toList_ofList, List.mem_append] at letter_mem
    rcases letter_mem with is_break | is_space
    · obtain rfl : letter = '\n' := by simpa using is_break
      rfl
    · obtain rfl : letter = ' ' := List.eq_of_mem_replicate is_space
      rfl
  colon := ⟨[' '], by simp [pretty], by simp [IsBlanks, isBlank]⟩

theorem renderElements_eq_map (layout : Layout) (depth : Nat) (elements : List Value) :
    renderElements layout depth elements = elements.map (Value.render layout depth) := by
  induction elements with
  | nil => simp [renderElements]
  | cons element elements ih => simp [renderElements, ih]

theorem renderMembers_eq_map (layout : Layout) (depth : Nat) (members : List (String × Value)) :
    renderMembers layout depth members = members.map fun (key, value) =>
      stringText key ++ layout.colon ++ value.render layout depth := by
  induction members with
  | nil => simp [renderMembers]
  | cons member members ih => simp [renderMembers, ih]

theorem toList_bracketed {members : List String} (nonempty : members ≠ []) (layout : Layout)
    (depth : Nat) (opening closing : String) :
    (bracketed layout depth opening closing members).toList =
      opening.toList ++ ([','].intercalate (members.map fun member =>
        (layout.lineBreak (depth + 1)).toList ++ member.toList) ++
          ((layout.lineBreak depth).toList ++ closing.toList)) := by
  have not_empty : members.isEmpty = false := by simpa using nonempty
  simp [bracketed, not_empty, String.toList_intercalate, Function.comp_def]

/-! ## Arrays -/

/-- Tokens behind blanks, with blanks behind the last one, are the elements of an array. -/
theorem exists_elements {lead trail : List Char} (lead_blank : IsBlanks lead)
    (trail_blank : IsBlanks trail) {tokens : List (List Char)} (nonempty : tokens ≠ []) :
    ∃ elements : List Padded, elements.map Padded.token = tokens ∧
      [','].intercalate (elements.map Padded.text) =
        [','].intercalate (tokens.map (lead ++ ·)) ++ trail := by
  induction tokens with
  | nil => exact absurd rfl nonempty
  | cons token tokens ih =>
      cases tokens with
      | nil =>
          exact ⟨[⟨lead, token, trail, lead_blank, trail_blank⟩], rfl, by simp [Padded.text]⟩
      | cons second tokens =>
          rcases ih (List.cons_ne_nil _ _) with ⟨elements, tokens_eq, text_eq⟩
          refine ⟨⟨lead, token, [], lead_blank, List.forall_mem_nil _⟩ :: elements,
            by rw [List.map_cons, tokens_eq], ?_⟩
          have elements_nonempty : elements.map Padded.text ≠ [] := by
            rintro elements_nil
            rw [List.map_eq_nil_iff.mp elements_nil] at tokens_eq
            cases tokens_eq
          rw [List.map_cons, List.intercalate_cons_of_ne_nil elements_nonempty, text_eq]
          simp [Padded.text, List.intercalate_cons_cons]

/-- A printed array spells a list when its elements spell those of the list. -/
theorem spellsList_array {layout : Layout} (blank : layout.IsBlank) (depth : Nat)
    {spells : List Char → Element → Prop} {json : Element → Value} (values : List Element)
    (each : ∀ value ∈ values, spells ((json value).render layout (depth + 1)).toList value) :
    SpellsList spells ((Value.array (values.map json)).render layout depth).toList values := by
  rw [Value.render, renderElements_eq_map, List.map_map]
  by_cases no_values : values = []
  · subst no_values
    have text_eq : (bracketed layout depth "[" "]" []).toList = ['[', ']'] := by simp [bracketed]
    rw [List.map_nil, text_eq]
    exact @SpellsList.empty _ spells [] (List.forall_mem_nil _)
  · have texts_nonempty : values.map (Value.render layout (depth + 1) ∘ json) ≠ [] :=
      mt List.map_eq_nil_iff.mp no_values
    have tokens_nonempty : values.map (fun value =>
        ((json value).render layout (depth + 1)).toList) ≠ [] := mt List.map_eq_nil_iff.mp no_values
    rcases exists_elements (blank.lineBreak (depth + 1)) (blank.lineBreak depth)
      tokens_nonempty with ⟨elements, tokens_eq, text_eq⟩
    have elements_nonempty : elements ≠ [] := by
      rintro rfl
      exact tokens_nonempty tokens_eq.symm
    have elements_spell : List.Forall₂ (fun element value => spells element.token value) elements
        values := by
      rw [← List.forall₂_map_left_iff (f := Padded.token), tokens_eq, List.forall₂_map_left_iff,
        List.forall₂_same]
      exact each
    have array_eq : (bracketed layout depth "[" "]"
        (values.map (Value.render layout (depth + 1) ∘ json))).toList = arrayText elements := by
      rw [toList_bracketed texts_nonempty, arrayText, text_eq]
      simp [Function.comp_def]
    rw [array_eq]
    exact .elements elements_nonempty elements_spell

/-! ## Objects -/

/-- A key with a token, printed with blanks in front of each and behind the token. -/
def printedMember {lead gap trail : List Char} (lead_blank : IsBlanks lead)
    (gap_blank : IsBlanks gap) (trail_blank : IsBlanks trail) (key : String) (token : List Char) :
    String × Member :=
  (key, ⟨lead, key.toList.flatMap escapeChar, [], ⟨gap, token, trail, gap_blank, trail_blank⟩,
    lead_blank, List.forall_mem_nil _⟩)

/-- Keys with tokens, printed behind blanks, are members of an object. -/
theorem exists_members {lead gap trail : List Char} (lead_blank : IsBlanks lead)
    (gap_blank : IsBlanks gap) (trail_blank : IsBlanks trail)
    {contents : List (String × List Char)} (nonempty : contents ≠ []) :
    ∃ members : List (String × Member),
      members.map (fun (key, member) => (key, member.value.token)) = contents ∧
      (∀ member ∈ members, HasText member.2.letters member.1) ∧
      [','].intercalate ((members.map Prod.snd).map Member.text) =
        [','].intercalate (contents.map fun (key, token) =>
          lead ++ ((stringText key).toList ++ (':' :: gap ++ token))) ++ trail := by
  induction contents with
  | nil => exact absurd rfl nonempty
  | cons content contents ih =>
      rcases content with ⟨key, token⟩
      have has_text := hasText_escaped key
      cases contents with
      | nil =>
          refine ⟨[printedMember lead_blank gap_blank trail_blank key token], rfl,
            List.forall_mem_singleton.mpr has_text, ?_⟩
          simp [printedMember, Member.text, Padded.text, toList_stringText]
      | cons second contents =>
          rcases ih (List.cons_ne_nil _ _) with ⟨members, contents_eq, named, text_eq⟩
          refine ⟨printedMember lead_blank gap_blank (List.forall_mem_nil _) key token :: members,
            congrArg (List.cons _) contents_eq, List.forall_mem_cons.mpr ⟨has_text, named⟩, ?_⟩
          have members_nonempty : (members.map Prod.snd).map Member.text ≠ [] := by
            intro members_nil
            rw [List.map_eq_nil_iff.mp (List.map_eq_nil_iff.mp members_nil)] at contents_eq
            cases contents_eq
          rw [List.map_cons, List.map_cons, List.intercalate_cons_of_ne_nil members_nonempty,
            text_eq]
          simp [printedMember, Member.text, Padded.text, toList_stringText,
            List.intercalate_cons_cons]

/-- A printed object spells a record when its members spell the fields of the record. -/
theorem spellsRecord_object {layout : Layout} (blank : layout.IsBlank) (depth : Nat)
    {names : List String} {spells : String → List Char → Prop} {members : List (String × Value)}
    (nonempty : members ≠ []) (named : members.map Prod.fst = names)
    (each : ∀ member ∈ members, spells member.1 (member.2.render layout (depth + 1)).toList) :
    SpellsRecord names spells ((Value.object members).render layout depth).toList := by
  subst named
  rcases blank.colon with ⟨gap, colon_eq, gap_blank⟩
  have contents_nonempty : members.map (fun (key, value) =>
      (key, (value.render layout (depth + 1)).toList)) ≠ [] := mt List.map_eq_nil_iff.mp nonempty
  rcases exists_members (blank.lineBreak (depth + 1)) gap_blank (blank.lineBreak depth)
    contents_nonempty with ⟨keyed, contents_eq, keyed_named, text_eq⟩
  have keys_eq : keyed.map Prod.fst = members.map Prod.fst := by
    simpa [Function.comp_def] using congrArg (List.map Prod.fst) contents_eq
  have are_members : AreMembers (members.map Prod.fst) spells keyed := by
    refine ⟨keyed_named, fun member member_mem _ => ?_, fun member member_mem unknown => ?_⟩
    · have content_mem := List.mem_map_of_mem (f := fun (key, member) =>
        (key, member.value.token)) member_mem
      rw [contents_eq] at content_mem
      rcases List.mem_map.mp content_mem with ⟨printed, printed_mem, printed_eq⟩
      obtain ⟨key_eq, token_eq⟩ := Prod.mk.inj printed_eq
      rw [← key_eq, ← token_eq]
      exact each printed printed_mem
    · rw [← keys_eq] at unknown
      exact absurd (List.mem_map_of_mem member_mem) unknown
  have fields : ((keyed.map Prod.fst).filter (· ∈ members.map Prod.fst)).Perm
      (members.map Prod.fst) := by
    rw [keys_eq, List.filter_eq_self.mpr (by simp)]
  have object_eq : ((Value.object members).render layout depth).toList =
      objectText (keyed.map Prod.snd) := by
    rw [Value.render, renderMembers_eq_map, toList_bracketed (mt List.map_eq_nil_iff.mp nonempty),
      objectText, text_eq]
    simp [Function.comp_def, colon_eq]
  rw [object_eq]
  exact .object are_members fields

end BenchTree.Json
