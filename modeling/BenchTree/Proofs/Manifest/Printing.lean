import BenchTree.Proofs.Json.Printing
import BenchTree.Proofs.Manifest.Spelling

/-!
# Printing and reading manifests

What is printed spells what it was printed from, in every layout that breaks lines with blanks, so
it is read back unchanged. So is every other text that spells the same.
-/

namespace BenchTree

open Json

variable {Result : Type} {layout : Layout}

/-! ## Manifests and their parts -/

theorem Shape.spells_render (blank : layout.IsBlank) (depth : Nat) (shape : Shape) :
    Shape.Spells (shape.toJson.render layout depth).toList shape := by
  unfold Spells toJson
  refine spellsRecord_object blank depth (List.cons_ne_nil _ _) rfl ?_
  simp [SpellsField, SpellsNat, Json.Value.render]

theorem Summary.spells_render (blank : layout.IsBlank) (depth : Nat) (summary : Summary) :
    Summary.Spells (summary.toJson.render layout depth).toList summary := by
  unfold Spells toJson
  refine spellsRecord_object blank depth (List.cons_ne_nil _ _) rfl ?_
  simp [SpellsField, SpellsNat, Json.Value.render]

theorem Backend.listSpells_render (blank : layout.IsBlank) (depth : Nat)
    (backends : List Backend) :
    Backend.ListSpells ((Backend.listToJson backends).render layout depth).toList backends := by
  refine spellsList_array blank depth backends fun backend _ => ?_
  rw [Json.Value.render]
  exact spellsText_stringText backend.name

theorem Path.listSpells_render (blank : layout.IsBlank) (depth : Nat) (paths : List Path) :
    Path.ListSpells
      ((Json.Value.array (paths.map fun path => .text path.text)).render layout depth).toList
      paths := by
  refine spellsList_array blank depth paths fun path _ => ?_
  rw [Json.Value.render]
  exact spellsText_stringText path.text

theorem Manifest.spells_render (blank : layout.IsBlank) (depth : Nat) (manifest : Manifest) :
    Manifest.Spells (manifest.toJson.render layout depth).toList manifest := by
  unfold Spells toJson
  refine spellsRecord_object blank depth (List.cons_ne_nil _ _) rfl ?_
  simp [SpellsField, Shape.spells_render blank, Backend.listSpells_render blank,
    Summary.spells_render blank, Path.listSpells_render blank]

/-! ## Round trips -/

/--
A value survives being printed and read: both layouts spell it, and every document that spells it,
with blanks around, is read as it.
-/
structure RoundTrips (read : Reader Result) (json : Result → Json.Value)
    (spells : List Char → Result → Prop) (value : Result) : Prop where
  compact : Json.parse read ((json value).toText .compact) = .ok value
  pretty : Json.parse read ((json value).toText .pretty) = .ok value
  compact_spells : spells ((json value).toText .compact).toList value
  pretty_spells : spells ((json value).toText .pretty).toList value
  spelled : ∀ padded : Padded, spells padded.token value →
    Json.parse read (String.ofList padded.text) = .ok value

theorem roundTrips_of_takes {read : Reader Result} {json : Result → Json.Value}
    {spells : List Char → Result → Prop} {value : Result}
    (prints : ∀ {layout : Layout}, layout.IsBlank →
      spells ((json value).toText layout).toList value)
    (takes : ∀ {token}, spells token value → read.Takes token value) :
    RoundTrips read json spells value := by
  have printed_read : ∀ {layout : Layout}, layout.IsBlank →
      Json.parse read ((json value).toText layout) = .ok value := by
    intro layout blank
    have parsed := parse_padded ⟨[], ((json value).toText layout).toList, [],
      List.forall_mem_nil _, List.forall_mem_nil _⟩ (takes (prints blank))
    rwa [Padded.text, List.nil_append, List.append_nil, String.ofList_toList] at parsed
  exact ⟨printed_read Layout.compact_isBlank, printed_read Layout.pretty_isBlank,
    prints Layout.compact_isBlank, prints Layout.pretty_isBlank,
    fun padded spelled => parse_padded padded (takes spelled)⟩

/-- Manifests, shapes, summaries and lists of backends survive being printed and read. -/
theorem json_round_trips :
    (∀ manifest : Manifest, manifest.IsWords →
      RoundTrips Manifest.readJson Manifest.toJson Manifest.Spells manifest) ∧
    (∀ shape : Shape, shape.IsWords →
      RoundTrips Shape.readJson Shape.toJson Shape.Spells shape) ∧
    (∀ summary : Summary, summary.IsWords →
      RoundTrips Summary.readJson Summary.toJson Summary.Spells summary) ∧
    ∀ backends : List Backend,
      RoundTrips Backend.readJsonList Backend.listToJson Backend.ListSpells backends := by
  refine ⟨fun manifest words => ?_, fun shape words => ?_, fun summary words => ?_,
    fun backends => ?_⟩
  · exact roundTrips_of_takes (fun blank => manifest.spells_render blank 0)
      (Manifest.takes_spelled words)
  · exact roundTrips_of_takes (fun blank => shape.spells_render blank 0) (Shape.takes_spelled words)
  · exact roundTrips_of_takes (fun blank => summary.spells_render blank 0)
      (Summary.takes_spelled words)
  · exact roundTrips_of_takes (fun blank => Backend.listSpells_render blank 0 backends)
      Backend.list_takes_spelled

/-- Marks in a path survive, and so does a shape whose members come in another order. -/
theorem json_round_trips_marked_path :
    let manifest : Manifest := ⟨⟨Word.largest, 0, 1⟩, [.meique, .cmake], ⟨1, 2, 3, Word.largest⟩,
      [⟨"\"a\\b\"\n\x01é"⟩, ⟨""⟩]⟩
    let shape : Shape := ⟨1, 2, 3⟩
    let text := " \x7b\"modules\":3,\"x\":[],\"files_per_module\":1,\"fanout\":2\x7d\n"
    manifest.IsWords ∧
      Json.parse Manifest.readJson (manifest.toJson.toText .pretty) = .ok manifest ∧
      shape.IsWords ∧ Json.parse Shape.readJson text = .ok shape := by
  intro manifest shape text
  have manifest_words : manifest.IsWords := by
    refine ⟨⟨?_, ?_, ?_⟩, ⟨?_, ?_, ?_, ?_⟩⟩ <;> decide
  have shape_words : shape.IsWords := by
    refine ⟨?_, ?_, ?_⟩ <;> decide
  rcases json_round_trips with ⟨manifests, shapes, _, _⟩
  have none_blank : IsBlanks [] := List.forall_mem_nil _
  let members := [printedMember none_blank none_blank none_blank "modules" ['3'],
    printedMember none_blank none_blank none_blank "x" ['[', ']'],
    printedMember none_blank none_blank none_blank "files_per_module" ['1'],
    printedMember none_blank none_blank none_blank "fanout" ['2']]
  have are_members : AreMembers ["files_per_module", "fanout", "modules"] shape.SpellsField
      members := by
    constructor
    · simp only [members, List.forall_mem_cons]
      exact ⟨hasText_escaped _, hasText_escaped _, hasText_escaped _, hasText_escaped _,
        List.forall_mem_nil _⟩
    · simp only [members, printedMember, Shape.SpellsField, SpellsNat, shape, List.forall_mem_cons]
      exact ⟨fun _ => by decide, fun known => absurd known (by decide), fun _ => by decide,
        fun _ => by decide, List.forall_mem_nil _⟩
    · simpa [members, printedMember] using IsValue.emptyArray none_blank
  have order : (["modules", "x", "files_per_module", "fanout"].filter
      (· ∈ ["files_per_module", "fanout", "modules"])).Perm
      ["files_per_module", "fanout", "modules"] := by decide
  have spelled : Shape.Spells (objectText (members.map Prod.snd)) shape :=
    .object are_members order
  have parsed := (shapes shape shape_words).spelled ⟨[' '], _, ['\n'], by simp [IsBlanks, isBlank],
    by simp [IsBlanks, isBlank]⟩ spelled
  exact ⟨manifest_words, (manifests manifest manifest_words).pretty, shape_words, parsed⟩

end BenchTree
