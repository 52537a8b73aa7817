import BenchTree.Program
import BenchTree.Proofs.Text.Numeral

/-!
# Completion lines

A completion line spells four counts between fixed words and ends with the root that was asked for.
Each numeral ends where a blank follows, and only the end of the line comes behind the root, so the
line can be read back whatever the root is called: it tells all that was counted, and where.
-/

namespace BenchTree.CommandLine

/-- Reads a completion line: what was counted, and where it was generated. -/
def readCompletionLine? (line : String) : Option (Summary × String) := do
  let rest ← line.toList.dropPrefix? "Generated ".toList
  let (modules, rest) ← Text.number? " modules (" rest
  let (sources, rest) ← Text.number? " sources, " rest
  let (descriptions, rest) ← Text.number? " build descriptions, " rest
  let (dependencyEdges, rest) ← Text.number? " dependency edges) in " rest
  let out ← rest.dropSuffix? ['\n']
  return (⟨modules, sources, descriptions, dependencyEdges⟩, String.ofList out)

variable {left right : CommandLine} {leftSummary rightSummary : Summary}

theorem toList_completionLine (command : CommandLine) (summary : Summary) :
    (command.completionLine summary).toList =
      "Generated ".toList ++ (Nat.toDigits 10 summary.modules ++ (" modules (".toList
        ++ (Nat.toDigits 10 summary.sources ++ (" sources, ".toList
        ++ (Nat.toDigits 10 summary.descriptions ++ (" build descriptions, ".toList
        ++ (Nat.toDigits 10 summary.dependencyEdges ++ (" dependency edges) in ".toList
        ++ (command.out.toList ++ ['\n']))))))))) := by
  have numeral (number : Nat) : (toString number).toList = Nat.toDigits 10 number :=
    Nat.toList_repr
  have ending : "\n".toList = ['\n'] := by simp
  -- The equation of the definition is not used: building it compares the texts letter by letter.
  unfold completionLine
  simp only [String.toList_append, numeral, ending, List.append_assoc]

/-- A completion line is read back whole. -/
theorem readCompletionLine?_completionLine (command : CommandLine) (summary : Summary) :
    readCompletionLine? (command.completionLine summary) = some (summary, command.out) := by
  have ending : (command.out.toList ++ ['\n']).dropSuffix? ['\n'] = some command.out.toList :=
    List.dropSuffix?_eq_some_iff.mpr ⟨_, rfl, beq_self_eq_true _⟩
  rw [readCompletionLine?, toList_completionLine,
    List.dropPrefix?_append_of_beq _ (beq_self_eq_true _)]
  simp (disch := decide) only [Option.bind_eq_bind, Option.bind_some, Text.number?_numeral,
    ending, String.ofList_toList]
  rfl

/-- A completion line determines everything that it is made of. -/
theorem completionLine_inj :
    left.completionLine leftSummary = right.completionLine rightSummary ↔
      leftSummary = rightSummary ∧ left.out = right.out := by
  constructor
  · intro same
    have read := congrArg readCompletionLine? same
    rw [readCompletionLine?_completionLine, readCompletionLine?_completionLine] at read
    exact Prod.mk.inj (Option.some.inj read)
  · rintro ⟨rfl, out_eq⟩
    rw [← String.toList_inj, toList_completionLine, toList_completionLine, out_eq]

end BenchTree.CommandLine
