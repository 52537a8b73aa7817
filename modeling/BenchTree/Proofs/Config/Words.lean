import BenchTree.Proofs.CommandLine.Exactness
import BenchTree.Proofs.Config.Loading
import BenchTree.Proofs.Manifest.Spelling
import BenchTree.Settings

/-!
# Settings are made of words

A number that is not negative and that TOML can write fits into a word, and so does every number
that a command line gives. Hence the numbers that a run goes by are words, wherever they come from.
-/

namespace BenchTree

open Toml (Value)

/-- The numbers that are given fit into words. -/
def GenerateConfig.IsWords (settings : GenerateConfig) : Prop :=
  ∀ number, number ∈ settings.files ∨ number ∈ settings.deps ∨ number ∈ settings.modules →
    number ≤ Word.largest

/-- The numbers that a configuration gives fit into words. -/
def Config.IsWords (config : Config) : Prop := ∀ settings ∈ config.generate, settings.IsWords

namespace GenerateConfig

variable {entries : List (String × Value)} {settings : GenerateConfig}

theorem NumberFits.le_largest {value : Value} {number : Nat} (fits : NumberFits value number)
    (wellFormed : value.WellFormed) : number ≤ Word.largest := by
  rw [NumberFits] at fits
  subst fits
  cases wellFormed with
  | integer signed =>
      simp only [Toml.signedLimit] at signed
      simp only [Word.largest]
      omega

theorem le_largest_of_rel {key : String} {given : Option Nat}
    (fits : Option.Rel NumberFits (entries.lookup key) given)
    (each : ∀ entry ∈ entries, entry.2.WellFormed) {number : Nat} (number_mem : number ∈ given) :
    number ≤ Word.largest := by
  cases found : entries.lookup key with
  | none =>
      rw [found] at fits
      cases fits
      cases number_mem
  | some value =>
      rw [found] at fits
      cases fits with
      | some value_fits =>
          obtain rfl := Option.some.inj number_mem
          exact value_fits.le_largest (each _ (Toml.mem_of_lookup found))

theorem TableFits.isWords (fits : TableFits entries settings)
    (each : ∀ entry ∈ entries, entry.2.WellFormed) : settings.IsWords := by
  rintro number (given | given | given)
  · exact le_largest_of_rel fits.files each given
  · exact le_largest_of_rel fits.deps each given
  · exact le_largest_of_rel fits.modules each given

theorem ValueFits.isWords {value : Value} (fits : ValueFits value settings)
    (wellFormed : value.WellFormed) : settings.IsWords := by
  cases fits with
  | table fits =>
      cases wellFormed with
      | table _ each => exact fits.isWords each
  | array filesFit depsFit modulesFit _ _ =>
      cases wellFormed with
      | array each =>
          simp only [List.forall_mem_cons] at each
          rintro number (given | given | given)
          · exact Option.some.inj given ▸ filesFit.le_largest each.1
          · exact Option.some.inj given ▸ depsFit.le_largest each.2.1
          · exact Option.some.inj given ▸ modulesFit.le_largest each.2.2.1

end GenerateConfig

theorem Config.isWords_of_ofText {text : String} {config : Config}
    (accepted : Config.ofText text = .ok config) : config.IsWords := by
  cases parsed : Toml.parse? text with
  | none =>
      rw [ofText, parsed] at accepted
      cases accepted
  | some entries =>
      have fits := (ofText_eq_ok_iff parsed).mp accepted
      intro settings settings_mem
      cases Toml.parse?_wellFormed parsed with
      | table _ each =>
          have rel := fits.generate
          cases found : entries.lookup "generate" with
          | none =>
              rw [found] at rel
              cases settings_mem ▸ rel
          | some value =>
              rw [found, Option.mem_def.mp settings_mem] at rel
              cases rel with
              | some value_fits =>
                  exact value_fits.isWords (each _ (Toml.mem_of_lookup found))

theorem Config.isWords_of_load {disk : Disk} {path : Path} {config : Config}
    (loaded : Config.load disk path = .ok config) : config.IsWords := by
  rw [load] at loaded
  unfold ofFile at loaded
  split at loaded
  · exact isWords_of_ofText loaded
  · cases loaded

/-- What is given first, or else second, or else by default, fits when all three do. -/
theorem le_of_precedence {first second : Option Nat} {default bound : Nat}
    (first_le : ∀ number ∈ first, number ≤ bound) (second_le : ∀ number ∈ second, number ≤ bound)
    (default_le : default ≤ bound) : (first.or second).getD default ≤ bound := by
  cases first with
  | some number => exact first_le number rfl
  | none =>
      cases second with
      | some number => exact second_le number rfl
      | none => exact default_le

/-- The shape that a run goes by is made of words. -/
theorem CommandLine.isWords_resolve {command : CommandLine} (ordered : command.IsOrdered)
    {config : Option Config} (words : ∀ given ∈ config, given.IsWords) :
    (command.resolve config).shape.IsWords := by
  have given_words : ((config.bind Config.generate).getD GenerateConfig.empty).IsWords := by
    cases generate : config.bind Config.generate with
    | none =>
        rintro number (given | given | given)
        · cases given
        · cases given
        · cases given
    | some settings =>
        rcases Option.bind_eq_some_iff.mp generate with ⟨given, given_eq, settings_eq⟩
        exact words given given_eq settings settings_eq
  refine ⟨?_, ?_, ?_⟩
  · exact le_of_precedence (fun number given => ordered.fits number (.inl given))
      (fun number given => given_words number (.inl given)) (by decide)
  · exact le_of_precedence (fun number given => ordered.fits number (.inr (.inl given)))
      (fun number given => given_words number (.inr (.inl given))) (by decide)
  · exact le_of_precedence (fun number given => ordered.fits number (.inr (.inr given)))
      (fun number given => given_words number (.inr (.inr given))) (by decide)

end BenchTree
