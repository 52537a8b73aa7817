import BenchTree.Proofs.Word.Saturation
import BenchTree.Shape

/-!
# How dependencies are spread over a module

The dependencies of a file go round its module, so every file of the module is met once a round.
How often a file is met by another one is settled by the distance between the two. Taken over all
files of a module the rounds fit together: each file depends on as many files as depend on it.
-/

namespace BenchTree

namespace Shape

/-- How many files on from a file another one is met first, going round the module. -/
def distance (shape : Shape) (file dependency : Nat) : Nat :=
  (((dependency : Int) - file) % shape.filesPerModule).toNat

/-- The dependencies of a module, each as a file and one that it depends on, as often as it does. -/
def edges (shape : Shape) : List (Nat × Nat) :=
  (List.range shape.filesPerModule).flatMap fun file =>
    (shape.dependencies file).map fun dependency => (file, dependency)

/-- The dependencies of a file go round its module evenly. -/
structure Spreads (shape : Shape) (file : Nat) (dependencies : List Nat) : Prop where
  length : dependencies.length = shape.fanout
  inside : ∀ dependency ∈ dependencies, dependency < shape.filesPerModule
  /-- A file is met at its distance and once in every round from there. -/
  count : ∀ dependency < shape.filesPerModule, dependencies.count dependency =
    (shape.fanout - shape.distance file dependency) ⌈/⌉ shape.filesPerModule
  absent : ∀ dependency < shape.filesPerModule,
    dependencies.count dependency = 0 ↔ shape.fanout ≤ shape.distance file dependency
  repeats : ¬dependencies.Nodup ↔ shape.filesPerModule < shape.fanout
  even : ∀ left < shape.filesPerModule, ∀ right < shape.filesPerModule,
    dependencies.count left ≤ dependencies.count right + 1

section

variable {shape : Shape} {file dependency : Nat}

theorem distance_lt (hasFiles : 0 < shape.filesPerModule) (file dependency : Nat) :
    shape.distance file dependency < shape.filesPerModule := by
  have lower : 0 ≤ ((dependency : Int) - file) % shape.filesPerModule :=
    Int.emod_nonneg _ (by omega)
  have upper : ((dependency : Int) - file) % shape.filesPerModule < shape.filesPerModule :=
    Int.emod_lt_of_pos _ (by omega)
  rw [distance]
  omega

/-- Going on from a file, one arrives at another one at its distance, and again after each round. -/
theorem mod_eq_iff_modEq_distance (dependency_lt : dependency < shape.filesPerModule)
    (offset : Nat) :
    (file + offset) % shape.filesPerModule = dependency ↔
      offset ≡ shape.distance file dependency [MOD shape.filesPerModule] := by
  have lower : 0 ≤ ((dependency : Int) - file) % shape.filesPerModule :=
    Int.emod_nonneg _ (by omega)
  have distance_eq : (shape.distance file dependency : Int) =
      ((dependency : Int) - file) % shape.filesPerModule := Int.toNat_of_nonneg lower
  have reached : (file + offset) % shape.filesPerModule = dependency ↔
      file + offset ≡ dependency [MOD shape.filesPerModule] := by
    rw [Nat.ModEq, Nat.mod_eq_of_lt dependency_lt]
  rw [reached, ← Int.natCast_modEq_iff, ← Int.natCast_modEq_iff, distance_eq]
  push_cast
  constructor
  · intro same
    have shifted := same.sub_right (file : Int)
    rw [add_sub_cancel_left] at shifted
    exact shifted.trans (Int.mod_modEq _ _).symm
  · intro same
    have shifted := (same.trans (Int.mod_modEq _ _)).add_left (file : Int)
    rwa [add_sub_cancel] at shifted

/-- Among the first `count` places on from a file, as many lead to another one as there are rounds
in them, and one more when the last round is broken off behind it. -/
theorem count_going_round (dependency_lt : dependency < shape.filesPerModule)
    (file count : Nat) :
    Nat.count (fun offset => (file + offset) % shape.filesPerModule = dependency) count =
      count / shape.filesPerModule +
        if shape.distance file dependency < count % shape.filesPerModule then 1 else 0 := by
  have hasFiles : 0 < shape.filesPerModule := by omega
  simp only [mod_eq_iff_modEq_distance dependency_lt]
  rw [Nat.count_modEq_card _ hasFiles, Nat.mod_eq_of_lt (distance_lt hasFiles file dependency)]

theorem count_dependencies (dependency_lt : dependency < shape.filesPerModule) (file : Nat) :
    (shape.dependencies file).count dependency = shape.fanout / shape.filesPerModule +
      if shape.distance file dependency < shape.fanout % shape.filesPerModule then 1 else 0 := by
  rw [← count_going_round dependency_lt, dependencies, List.count, List.countP_map, Nat.count]
  rfl

/-- Rounds and a rest are counted from the distance on as rounds that have begun. -/
theorem div_add_eq_ceilDiv {size offset : Nat} (offset_lt : offset < size) (count : Nat) :
    (count / size + if offset < count % size then 1 else 0) = (count - offset) ⌈/⌉ size := by
  have split := Nat.div_add_mod count size
  have remainder_lt := Nat.mod_lt count (Nat.zero_lt_of_lt offset_lt)
  rw [Nat.ceilDiv_eq_add_pred_div]
  generalize count / size = rounds at *
  generalize count % size = rest at *
  subst split
  split_ifs with reached
  · have regrouped : size * rounds + rest - offset + size - 1 =
        size * (rounds + 1) + (rest - offset - 1) := by
      rw [Nat.mul_succ]
      omega
    rw [regrouped, Nat.mul_add_div (by omega), Nat.div_eq_of_lt (by omega), Nat.add_zero]
  · cases rounds with
    | zero => rw [Nat.div_eq_of_lt (by omega)]
    | succ earlier =>
        have regrouped : size * (earlier + 1) + rest - offset + size - 1 =
            size * (earlier + 1) + (rest + size - 1 - offset) := by
          rw [Nat.mul_succ]
          omega
        rw [regrouped, Nat.mul_add_div (by omega), Nat.div_eq_of_lt (by omega)]

theorem count_dependencies_eq_ceilDiv (dependency_lt : dependency < shape.filesPerModule)
    (file : Nat) :
    (shape.dependencies file).count dependency =
      (shape.fanout - shape.distance file dependency) ⌈/⌉ shape.filesPerModule := by
  have hasFiles : 0 < shape.filesPerModule := by omega
  rw [count_dependencies dependency_lt,
    div_add_eq_ceilDiv (distance_lt hasFiles file dependency)]

theorem count_dependencies_le {left right : Nat} (left_lt : left < shape.filesPerModule)
    (right_lt : right < shape.filesPerModule) (file : Nat) :
    (shape.dependencies file).count left ≤ (shape.dependencies file).count right + 1 := by
  rw [count_dependencies left_lt, count_dependencies right_lt]
  split_ifs <;> omega

theorem nodup_dependencies_iff (hasFiles : 0 < shape.filesPerModule) (file : Nat) :
    (shape.dependencies file).Nodup ↔ shape.fanout ≤ shape.filesPerModule := by
  constructor
  · intro distinct
    have inside : shape.dependencies file ⊆ List.range shape.filesPerModule := by
      intro dependency dependency_mem
      exact List.mem_range.mpr (lt_of_mem_dependencies hasFiles dependency_mem)
    simpa using (distinct.subperm inside).length_le
  · intro fits
    rw [List.nodup_iff_count_le_one]
    intro dependency
    by_cases dependency_lt : dependency < shape.filesPerModule
    · rw [count_dependencies_eq_ceilDiv dependency_lt, ceilDiv_le_iff_le_mul hasFiles]
      omega
    · have unmet : dependency ∉ shape.dependencies file := fun dependency_mem =>
        dependency_lt (lt_of_mem_dependencies hasFiles dependency_mem)
      rw [List.count_eq_zero.mpr unmet]
      exact Nat.zero_le 1

theorem spreads_dependencies (hasFiles : 0 < shape.filesPerModule) (file : Nat) :
    shape.Spreads file (shape.dependencies file) where
  length := shape.length_dependencies file
  inside _ := lt_of_mem_dependencies hasFiles
  count _ dependency_lt := count_dependencies_eq_ceilDiv dependency_lt file
  absent dependency dependency_lt := by
    rw [count_dependencies_eq_ceilDiv dependency_lt, ← Nat.le_zero,
      ceilDiv_le_iff_le_mul hasFiles]
    omega
  repeats := by
    rw [nodup_dependencies_iff hasFiles, Nat.not_le]
  even _ left_lt _ right_lt := count_dependencies_le left_lt right_lt file

/-- At every offset, each file of a module is met by one file. -/
theorem count_met_at (dependency_lt : dependency < shape.filesPerModule) (offset : Nat) :
    Nat.count (fun file => (file + offset) % shape.filesPerModule = dependency)
      shape.filesPerModule = 1 := by
  have hasFiles : 0 < shape.filesPerModule := by omega
  simp only [Nat.add_comm _ offset]
  rw [count_going_round dependency_lt, Nat.div_self hasFiles, Nat.mod_self, if_neg (by omega)]

/-- As many files depend on a file as it depends on. -/
theorem sum_count_dependencies (dependency_lt : dependency < shape.filesPerModule) :
    ((List.range shape.filesPerModule).map fun file =>
      (shape.dependencies file).count dependency).sum = shape.fanout := by
  have met_by : ∀ file, (shape.dependencies file).count dependency =
      ∑ offset ∈ Finset.range shape.fanout,
        if (file + offset) % shape.filesPerModule = dependency then 1 else 0 := by
    intro file
    rw [← Finset.card_filter, ← Nat.count_eq_card_filter_range, dependencies, List.count,
      List.countP_map, Nat.count]
    rfl
  calc ((List.range shape.filesPerModule).map fun file =>
        (shape.dependencies file).count dependency).sum
      = ∑ file ∈ Finset.range shape.filesPerModule, ∑ offset ∈ Finset.range shape.fanout,
          if (file + offset) % shape.filesPerModule = dependency then 1 else 0 := by
        simp only [met_by]
        rfl
    _ = ∑ offset ∈ Finset.range shape.fanout, ∑ file ∈ Finset.range shape.filesPerModule,
          if (file + offset) % shape.filesPerModule = dependency then 1 else 0 :=
        Finset.sum_comm
    _ = ∑ offset ∈ Finset.range shape.fanout, 1 := by
        apply Finset.sum_congr rfl
        intro offset _
        rw [← Finset.card_filter, ← Nat.count_eq_card_filter_range, count_met_at dependency_lt]
    _ = shape.fanout := by simp

theorem count_edges_snd (dependency_lt : dependency < shape.filesPerModule) :
    (shape.edges.map Prod.snd).count dependency = shape.fanout := by
  rw [edges, List.map_flatMap, List.count_flatMap, ← sum_count_dependencies dependency_lt]
  simp [Function.comp_def]

theorem count_edges_fst (file_lt : file < shape.filesPerModule) :
    (shape.edges.map Prod.fst).count file = shape.fanout := by
  have own : ∀ other, (((shape.dependencies other).map fun dependency => (other, dependency)).map
      Prod.fst).count file = if other = file then shape.fanout else 0 := by
    intro other
    simp [Function.comp_def, List.count_replicate]
  rw [edges, List.map_flatMap, List.count_flatMap]
  calc ((List.range shape.filesPerModule).map (List.count file ∘ fun other =>
        ((shape.dependencies other).map fun dependency => (other, dependency)).map Prod.fst)).sum
      = ∑ other ∈ Finset.range shape.filesPerModule,
          if other = file then shape.fanout else 0 := by
        simp only [Function.comp_def, own]
        rfl
    _ = shape.fanout := by simp [file_lt]

theorem length_edges (shape : Shape) :
    shape.edges.length = shape.filesPerModule * shape.fanout := by
  simp [edges, List.length_flatMap]

end

/-- The dependencies of every file go round its module evenly. In a module each file depends on as
many files as depend on it, and the edges of a tree are those of its modules. -/
theorem dependencies_spread_evenly (shape : Shape) (hasFiles : 0 < shape.filesPerModule) :
    (∀ file, ∃ dependencies, shape.dependencies? file = .ok dependencies ∧
      shape.Spreads file dependencies) ∧
    (∀ file < shape.filesPerModule, (shape.edges.map Prod.fst).count file = shape.fanout ∧
      (shape.edges.map Prod.snd).count file = shape.fanout) ∧
    shape.edges.length = shape.filesPerModule * shape.fanout ∧
    shape.dependencyEdges = Word.saturate (shape.edges.length * shape.modules) := by
  refine ⟨?_, ?_, shape.length_edges, ?_⟩
  · intro file
    refine ⟨_, ?_, spreads_dependencies hasFiles file⟩
    rw [dependencies?, if_neg hasFiles.ne']
  · intro file file_lt
    exact ⟨count_edges_fst file_lt, count_edges_snd file_lt⟩
  · rw [dependencyEdges, Word.saturatingMul_saturatingMul, length_edges]

theorem dependencies_spread_evenly_three_rounds :
    0 < (⟨3, 7, 2⟩ : Shape).filesPerModule ∧ ∃ dependencies,
      (⟨3, 7, 2⟩ : Shape).dependencies? 4 = .ok dependencies ∧ dependencies.count 1 = 3 ∧
      dependencies.count 0 = 2 ∧ ¬dependencies.Nodup := by
  have hasFiles : 0 < (⟨3, 7, 2⟩ : Shape).filesPerModule := by decide
  rcases dependencies_spread_evenly ⟨3, 7, 2⟩ hasFiles with ⟨spread, _⟩
  rcases spread 4 with ⟨dependencies, accepted, spreads⟩
  refine ⟨hasFiles, dependencies, accepted, ?_, ?_, spreads.repeats.mpr (by decide)⟩
  · rw [spreads.count 1 (by decide)]
    decide
  · rw [spreads.count 0 (by decide)]
    decide

end Shape

end BenchTree
