import BenchTree.Proofs.Disk.Agreement
import BenchTree.Proofs.Run.Exact

/-!
# Runs one after another

A run into a store writes its own artifacts and leaves all other files alone. So after several runs
at one root every artifact that one of them writes is there, with the text of the last one that
writes it. Compared with the last run alone nothing is left over exactly when that run writes
whatever an earlier one does: it has no fewer files and modules, and no backend is missing. How many
dependencies the files have does not matter.
-/

namespace BenchTree

/-- A run that is asked for. -/
structure Generation where
  shape : Shape
  backends : List Backend
  parallel : Bool
  recording : Bool

namespace Generation

/-- The operation that generates a tree below a root. -/
def operation (root : Path) (generation : Generation) : Operation :=
  .generation generation.shape generation.backends generation.parallel root generation.recording

/-- The artifact is one of those that the run writes. -/
def Writes (generation : Generation) (artifact : Artifact) : Prop :=
  artifact.Belongs generation.shape generation.backends

/-- The run has no fewer files and modules than another one, and every backend of it. -/
structure Covers (generation other : Generation) : Prop where
  files : other.shape.filesPerModule ≤ generation.shape.filesPerModule
  modules : other.shape.modules ≤ generation.shape.modules
  backends : ∀ backend ∈ other.backends, backend ∈ generation.backends

/-- Whether a run writes an artifact is found out by its shape and backends. -/
instance (generation : Generation) (artifact : Artifact) :
    Decidable (generation.Writes artifact) :=
  match artifact with
  | .main => .isTrue trivial
  | .header _ _ => inferInstanceAs (Decidable (_ ∧ _))
  | .source _ _ => inferInstanceAs (Decidable (_ ∧ _))
  | .moduleDescription _ _ => inferInstanceAs (Decidable (_ ∧ _))
  | .rootDescription backend => inferInstanceAs (Decidable (backend ∈ generation.backends))

/-- The last of some runs in a row that writes the artifact. -/
def lastWriter? (generations : List Generation) (artifact : Artifact) : Option Generation :=
  generations.reverse.find? fun generation => generation.Writes artifact

variable {generation other last : Generation} {generations earlier : List Generation}
  {artifact : Artifact}

theorem Covers.writes (covers : generation.Covers other) (writes : other.Writes artifact) :
    generation.Writes artifact := by
  cases artifact with
  | main => trivial
  | header module file =>
      exact ⟨writes.1.trans_le covers.modules, writes.2.trans_le covers.files⟩
  | source module file =>
      exact ⟨writes.1.trans_le covers.modules, writes.2.trans_le covers.files⟩
  | moduleDescription module backend =>
      exact ⟨writes.1.trans_le covers.modules, covers.backends backend writes.2⟩
  | rootDescription backend => exact covers.backends backend writes

/-- A run that writes whatever another one does has its last file, its last module and all of its
backends. -/
theorem covers_iff (valid : other.shape.validate = .ok ()) :
    generation.Covers other ↔
      ∀ artifact, other.Writes artifact → generation.Writes artifact := by
  rcases (Shape.validate_eq_ok_iff other.shape).mp valid with ⟨hasFiles, hasModules⟩
  constructor
  · intro covers artifact writes
    exact covers.writes writes
  · intro writes
    refine ⟨?_, ?_, ?_⟩
    · have last_file := writes (.header 0 (other.shape.filesPerModule - 1))
        ⟨hasModules, by omega⟩
      have inside := last_file.2
      omega
    · have last_module := writes (.header (other.shape.modules - 1) 0) ⟨by omega, hasFiles⟩
      have inside := last_module.1
      omega
    · intro backend backend_mem
      exact writes (.rootDescription backend) backend_mem

theorem lastWriter?_concat (earlier : List Generation) (last : Generation) (artifact : Artifact) :
    lastWriter? (earlier ++ [last]) artifact =
      if last.Writes artifact then some last else lastWriter? earlier artifact := by
  rw [lastWriter?, List.reverse_concat, List.find?_cons]
  by_cases writes : last.Writes artifact
  · simp [writes]
  · simp [writes, lastWriter?]

theorem lastWriter?_singleton :
    lastWriter? [last] artifact = some generation ↔ last.Writes artifact ∧ generation = last := by
  by_cases writes : last.Writes artifact
  · simp [lastWriter?, writes, eq_comm]
  · simp [lastWriter?, writes]

theorem writes_of_lastWriter? (latest : lastWriter? generations artifact = some generation) :
    generation ∈ generations ∧ generation.Writes artifact := by
  constructor
  · exact List.mem_reverse.mp (List.mem_of_find?_eq_some latest)
  · simpa using List.find?_some latest

theorem exists_lastWriter? (mem : generation ∈ generations)
    (writes : generation.Writes artifact) :
    ∃ latest, lastWriter? generations artifact = some latest := by
  rw [← Option.isSome_iff_exists, lastWriter?, List.find?_isSome]
  exact ⟨generation, List.mem_reverse.mpr mem, decide_eq_true writes⟩

/-- Where a run writes whatever the runs before it do, these might as well not have been. -/
theorem lastWriter?_concat_of_writes (covered : ∀ generation ∈ earlier,
    generation.Writes artifact → last.Writes artifact) :
    lastWriter? (earlier ++ [last]) artifact = lastWriter? [last] artifact := by
  have alone := lastWriter?_concat [] last artifact
  rw [List.nil_append] at alone
  rw [lastWriter?_concat, alone]
  by_cases writes : last.Writes artifact
  · rw [if_pos writes, if_pos writes]
  · rw [if_neg writes, if_neg writes]
    cases latest : lastWriter? earlier artifact with
    | none => rfl
    | some generation =>
        rcases writes_of_lastWriter? latest with ⟨generation_mem, generation_writes⟩
        exact absurd (covered generation generation_mem generation_writes) writes

end Generation

namespace Store

/-- The files are what some runs leave behind: whatever artifact one of them writes, with the text
of the last one that writes it. -/
def LeftBy (store : Store) (root : Path) (generations : List Generation) : Prop :=
  ∀ file, file ∈ store.fileList ↔ ∃ artifact generation,
    Generation.lastWriter? generations artifact = some generation ∧
      file = (artifact.path root, artifact.text generation.shape)

theorem fileList_eq_iff {left right : Store} :
    left.fileList = right.fileList ↔ ∀ file, file ∈ left.fileList ↔ file ∈ right.fileList := by
  constructor
  · intro same file
    rw [same]
  · intro same
    apply fileList_congr
    intro place
    apply Option.ext
    intro file
    have listed : ∀ store : Store, store.files[place]? = some file ↔
        file ∈ store.fileList ∧ file.1.components = place := by
      intro store
      rw [mem_fileList]
      constructor
      · intro found
        have spelled := store.spelled place file found
        rw [spelled]
        exact ⟨found, rfl⟩
      · rintro ⟨found, rfl⟩
        exact found
    rw [listed left, listed right, same]

end Store

section

variable {root : Path} {generation : Generation} {store next : Store}

theorem Generation.exists_calls
    (succeeds : (generation.operation root).Succeeds Store.sink store next) :
    ∃ calls, calls.Perm
        (Tree.plan root generation.shape (Backend.distinct generation.backends)).calls ∧
      next = store.after calls := by
  rw [operation] at succeeds
  cases succeeds with
  | generation mayEnd =>
      rcases mayEnd.exists_perm mayEnd.exists_replays.1 with ⟨calls, perm, after, _⟩
      exact ⟨calls, perm, after⟩

/-- A run gives its texts to its artifacts; those that were there keep their spelling. -/
theorem Generation.files_of_writes
    (succeeds : (generation.operation root).Succeeds Store.sink store next)
    {artifact : Artifact} (writes : generation.Writes artifact) :
    next.files[(artifact.path root).components]? =
      some (store.spelling (artifact.path root), artifact.text generation.shape) := by
  rcases exists_calls succeeds with ⟨calls, perm, rfl⟩
  exact store.files_after_artifact (Backend.nodup_distinct generation.backends) perm
    (Artifact.belongs_distinct.mpr writes)

theorem Generation.files_of_unwritten
    (succeeds : (generation.operation root).Succeeds Store.sink store next)
    {place : List Path.Component} (unwritten : ∀ artifact, generation.Writes artifact →
      (artifact.path root).components ≠ place) :
    next.files[place]? = store.files[place]? := by
  rcases exists_calls succeeds with ⟨calls, perm, rfl⟩
  apply store.files_after_elsewhere perm
  intro artifact belongs
  exact unwritten artifact (Artifact.belongs_distinct.mp belongs)

end

namespace Store.LeftBy

variable {root : Path} {generations : List Generation} {store next : Store}

theorem spelling_eq (left : store.LeftBy root generations) (artifact : Artifact) :
    store.spelling (artifact.path root) = artifact.path root := by
  unfold spelling
  split
  · rename_i spelled text found
    have same_place := store.spelled _ _ found
    have listed : (spelled, text) ∈ store.fileList := by
      rw [mem_fileList, same_place]
      exact found
    rcases (left _).mp listed with ⟨other, _, _, file_eq⟩
    obtain rfl : spelled = other.path root := congrArg Prod.fst file_eq
    rw [Artifact.eq_of_same_path same_place]
  · rfl

/-- One run more leaves behind what the runs so far and itself do. -/
theorem succeeds (left : store.LeftBy root generations) {generation : Generation}
    (succeeds : (generation.operation root).Succeeds sink store next) :
    next.LeftBy root (generations ++ [generation]) := by
  rintro ⟨path, text⟩
  simp only [mem_fileList, Generation.lastWriter?_concat]
  by_cases written : ∃ artifact, generation.Writes artifact ∧
      (artifact.path root).components = path.components
  · rcases written with ⟨artifact, writes, same⟩
    rw [← same, Generation.files_of_writes succeeds writes, left.spelling_eq]
    constructor
    · intro found
      exact ⟨artifact, generation, if_pos writes, (Option.some.inj found).symm⟩
    · rintro ⟨other, latest, latest_eq, file_eq⟩
      rcases Prod.mk.inj file_eq with ⟨rfl, rfl⟩
      obtain rfl := Artifact.eq_of_same_path same
      rw [if_pos writes] at latest_eq
      rw [Option.some.inj latest_eq]
  · push Not at written
    rw [Generation.files_of_unwritten succeeds written, ← @mem_fileList store (path, text),
      left (path, text)]
    apply exists_congr
    intro artifact
    apply exists_congr
    intro latest
    apply and_congr_left
    intro file_eq
    have unwritten : ¬generation.Writes artifact := by
      intro writes
      exact written artifact writes (congrArg (·.1.components) file_eq.symm)
    rw [if_neg unwritten]

theorem performs {earlier : List Generation} (left : store.LeftBy root earlier)
    (performs : sink.Performs store (generations.map (Generation.operation root)) next) :
    next.LeftBy root (earlier ++ generations) := by
  induction generations generalizing store earlier with
  | nil =>
      cases performs with
      | nil => rwa [List.append_nil]
  | cons first rest ih =>
      cases performs with
      | cons one later =>
          rw [List.append_cons]
          exact ih (left.succeeds one) later

theorem mem_fileList_iff (left : store.LeftBy root generations) {artifact : Artifact}
    {text : String} :
    (artifact.path root, text) ∈ store.fileList ↔ ∃ generation,
      Generation.lastWriter? generations artifact = some generation ∧
        text = artifact.text generation.shape := by
  rw [left]
  constructor
  · rintro ⟨other, latest, latest_eq, file_eq⟩
    rcases Prod.mk.inj file_eq with ⟨path_eq, text_eq⟩
    obtain rfl := Artifact.eq_of_same_path (congrArg Path.components path_eq)
    exact ⟨latest, latest_eq, text_eq⟩
  · rintro ⟨latest, latest_eq, rfl⟩
    exact ⟨artifact, latest, latest_eq, rfl⟩

section

variable {earlier : List Generation} {last : Generation} {alone : Store}
  (left : store.LeftBy root (earlier ++ [last])) (alone_left : alone.LeftBy root [last])

include left alone_left

theorem fileList_eq_iff : store.fileList = alone.fileList ↔
    ∀ generation ∈ earlier, ∀ artifact, generation.Writes artifact → last.Writes artifact := by
  constructor
  · intro same generation generation_mem artifact writes
    rcases Generation.exists_lastWriter? (List.mem_append_left [last] generation_mem) writes with
      ⟨latest, latest_eq⟩
    have listed := left.mem_fileList_iff.mpr ⟨latest, latest_eq, rfl⟩
    rw [same, alone_left.mem_fileList_iff] at listed
    rcases listed with ⟨writer, writer_eq, _⟩
    exact (Generation.lastWriter?_singleton.mp writer_eq).1
  · intro covered
    rw [Store.fileList_eq_iff]
    intro file
    rw [left, alone_left]
    apply exists_congr
    intro artifact
    rw [Generation.lastWriter?_concat_of_writes fun generation generation_mem =>
      covered generation generation_mem artifact]

/-- What is there besides the files of the last run is what the runs before it have left of other
artifacts. -/
theorem surplus_iff {file : Path × String} :
    file ∈ store.fileList ∧ file ∉ alone.fileList ↔ ∃ artifact generation,
      ¬last.Writes artifact ∧ Generation.lastWriter? earlier artifact = some generation ∧
        file = (artifact.path root, artifact.text generation.shape) := by
  constructor
  · rintro ⟨file_mem, file_surplus⟩
    rcases (left file).mp file_mem with ⟨artifact, generation, latest_eq, rfl⟩
    rw [Generation.lastWriter?_concat] at latest_eq
    by_cases writes : last.Writes artifact
    · rw [if_pos writes] at latest_eq
      obtain rfl := Option.some.inj latest_eq
      have own := Generation.lastWriter?_singleton.mpr ⟨writes, rfl⟩
      exact absurd (alone_left.mem_fileList_iff.mpr ⟨_, own, rfl⟩) file_surplus
    · rw [if_neg writes] at latest_eq
      exact ⟨artifact, generation, writes, latest_eq, rfl⟩
  · rintro ⟨artifact, generation, unwritten, latest_eq, rfl⟩
    constructor
    · rw [left.mem_fileList_iff, Generation.lastWriter?_concat, if_neg unwritten]
      exact ⟨generation, latest_eq, rfl⟩
    · rw [alone_left.mem_fileList_iff]
      rintro ⟨writer, writer_eq, _⟩
      exact unwritten (Generation.lastWriter?_singleton.mp writer_eq).1

end

end Store.LeftBy

theorem Store.leftBy_empty (root : Path) : empty.LeftBy root [] := by
  intro file
  rw [mem_fileList]
  simp [empty, Generation.lastWriter?]

namespace Generation

variable {root : Path} {generation : Generation} {generations : List Generation}
  {store next final : Store}

theorem exists_performs (root : Path) (store : Store)
    (valid : ∀ generation ∈ generations, generation.shape.validate = .ok ()) :
    ∃ next, Store.sink.Performs store (generations.map (operation root)) next := by
  induction generations generalizing store with
  | nil => exact ⟨store, .nil⟩
  | cons first rest ih =>
      have own := (Generator.create first.shape first.backends first.parallel).mayEnd_run
        Store.sink root first.recording store
      rcases own.exists_perm (valid first List.mem_cons_self) with ⟨_, _, _, succeeded⟩
      rw [succeeded] at own
      rcases ih _ fun other other_mem => valid other (.tail _ other_mem) with ⟨next, later⟩
      exact ⟨next, .cons (.generation own) later⟩

/-- A run that is repeated finds everything as it leaves it. -/
theorem repeated (first : (generation.operation root).Succeeds Store.sink store next)
    (again : (generation.operation root).Succeeds Store.sink next final) :
    final.fileList = next.fileList ∧ final.directoryList = next.directoryList := by
  constructor
  · apply Store.fileList_congr
    intro place
    by_cases written : ∃ artifact, generation.Writes artifact ∧
        (artifact.path root).components = place
    · rcases written with ⟨artifact, writes, rfl⟩
      have here := files_of_writes first writes
      rw [files_of_writes again writes, here, Store.spelling, here]
    · push Not at written
      exact files_of_unwritten again written
  · rcases exists_calls first with ⟨calls, perm, rfl⟩
    rcases exists_calls again with ⟨sameCalls, samePerm, rfl⟩
    have made : ∀ directory, directory ∈ sameCalls.filterMap Call.directory? →
        directory ∈ calls.filterMap Call.directory? := by
      intro directory directory_mem
      exact ((samePerm.trans perm.symm).filterMap _).subset directory_mem
    apply Store.directoryList_congr
    intro place
    simp only [Store.directories_after, List.find?_append]
    cases found : (sameCalls.filterMap Call.directory?).find? (fun path => path.Same place) with
    | none => simp
    | some directory =>
        have earlier : ((calls.filterMap Call.directory?).find?
            (fun path => path.Same place)).isSome := by
          rw [List.find?_isSome]
          have same : directory.Same place := by simpa using List.find?_some found
          exact ⟨directory, made directory (List.mem_of_find?_eq_some found), decide_eq_true same⟩
        rcases Option.isSome_iff_exists.mp earlier with ⟨shown, shown_eq⟩
        simp [shown_eq]

end Generation

/-- A run leaves nothing of the runs before it exactly when it writes whatever they have written.
In every case its own artifacts are as it has written them, and what is left over is of the last
run that wrote it. A run that is repeated changes nothing. -/
theorem stale_files_remain (root : Path) (earlier : List Generation) (last : Generation)
    (valid : ∀ generation ∈ earlier ++ [last], generation.shape.validate = .ok ()) :
    (∃ final, Store.sink.Performs .empty ((earlier ++ [last]).map (Generation.operation root))
      final) ∧
    (∃ alone, Store.sink.Performs .empty ([last].map (Generation.operation root)) alone) ∧
    (∀ final alone,
      Store.sink.Performs .empty ((earlier ++ [last]).map (Generation.operation root)) final →
      Store.sink.Performs .empty ([last].map (Generation.operation root)) alone →
      (final.fileList = alone.fileList ↔ ∀ generation ∈ earlier, last.Covers generation) ∧
      (∀ artifact, last.Writes artifact →
        (artifact.path root, artifact.text last.shape) ∈ final.fileList) ∧
      ∀ file, file ∈ final.fileList ∧ file ∉ alone.fileList ↔ ∃ artifact generation,
        ¬last.Writes artifact ∧ Generation.lastWriter? earlier artifact = some generation ∧
          file = (artifact.path root, artifact.text generation.shape)) ∧
    ∀ store next again, (last.operation root).Succeeds Store.sink store next →
      (last.operation root).Succeeds Store.sink next again →
      again.fileList = next.fileList ∧ again.directoryList = next.directoryList := by
  refine ⟨Generation.exists_performs root .empty valid, Generation.exists_performs root .empty ?_,
    ?_, fun _ _ _ first again => Generation.repeated first again⟩
  · intro generation generation_mem
    exact valid generation (List.mem_append_right earlier generation_mem)
  · intro final alone final_performs alone_performs
    have final_left : final.LeftBy root (earlier ++ [last]) :=
      (Store.leftBy_empty root).performs final_performs
    have alone_left : alone.LeftBy root [last] :=
      (Store.leftBy_empty root).performs alone_performs
    refine ⟨?_, ?_, fun _ => final_left.surplus_iff alone_left⟩
    · rw [final_left.fileList_eq_iff alone_left]
      apply forall₂_congr
      intro generation generation_mem
      exact (Generation.covers_iff
        (valid generation (List.mem_append_left [last] generation_mem))).symm
    · intro artifact writes
      rw [final_left.mem_fileList_iff, Generation.lastWriter?_concat, if_pos writes]
      exact ⟨last, rfl, rfl⟩

theorem stale_files_remain_fewer_files :
    let earlier : List Generation := [⟨⟨3, 1, 1⟩, [.cmake], true, false⟩]
    let last : Generation := ⟨⟨2, 5, 2⟩, [.meique, .cmake], true, true⟩
    let root : Path := ⟨"out"⟩
    let file : Path × String := (⟨"out/module0/2.h"⟩, Source.header 0 2)
    (∀ generation ∈ earlier ++ [last], generation.shape.validate = .ok ()) ∧ ∃ final alone,
      Store.sink.Performs .empty ((earlier ++ [last]).map (Generation.operation root)) final ∧
      Store.sink.Performs .empty ([last].map (Generation.operation root)) alone ∧
      final.fileList ≠ alone.fileList ∧ file ∈ final.fileList ∧ file ∉ alone.fileList := by
  intro earlier last root file
  have valid : ∀ generation ∈ earlier ++ [last], generation.shape.validate = .ok () := by
    decide
  rcases stale_files_remain root earlier last valid with
    ⟨⟨final, final_performs⟩, ⟨alone, alone_performs⟩, compared, _⟩
  rcases compared final alone final_performs alone_performs with ⟨same_iff, _, surplus⟩
  have uncovered : ¬∀ generation ∈ earlier, last.Covers generation := by
    intro covers
    exact absurd (covers _ List.mem_cons_self).files (by decide)
  have path_eq : file.1 = (Artifact.header 0 2).path root := by decide
  exact ⟨valid, final, alone, final_performs, alone_performs, mt same_iff.mp uncovered,
    (surplus file).mpr ⟨.header 0 2, _, by decide, rfl, Prod.ext path_eq rfl⟩⟩

end BenchTree
