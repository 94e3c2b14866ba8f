import PlaylistCurator.Files.Tree

/-!
# How tasks on files can end

A file system may refuse an operation that nothing in its tree forbids. A task then has several
endings: every operation either works, as it does on the tree, or is refused and has no effect.

* `FileTask.endings`: the endings of a task on a tree;
* `FileTask.KeepsFiles`: tasks that change no file, whatever is refused.
-/

namespace PlaylistCurator

namespace FileTree

theorem files_makeAll (tree : FileTree) (directory parts : List String) :
    (tree.makeAll directory parts).1.files = tree.files := by
  induction parts generalizing tree directory with
  | nil => rfl
  | cons part rest ih =>
    rw [makeAll]
    split
    · exact ih _ _
    · split
      · exact ih _ _
      · -- A directory that is there, one that cannot be made, and one that is made.
        dsimp only
        split
        · exact ih _ _
        · split
          · rfl
          · exact ih _ _

/-- Making a directory changes no file. -/
theorem files_makeDirectory (tree : FileTree) (path : String) :
    (tree.makeDirectory path).1.files = tree.files := by
  unfold makeDirectory
  split
  · exact files_makeAll tree _ _
  · rfl

end FileTree

namespace FileTask

variable {α β : Type}

/-- The endings of a task on a tree: the result and the tree afterwards, first if nothing is
refused. -/
def endings : FileTask α → FileTree → List (Except Failure α × FileTree)
  | .done result, tree => [(.ok result, tree)]
  | .fail failure, tree => [(.error failure, tree)]
  | .probe path next, tree => (next (tree.probe path)).endings tree ++ (next false).endings tree
  | .read path next, tree => (next (tree.read path)).endings tree ++ (next none).endings tree
  | .makeDirectory path next, tree =>
    (next (tree.makeDirectory path).2).endings (tree.makeDirectory path).1 ++
      (next false).endings tree
  | .write path text next, tree =>
    (match tree.write path text with
      | none => []
      | some written => (next true).endings written) ++ (next false).endings tree

/-- What comes of a task when nothing is refused is one of its endings. -/
theorem runOn_mem_endings (task : FileTask α) (tree : FileTree) :
    task.runOn tree ∈ task.endings tree := by
  induction task generalizing tree with
  | done => exact List.mem_singleton_self _
  | fail => exact List.mem_singleton_self _
  | probe path next ih => exact List.mem_append_left _ (ih _ tree)
  | read path next ih => exact List.mem_append_left _ (ih _ tree)
  | makeDirectory path next ih => exact List.mem_append_left _ (ih _ _)
  | write path text next ih =>
    rw [runOn, endings]
    cases tree.write path text with
    | none => exact ih false tree
    | some written => exact List.mem_append_left _ (ih true written)

/-- The endings of what follows a task on an ending of it. -/
def endingsAfter (following : α → FileTask β) :
    Except Failure α × FileTree → List (Except Failure β × FileTree)
  | (.ok result, left) => (following result).endings left
  | (.error failure, left) => [(.error failure, left)]

theorem endings_bind (task : FileTask α) (following : α → FileTask β) (tree : FileTree) :
    (task >>= following).endings tree = (task.endings tree).flatMap (endingsAfter following) := by
  induction task generalizing tree with
  | done => simp [endings, endingsAfter]
  | fail => simp [endings, endingsAfter]
  | probe path next ih =>
    rw [endings, List.flatMap_append, ← ih, ← ih]
    rfl
  | read path next ih =>
    rw [endings, List.flatMap_append, ← ih, ← ih]
    rfl
  | makeDirectory path next ih =>
    rw [endings, List.flatMap_append, ← ih, ← ih]
    rfl
  | write path text next ih =>
    change (match tree.write path text with
      | none => []
      | some written => (next true >>= following).endings written) ++
        (next false >>= following).endings tree = _
    rw [ih false tree, endings, List.flatMap_append]
    cases tree.write path text with
    | none => rfl
    | some written => exact congrArg (· ++ _) (ih true written)

/-- Two tasks that have succeeded one after the other have done so one by one. -/
theorem exists_of_ok_mem_endings_bind {task : FileTask α} {following : α → FileTask β}
    {tree after : FileTree} {result : β}
    (h : (.ok result, after) ∈ (task >>= following).endings tree) :
    ∃ value left, (.ok value, left) ∈ task.endings tree ∧
      (.ok result, after) ∈ (following value).endings left := by
  rw [endings_bind, List.mem_flatMap] at h
  obtain ⟨⟨first, left⟩, hfirst, hafter⟩ := h
  cases first with
  | ok value => exact ⟨value, left, hfirst, hafter⟩
  | error failure => cases List.mem_singleton.1 hafter

/-- An attempt has the endings of the task itself. -/
theorem endings_attempt (task : FileTask α) (tree : FileTree) :
    task.attempt.endings tree =
      (task.endings tree).map fun ending => (.ok ending.1, ending.2) := by
  induction task generalizing tree with
  | done => rfl
  | fail => rfl
  | probe path next ih => simp only [attempt, endings, ih, List.map_append]
  | read path next ih => simp only [attempt, endings, ih, List.map_append]
  | makeDirectory path next ih => simp only [attempt, endings, ih, List.map_append]
  | write path text next ih =>
    simp only [attempt, endings, ih, List.map_append]
    cases tree.write path text <;> rfl

/-- An attempt of a task always goes on: with what the task yields, or with its failure. -/
theorem exists_of_mem_endings_attempt_bind {task : FileTask α} {tree : FileTree}
    {following : Except Failure α → FileTask β} {ending : Except Failure β × FileTree}
    (h : ending ∈ (task.attempt >>= following).endings tree) :
    ∃ first ∈ task.endings tree, ending ∈ (following first.1).endings first.2 := by
  rw [endings_bind, endings_attempt, List.flatMap_map, List.mem_flatMap] at h
  exact h

/-! ## Tasks that keep files -/

/-- A task that changes no file, however it ends. -/
def KeepsFiles (task : FileTask α) : Prop :=
  ∀ tree, ∀ ending ∈ task.endings tree, ending.2.files = tree.files

theorem keepsFiles_done (result : α) : (FileTask.done result).KeepsFiles := by
  intro tree ending h
  obtain rfl := List.mem_singleton.1 h
  rfl

theorem keepsFiles_fail (failure : Failure) :
    (FileTask.fail failure : FileTask α).KeepsFiles := by
  intro tree ending h
  obtain rfl := List.mem_singleton.1 h
  rfl

theorem KeepsFiles.probe {path : String} {next : Bool → FileTask α}
    (h : ∀ isThere, (next isThere).KeepsFiles) : (FileTask.probe path next).KeepsFiles := by
  intro tree ending hending
  rcases List.mem_append.1 hending with hending | hending
  · exact h _ tree ending hending
  · exact h _ tree ending hending

theorem KeepsFiles.read {path : String} {next : Option String → FileTask α}
    (h : ∀ text, (next text).KeepsFiles) : (FileTask.read path next).KeepsFiles := by
  intro tree ending hending
  rcases List.mem_append.1 hending with hending | hending
  · exact h _ tree ending hending
  · exact h _ tree ending hending

theorem KeepsFiles.makeDirectory {path : String} {next : Bool → FileTask α}
    (h : ∀ isThere, (next isThere).KeepsFiles) : (FileTask.makeDirectory path next).KeepsFiles := by
  intro tree ending hending
  rcases List.mem_append.1 hending with hending | hending
  · exact (h _ _ ending hending).trans (FileTree.files_makeDirectory tree path)
  · exact h _ tree ending hending

theorem KeepsFiles.bind {task : FileTask α} {following : α → FileTask β} (h : task.KeepsFiles)
    (hfollowing : ∀ result, (following result).KeepsFiles) : (task >>= following).KeepsFiles := by
  intro tree ending hending
  rw [endings_bind, List.mem_flatMap] at hending
  obtain ⟨⟨result, left⟩, hfirst, hending⟩ := hending
  have hleft : left.files = tree.files := h tree _ hfirst
  cases result with
  | ok result => exact (hfollowing result left ending hending).trans hleft
  | error failure =>
    obtain rfl := List.mem_singleton.1 hending
    exact hleft

theorem keepsFiles_readText (path : String) (during : Activity) :
    (readText path during).KeepsFiles := by
  apply KeepsFiles.read
  intro text
  cases text with
  | none => exact keepsFiles_fail _
  | some text => exact keepsFiles_done text

end FileTask

end PlaylistCurator
