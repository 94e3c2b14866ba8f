import PlaylistCurator.Program
import PlaylistCurator.Proofs.Curation.CopyCourse
import PlaylistCurator.Proofs.Files.Endings
import PlaylistCurator.Proofs.Library.Saving

/-!
# What the program does to the library file

However the program ends, it has changed no file but the library file, and that one only after a job
was done that has written to the library. The new text is then that of the library which the job has
left.

* `Program.keepsFiles_workspace`: reading the configuration and the library changes no file;
* `Program.isKept_of_mem_endings_finish`: how a job is finished;
* `Program.sparesLibrary_run`: what every ending of the program leaves.
-/

namespace PlaylistCurator

open FileTask (KeepsFiles keepsFiles_done keepsFiles_fail keepsFiles_readText)

variable {tree found after : FileTree} {path : String}

/-! ## Tasks that only read -/

theorem Environment.keepsFiles_configPath (environment : Environment) :
    environment.configPath.KeepsFiles := by
  unfold configPath
  split
  · exact keepsFiles_done _
  · exact keepsFiles_fail _

theorem Environment.keepsFiles_libraryPath (environment : Environment) :
    environment.libraryPath.KeepsFiles := by
  refine KeepsFiles.bind ?_ fun directory => keepsFiles_done _
  unfold dataDirectory
  split
  · -- The directory of the program's data may be made, but no file.
    apply KeepsFiles.makeDirectory
    intro isThere
    cases isThere with
    | false => exact keepsFiles_fail _
    | true => exact keepsFiles_done _
  · exact keepsFiles_fail _

theorem Configuration.keepsFiles_load (path : String) : (load path).KeepsFiles := by
  apply KeepsFiles.probe
  intro isThere
  cases isThere with
  | false => exact keepsFiles_done _
  | true =>
    refine (keepsFiles_readText _ _).bind fun text => ?_
    cases parse text with
    | ok configuration => exact keepsFiles_done _
    | error failure => exact keepsFiles_fail _

theorem Configuration.keepsFiles_libraryPath (configuration : Configuration)
    (environment : Environment) (path : Option String) :
    (configuration.libraryPath environment path).KeepsFiles := by
  unfold libraryPath
  split
  · exact keepsFiles_done _
  · exact environment.keepsFiles_libraryPath

theorem Library.keepsFiles_load (path : String) : (load path).KeepsFiles := by
  refine (keepsFiles_readText _ _).bind fun text => ?_
  cases parse text with
  | none => exact keepsFiles_fail _
  | some library => exact keepsFiles_done _

/-! ## Opening and saving -/

namespace Library

variable {library : Library}

/-- Opening a library goes as it does on the tree, or reading the file is refused. -/
theorem endings_load (path : String) (tree : FileTree) :
    (load path).endings tree =
      [(load path).runOn tree, (.error ⟨.fileSystem, [.readLibrary path]⟩, tree)] := by
  rw [load, FileTask.endings_bind, FileTask.runOn_bind]
  simp only [FileTask.readText, FileTask.endings, FileTask.runOn]
  cases tree.read path with
  | none => rfl
  | some text =>
    cases hparse : parse text <;>
      simp [hparse, FileTask.endings, FileTask.endingsAfter, FileTask.failWith, FileTask.runOn]

theorem exists_text_of_mem_endings_load (h : (.ok library, after) ∈ (load path).endings tree) :
    after = tree ∧ ∃ text, tree.read path = some text ∧ parse text = some library := by
  rw [endings_load, List.mem_cons, List.mem_singleton] at h
  rcases h with h | h
  · refine ⟨?_, exists_text_of_runOn_load h.symm⟩
    have hafter : after = ((load path).runOn tree).2 := congrArg Prod.snd h
    rw [hafter, runOn_load]
    cases tree.read path with
    | none => rfl
    | some text => cases hparse : parse text <;> simp [hparse]
  · cases h

/-- Nothing has been written to a library that was just parsed. -/
theorem writes_of_parse {text : String} (h : parse text = some library) : library.writes = [] := by
  obtain ⟨snapshot, -, rfl⟩ := Option.map_eq_some_iff.1 h
  rfl

/-- Saving a library replaces the text of its file, or writing is refused. -/
theorem endings_save (path : String) (library : Library) (tree : FileTree) :
    (save path library).endings tree =
      ((tree.write path library.snapshot.render).toList.map fun written => (.ok (), written)) ++
        [(.error ⟨.fileSystem, [.writeLibrary path]⟩, tree)] := by
  simp only [save, FileTask.endings]
  cases tree.write path library.snapshot.render <;> rfl

end Library

namespace Program

open CommandLine (Invocation Texts)
open Curation (Job)

variable {environment : Environment} {chance : Chance} {invocation : Invocation}
  {workspace : Workspace}

/-! ## Finding the library -/

/-- The path of the configuration file that an invocation uses. -/
def chosenConfigPath (environment : Environment) (invocation : Invocation) : FileTask String :=
  match invocation.configFile with
  | some path => return path
  | none => environment.configPath

/-- The workspace is found step by step. -/
theorem workspace_eq (environment : Environment) (invocation : Invocation) :
    Program.workspace environment invocation = do
      let configPath ← chosenConfigPath environment invocation
      let configuration ← Configuration.load configPath
      let path ← configuration.libraryPath environment invocation.library
      let library ← Library.load path
      return ⟨configuration.settings, path, library⟩ := by
  unfold Program.workspace chosenConfigPath
  cases invocation.configFile <;> rfl

/-- Finding and reading the configuration and the library changes no file. -/
theorem keepsFiles_workspace (environment : Environment) (invocation : Invocation) :
    (Program.workspace environment invocation).KeepsFiles := by
  rw [workspace_eq]
  refine KeepsFiles.bind ?_ fun configPath =>
    (Configuration.keepsFiles_load configPath).bind fun configuration =>
      (configuration.keepsFiles_libraryPath environment _).bind fun path =>
        (Library.keepsFiles_load path).bind fun library => keepsFiles_done _
  unfold chosenConfigPath
  split
  · exact keepsFiles_done _
  · exact environment.keepsFiles_configPath

/-- The library that a job works with is that of a file which can be read. -/
theorem exists_text_of_mem_endings_workspace
    (h : (.ok workspace, found) ∈ (Program.workspace environment invocation).endings tree) :
    ∃ text, found.read workspace.path = some text ∧
      Library.parse text = some workspace.library := by
  rw [workspace_eq] at h
  obtain ⟨configPath, chosen, -, h⟩ := FileTask.exists_of_ok_mem_endings_bind h
  obtain ⟨configuration, configured, -, h⟩ := FileTask.exists_of_ok_mem_endings_bind h
  obtain ⟨path, led, -, h⟩ := FileTask.exists_of_ok_mem_endings_bind h
  obtain ⟨library, loaded, hload, hdone⟩ := FileTask.exists_of_ok_mem_endings_bind h
  obtain ⟨rfl, hread⟩ := Library.exists_text_of_mem_endings_load hload
  cases List.mem_singleton.1 hdone
  exact hread

/-! ## Finishing a job -/

/-- The run of a job on the library that it works with. -/
def runJob (chance : Chance) (job : Job) (workspace : Workspace) : Run job.Product :=
  (job.dialogue workspace.settings chance.shuffle).run chance.newId .none workspace.library

/-- A job of listing leaves the library as it was. -/
theorem library_runJob_list (chance : Chance) (filter sort : Option String)
    (workspace : Workspace) :
    (runJob chance (.list filter sort) workspace).library = workspace.library := by
  rw [runJob, Dialogue.library_run_eq_replay]
  exact Library.replay_of_forall_isWrite_eq_false _
    (Curation.isWrite_eq_false_of_mem_calls_run_list filter sort)

/-- The library is kept in the file at a path: if it was not written to, the file is what it was,
and otherwise the file's text is read back as the library's snapshot and no other file has
changed. -/
structure IsKept (path : String) (library : Library) (found after : FileTree) : Prop where
  unwritten : library.writes = [] → after = found
  written : library.writes ≠ [] → ∃ location text, found.locate path = .file location ∧
    after.locate path = .file location ∧ after.text? location = some text ∧
      Snapshot.parse text = some library.snapshot ∧
      ∀ other, other ≠ location → after.text? other = found.text? other

/-- How saving ends: the library is kept, or the file system has refused to write and nothing has
changed. -/
theorem isKept_of_mem_endings_saveWritten {library : Library} {text : String}
    {ending : Except Failure Unit × FileTree} (hread : found.read path = some text)
    (h : ending ∈ (saveWritten path library).endings found) :
    (ending.1 = .ok () ∧ IsKept path library found ending.2) ∨
      (∃ failure, ending.1 = .error failure) ∧ ending.2 = found := by
  unfold saveWritten at h
  split at h
  · rename_i hwrites
    obtain rfl := List.mem_singleton.1 h
    exact .inl ⟨rfl, fun _ => rfl, fun hne => absurd (List.isEmpty_iff.1 hwrites) hne⟩
  · rename_i hwrites
    rw [Library.endings_save, List.mem_append, List.mem_map, List.mem_singleton] at h
    rcases h with ⟨written, hwrite, rfl⟩ | rfl
    · refine .inl ⟨rfl, fun hnil => absurd (List.isEmpty_iff.2 hnil) hwrites, fun _ => ?_⟩
      obtain ⟨location, hleads, hlocate, htext, hother⟩ :=
        FileTree.exists_file_of_write (Option.mem_toList.1 hwrite)
      exact ⟨location, _, hleads.eq_file_of_read hread, hlocate, htext, Snapshot.parse_render _,
        hother⟩
    · exact .inr ⟨⟨_, rfl⟩, rfl⟩

/-- A job ends with a failure, and no file has changed, or it is done and the library that it leaves
is kept. -/
theorem isKept_of_mem_endings_finish {job : Job} {text : String}
    {ending : Except Failure Outcome × FileTree} (hread : found.read workspace.path = some text)
    (h : ending ∈ (finish chance job workspace).endings found) :
    ∃ outcome, ending.1 = .ok outcome ∧
      ((outcome.exitCode = 1 ∧ ending.2 = found) ∨
        ∃ product, (runJob chance job workspace).result = .ok product ∧
          outcome = { output := job.report product } ∧
          IsKept workspace.path (runJob chance job workspace).library found ending.2) := by
  cases hresult : (runJob chance job workspace).result with
  | error failure =>
    have hrun := hresult
    rw [runJob] at hrun
    simp only [finish, hrun] at h
    obtain rfl := List.mem_singleton.1 h
    exact ⟨_, rfl, .inl ⟨rfl, rfl⟩⟩
  | ok product =>
    have hrun := hresult
    rw [runJob] at hrun
    simp only [finish, hrun] at h
    obtain ⟨⟨saving, left⟩, hsaving, hending⟩ := FileTask.exists_of_mem_endings_attempt_bind h
    rcases isKept_of_mem_endings_saveWritten hread hsaving with
      ⟨hok, hkept⟩ | ⟨⟨failure, herror⟩, hsame⟩
    · obtain rfl : saving = .ok () := hok
      obtain rfl := List.mem_singleton.1 hending
      exact ⟨_, rfl, .inr ⟨product, rfl, rfl, hkept⟩⟩
    · obtain rfl : saving = .error failure := herror
      obtain rfl := List.mem_singleton.1 hending
      exact ⟨_, rfl, .inl ⟨rfl, hsame⟩⟩

/-! ## The program -/

/-- What the program leaves of the files when it ends. -/
structure SparesLibrary (environment : Environment) (chance : Chance) (arguments : List String)
    (tree : FileTree) (outcome : Outcome) (after : FileTree) : Prop where
  /-- A program that ends in an error has changed no file. -/
  failed : outcome.exitCode ≠ 0 → after.files = tree.files
  /-- A program that is not told to do a job changes nothing at all. -/
  jobless : (∀ invocation job, Invocation.ofArguments environment arguments = .ok invocation →
    invocation.command ≠ .curate job) → after = tree
  /-- A list changes no file. -/
  list : ∀ invocation filter sort, Invocation.ofArguments environment arguments = .ok invocation →
    invocation.command = .curate (.list filter sort) → after.files = tree.files
  /-- A job that is done was done on the library of a file, which is found without a change to any
  file, and what it leaves is kept there. -/
  done : ∀ invocation job, Invocation.ofArguments environment arguments = .ok invocation →
    invocation.command = .curate job → outcome.exitCode = 0 →
    ∃ workspace found product,
      (.ok workspace, found) ∈ (Program.workspace environment invocation).endings tree ∧
      found.files = tree.files ∧
      (∃ text, found.read workspace.path = some text ∧
        Library.parse text = some workspace.library) ∧
      (runJob chance job workspace).result = .ok product ∧
      outcome = { output := job.report product } ∧
      IsKept workspace.path (runJob chance job workspace).library found after

section Endings

variable {arguments : List String} {outcome : Outcome}

/-- Without a job everything may stay as it is. -/
theorem sparesLibrary_of_jobless
    (h : ∀ invocation job, Invocation.ofArguments environment arguments = .ok invocation →
      invocation.command ≠ .curate job) :
    SparesLibrary environment chance arguments tree outcome tree where
  failed _ := rfl
  jobless _ := rfl
  list invocation _ _ hinvocation hcommand := absurd hcommand (h invocation _ hinvocation)
  done invocation job hinvocation hcommand := absurd hcommand (h invocation job hinvocation)

/-- A job that fails may leave files as they are. -/
theorem sparesLibrary_of_failed {job : Job}
    (hinvocation : Invocation.ofArguments environment arguments = .ok invocation)
    (hjob : invocation.command = .curate job) (hcode : outcome.exitCode = 1)
    (hfiles : after.files = tree.files) :
    SparesLibrary environment chance arguments tree outcome after where
  failed _ := hfiles
  jobless h := absurd hjob (h invocation job hinvocation)
  list _ _ _ _ _ := hfiles
  done _ _ _ _ hzero := absurd (hcode.symm.trans hzero) (by decide)

/-- A job that is done must keep the library it leaves, which changes nothing if it is a list. -/
theorem sparesLibrary_of_isKept {job : Job} {text : String} {product : job.Product}
    (hinvocation : Invocation.ofArguments environment arguments = .ok invocation)
    (hjob : invocation.command = .curate job)
    (hworkspace : (.ok workspace, found) ∈
      (Program.workspace environment invocation).endings tree)
    (hread : found.read workspace.path = some text)
    (hparse : Library.parse text = some workspace.library)
    (hresult : (runJob chance job workspace).result = .ok product)
    (hkept : IsKept workspace.path (runJob chance job workspace).library found after) :
    SparesLibrary environment chance arguments tree { output := job.report product } after := by
  have hfiles : found.files = tree.files :=
    keepsFiles_workspace environment invocation tree _ hworkspace
  constructor
  case failed => exact fun hcode => absurd rfl hcode
  case jobless => exact fun h => absurd hjob (h invocation job hinvocation)
  case list =>
    intro other filter sort hother hlist
    obtain rfl := Except.ok.inj (hinvocation.symm.trans hother)
    obtain rfl := CommandLine.Command.curate.inj (hjob.symm.trans hlist)
    -- The library that a list leaves is the one that was read, with no writes.
    rw [library_runJob_list] at hkept
    have hsame : after = found := hkept.unwritten (Library.writes_of_parse hparse)
    rw [hsame, hfiles]
  case done =>
    intro other otherJob hother hotherJob _
    obtain rfl := Except.ok.inj (hinvocation.symm.trans hother)
    obtain rfl := CommandLine.Command.curate.inj (hjob.symm.trans hotherJob)
    exact ⟨workspace, found, product, hworkspace, hfiles, ⟨text, hread, hparse⟩, hresult, rfl,
      hkept⟩

/-- Whatever the file system refuses and whatever texts are printed, the program comes to an end with
an exit code, and it has not damaged the library file. -/
theorem sparesLibrary_run {texts : Texts} {ending : Except Failure Outcome × FileTree}
    (h : ending ∈ (run environment chance arguments texts).endings tree) :
    ∃ outcome, ending.1 = .ok outcome ∧
      SparesLibrary environment chance arguments tree outcome ending.2 := by
  unfold run at h
  cases hinvocation : Invocation.ofArguments environment arguments with
  | error refusal =>
    rw [hinvocation] at h
    -- The command line is refused, and no file is looked at.
    obtain rfl := List.mem_singleton.1 h
    refine ⟨_, rfl, sparesLibrary_of_jobless fun other job hother => ?_⟩
    cases hinvocation.symm.trans hother
  | ok invocation =>
    rw [hinvocation] at h
    change ending ∈ (perform environment chance texts invocation).endings tree at h
    unfold perform at h
    cases hcommand : invocation.command with
    | commands | completion =>
      rw [hcommand] at h
      obtain rfl := List.mem_singleton.1 h
      refine ⟨_, rfl, sparesLibrary_of_jobless fun other job hother hjob => ?_⟩
      obtain rfl := Except.ok.inj (hinvocation.symm.trans hother)
      cases hcommand.symm.trans hjob
    | curate job =>
      rw [hcommand] at h
      obtain ⟨⟨finding, found⟩, hfinding, hending⟩ := FileTask.exists_of_mem_endings_attempt_bind h
      cases finding with
      | error failure =>
        -- Without a workspace the job is not begun.
        obtain rfl := List.mem_singleton.1 hending
        exact ⟨_, rfl, sparesLibrary_of_failed hinvocation hcommand rfl
          (keepsFiles_workspace environment invocation tree _ hfinding)⟩
      | ok workspace =>
        obtain ⟨text, hread, hparse⟩ := exists_text_of_mem_endings_workspace hfinding
        obtain ⟨outcome, hok, ⟨hcode, hsame⟩ | ⟨product, hresult, rfl, hkept⟩⟩ :=
          isKept_of_mem_endings_finish hread hending
        · refine ⟨outcome, hok, sparesLibrary_of_failed hinvocation hcommand hcode ?_⟩
          rw [hsame]
          exact keepsFiles_workspace environment invocation tree _ hfinding
        · exact ⟨_, hok, sparesLibrary_of_isKept hinvocation hcommand hfinding hread hparse hresult
            hkept⟩

/-- The files of a user whose daily mixes go to a playlist "Top", of which there is none yet. -/
def topTree : FileTree := { files := [
  (["c.toml"], "[playlists]\ndaily_mix_target = \"Top\""),
  (["l.json"], "\x7b\"user_id\": \"tester\", \"playlists\": [\x7b\"id\": \"d\", " ++
    "\"name\": \"Daily Mix 1\", \"owner\": \x7b\"id\": \"tester\"\x7d, " ++
    "\"items\": [\x7b\"track\": \x7b\"id\": \"t\"\x7d\x7d]\x7d]\x7d")] }

/-- What is left to chance when the daily mixes are merged. -/
def topChance : Chance := ⟨.ofCandidate "top", .ofPositions List.range⟩

/-- How the program ends when it merges the daily mixes of `topTree` and nothing is refused. -/
def topEnding : Except Failure Outcome × FileTree :=
  (run (fun _ => none) topChance ["-ll.json", "-cc.toml", "daily"]).runOn topTree

/-- The daily mixes are merged into a new playlist, and the library is kept. -/
theorem sparesLibrary_run_topTree :
    topEnding.1.toOption = some { output := "daily: added 1 of 1 tracks from 1 playlist(s)\n" } ∧
      ∃ outcome, topEnding.1 = .ok outcome ∧
        SparesLibrary (fun _ => none) topChance ["-ll.json", "-cc.toml", "daily"] topTree outcome
          topEnding.2 :=
  ⟨by decide +kernel, sparesLibrary_run (FileTask.runOn_mem_endings _ _)⟩

end Endings

end Program

end PlaylistCurator
