import Mathlib.Logic.Function.Basic
import SentraLab.Basic

/-!
# The process manager

Model of `runtime/process_manager.rs`: the interpreter kinds with their commands and
arguments, the executable cache behind `find_executable` and the command `spawn` builds.

The outside world is a parameter of each call: the PATH search (`which::which`) at the time
of the call and whether the OS starts a command. The cache is a
`HashMap<ProcessType, PathBuf>` that is never iterated, so it is a function of the kind.

* `spawn_program_eq_first_found`: over every run of `spawn` calls on one manager, under any
  PATH at each call, every command started for a kind runs the program the first successful
  PATH search for that kind returned. A later change of PATH is never seen, and a program
  that the OS then refuses to start stays cached.
-/

namespace SentraLab.Runtime

/-- `ProcessType`. -/
inductive ProcessType where
  | python
  | nodeJs
  | go
deriving DecidableEq, Repr

namespace ProcessType

/-- `ProcessType::command`. -/
def command : ProcessType → String
  | .python => "python3"
  | .nodeJs => "node"
  | .go => "go"

/-- `ProcessType::default_args`: an interactive, line-buffered mode. -/
def defaultArgs : ProcessType → List String
  | .python => ["-u", "-i"]
  | .nodeJs => ["-i"]
  | .go => ["run"]

/-- `ProcessType::extension`. -/
def extension : ProcessType → String
  | .python => "py"
  | .nodeJs => "js"
  | .go => "go"

end ProcessType

/-- `SpawnConfig`, without `timeout`, which `spawn` does not read. -/
structure SpawnConfig where
  processType : ProcessType
  workDir : Option String
  envVars : List (String × String)
deriving DecidableEq, Repr

/-- `SpawnConfig::default`. -/
def SpawnConfig.default : SpawnConfig := ⟨.python, none, []⟩

/-- The `tokio::process::Command` that `spawn` builds: the program, its arguments, the
working directory, and the environment variables added in order. Its three standard
streams are always piped. -/
structure Command where
  program : String
  args : List String
  currentDir : Option String
  envs : List (String × String)
deriving DecidableEq, Repr

/-- `ProcessManager`: its executable cache. -/
structure ProcessManager where
  executablePaths : ProcessType → Option String

namespace ProcessManager

/-- `ProcessManager::new`: an empty cache. -/
def new : ProcessManager := ⟨fun _ => none⟩

/-- `find_executable`: the cached path, else the PATH search `which` for the kind's command,
whose result is cached; its error text goes into the `ProcessSpawnFailed` message. -/
def findExecutable (which : String → Except String String) (m : ProcessManager)
    (t : ProcessType) : ProcessManager × Except EngineError String :=
  match m.executablePaths t with
  | some path => (m, .ok path)
  | none =>
    match which t.command with
    | .ok path => (⟨Function.update m.executablePaths t (some path)⟩, .ok path)
    | .error e =>
      (m, .error (.processSpawnFailed
        ("Executable \x27" ++ t.command ++ "\x27 not found in PATH: " ++ e)))

/-- `spawn`: find the executable, then start the command built from the configuration;
`launch` is what `Command::spawn` returns, its error text going into the message. The
child is represented by the command it runs. -/
def spawn (which : String → Except String String) (launch : Command → Except String Unit)
    (m : ProcessManager) (config : SpawnConfig) : ProcessManager × Except EngineError Command :=
  match m.findExecutable which config.processType with
  | (m', .error e) => (m', .error e)
  | (m', .ok exe) =>
    let command : Command := ⟨exe, config.processType.defaultArgs, config.workDir, config.envVars⟩
    match launch command with
    | .ok () => (m', .ok command)
    | .error e => (m', .error (.processSpawnFailed ("Failed to spawn process: " ++ e)))

/-- One `spawn` call of a run: its configuration, the PATH search and the OS's answer at the
time of the call. -/
structure SpawnCall where
  config : SpawnConfig
  which : String → Except String String
  launch : Command → Except String Unit

/-- `spawn` calls one after another on one manager, with their results. -/
def spawnAll : ProcessManager → List SpawnCall → ProcessManager × List (Except EngineError Command)
  | m, [] => (m, [])
  | m, c :: cs =>
    let (m', r) := m.spawn c.which c.launch c.config
    let (m'', rs) := spawnAll m' cs
    (m'', r :: rs)

/-- Not from the source: the path the first successful PATH search for a kind returns
in a run. -/
def firstFound (t : ProcessType) : List SpawnCall → Option String
  | [] => none
  | c :: cs =>
    match c.config.processType == t, c.which t.command with
    | true, .ok path => some path
    | _, _ => firstFound t cs

/-- Not from the source: what a run from `m` starts for kind `t`, the cached path or else
the first one a PATH search of the run finds. -/
def knownPath (m : ProcessManager) (calls : List SpawnCall) (t : ProcessType) : Option String :=
  match m.executablePaths t with
  | some path => some path
  | none => firstFound t calls

/-- `spawn` leaves the cache as `find_executable` leaves it. -/
theorem spawn_fst (which : String → Except String String) (launch : Command → Except String Unit)
    (m : ProcessManager) (config : SpawnConfig) :
    (m.spawn which launch config).1 = (m.findExecutable which config.processType).1 := by
  unfold spawn
  split
  · rename_i h; rw [h]
  · rename_i h; dsimp only; split <;> rw [h]

/-- A `spawn` call keeps what the rest of the run starts for every kind. -/
theorem knownPath_spawn (m : ProcessManager) (c : SpawnCall) (cs : List SpawnCall)
    (t : ProcessType) :
    knownPath (m.spawn c.which c.launch c.config).1 cs t = knownPath m (c :: cs) t := by
  rw [spawn_fst]
  unfold findExecutable
  by_cases ht : c.config.processType = t
  · subst ht
    cases hm : m.executablePaths c.config.processType with
    | some path => simp [knownPath, hm]
    | none =>
      cases hw : c.which c.config.processType.command with
      | ok path => simp [knownPath, firstFound, hm, hw]
      | error e => simp [knownPath, firstFound, hm, hw]
  · have hne : (c.config.processType == t) = false := by simpa using ht
    have hk : knownPath m (c :: cs) t = knownPath m cs t := by
      simp only [knownPath, firstFound, hne]
    rw [hk]
    split
    · rfl
    · split <;> simp [knownPath, Function.update_noteq (Ne.symm ht)]

/-- A command that `spawn` starts runs what the run from `m` starts for its kind. -/
theorem knownPath_of_spawn_ok {m : ProcessManager} {c : SpawnCall} {cmd : Command}
    (h : (m.spawn c.which c.launch c.config).2 = .ok cmd) (cs : List SpawnCall) :
    knownPath m (c :: cs) c.config.processType = some cmd.program := by
  unfold spawn findExecutable at h
  cases hm : m.executablePaths c.config.processType with
  | some path =>
    simp only [hm] at h
    split at h <;> cases h
    simp [knownPath, hm]
  | none =>
    cases hw : c.which c.config.processType.command with
    | ok path =>
      simp only [hm, hw] at h
      split at h <;> cases h
      simp [knownPath, firstFound, hm, hw]
    | error e => simp [hm, hw] at h

/-- Over a run of `spawn` calls from any manager, every command started for a kind runs the
cached path, or else the first path a PATH search of the run found. -/
theorem spawnAll_program : ∀ (calls : List SpawnCall) (m : ProcessManager) {c : SpawnCall}
    {cmd : Command}, (c, .ok cmd) ∈ calls.zip (m.spawnAll calls).2 →
      knownPath m calls c.config.processType = some cmd.program
  | [], _, _, _, h => by simp [spawnAll] at h
  | c₀ :: cs, m, c, cmd, h => by
    simp only [spawnAll, List.zip_cons_cons, List.mem_cons] at h
    rcases h with h | h
    · obtain ⟨rfl, hr⟩ := Prod.mk.inj h
      exact knownPath_of_spawn_ok hr.symm cs
    · rw [← knownPath_spawn]
      exact spawnAll_program cs _ h

/-- For every run of `spawn` calls on a new manager, with any PATH at each call and any
answer of the OS, every command started for a kind runs the program that the first
successful PATH search for that kind returned: later PATH searches are never made, and a
program the OS refused to start stays cached. -/
theorem spawn_program_eq_first_found (calls : List SpawnCall) {c : SpawnCall} {cmd : Command}
    (h : (c, .ok cmd) ∈ calls.zip (new.spawnAll calls).2) :
    firstFound c.config.processType calls = some cmd.program :=
  spawnAll_program calls new h

/-- PATH moves `python3` between two spawns: the second still runs the first path. -/
theorem spawn_program_eq_first_found_path_change :
    let c₁ : SpawnCall := ⟨.default, fun _ => .ok "/usr/bin/python3", fun _ => .ok ()⟩
    let c₂ : SpawnCall := ⟨.default, fun _ => .ok "/opt/bin/python3", fun _ => .ok ()⟩
    let cmd : Command := ⟨"/usr/bin/python3", ["-u", "-i"], none, []⟩
    (new.spawnAll [c₁, c₂]).2 = [.ok cmd, .ok cmd] ∧
      firstFound c₂.config.processType [c₁, c₂] = some cmd.program := by
  intro c₁ c₂ cmd
  have hrun : (new.spawnAll [c₁, c₂]).2 = [.ok cmd, .ok cmd] := rfl
  refine ⟨hrun, spawn_program_eq_first_found [c₁, c₂] ?_⟩
  rw [hrun]
  exact .tail _ (.head _)

end ProcessManager

end SentraLab.Runtime
