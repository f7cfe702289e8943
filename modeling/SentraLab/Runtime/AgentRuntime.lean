import SentraLab.Runtime.ProcessManager

/-!
# The agent runtime

Model of `runtime/agent_runtime.rs`: one interpreter child, the runtime's `stdin` handle on
it, and the calls `execute`, `reset` and `shutdown`.

## Strategy

What the outside world does is a parameter of each call: how `ProcessManager::spawn` goes,
how the three writes to stdin go, and what the child's stdout pipe gives before
`execute`'s deadline, one `read` of the pipe at a time (`ReadEvent`; when the events run
out, nothing more comes and the timeout cancels `read_response`). `read_response` is
modelled as the code runs it: `read_line` through a `BufReader`, the `trim` of each line
against `__END__`, and the stdout handle restored only after the loop. A child is its pid
and whether its stdout handle is in place; the `stdin` handle is the pid of the child it
writes to.

Between calls the runtime holds a child exactly when it holds that child's stdin
(`stdin_eq_process_pid`), and its stdout stays in place as long as every read completes
(`stdout_of_reads_complete`). A read error or a timeout drops the stdout handle with the
reader but keeps the child, and every later `execute` fails until a `reset`
(`read_failure_strands_child`).
-/

namespace SentraLab.Runtime

/-- `AgentRuntimeConfig`, with the fields the calls read. -/
structure AgentRuntimeConfig where
  processType : ProcessType
  timeoutSecs : Nat
deriving DecidableEq, Repr

/-- `AgentRuntimeConfig::default`. -/
def AgentRuntimeConfig.default : AgentRuntimeConfig := ⟨.python, 300⟩

/-- A child process: its pid, and whether `Child::stdout` is `Some`. -/
structure Child where
  pid : Nat
  stdout : Bool
deriving DecidableEq, Repr

/-- `RuntimeHandle`. -/
structure RuntimeHandle where
  pid : Nat
  processType : ProcessType
deriving DecidableEq, Repr

/-- `AgentRuntime`: the child held in `process`, the pid whose stdin `stdin` holds, the
handle of the last spawn, and the pid the next spawn gets. -/
structure AgentRuntime where
  config : AgentRuntimeConfig
  process : Option Child
  stdin : Option Nat
  handle : Option RuntimeHandle
  nextPid : Nat
deriving DecidableEq, Repr

/-- What one read of the child's stdout pipe gives before the deadline. -/
inductive ReadEvent where
  | data (bytes : List Char)
  | eof
  | error (e : String)
deriving DecidableEq, Repr

/-- How `execute`'s writes to stdin go: the code, the delimiter, the flush. -/
inductive StdinWrite where
  | ok
  | codeFailed (e : String)
  | delimiterFailed (e : String)
  | flushFailed (e : String)
deriving DecidableEq, Repr

/-- How `ProcessManager::spawn` goes: `which` fails, `Command::spawn` fails, or a child with
piped stdio. -/
inductive SpawnOutcome where
  | ok
  | notFound (e : String)
  | failed (e : String)
deriving DecidableEq, Repr

/-- How `read_response`'s loop ends. -/
inductive ReadOutcome where
  | done (output : List Char)
  | failed (e : String)
  | timedOut
deriving DecidableEq, Repr

/-- `char::is_whitespace`: the Unicode `White_Space` characters. -/
def isRustWhitespace (c : Char) : Bool :=
  let n := c.toNat
  (9 ≤ n && n ≤ 13) || n == 0x20 || n == 0x85 || n == 0xA0 || n == 0x1680 ||
    (0x2000 ≤ n && n ≤ 0x200A) || n == 0x2028 || n == 0x2029 || n == 0x202F || n == 0x205F ||
    n == 0x3000

/-- `str::trim`. -/
def trim (s : List Char) : List Char :=
  ((s.dropWhile isRustWhitespace).reverse.dropWhile isRustWhitespace).reverse

/-- The delimiter line's text. -/
def endMarker : List Char := "__END__".toList

/-- `read_line` and the `__END__` check over the bytes one read put in the reader's buffer,
from the output and the partial line so far: `.inl output` when the `__END__` line is
reached (the rest of the buffer goes with the reader), or `.inr (output, line)`. -/
def scanChunk : List Char → List Char → List Char → List Char ⊕ (List Char × List Char)
  | [], output, line => .inr (output, line)
  | c :: cs, output, line =>
    if c = '\n' then
      if trim (line ++ [c]) = endMarker then .inl output
      else scanChunk cs (output ++ line ++ [c]) []
    else scanChunk cs output (line ++ [c])

/-- The loop of `read_response` over the pipe's reads. At EOF a partial line is a last line;
when the reads run out the timeout fires. -/
def readLoop : List ReadEvent → List Char → List Char → ReadOutcome
  | [], _, _ => .timedOut
  | .error e :: _, _, _ => .failed e
  | .eof :: _, output, line =>
    .done (if line = [] ∨ trim line = endMarker then output else output ++ line)
  | .data bytes :: rest, output, line =>
    match scanChunk bytes output line with
    | .inl output => .done output
    | .inr (output, line) => readLoop rest output line

namespace AgentRuntime

/-- `AgentRuntime::spawn`: `apply_limits` never fails, and a child spawned with piped stdio
always gives up its stdin. -/
def spawn (r : AgentRuntime) : SpawnOutcome → AgentRuntime × Except EngineError Unit
  | .notFound e =>
    (r, .error (.processSpawnFailed
      ("Executable \x27" ++ r.config.processType.command ++ "\x27 not found in PATH: " ++ e)))
  | .failed e => (r, .error (.processSpawnFailed ("Failed to spawn process: " ++ e)))
  | .ok =>
    ({ r with process := some ⟨r.nextPid, true⟩, stdin := some r.nextPid,
              handle := some ⟨r.nextPid, r.config.processType⟩, nextPid := r.nextPid + 1 },
      .ok ())

/-- `AgentRuntime::new`. -/
def new (config : AgentRuntimeConfig) (outcome : SpawnOutcome) :
    Except EngineError AgentRuntime :=
  match spawn ⟨config, none, none, none, 1⟩ outcome with
  | (r, .ok ()) => .ok r
  | (_, .error e) => .error e

/-- `AgentRuntime::read_response` under `execute`'s timeout. The stdout handle goes into
the reader, which gives it back only when the loop ends normally. -/
def readResponse (r : AgentRuntime) (response : List ReadEvent) :
    AgentRuntime × Except EngineError String :=
  match r.process with
  | none => (r, .error (.runtimeError "No process available"))
  | some c =>
    if c.stdout then
      match readLoop response [] [] with
      | .done output => (r, .ok (String.mk output))
      | .failed e =>
        ({ r with process := some { c with stdout := false } },
          .error (.runtimeError ("Read error: " ++ e)))
      | .timedOut =>
        ({ r with process := some { c with stdout := false } }, .error .executionTimeout)
    else (r, .error (.runtimeError "Failed to capture stdout"))

/-- `AgentRuntime::execute`: the writes to stdin, then the response read under the
timeout. -/
def execute (r : AgentRuntime) (write : StdinWrite) (response : List ReadEvent) :
    AgentRuntime × Except EngineError String :=
  match r.stdin, write with
  | none, _ => (r, .error (.runtimeError "No stdin available"))
  | some _, .codeFailed e => (r, .error (.runtimeError ("Failed to write to stdin: " ++ e)))
  | some _, .delimiterFailed e =>
    (r, .error (.runtimeError ("Failed to write delimiter: " ++ e)))
  | some _, .flushFailed e => (r, .error (.runtimeError ("Failed to flush stdin: " ++ e)))
  | some _, .ok => r.readResponse response

/-- `AgentRuntime::shutdown`: the child is taken and killed (a failed kill or wait is only
logged), and the stdin handle dropped. -/
def shutdown (r : AgentRuntime) : AgentRuntime × Except EngineError Unit :=
  ({ r with process := none, stdin := none }, .ok ())

/-- `AgentRuntime::reset`: `shutdown`, then `spawn`. -/
def reset (r : AgentRuntime) (outcome : SpawnOutcome) : AgentRuntime × Except EngineError Unit :=
  match r.shutdown with
  | (r, .ok ()) => r.spawn outcome
  | (r, .error e) => (r, .error e)

/-- `AgentRuntime::health_check`. -/
def healthCheck (r : AgentRuntime) : Bool := r.process.isSome

/-- The calls on a runtime, with what the outside world does during each. -/
inductive RuntimeOp where
  | execute (write : StdinWrite) (response : List ReadEvent)
  | reset (outcome : SpawnOutcome)
  | shutdown
deriving DecidableEq, Repr

/-- One call; its result is dropped. -/
def step (r : AgentRuntime) : RuntimeOp → Option AgentRuntime
  | .execute write response => some (r.execute write response).1
  | .reset outcome => some (r.reset outcome).1
  | .shutdown => some r.shutdown.1

/-- Every sequence of calls. -/
def anyCall : AgentRuntime → RuntimeOp → Bool := fun _ _ => true

/-- Sequences of calls in which every read of a response completes. -/
def readsComplete : AgentRuntime → RuntimeOp → Bool
  | _, .execute _ response =>
    match readLoop response [] [] with
    | .done _ => true
    | _ => false
  | _, _ => true

/-! ## Between calls -/

@[simp] theorem execute_stdin (r : AgentRuntime) (write : StdinWrite)
    (response : List ReadEvent) : (r.execute write response).1.stdin = r.stdin := by
  unfold execute readResponse
  repeat' split
  all_goals rfl

/-- `execute` never changes which child is held; it may only take its stdout handle. -/
@[simp] theorem execute_pid (r : AgentRuntime) (write : StdinWrite) (response : List ReadEvent) :
    (r.execute write response).1.process.map Child.pid = r.process.map Child.pid := by
  unfold execute readResponse
  repeat' split
  all_goals simp_all

/-- An `execute` whose read completes, or never starts, leaves the runtime as it was. -/
theorem execute_eq_self_of_done {r : AgentRuntime} {write : StdinWrite}
    {response : List ReadEvent} {output : List Char}
    (h : readLoop response [] [] = .done output) : (r.execute write response).1 = r := by
  unfold execute readResponse
  repeat' split
  all_goals simp_all

theorem spawn_stdin {r : AgentRuntime} (outcome : SpawnOutcome)
    (hi : r.stdin = r.process.map Child.pid) :
    (r.spawn outcome).1.stdin = (r.spawn outcome).1.process.map Child.pid := by
  cases outcome <;> simp [spawn, hi]

theorem step_stdin {r r' : AgentRuntime} {a : RuntimeOp}
    (hi : r.stdin = r.process.map Child.pid) (h : r.step a = some r') :
    r'.stdin = r'.process.map Child.pid := by
  cases a <;> cases h
  · simpa using hi
  · exact spawn_stdin _ rfl
  · rfl

/-- Over every sequence of calls, whatever the writes, reads, timeouts and spawns do, the
runtime holds a child exactly when it holds that child's stdin handle. -/
theorem stdin_eq_process_pid {config : AgentRuntimeConfig} {outcome : SpawnOutcome}
    {allowed : AgentRuntime → RuntimeOp → Bool} {r₀ r : AgentRuntime}
    (h₀ : new config outcome = .ok r₀) (hr : Reach step allowed r₀ r) :
    r.stdin = r.process.map Child.pid := by
  refine hr.induct _ ?_ fun hi _ h => step_stdin hi h
  cases outcome <;> cases h₀
  rfl

/-- A fresh runtime, one `execute` whose read fails, and a `reset`. -/
theorem stdin_eq_process_pid_after_read_error :
    ∃ r₀ r, new .default .ok = .ok r₀ ∧ Reach step anyCall r₀ r ∧ r.process = some ⟨2, true⟩ ∧
      r.stdin = r.process.map Child.pid := by
  have h₀ : new .default .ok =
      .ok ⟨.default, some ⟨1, true⟩, some 1, some ⟨1, .python⟩, 2⟩ := rfl
  obtain ⟨r, hr, h⟩ := reach_of_runSteps step anyCall
    ⟨.default, some ⟨1, true⟩, some 1, some ⟨1, .python⟩, 2⟩
    [.execute .ok [.error "EIO"], .reset .ok]
    (fun r => r.process == some ⟨2, true⟩) (by decide)
  exact ⟨_, r, h₀, hr, by simpa using h, stdin_eq_process_pid h₀ hr⟩

/-- Over every sequence of calls in which each read of a response completes, a child the
runtime holds has its stdout handle in place. -/
theorem stdout_of_reads_complete {config : AgentRuntimeConfig} {outcome : SpawnOutcome}
    {r₀ r : AgentRuntime} (h₀ : new config outcome = .ok r₀)
    (hr : Reach step readsComplete r₀ r) : ∀ c, r.process = some c → c.stdout = true := by
  refine hr.induct (fun r => ∀ c, r.process = some c → c.stdout = true) ?_ ?_
  · cases outcome <;> cases h₀
    rintro c ⟨⟩
    rfl
  · intro r r' a hi ha h
    cases a with
    | execute write response =>
      simp only [readsComplete] at ha
      split at ha
      · cases h
        rwa [execute_eq_self_of_done ‹_›]
      · cases ha
    | reset outcome =>
      cases h
      cases outcome <;> simp [reset, shutdown, spawn]
    | shutdown =>
      cases h
      simp [shutdown]

/-- A fresh runtime and two `execute` calls whose reads end at the delimiter. -/
theorem stdout_of_reads_complete_two_executes :
    ∃ r₀ r, new .default .ok = .ok r₀ ∧ Reach step readsComplete r₀ r ∧
      r.process = some ⟨1, true⟩ ∧ ∀ c, r.process = some c → c.stdout = true := by
  have h₀ : new .default .ok =
      .ok ⟨.default, some ⟨1, true⟩, some 1, some ⟨1, .python⟩, 2⟩ := rfl
  obtain ⟨r, hr, h⟩ := reach_of_runSteps step readsComplete
    ⟨.default, some ⟨1, true⟩, some 1, some ⟨1, .python⟩, 2⟩
    [.execute .ok [.data "4\n__END__\n".toList], .execute .ok [.data "ok\n".toList, .eof]]
    (fun r => r.process == some ⟨1, true⟩) (by decide)
  exact ⟨_, r, h₀, hr, by simpa using h, stdout_of_reads_complete h₀ hr⟩

/-- For every configuration and error: after a fresh runtime's first `execute` fails its
read, or times out with nothing read, the runtime still holds the child and its stdin, the
child's stdout handle is gone, and every later `execute` fails with `Failed to capture
stdout`, changing nothing. -/
theorem read_failure_strands_child (config : AgentRuntimeConfig) (e : String) :
    (∃ r₀ r, new config .ok = .ok r₀ ∧
      r₀.execute .ok [.error e] = (r, .error (.runtimeError ("Read error: " ++ e))) ∧
      r.process = some ⟨1, false⟩ ∧ r.stdin = some 1 ∧
      ∀ response, r.execute .ok response =
        (r, .error (.runtimeError "Failed to capture stdout"))) ∧
    (∃ r₀ r, new config .ok = .ok r₀ ∧
      r₀.execute .ok [] = (r, .error .executionTimeout) ∧
      r.process = some ⟨1, false⟩ ∧ r.stdin = some 1 ∧
      ∀ response, r.execute .ok response =
        (r, .error (.runtimeError "Failed to capture stdout"))) :=
  ⟨⟨_, _, rfl, rfl, rfl, rfl, fun _ => rfl⟩, ⟨_, _, rfl, rfl, rfl, rfl, fun _ => rfl⟩⟩

end AgentRuntime

end SentraLab.Runtime
