import SentraLab.Basic

/-!
# The work-stealing scheduler

Model of `runtime/work_stealing.rs`: crossbeam's global `Injector`, one FIFO `Worker` deque
per worker with its `Stealer`, and a tokio `Notify`. The scheduler never reads a task (it
only logs its id), so the model is over any task type `T`.

## Strategy

Each call is cut where another call can act between two of its steps. `submit` and
`submit_batch` push their tasks one by one (`push`), then make their `notify_one` calls
(`notifyOne`). A `get_task` call, one per worker id with its place in `pcs`, pops its local
deque, steals from the global queue (`Steal::Retry` is a choice of the run), tries the peers
of `steal_from_others` in the order its shuffle gives, and polls `notified()`: that takes the
Notify's stored permit, or parks the call in the FIFO waiter list until a `notify_one` wakes
it. `pushed` and `returned` are ghost: the tasks in the order their pushes, and the returns
of `get_task`, took effect.

`WorkStealingScheduler` is not `Sync` (crossbeam's `Worker` is not), so the program's calls
run on one thread and interleave only where `get_task` awaits `notified()`. `singleThread`
admits exactly those schedules; a run admitted by any predicate is one of every interleaving.
The model runs at most one `get_task` call per worker id: a thread that polls two
`get_task(w)` futures for the same `w` at once is outside it.
-/

namespace SentraLab.Runtime

/-- Where the `get_task` call of one worker stands. -/
inductive GetTaskPc where
  /-- No call in progress. -/
  | idle
  /-- At the top of the loop: `worker.pop()`. -/
  | popLocal
  /-- At `global_queue.steal()`. -/
  | stealGlobal
  /-- In `steal_from_others`, with the peers still to try. -/
  | stealOthers (indices : List Nat)
  /-- At `notify.notified().await`, before its first poll. -/
  | notified
  /-- Registered in the Notify's waiter list. -/
  | parked
  /-- Woken by `notify_one`, not yet polled again. -/
  | woken
deriving DecidableEq, Repr

/-- Between two await points of its call. -/
def GetTaskPc.isMid : GetTaskPc → Bool
  | .popLocal | .stealGlobal | .stealOthers _ | .notified => true
  | _ => false

/-- Past the global queue's `Steal::Empty`. -/
def GetTaskPc.pastGlobal : GetTaskPc → Bool
  | .stealOthers _ | .notified => true
  | _ => false

/-- A `submit` or `submit_batch` call in progress: the tasks it has still to push, then the
`notify_one` calls it has still to make. -/
structure SubmitCall (T : Type) where
  toPush : List T
  notifies : Nat
deriving DecidableEq, Repr

/-- The call has nothing left to do. -/
def SubmitCall.done {T : Type} (c : SubmitCall T) : Bool := c.toPush.isEmpty && c.notifies == 0

/-- `WorkStealingScheduler` with the calls in progress and the ghost sequences. -/
structure WorkStealingScheduler (T : Type) where
  numWorkers : Nat
  globalQueue : List T
  workers : List (List T)
  pcs : List GetTaskPc
  waiters : List Nat
  permit : Bool
  submits : List (SubmitCall T)
  pushed : List T
  returned : List T
deriving DecidableEq, Repr

/-- `SchedulerStats`. -/
structure SchedulerStats where
  globalQueueSize : Nat
  localQueueSizes : List Nat
  totalTasks : Nat
  numWorkers : Nat
deriving DecidableEq, Repr

/-- The steps of the calls: a call starts (`submit`, `submitBatch`, `getTask`), or the call
it names takes its next step. -/
inductive SchedOp (T : Type) where
  | submit (task : T)
  | submitBatch (tasks : List T)
  | push (call : Nat)
  | notifyOne (call : Nat)
  | getTask (worker : Nat)
  | popLocal (worker : Nat)
  | stealGlobal (worker : Nat) (retry : Bool)
  | stealOther (worker other : Nat) (retry : Bool)
  | pollNotified (worker : Nat)
  | resume (worker : Nat)
deriving DecidableEq, Repr

namespace WorkStealingScheduler

variable {T : Type}

/-- `WorkStealingScheduler::new`. -/
def new (numWorkers : Nat) : WorkStealingScheduler T :=
  ⟨numWorkers, [], List.replicate numWorkers [], List.replicate numWorkers .idle, [], false,
    [], [], []⟩

/-- The peers `steal_from_others` tries, before its shuffle. -/
def peers (numWorkers workerId : Nat) : List Nat :=
  (List.range numWorkers).filter (· != workerId)

/-- Where `get_task` goes with the peers still to try: the next one, or `notified()`. -/
def afterPeers (indices : List Nat) : GetTaskPc :=
  if indices = [] then .notified else .stealOthers indices

/-- The `get_task` call of worker `w` moves to `pc`. -/
def setPc (s : WorkStealingScheduler T) (w : Nat) (pc : GetTaskPc) : WorkStealingScheduler T :=
  { s with pcs := s.pcs.set w pc }

/-- `get_task` of worker `w` returns `task`. -/
def giveTask (s : WorkStealingScheduler T) (w : Nat) (task : T) : WorkStealingScheduler T :=
  { s with pcs := s.pcs.set w .idle, returned := s.returned ++ [task] }

/-- `Notify::notify_one`: wakes the oldest waiter, or stores the one permit. -/
def notify (s : WorkStealingScheduler T) : WorkStealingScheduler T :=
  match s.waiters with
  | w :: ws => { s with waiters := ws, pcs := s.pcs.set w .woken }
  | [] => { s with permit := true }

/-- A submit call starts, unless it has nothing to do. -/
def startCall (s : WorkStealingScheduler T) (c : SubmitCall T) : WorkStealingScheduler T :=
  if c.done then s else { s with submits := s.submits ++ [c] }

/-- Submit call `i` goes on as `c`, and ends when nothing is left. -/
def setCall (s : WorkStealingScheduler T) (i : Nat) (c : SubmitCall T) :
    WorkStealingScheduler T :=
  if c.done then { s with submits := s.submits.eraseIdx i }
  else { s with submits := s.submits.set i c }

/-- Submit call `i` pushes its next task onto the global queue. -/
def pushNext (s : WorkStealingScheduler T) (i : Nat) (task : T) (c : SubmitCall T) :
    WorkStealingScheduler T :=
  { s with globalQueue := s.globalQueue ++ [task], pushed := s.pushed ++ [task] }.setCall i c

/-- One step; `none` when it is not enabled. A call of `get_task` takes a worker id below
`num_workers` (the `pcs` entry must exist), and one call per worker is in progress. -/
def step (s : WorkStealingScheduler T) : SchedOp T → Option (WorkStealingScheduler T)
  | .submit task => some (s.startCall ⟨[task], 1⟩)
  | .submitBatch tasks => some (s.startCall ⟨tasks, min tasks.length s.numWorkers⟩)
  | .push i =>
    match s.submits[i]? with
    | some ⟨task :: rest, k⟩ => some (s.pushNext i task ⟨rest, k⟩)
    | _ => none
  | .notifyOne i =>
    match s.submits[i]? with
    | some ⟨[], k + 1⟩ => some (s.notify.setCall i ⟨[], k⟩)
    | _ => none
  | .getTask w => if s.pcs[w]? = some .idle then some (s.setPc w .popLocal) else none
  | .popLocal w =>
    if s.pcs[w]? = some .popLocal then
      match s.workers[w]? with
      | some (task :: rest) => some ({ s with workers := s.workers.set w rest }.giveTask w task)
      | _ => some (s.setPc w .stealGlobal)
    else none
  | .stealGlobal w retry =>
    if s.pcs[w]? = some .stealGlobal then
      if retry then some (s.setPc w .popLocal)
      else
        match s.globalQueue with
        | task :: rest => some ({ s with globalQueue := rest }.giveTask w task)
        | [] => some (s.setPc w (afterPeers (peers s.numWorkers w)))
    else none
  | .stealOther w o retry =>
    match s.pcs[w]? with
    | some (.stealOthers indices) =>
      if o ∈ indices then
        match s.workers[o]?, retry with
        | some (task :: rest), false =>
          some ({ s with workers := s.workers.set o rest }.giveTask w task)
        | _, _ => some (s.setPc w (afterPeers (indices.erase o)))
      else none
    | _ => none
  | .pollNotified w =>
    if s.pcs[w]? = some .notified then
      if s.permit then some { s.setPc w .popLocal with permit := false }
      else some { s.setPc w .parked with waiters := s.waiters ++ [w] }
    else none
  | .resume w => if s.pcs[w]? = some .woken then some (s.setPc w .popLocal) else none

/-- `WorkStealingScheduler::stats`. -/
def stats (s : WorkStealingScheduler T) : SchedulerStats :=
  ⟨s.globalQueue.length, s.workers.map List.length,
    s.globalQueue.length + (s.workers.map List.length).foldr (· + ·) 0, s.numWorkers⟩

/-- No call is between two of its await points. -/
def atRest (s : WorkStealingScheduler T) : Bool :=
  s.submits.isEmpty && s.pcs.all (!·.isMid)

/-- The schedules of one thread: a call starts, or goes on after `notified()`, only when no
other call is between two of its await points; it then runs until it returns or parks. -/
def singleThread (s : WorkStealingScheduler T) : SchedOp T → Bool
  | .submit _ | .submitBatch _ | .getTask _ | .resume _ => s.atRest
  | _ => true

/-- Every interleaving. -/
def anyStep : WorkStealingScheduler T → SchedOp T → Bool := fun _ _ => true

/-! ## Small lemmas -/

@[simp] theorem setPc_globalQueue (s : WorkStealingScheduler T) (w : Nat) (pc : GetTaskPc) :
    (s.setPc w pc).globalQueue = s.globalQueue := rfl

@[simp] theorem setPc_workers (s : WorkStealingScheduler T) (w : Nat) (pc : GetTaskPc) :
    (s.setPc w pc).workers = s.workers := rfl

@[simp] theorem setPc_pushed (s : WorkStealingScheduler T) (w : Nat) (pc : GetTaskPc) :
    (s.setPc w pc).pushed = s.pushed := rfl

@[simp] theorem setPc_returned (s : WorkStealingScheduler T) (w : Nat) (pc : GetTaskPc) :
    (s.setPc w pc).returned = s.returned := rfl

@[simp] theorem notify_globalQueue (s : WorkStealingScheduler T) :
    s.notify.globalQueue = s.globalQueue := by
  unfold notify; split <;> rfl

@[simp] theorem notify_workers (s : WorkStealingScheduler T) : s.notify.workers = s.workers := by
  unfold notify; split <;> rfl

@[simp] theorem notify_pushed (s : WorkStealingScheduler T) : s.notify.pushed = s.pushed := by
  unfold notify; split <;> rfl

@[simp] theorem notify_returned (s : WorkStealingScheduler T) :
    s.notify.returned = s.returned := by
  unfold notify; split <;> rfl

@[simp] theorem setCall_globalQueue (s : WorkStealingScheduler T) (i : Nat) (c : SubmitCall T) :
    (s.setCall i c).globalQueue = s.globalQueue := by
  unfold setCall; split <;> rfl

@[simp] theorem setCall_workers (s : WorkStealingScheduler T) (i : Nat) (c : SubmitCall T) :
    (s.setCall i c).workers = s.workers := by
  unfold setCall; split <;> rfl

@[simp] theorem setCall_pushed (s : WorkStealingScheduler T) (i : Nat) (c : SubmitCall T) :
    (s.setCall i c).pushed = s.pushed := by
  unfold setCall; split <;> rfl

@[simp] theorem setCall_returned (s : WorkStealingScheduler T) (i : Nat) (c : SubmitCall T) :
    (s.setCall i c).returned = s.returned := by
  unfold setCall; split <;> rfl

@[simp] theorem startCall_globalQueue (s : WorkStealingScheduler T) (c : SubmitCall T) :
    (s.startCall c).globalQueue = s.globalQueue := by
  unfold startCall; split <;> rfl

@[simp] theorem startCall_workers (s : WorkStealingScheduler T) (c : SubmitCall T) :
    (s.startCall c).workers = s.workers := by
  unfold startCall; split <;> rfl

@[simp] theorem startCall_pushed (s : WorkStealingScheduler T) (c : SubmitCall T) :
    (s.startCall c).pushed = s.pushed := by
  unfold startCall; split <;> rfl

@[simp] theorem startCall_returned (s : WorkStealingScheduler T) (c : SubmitCall T) :
    (s.startCall c).returned = s.returned := by
  unfold startCall; split <;> rfl

@[simp] theorem setCall_pcs (s : WorkStealingScheduler T) (i : Nat) (c : SubmitCall T) :
    (s.setCall i c).pcs = s.pcs := by
  unfold setCall; split <;> rfl

@[simp] theorem setCall_waiters (s : WorkStealingScheduler T) (i : Nat) (c : SubmitCall T) :
    (s.setCall i c).waiters = s.waiters := by
  unfold setCall; split <;> rfl

@[simp] theorem setCall_permit (s : WorkStealingScheduler T) (i : Nat) (c : SubmitCall T) :
    (s.setCall i c).permit = s.permit := by
  unfold setCall; split <;> rfl

@[simp] theorem setCall_numWorkers (s : WorkStealingScheduler T) (i : Nat) (c : SubmitCall T) :
    (s.setCall i c).numWorkers = s.numWorkers := by
  unfold setCall; split <;> rfl

@[simp] theorem startCall_pcs (s : WorkStealingScheduler T) (c : SubmitCall T) :
    (s.startCall c).pcs = s.pcs := by
  unfold startCall; split <;> rfl

@[simp] theorem startCall_waiters (s : WorkStealingScheduler T) (c : SubmitCall T) :
    (s.startCall c).waiters = s.waiters := by
  unfold startCall; split <;> rfl

@[simp] theorem startCall_permit (s : WorkStealingScheduler T) (c : SubmitCall T) :
    (s.startCall c).permit = s.permit := by
  unfold startCall; split <;> rfl

@[simp] theorem startCall_numWorkers (s : WorkStealingScheduler T) (c : SubmitCall T) :
    (s.startCall c).numWorkers = s.numWorkers := by
  unfold startCall; split <;> rfl

@[simp] theorem notify_submits (s : WorkStealingScheduler T) : s.notify.submits = s.submits := by
  unfold notify; split <;> rfl

@[simp] theorem notify_numWorkers (s : WorkStealingScheduler T) :
    s.notify.numWorkers = s.numWorkers := by
  unfold notify; split <;> rfl

end WorkStealingScheduler

end SentraLab.Runtime
