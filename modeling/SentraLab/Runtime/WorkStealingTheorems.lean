import Mathlib.Data.List.Nodup
import SentraLab.Runtime.WorkStealing

/-!
# The scheduler over every run

Two results about `WorkStealingScheduler`.

* Over every interleaving (`returned_append_global_eq_pushed`): no task ever enters a local
  deque, so every task `get_task` returns comes from the global queue, and the tasks
  returned, in the order the returns take effect, followed by the global queue, are the tasks
  pushed, in push order. `stats` counts exactly the tasks pushed and not returned.
* Over the schedules of one thread (`SingleInv`): a stored permit means no call is parked,
  and while a call is parked the global queue holds no more tasks than the calls woken and
  not yet resumed, so no task waits while every call sleeps. Under every interleaving a task
  can wait with a call parked and none woken (`parked_worker_without_wakeup`).
-/

namespace SentraLab.Runtime

namespace WorkStealingScheduler

variable {T : Type}

/-! ## The queues -/

/-- What a step does to the queues and the ghost sequences: nothing, a push onto the global
queue, a steal of its head, or a take from the head of a local deque. -/
theorem step_queues {s s' : WorkStealingScheduler T} {a : SchedOp T} (h : s.step a = some s') :
    (s'.workers = s.workers ∧ s'.globalQueue = s.globalQueue ∧ s'.pushed = s.pushed ∧
        s'.returned = s.returned) ∨
      (∃ task, s'.workers = s.workers ∧ s'.globalQueue = s.globalQueue ++ [task] ∧
        s'.pushed = s.pushed ++ [task] ∧ s'.returned = s.returned) ∨
      (∃ task, s'.workers = s.workers ∧ task :: s'.globalQueue = s.globalQueue ∧
        s'.pushed = s.pushed ∧ s'.returned = s.returned ++ [task]) ∨
      (∃ (o : Nat) (task : T) (rest : List T), s.workers[o]? = some (task :: rest)) := by
  cases a with
  | submit task | submitBatch tasks =>
    cases h
    exact .inl (by simp)
  | push i =>
    simp only [step] at h
    split at h <;> cases h
    rename_i task _ _ _
    exact .inr (.inl ⟨task, by simp [pushNext]⟩)
  | notifyOne i =>
    simp only [step] at h
    split at h <;> cases h
    exact .inl (by simp)
  | getTask w | resume w =>
    simp only [step, Option.ite_none_right_eq_some, Option.some.injEq] at h
    obtain ⟨-, rfl⟩ := h
    exact .inl ⟨rfl, rfl, rfl, rfl⟩
  | popLocal w =>
    simp only [step, Option.ite_none_right_eq_some] at h
    obtain ⟨-, h⟩ := h
    split at h
    · exact .inr (.inr (.inr ⟨w, _, _, ‹_›⟩))
    · cases h
      exact .inl ⟨rfl, rfl, rfl, rfl⟩
  | stealGlobal w retry =>
    simp only [step, Option.ite_none_right_eq_some] at h
    obtain ⟨-, h⟩ := h
    split at h
    · cases h
      exact .inl ⟨rfl, rfl, rfl, rfl⟩
    · split at h <;> cases h
      · rename_i task rest hg
        exact .inr (.inr (.inl ⟨task, rfl, hg.symm, rfl, rfl⟩))
      · exact .inl ⟨rfl, rfl, rfl, rfl⟩
  | stealOther w o retry =>
    simp only [step] at h
    split at h <;> try cases h
    split at h <;> try cases h
    split at h <;> cases h
    · exact .inr (.inr (.inr ⟨o, _, _, ‹_›⟩))
    · exact .inl ⟨rfl, rfl, rfl, rfl⟩
  | pollNotified w =>
    simp only [step, Option.ite_none_right_eq_some] at h
    obtain ⟨-, h⟩ := h
    split at h <;> cases h <;> exact .inl ⟨rfl, rfl, rfl, rfl⟩

/-- What every interleaving keeps: the local deques stay empty, and the tasks returned and
then those in the global queue are the tasks pushed. -/
structure QueueInv (s : WorkStealingScheduler T) : Prop where
  workers_empty : ∀ q ∈ s.workers, q = []
  accounted : s.returned ++ s.globalQueue = s.pushed

theorem queueInv_new (n : Nat) : QueueInv (new n : WorkStealingScheduler T) :=
  ⟨by simp [new, List.mem_replicate], rfl⟩

theorem QueueInv.step {s s' : WorkStealingScheduler T} {a : SchedOp T} (hi : QueueInv s)
    (h : s.step a = some s') : QueueInv s' := by
  rcases step_queues h with
    ⟨hw, hg, hp, hr⟩ | ⟨t, hw, hg, hp, hr⟩ | ⟨t, hw, hg, hp, hr⟩ | ⟨o, t, rest, ho⟩
  · exact ⟨hw ▸ hi.workers_empty, by rw [hg, hp, hr, hi.accounted]⟩
  · exact ⟨hw ▸ hi.workers_empty, by rw [hg, hp, hr, ← hi.accounted, List.append_assoc]⟩
  · refine ⟨hw ▸ hi.workers_empty, ?_⟩
    rw [hp, hr, ← hi.accounted, ← hg, List.append_assoc, List.singleton_append]
  · cases hi.workers_empty _ (List.getElem?_mem ho)

/-- Over every interleaving of submits and `get_task` calls, no task enters a local deque,
the tasks returned, in the order the returns take effect, are the first of the tasks pushed,
in push order, and the rest are in the global queue; `stats().total_tasks` is the number of
tasks pushed minus the number returned. -/
theorem returned_append_global_eq_pushed (n : Nat)
    {allowed : WorkStealingScheduler T → SchedOp T → Bool} {s : WorkStealingScheduler T}
    (hs : Reach step allowed (new n) s) :
    s.returned ++ s.globalQueue = s.pushed ∧ (∀ q ∈ s.workers, q = []) ∧
      s.stats.totalTasks + s.returned.length = s.pushed.length := by
  have hi : QueueInv s := hs.induct _ (queueInv_new n) fun hi _ h => hi.step h
  refine ⟨hi.accounted, hi.workers_empty, ?_⟩
  have hw : (s.workers.map List.length).foldr (· + ·) 0 = 0 := by
    have := List.length_flatten s.workers
    rw [List.flatten_eq_nil_iff.mpr hi.workers_empty] at this
    exact this.symm
  rw [← hi.accounted, List.length_append, stats, hw, Nat.add_zero, Nat.add_comm]

/-- Two tasks submitted in a batch to two workers, and one `get_task` call that returns the
first. -/
theorem returned_append_global_eq_pushed_batch :
    ∃ s, Reach step anyStep (new 2) s ∧ s.returned = [5] ∧
      (s.returned ++ s.globalQueue = s.pushed ∧ (∀ q ∈ s.workers, q = []) ∧
        s.stats.totalTasks + s.returned.length = s.pushed.length) := by
  obtain ⟨s, hs, h⟩ := reach_of_runSteps step anyStep (new 2)
    [.submitBatch [5, 6], .push 0, .push 0, .notifyOne 0, .notifyOne 0, .getTask 1,
      .popLocal 1, .stealGlobal 1 false]
    (fun s => s.returned == [5]) (by decide)
  exact ⟨s, hs, by simpa using h, returned_append_global_eq_pushed 2 hs⟩

end WorkStealingScheduler

/-! ## One thread -/

/-- Will try the global queue before it can park: woken, or in the loop before the steal. -/
def GetTaskPc.willSteal : GetTaskPc → Bool
  | .woken | .popLocal | .stealGlobal => true
  | _ => false

theorem GetTaskPc.isMid_of_pastGlobal {p : GetTaskPc} (h : p.pastGlobal = true) :
    p.isMid = true := by
  cases p <;> simp_all [pastGlobal, isMid]

theorem countP_set_of_getElem? {α : Type} {l : List α} {w : Nat} {p : α} (q : α → Bool)
    (p' : α) (h : l[w]? = some p) :
    (l.set w p').countP q + (if q p then 1 else 0) = l.countP q + (if q p' then 1 else 0) := by
  obtain ⟨hw, rfl⟩ := List.getElem?_eq_some_iff.mp h
  have : (if q l[w] then 1 else 0) ≤ l.countP q := by
    split
    · exact List.countP_pos_iff.mpr ⟨_, List.getElem_mem hw, ‹_›⟩
    · exact Nat.zero_le _
  rw [List.countP_set _ _ _ _ hw]
  omega

/-- After place `w` of a list is set to `b`, a place holds `b` at `w`, or what it held. -/
theorem getElem?_set_of_getElem? {α : Type} {l : List α} {w w' : Nat} {a b c : α}
    (hw : l[w]? = some a) (h : (l.set w b)[w']? = some c) :
    w = w' ∧ c = b ∨ l[w']? = some c := by
  by_cases hww : w = w'
  · subst hww
    rw [List.getElem?_set_self (List.getElem?_eq_some_iff.mp hw).1] at h
    exact .inl ⟨rfl, (Option.some.inj h).symm⟩
  · exact .inr (by rwa [List.getElem?_set_ne hww] at h)

/-- Two places that both satisfy `q` in a list where at most one does are the same. -/
theorem eq_of_countP_le_one {α : Type} {q : α → Bool} :
    ∀ {l : List α} {w w' : Nat} {a b : α}, l.countP q ≤ 1 → l[w]? = some a →
      l[w']? = some b → q a = true → q b = true → w = w'
  | _ :: _, 0, 0, _, _, _, _, _, _, _ => rfl
  | x :: xs, 0, j + 1, _, b, h, ha, hb, hqa, hqb => by
    simp only [List.getElem?_cons_zero, Option.some.injEq, List.getElem?_cons_succ] at ha hb
    subst ha
    have := List.countP_pos_iff.mpr ⟨b, List.getElem?_mem hb, hqb⟩
    simp only [List.countP_cons, hqa, ↓reduceIte] at h
    omega
  | x :: xs, i + 1, 0, a, _, h, ha, hb, hqa, hqb => by
    simp only [List.getElem?_cons_zero, Option.some.injEq, List.getElem?_cons_succ] at ha hb
    subst hb
    have := List.countP_pos_iff.mpr ⟨a, List.getElem?_mem ha, hqa⟩
    simp only [List.countP_cons, hqb, ↓reduceIte] at h
    omega
  | x :: xs, i + 1, j + 1, _, _, h, ha, hb, hqa, hqb => by
    simp only [List.getElem?_cons_succ] at ha hb
    have h' : xs.countP q ≤ 1 := by rw [List.countP_cons] at h; omega
    rw [eq_of_countP_le_one h' ha hb hqa hqb]

namespace WorkStealingScheduler

variable {T : Type}

/-- The tasks the submit calls in progress have still to push. -/
def pendingPushes (s : WorkStealingScheduler T) : Nat :=
  (s.submits.map fun c => c.toPush.length).foldr (· + ·) 0

/-- The `notify_one` calls the submit calls in progress have still to make. -/
def pendingNotifies (s : WorkStealingScheduler T) : Nat :=
  (s.submits.map SubmitCall.notifies).foldr (· + ·) 0

theorem atRest_iff {s : WorkStealingScheduler T} :
    s.atRest = true ↔ s.submits = [] ∧ s.pcs.countP GetTaskPc.isMid = 0 := by
  simp [atRest, List.countP_eq_zero]

/-- What the schedules of one thread keep: at most one call is between two await points,
the waiter list holds the parked calls, a stored permit means none is parked, a call past
the global queue's `Steal::Empty` saw the last of it, and while a call is parked, the tasks
waiting or still to be pushed are matched by calls that will steal before they can park and
by the `notify_one` calls still to come, or these calls will wake every parked call. -/
structure SingleInv (s : WorkStealingScheduler T) : Prop where
  pcs_length : s.pcs.length = s.numWorkers
  one_running : s.submits.length + s.pcs.countP GetTaskPc.isMid ≤ 1
  waiters_nodup : s.waiters.Nodup
  mem_waiters : ∀ w, w ∈ s.waiters ↔ s.pcs[w]? = some .parked
  permit_no_waiters : s.permit = true → s.waiters = []
  past_global : ∀ (w : Nat) (p : GetTaskPc), s.pcs[w]? = some p → p.pastGlobal = true →
    s.globalQueue = []
  wakeups : s.waiters ≠ [] →
    s.globalQueue.length + s.pendingPushes ≤
        s.pcs.countP GetTaskPc.willSteal + s.pendingNotifies ∨
      s.waiters.length ≤ s.pendingNotifies

theorem singleInv_new (n : Nat) : SingleInv (new n : WorkStealingScheduler T) where
  pcs_length := List.length_replicate _ _
  one_running := by
    simp [new, List.countP_replicate, GetTaskPc.isMid]
  waiters_nodup := List.nodup_nil
  mem_waiters w := by simp [new, List.getElem?_replicate]
  permit_no_waiters h := by cases h
  past_global _ _ _ _ := rfl
  wakeups h := absurd rfl h

/-- The parked calls are at most the workers. -/
theorem SingleInv.waiters_length_le {s : WorkStealingScheduler T} (hi : SingleInv s) :
    s.waiters.length ≤ s.numWorkers := by
  have hsub : s.waiters ⊆ List.range s.numWorkers := fun w hw => by
    obtain ⟨hlt, -⟩ := List.getElem?_eq_some_iff.mp ((hi.mem_waiters w).mp hw)
    exact List.mem_range.mpr (hi.pcs_length ▸ hlt)
  simpa using (List.subperm_of_subset hi.waiters_nodup hsub).length_le

/-- A call between two await points is the only one. -/
theorem SingleInv.of_mid {s : WorkStealingScheduler T} {w : Nat} {p : GetTaskPc}
    (hi : SingleInv s) (hw : s.pcs[w]? = some p) (hp : p.isMid = true) :
    s.submits = [] ∧ ∀ w' p', s.pcs[w']? = some p' → p'.isMid = true → w' = w := by
  have hpos := List.countP_pos_iff.mpr ⟨p, List.getElem?_mem hw, hp⟩
  have := hi.one_running
  exact ⟨List.eq_nil_of_length_eq_zero (by omega),
    fun w' p' hw' hp' => eq_of_countP_le_one (by omega) hw' hw hp' hp⟩

/-- A submit call in progress is the only call between two await points. -/
theorem SingleInv.of_call {s : WorkStealingScheduler T} {i : Nat} {c : SubmitCall T}
    (hi : SingleInv s) (hc : s.submits[i]? = some c) :
    s.submits = [c] ∧ i = 0 ∧ s.pcs.countP GetTaskPc.isMid = 0 := by
  have hlen := List.length_pos_of_mem (List.getElem?_mem hc)
  have := hi.one_running
  obtain ⟨x, hx⟩ := List.length_eq_one.mp (show s.submits.length = 1 by omega)
  rw [hx] at hc this
  cases i with
  | zero =>
    cases hc
    exact ⟨hx, rfl, by simp only [List.length_singleton] at this; omega⟩
  | succ i => simp at hc

/-- A `get_task` call moves from `p` to `p'`, neither parked, while the global queue may
lose tasks and the permit may be taken: the invariant holds after the move when it starts no
second call between awaits, a call past the global queue saw it empty, and the tasks
waiting stay matched. -/
theorem SingleInv.move {s s' : WorkStealingScheduler T} {w : Nat} {p p' : GetTaskPc}
    (hi : SingleInv s) (hw : s.pcs[w]? = some p) (hp : p ≠ .parked) (hp' : p' ≠ .parked)
    (hpcs : s'.pcs = s.pcs.set w p') (hwaiters : s'.waiters = s.waiters)
    (hsubmits : s'.submits = s.submits) (hn : s'.numWorkers = s.numWorkers)
    (hpermit : s'.permit = true → s.permit = true)
    (hg : s'.globalQueue.length ≤ s.globalQueue.length)
    (hone : (if p'.isMid then 1 else 0) ≤ (if p.isMid then 1 else 0) ∨ s.atRest = true)
    (hpast : p'.pastGlobal = true → s'.globalQueue = [])
    (hwake : s.waiters ≠ [] →
      s'.globalQueue.length + s.pendingPushes + (if p.willSteal then 1 else 0) ≤
          s.pcs.countP GetTaskPc.willSteal + (if p'.willSteal then 1 else 0) +
            s.pendingNotifies ∨
        s.waiters.length ≤ s.pendingNotifies) :
    SingleInv s' where
  pcs_length := by rw [hpcs, List.length_set, hi.pcs_length, hn]
  one_running := by
    have hc := countP_set_of_getElem? GetTaskPc.isMid p' hw
    have := hi.one_running
    rw [hpcs, hsubmits]
    rcases hone with hone | hone
    · split_ifs at hc hone <;> omega
    · obtain ⟨h₁, h₂⟩ := atRest_iff.mp hone
      rw [h₁, List.length_nil]
      split_ifs at hc <;> omega
  waiters_nodup := hwaiters ▸ hi.waiters_nodup
  mem_waiters w' := by
    rw [hwaiters, hpcs, hi.mem_waiters]
    by_cases hww : w = w'
    · subst hww
      have hlt := (List.getElem?_eq_some_iff.mp hw).1
      rw [hw, List.getElem?_set_self hlt]
      simp [hp, hp']
    · rw [List.getElem?_set_ne hww]
  permit_no_waiters h := hwaiters ▸ hi.permit_no_waiters (hpermit h)
  past_global w' q hq hpg := by
    rcases getElem?_set_of_getElem? hw (hpcs ▸ hq) with ⟨-, rfl⟩ | hq
    · exact hpast hpg
    · exact List.eq_nil_of_length_eq_zero (by simpa [hi.past_global w' q hq hpg] using hg)
  wakeups hne := by
    rw [hwaiters] at hne ⊢
    have hc := countP_set_of_getElem? GetTaskPc.willSteal p' hw
    simp only [pendingPushes, pendingNotifies, hpcs, hsubmits] at hwake ⊢
    rcases hwake hne with h | h
    · left
      split_ifs at h hc <;> omega
    · exact .inr h

/-- A call that does not start between awaits and whose move is not towards the global
queue's steal keeps the tasks waiting matched. -/
theorem SingleInv.wake_of_le {s : WorkStealingScheduler T} {p p' : GetTaskPc} {g : Nat}
    (hi : SingleInv s) (hg : g ≤ s.globalQueue.length)
    (hle : (if p.willSteal then 1 else 0) ≤ (if p'.willSteal then 1 else 0))
    (hne : s.waiters ≠ []) :
    g + s.pendingPushes + (if p.willSteal then 1 else 0) ≤
        s.pcs.countP GetTaskPc.willSteal + (if p'.willSteal then 1 else 0) + s.pendingNotifies ∨
      s.waiters.length ≤ s.pendingNotifies :=
  (hi.wakeups hne).imp_left fun h => by omega

/-- A `get_task` call that only moves, from `p` to `p'`, keeps the invariant when it starts no
second call between awaits, does not move past the global queue while tasks wait there, and
does not stop being one that will steal. -/
theorem SingleInv.move_setPc {s : WorkStealingScheduler T} {w : Nat} {p p' : GetTaskPc}
    (hi : SingleInv s) (hw : s.pcs[w]? = some p) (hp : p ≠ .parked) (hp' : p' ≠ .parked)
    (hone : (if p'.isMid then 1 else 0) ≤ (if p.isMid then 1 else 0) ∨ s.atRest = true)
    (hpast : p'.pastGlobal = true → s.globalQueue = [])
    (hle : (if p.willSteal then 1 else 0) ≤ (if p'.willSteal then 1 else 0)) :
    SingleInv (s.setPc w p') :=
  hi.move hw hp hp' rfl rfl rfl rfl id le_rfl hone hpast (hi.wake_of_le le_rfl hle)

/-- Setting the only submit call in progress to `c` leaves at most that call, and the pushes
and `notify_one` calls still to come are then those of `c`. -/
theorem setCall_single (s : WorkStealingScheduler T) (c : SubmitCall T) {c₀ : SubmitCall T}
    (h : s.submits = [c₀]) :
    (s.setCall 0 c).submits.length ≤ 1 ∧ (s.setCall 0 c).pendingPushes = c.toPush.length ∧
      (s.setCall 0 c).pendingNotifies = c.notifies := by
  unfold setCall
  split
  · rename_i hd
    simp only [SubmitCall.done, Bool.and_eq_true, List.isEmpty_iff, beq_iff_eq] at hd
    simp [h, pendingPushes, pendingNotifies, hd]
  · simp [h, pendingPushes, pendingNotifies]

/-- A submit call starts when no call is between awaits. -/
theorem SingleInv.startCall {s : WorkStealingScheduler T} {c : SubmitCall T} (hi : SingleInv s)
    (hr : s.atRest = true)
    (hc : s.waiters ≠ [] →
      s.globalQueue.length + c.toPush.length ≤ s.pcs.countP GetTaskPc.willSteal + c.notifies ∨
        s.waiters.length ≤ c.notifies) :
    SingleInv (s.startCall c) := by
  obtain ⟨h₁, h₂⟩ := atRest_iff.mp hr
  unfold WorkStealingScheduler.startCall
  split
  · exact hi
  · exact ⟨hi.pcs_length, by simp [h₁, h₂], hi.waiters_nodup, hi.mem_waiters,
      hi.permit_no_waiters, hi.past_global,
      by simpa [pendingPushes, pendingNotifies, h₁] using hc⟩

/-- The submit call in progress pushes its next task. -/
theorem SingleInv.pushNext {s : WorkStealingScheduler T} {i : Nat} {task : T}
    {rest : List T} {k : Nat} (hi : SingleInv s) (hc : s.submits[i]? = some ⟨task :: rest, k⟩) :
    SingleInv (s.pushNext i task ⟨rest, k⟩) := by
  obtain ⟨h₁, rfl, h₂⟩ := hi.of_call hc
  obtain ⟨hl, hp, hn⟩ := setCall_single { s with
    globalQueue := s.globalQueue ++ [task], pushed := s.pushed ++ [task] } ⟨rest, k⟩ h₁
  simp only [WorkStealingScheduler.pushNext] at hl hp hn ⊢
  refine ⟨by simpa using hi.pcs_length, by simp only [setCall_pcs, h₂]; omega,
    by simpa using hi.waiters_nodup, by simpa using hi.mem_waiters,
    by simpa using hi.permit_no_waiters, fun w p hw hp => ?_, fun hne => ?_⟩
  · have := List.countP_eq_zero.mp h₂ p (List.getElem?_mem (by simpa using hw))
    simp [GetTaskPc.isMid_of_pastGlobal hp] at this
  · have := hi.wakeups (by simpa using hne)
    simp only [pendingPushes, pendingNotifies, h₁] at this
    rw [hp, hn]
    simpa [List.length_append, Nat.add_assoc, Nat.add_comm 1] using this

/-- The submit call in progress makes its next `notify_one`. -/
theorem SingleInv.notifyCall {s : WorkStealingScheduler T} {i k : Nat} (hi : SingleInv s)
    (hc : s.submits[i]? = some ⟨[], k + 1⟩) : SingleInv (s.notify.setCall i ⟨[], k⟩) := by
  obtain ⟨h₁, rfl, h₂⟩ := hi.of_call hc
  obtain ⟨hl, hp, hn⟩ := setCall_single s.notify ⟨[], k⟩ (by simpa using h₁)
  have hwake := hi.wakeups
  simp only [pendingPushes, pendingNotifies, h₁, List.map_cons, List.map_nil, List.foldr_cons,
    List.foldr_nil, List.length_nil, Nat.add_zero] at hwake
  unfold WorkStealingScheduler.notify at hl hp hn ⊢
  cases hws : s.waiters with
  | nil =>
    simp only [hws] at hl hp hn ⊢
    refine ⟨by simpa using hi.pcs_length, by simp only [setCall_pcs, h₂]; omega, by simp,
      fun w => by simpa [hws] using hi.mem_waiters w, fun _ => by simp,
      fun w p hw hp => by simpa using hi.past_global w p (by simpa using hw) hp,
      fun hne => by simp at hne⟩
  | cons w ws =>
    simp only [hws] at hl hp hn ⊢
    have hpark : s.pcs[w]? = some .parked := (hi.mem_waiters w).mp (by simp [hws])
    have hlt := (List.getElem?_eq_some_iff.mp hpark).1
    have hnd : (w :: ws).Nodup := hws ▸ hi.waiters_nodup
    have hmid := countP_set_of_getElem? GetTaskPc.isMid .woken hpark
    have hsteal := countP_set_of_getElem? GetTaskPc.willSteal .woken hpark
    simp only [GetTaskPc.isMid, GetTaskPc.willSteal, Bool.false_eq_true, ↓reduceIte,
      Nat.add_zero] at hmid hsteal
    refine ⟨by simpa using hi.pcs_length, by simp only [setCall_pcs]; omega,
      by simpa using (List.nodup_cons.mp hnd).2, fun w' => ?_, fun hpm => ?_,
      fun w' p hw' hp' => ?_, fun hne => ?_⟩
    · simp only [setCall_waiters, setCall_pcs]
      by_cases hww : w = w'
      · subst hww
        simp [List.getElem?_set_self hlt, (List.nodup_cons.mp hnd).1]
      · rw [List.getElem?_set_ne hww, ← hi.mem_waiters, hws]
        simp [Ne.symm hww]
    · have := hi.permit_no_waiters (by simpa using hpm)
      simp [hws] at this
    · simp only [setCall_pcs] at hw'
      rcases getElem?_set_of_getElem? hpark hw' with ⟨-, rfl⟩ | hw'
      · cases hp'
      · simpa using hi.past_global w' p hw' hp'
    · rw [hp, hn, List.length_nil]
      simp only [setCall_pcs, setCall_waiters, setCall_globalQueue, hws, ne_eq, reduceCtorEq,
        not_false_eq_true, true_implies, List.length_cons] at hwake ⊢
      omega

/-- A `get_task` call finds no permit and parks. -/
theorem SingleInv.park {s : WorkStealingScheduler T} {w : Nat} (hi : SingleInv s)
    (hw : s.pcs[w]? = some .notified) (hnp : s.permit = false) :
    SingleInv { s.setPc w .parked with waiters := s.waiters ++ [w] } := by
  have hlt := (List.getElem?_eq_some_iff.mp hw).1
  have hg := hi.past_global w .notified hw rfl
  have hsub := (hi.of_mid hw rfl).1
  have hmid := countP_set_of_getElem? GetTaskPc.isMid .parked hw
  simp only [GetTaskPc.isMid, ↓reduceIte, Bool.false_eq_true] at hmid
  have hnot : w ∉ s.waiters := fun h => by simp [(hi.mem_waiters w).mp h] at hw
  refine ⟨by simpa [setPc] using hi.pcs_length, ?_, ?_, fun w' => ?_,
    fun h => by simp [setPc, hnp] at h, fun w' p hw' hp' => ?_,
    fun _ => .inl (by simp [setPc, hg, pendingPushes, hsub])⟩
  · have := hi.one_running
    simp only [setPc, hsub, List.length_nil] at this ⊢
    omega
  · exact List.nodup_append.mpr ⟨hi.waiters_nodup, List.nodup_singleton w,
      List.disjoint_singleton.mpr hnot⟩
  · simp only [setPc, List.mem_append, List.mem_singleton]
    by_cases hww : w = w'
    · subst hww
      simp [List.getElem?_set_self hlt]
    · rw [List.getElem?_set_ne hww, ← hi.mem_waiters]
      simp [Ne.symm hww]
  · rcases getElem?_set_of_getElem? hw hw' with ⟨-, rfl⟩ | hw'
    · cases hp'
    · exact hi.past_global w' p hw' hp'

theorem afterPeers_ne_parked (indices : List Nat) : afterPeers indices ≠ .parked := by
  unfold afterPeers; split <;> simp

@[simp] theorem afterPeers_isMid (indices : List Nat) : (afterPeers indices).isMid = true := by
  unfold afterPeers; split <;> rfl

@[simp] theorem afterPeers_pastGlobal (indices : List Nat) :
    (afterPeers indices).pastGlobal = true := by
  unfold afterPeers; split <;> rfl

@[simp] theorem afterPeers_willSteal (indices : List Nat) :
    (afterPeers indices).willSteal = false := by
  unfold afterPeers; split <;> rfl

/-- With no call between awaits and a call parked, every task waiting is matched by a call
that will steal before it can park. -/
theorem SingleInv.global_le_of_atRest {s : WorkStealingScheduler T} (hi : SingleInv s)
    (hr : s.atRest = true) (hne : s.waiters ≠ []) :
    s.globalQueue.length ≤ s.pcs.countP GetTaskPc.willSteal := by
  have hpos := List.length_pos.mpr hne
  have := hi.wakeups hne
  simp only [pendingPushes, pendingNotifies, (atRest_iff.mp hr).1, List.map_nil, List.foldr_nil,
    Nat.add_zero, Nat.le_zero] at this
  omega

/-- Every step of a one-thread schedule keeps the invariant. -/
theorem SingleInv.step {s s' : WorkStealingScheduler T} {a : SchedOp T} (hi : SingleInv s)
    (hq : QueueInv s) (ha : singleThread s a = true) (h : s.step a = some s') :
    SingleInv s' := by
  have hlocal (o : Nat) (task : T) (rest : List T) : s.workers[o]? ≠ some (task :: rest) :=
    fun ho => by cases hq.workers_empty _ (List.getElem?_mem ho)
  cases a with
  | submit task =>
    cases h
    exact hi.startCall ha fun hne => .inl (by simpa using hi.global_le_of_atRest ha hne)
  | submitBatch tasks =>
    cases h
    refine hi.startCall ha fun hne => ?_
    by_cases hk : tasks.length ≤ s.numWorkers
    · exact .inl (by simpa [Nat.min_eq_left hk] using hi.global_le_of_atRest ha hne)
    · exact .inr (by simpa [Nat.min_eq_right (Nat.le_of_not_le hk)] using hi.waiters_length_le)
  | push i =>
    simp only [WorkStealingScheduler.step] at h
    split at h <;> cases h
    exact hi.pushNext ‹_›
  | notifyOne i =>
    simp only [WorkStealingScheduler.step] at h
    split at h <;> cases h
    exact hi.notifyCall ‹_›
  | getTask w | resume w =>
    simp only [WorkStealingScheduler.step, Option.ite_none_right_eq_some, Option.some.injEq] at h
    obtain ⟨hw, rfl⟩ := h
    exact hi.move_setPc hw (by decide) (by decide) (.inr ha) (by simp [GetTaskPc.pastGlobal])
      (by decide)
  | popLocal w =>
    simp only [WorkStealingScheduler.step, Option.ite_none_right_eq_some] at h
    obtain ⟨hw, h⟩ := h
    split at h
    · exact absurd ‹_› (hlocal _ _ _)
    · cases h
      exact hi.move_setPc hw (by decide) (by decide) (.inl (by decide))
        (by simp [GetTaskPc.pastGlobal]) (by decide)
  | stealGlobal w retry =>
    simp only [WorkStealingScheduler.step, Option.ite_none_right_eq_some] at h
    obtain ⟨hw, h⟩ := h
    split at h
    · cases h
      exact hi.move_setPc hw (by decide) (by decide) (.inl (by decide))
        (by simp [GetTaskPc.pastGlobal]) (by decide)
    · split at h <;> cases h
      · rename_i task rest hg
        refine hi.move hw (by decide) (by decide) rfl rfl rfl rfl id (by simp [giveTask, hg])
          (.inl (by decide)) (by simp [GetTaskPc.pastGlobal]) fun hne => ?_
        refine (hi.wakeups hne).imp_left fun h => ?_
        simp only [giveTask, hg, List.length_cons, GetTaskPc.willSteal, ↓reduceIte,
          Bool.false_eq_true] at h ⊢
        omega
      · rename_i hg
        have hsub := (hi.of_mid hw rfl).1
        have hpos : 0 < s.pcs.countP GetTaskPc.willSteal :=
          List.countP_pos_iff.mpr ⟨_, List.getElem?_mem hw, rfl⟩
        refine hi.move hw (by decide) (afterPeers_ne_parked _) rfl rfl rfl rfl id le_rfl
          (.inl (by rw [afterPeers_isMid]; decide)) (fun _ => hg) fun _ => .inl ?_
        simp only [setPc_globalQueue, hg, pendingPushes, hsub, afterPeers_willSteal,
          GetTaskPc.willSteal, List.map_nil, List.foldr_nil, List.length_nil, ↓reduceIte,
          Bool.false_eq_true]
        omega
  | stealOther w o retry =>
    simp only [WorkStealingScheduler.step] at h
    split at h <;> try cases h
    rename_i indices hw
    split at h <;> try cases h
    split at h <;> cases h
    · exact absurd ‹_› (hlocal _ _ _)
    · exact hi.move_setPc hw (by simp) (afterPeers_ne_parked _)
        (.inl (by rw [afterPeers_isMid]; rfl)) (fun _ => hi.past_global w _ hw rfl)
        (by simp [GetTaskPc.willSteal])
  | pollNotified w =>
    simp only [WorkStealingScheduler.step, Option.ite_none_right_eq_some] at h
    obtain ⟨hw, h⟩ := h
    split at h <;> cases h
    · exact hi.move hw (by decide) (by decide) rfl rfl rfl rfl (fun h => by cases h) le_rfl
        (.inl (by decide)) (by simp [GetTaskPc.pastGlobal]) (hi.wake_of_le le_rfl (by decide))
    · exact hi.park hw (Bool.eq_false_iff.mpr ‹_›)

theorem singleInv_of_reach (n : Nat) {s : WorkStealingScheduler T}
    (hs : Reach step singleThread (new n) s) : SingleInv s ∧ QueueInv s :=
  hs.induct (fun s => SingleInv s ∧ QueueInv s) ⟨singleInv_new n, queueInv_new n⟩
    fun hi ha h => ⟨hi.1.step hi.2 ha h, hi.2.step h⟩

/-- With no call between awaits, the calls that will steal first are the woken ones. -/
theorem countP_willSteal_of_atRest {s : WorkStealingScheduler T} (hr : s.atRest = true) :
    s.pcs.countP GetTaskPc.willSteal = s.pcs.count .woken := by
  refine List.countP_congr fun p hp => ?_
  have := List.countP_eq_zero.mp (atRest_iff.mp hr).2 p hp
  cases p <;> simp_all [GetTaskPc.willSteal, GetTaskPc.isMid]

/-- On the schedules of one thread, whenever no call is between two await points, a stored
permit means no `get_task` call is parked, and while one is parked the global queue holds no
more tasks than there are calls woken by `notify_one` and not yet resumed: no task waits
while calls are parked and none has a wake-up pending. -/
theorem single_thread_wakeups_cover_global (n : Nat) {s : WorkStealingScheduler T}
    (hs : Reach step singleThread (new n) s) (hr : s.atRest = true) :
    (s.permit = true → ∀ w : Nat, s.pcs[w]? ≠ some .parked) ∧
      ((∃ w : Nat, s.pcs[w]? = some .parked) → s.globalQueue.length ≤ s.pcs.count .woken) := by
  obtain ⟨hi, -⟩ := singleInv_of_reach n hs
  refine ⟨fun hp w hw => ?_, fun ⟨w, hw⟩ => ?_⟩
  · simpa [hi.permit_no_waiters hp] using (hi.mem_waiters w).mpr hw
  · rw [← countP_willSteal_of_atRest hr]
    exact hi.global_le_of_atRest hr (List.ne_nil_of_mem ((hi.mem_waiters w).mpr hw))

/-- Two workers parked on an empty queue and one task submitted: worker 0 is woken and the
task is matched. -/
theorem single_thread_wakeups_cover_global_two_parked :
    ∃ s, Reach step singleThread (new 2 : WorkStealingScheduler Nat) s ∧ s.atRest = true ∧
      s.pcs = [.woken, .parked] ∧
      ((s.permit = true → ∀ w : Nat, s.pcs[w]? ≠ some .parked) ∧
        ((∃ w : Nat, s.pcs[w]? = some .parked) → s.globalQueue.length ≤ s.pcs.count .woken)) := by
  obtain ⟨s, hs, h⟩ := reach_of_runSteps step singleThread (new 2)
    [.getTask 0, .popLocal 0, .stealGlobal 0 false, .stealOther 0 1 false, .pollNotified 0,
      .getTask 1, .popLocal 1, .stealGlobal 1 false, .stealOther 1 0 false, .pollNotified 1,
      .submit 5, .push 0, .notifyOne 0]
    (fun s => s.atRest && s.pcs == [.woken, .parked]) (by decide)
  simp only [Bool.and_eq_true, beq_iff_eq] at h
  exact ⟨s, hs, h.1, h.2, single_thread_wakeups_cover_global 2 hs h.1⟩

/-- On the schedules of one thread, two workers parked and one `submit`: the task waits while
worker 1 is parked with no wake-up of its own. Under every interleaving, two calls past their
empty check and two `submit`s: the second task waits while worker 1 is parked, no call is
woken and no permit is stored. -/
theorem parked_worker_without_wakeup :
    (∃ s, Reach step singleThread (new 2 : WorkStealingScheduler Nat) s ∧ s.atRest = true ∧
      s.globalQueue = [5] ∧ s.pcs = [.woken, .parked] ∧ s.permit = false) ∧
    (∃ s, Reach step anyStep (new 2 : WorkStealingScheduler Nat) s ∧ s.atRest = true ∧
      s.globalQueue = [6] ∧ s.pcs = [.idle, .parked] ∧ s.permit = false) := by
  constructor
  · obtain ⟨s, hs, h⟩ := reach_of_runSteps step singleThread (new 2)
      [.getTask 0, .popLocal 0, .stealGlobal 0 false, .stealOther 0 1 false, .pollNotified 0,
        .getTask 1, .popLocal 1, .stealGlobal 1 false, .stealOther 1 0 false, .pollNotified 1,
        .submit 5, .push 0, .notifyOne 0]
      (fun s => s.atRest && s.globalQueue == [5] && s.pcs == [.woken, .parked] && !s.permit)
      (by decide)
    simp only [Bool.and_eq_true, beq_iff_eq, Bool.not_eq_true'] at h
    exact ⟨s, hs, h.1.1.1, h.1.1.2, h.1.2, h.2⟩
  · obtain ⟨s, hs, h⟩ := reach_of_runSteps step anyStep (new 2)
      [.getTask 0, .popLocal 0, .stealGlobal 0 false, .stealOther 0 1 false,
        .getTask 1, .popLocal 1, .stealGlobal 1 false, .stealOther 1 0 false,
        .submit 5, .push 0, .notifyOne 0, .submit 6, .push 0, .notifyOne 0,
        .pollNotified 0, .popLocal 0, .stealGlobal 0 false, .pollNotified 1]
      (fun s => s.atRest && s.globalQueue == [6] && s.pcs == [.idle, .parked] && !s.permit)
      (by decide)
    simp only [Bool.and_eq_true, beq_iff_eq, Bool.not_eq_true'] at h
    exact ⟨s, hs, h.1.1.1, h.1.1.2, h.1.2, h.2⟩

end WorkStealingScheduler

end SentraLab.Runtime
