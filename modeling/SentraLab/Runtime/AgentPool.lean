import SentraLab.Runtime.ProcessManager

/-!
# The agent pool

Model of `runtime/agent_pool.rs`: a fixed set of pre-spawned agents in a `Vec` guarded by
a mutex, and a counting semaphore whose permits gate `acquire`.

`with_config` starts the semaphore at `pool_size` permits, while `initialize_pool` spawns
`pool_size / supported_types.len()` agents of each kind. The calls in flight are counted
at each of their await points: `acquire` waits for a permit (`waiting`), then holds it
while it waits for the mutex (`pending`) and pops an agent, forgetting the permit;
`release` resets the agent (`resetting`), waits for the mutex (`toPush`), pushes the
agent, and adds the permit back (`returning`). A failed reset retires the agent but
still adds the permit. `held`, `retired` and `exhausted` are ghost: the agents callers
hold, the agents retired, and how many `acquire` calls returned `PoolExhausted`. A release
is of an agent a caller acquired from this pool; releasing any other `PooledAgent`, which
`release` would accept, is outside the model.

`PoolInv` conserves permits and agents over every run (`poolInv_of_reach`). Its
consequence `permits_add_spawned` shows where the pool stands: free and pending permits
exceed the available agents by `pool_size` minus the number spawned. When the kinds
divide `pool_size` the contract holds (`pool_contract_of_dvd`); for the tests' own pool
of 4 over 3 kinds it does not (`pool_of_four_spawns_three`).
-/

namespace SentraLab.Runtime

/-- `AgentPoolConfig`. -/
structure AgentPoolConfig where
  poolSize : Nat
  maxConcurrent : Nat
  agentTimeoutSecs : Nat
  supportedTypes : List ProcessType
deriving DecidableEq, Repr

/-- `AgentPoolConfig::default`. -/
def AgentPoolConfig.default : AgentPoolConfig := ⟨64, 10000, 300, [.python, .nodeJs, .go]⟩

/-- `PooledAgent`; its `runtime` is the subject of `AgentRuntime`, and the pool sees it
only through whether `reset` succeeds. -/
structure PooledAgent where
  id : Nat
  processType : ProcessType
  executionCount : Nat
deriving DecidableEq, Repr

/-- `PoolStats`. -/
structure PoolStats where
  totalAgents : Nat
  availableAgents : Nat
  busyAgents : Nat
  maxConcurrent : Nat
deriving DecidableEq, Repr

/-- An `AgentPool` with the calls in flight at each await point and the ghost counts. -/
structure AgentPool where
  config : AgentPoolConfig
  available : List PooledAgent
  permits : Nat
  totalAgents : Nat
  waiting : Nat
  pending : Nat
  held : List PooledAgent
  resetting : List PooledAgent
  toPush : List PooledAgent
  returning : Nat
  retired : Nat
  exhausted : Nat

/-- The steps of the calls in flight. `acquireCancel` and `acquireDrop` are an `acquire`
future dropped while it waits for a permit, or for the mutex with a permit in hand. -/
inductive PoolOp where
  | acquireStart
  | acquirePermit
  | acquireCancel
  | acquireDrop
  | acquirePop
  | releaseStart (a : PooledAgent)
  | releaseReset (a : PooledAgent) (ok : Bool)
  | releasePush (a : PooledAgent)
  | releaseAddPermit
deriving DecidableEq, Repr

namespace AgentPool

/-- The agents `initialize_pool` spawns, `per_type` of each kind, numbered from
`total + 1` on in spawn order. -/
def spawnAgents (perType : Nat) : Nat → List ProcessType → List PooledAgent
  | _, [] => []
  | total, t :: ts =>
    (List.range perType).map (fun i => ⟨total + i + 1, t, 0⟩) ++
      spawnAgents perType (total + perType) ts

theorem length_spawnAgents (perType : Nat) :
    ∀ (total : Nat) (ts : List ProcessType),
      (spawnAgents perType total ts).length = perType * ts.length
  | _, [] => rfl
  | total, t :: ts => by
    rw [spawnAgents, List.length_append, List.length_map, List.length_range,
      length_spawnAgents perType (total + perType) ts, List.length_cons, Nat.mul_succ]
    omega

/-- `AgentPool::with_config` when every spawn succeeds. -/
def withConfig (config : AgentPoolConfig) : AgentPool :=
  let agents := spawnAgents (config.poolSize / config.supportedTypes.length) 0
    config.supportedTypes
  ⟨config, agents, config.poolSize, agents.length, 0, 0, [], [], [], 0, 0, 0⟩

/-- `available.pop()` under the mutex: the last agent, with the permit forgotten, or
`PoolExhausted` with the permit dropped. -/
def acquirePop (p : AgentPool) : AgentPool :=
  match p.available.getLast? with
  | some a => { p with available := p.available.dropLast, pending := p.pending - 1,
                       held := p.held ++ [a] }
  | none => { p with pending := p.pending - 1, permits := p.permits + 1,
                     exhausted := p.exhausted + 1 }

/-- `release` after `reset`: on success the agent waits for the mutex; on failure it is
retired and the permit is added back. -/
def resetDone (p : AgentPool) (a : PooledAgent) (ok : Bool) : AgentPool :=
  if ok then { p with resetting := p.resetting.erase a, toPush := p.toPush ++ [a] }
  else { p with resetting := p.resetting.erase a, permits := p.permits + 1,
                retired := p.retired + 1 }

/-- One step; `none` when it is not enabled. `release` is taken only for an agent a caller
holds from this pool: `AgentPool::release` accepts any `PooledAgent` (its fields are
public), and releasing one the pool did not hand out, which would let `available` outgrow
`pool_size`, is outside the model. -/
def step (p : AgentPool) : PoolOp → Option AgentPool
  | .acquireStart => some { p with waiting := p.waiting + 1 }
  | .acquirePermit =>
    if 0 < p.waiting ∧ 0 < p.permits then
      some { p with waiting := p.waiting - 1, permits := p.permits - 1,
                    pending := p.pending + 1 }
    else none
  | .acquireCancel => if 0 < p.waiting then some { p with waiting := p.waiting - 1 } else none
  | .acquireDrop =>
    if 0 < p.pending then some { p with pending := p.pending - 1, permits := p.permits + 1 }
    else none
  | .acquirePop => if 0 < p.pending then some p.acquirePop else none
  | .releaseStart a =>
    if a ∈ p.held then some { p with held := p.held.erase a, resetting := p.resetting ++ [a] }
    else none
  | .releaseReset a ok => if a ∈ p.resetting then some (p.resetDone a ok) else none
  | .releasePush a =>
    if a ∈ p.toPush then
      some { p with toPush := p.toPush.erase a, available := p.available ++ [a],
                    returning := p.returning + 1 }
    else none
  | .releaseAddPermit =>
    if 0 < p.returning then some { p with returning := p.returning - 1, permits := p.permits + 1 }
    else none

/-- `AgentPool::stats`. -/
def stats (p : AgentPool) : PoolStats :=
  ⟨p.config.poolSize, p.available.length, p.config.poolSize - p.available.length,
    p.config.maxConcurrent⟩

/-- Runs in which every `reset` succeeds. -/
def resetsSucceed : AgentPool → PoolOp → Bool
  | _, .releaseReset _ ok => ok
  | _, _ => true

/-- No call is in flight. -/
def Quiescent (p : AgentPool) : Prop :=
  p.waiting = 0 ∧ p.pending = 0 ∧ p.resetting = [] ∧ p.toPush = [] ∧ p.returning = 0

instance (p : AgentPool) : Decidable p.Quiescent :=
  inferInstanceAs (Decidable (_ ∧ _ ∧ _ ∧ _ ∧ _))

/-! ## Permits and agents are conserved -/

/-- The semaphore's permits wherever they are: free, held by an acquirer waiting for the
mutex, forgotten for an agent a caller holds or is releasing, or about to be added back. -/
def permitCount (p : AgentPool) : Nat :=
  p.permits + p.pending + p.held.length + p.resetting.length + p.toPush.length + p.returning

/-- The spawned agents wherever they are. -/
def agentCount (p : AgentPool) : Nat :=
  p.available.length + p.held.length + p.resetting.length + p.toPush.length + p.retired

theorem acquirePop_counts (p : AgentPool) (h : 0 < p.pending) :
    p.acquirePop.permitCount = p.permitCount ∧ p.acquirePop.agentCount = p.agentCount := by
  unfold acquirePop
  split
  · rename_i a ha
    have : 0 < p.available.length :=
      List.length_pos.mpr (List.getLast?_isSome.mp (by simp [ha]))
    simp only [permitCount, agentCount, List.length_dropLast, List.length_append,
      List.length_singleton]
    constructor <;> omega
  · simp only [permitCount, agentCount, and_true]
    omega

theorem resetDone_counts (p : AgentPool) (a : PooledAgent) (ok : Bool) (h : a ∈ p.resetting) :
    (p.resetDone a ok).permitCount = p.permitCount ∧
      (p.resetDone a ok).agentCount = p.agentCount := by
  have := List.length_pos_of_mem h
  cases ok <;> simp only [resetDone, permitCount, agentCount, List.length_erase_of_mem h,
    List.length_append, List.length_singleton, Bool.false_eq_true, ↓reduceIte] <;>
    constructor <;> omega

/-- Every step keeps the permits and the agents, and changes neither the configuration nor
the number of agents spawned. -/
theorem step_conserves {p p' : AgentPool} {a : PoolOp} (h : p.step a = some p') :
    p'.permitCount = p.permitCount ∧ p'.agentCount = p.agentCount ∧
      p'.config = p.config ∧ p'.totalAgents = p.totalAgents := by
  cases a <;> simp only [step, Option.ite_none_right_eq_some, Option.some.injEq] at h
  case acquirePop =>
    obtain ⟨hp, rfl⟩ := h
    refine ⟨(acquirePop_counts p hp).1, (acquirePop_counts p hp).2, ?_, ?_⟩ <;>
      unfold acquirePop <;> split <;> rfl
  case releaseReset a ok =>
    obtain ⟨hm, rfl⟩ := h
    refine ⟨(resetDone_counts p a ok hm).1, (resetDone_counts p a ok hm).2, ?_, ?_⟩ <;>
      cases ok <;> rfl
  case releaseStart a | releasePush a =>
    obtain ⟨hm, rfl⟩ := h
    have := List.length_pos_of_mem hm
    refine ⟨?_, ?_, rfl, rfl⟩ <;>
      simp only [permitCount, agentCount, List.length_erase_of_mem hm, List.length_append,
        List.length_singleton] <;> omega
  case acquireStart =>
    subst h
    exact ⟨rfl, rfl, rfl, rfl⟩
  all_goals
    obtain ⟨_, rfl⟩ := h
    refine ⟨?_, rfl, rfl, rfl⟩
    simp only [permitCount] <;> omega

/-- A step in which every reset succeeds retires no agent. -/
theorem step_retired {p p' : AgentPool} {a : PoolOp} (h : p.step a = some p')
    (ha : resetsSucceed p a = true) : p'.retired = p.retired := by
  cases a <;> simp only [step, Option.ite_none_right_eq_some, Option.some.injEq] at h
  case acquirePop =>
    obtain ⟨-, rfl⟩ := h
    unfold acquirePop
    split <;> rfl
  case releaseReset a ok =>
    obtain ⟨-, rfl⟩ := h
    cases ha
    rfl
  case acquireStart => subst h; rfl
  all_goals obtain ⟨-, rfl⟩ := h; rfl

/-- A step that is not a pop from an empty `available` returns no `PoolExhausted`. -/
theorem step_exhausted {p p' : AgentPool} {a : PoolOp} (h : p.step a = some p')
    (hle : p.pending ≤ p.available.length) : p'.exhausted = p.exhausted := by
  cases a <;> simp only [step, Option.ite_none_right_eq_some, Option.some.injEq] at h
  case acquirePop =>
    obtain ⟨hp, rfl⟩ := h
    have hne : p.available ≠ [] := List.ne_nil_of_length_pos (by omega)
    obtain ⟨a, ha⟩ := Option.isSome_iff_exists.mp (List.getLast?_isSome.mpr hne)
    simp only [acquirePop, ha]
  case releaseReset a ok =>
    obtain ⟨-, rfl⟩ := h
    cases ok <;> rfl
  case acquireStart => subst h; rfl
  all_goals obtain ⟨-, rfl⟩ := h; rfl

/-! ## Over every run -/

/-- What every run from `withConfig config` keeps: the configuration, the agents
`initialize_pool` spawned, and where each of the `pool_size` permits and each agent is. -/
structure PoolInv (config : AgentPoolConfig) (p : AgentPool) : Prop where
  config_eq : p.config = config
  totalAgents_eq :
    p.totalAgents = config.poolSize / config.supportedTypes.length * config.supportedTypes.length
  permits_eq : p.permitCount = config.poolSize
  agents_eq : p.agentCount = p.totalAgents

theorem poolInv_withConfig (config : AgentPoolConfig) : PoolInv config (withConfig config) where
  config_eq := rfl
  totalAgents_eq := length_spawnAgents _ _ _
  permits_eq := by simp [permitCount, withConfig]
  agents_eq := by simp [agentCount, withConfig]

theorem PoolInv.step {config : AgentPoolConfig} {p p' : AgentPool} {a : PoolOp}
    (hi : PoolInv config p) (h : p.step a = some p') : PoolInv config p' := by
  obtain ⟨hperm, hagents, hconfig, htotal⟩ := step_conserves h
  exact ⟨hconfig ▸ hi.config_eq, htotal ▸ hi.totalAgents_eq, hperm ▸ hi.permits_eq,
    htotal ▸ hagents ▸ hi.agents_eq⟩

/-- Permits and agents are conserved over every run, whatever resets do. -/
theorem poolInv_of_reach {config : AgentPoolConfig} {allowed : AgentPool → PoolOp → Bool}
    {p : AgentPool} (hp : Reach step allowed (withConfig config) p) : PoolInv config p :=
  hp.induct _ (poolInv_withConfig config) fun hi _ h => hi.step h

/-- Free and pending permits, with those about to be added back, exceed the available
agents by `pool_size` minus the agents spawned, plus the agents retired. -/
theorem PoolInv.permits_add_spawned {config : AgentPoolConfig} {p : AgentPool}
    (hi : PoolInv config p) :
    p.permits + p.pending + p.returning + p.totalAgents =
      config.poolSize + p.available.length + p.retired := by
  have h₁ := hi.permits_eq
  have h₂ := hi.agents_eq
  simp only [permitCount, agentCount] at h₁ h₂
  omega

/-- `pool_size - available_count` in `stats` never wraps: in every run of acquires and
releases of agents acquired from this pool, however resets go, `busy_agents` and
`available_agents` add up to `total_agents`. -/
theorem stats_busy_add_available {config : AgentPoolConfig}
    {allowed : AgentPool → PoolOp → Bool} {p : AgentPool}
    (hp : Reach step allowed (withConfig config) p) :
    p.stats.busyAgents + p.stats.availableAgents = p.stats.totalAgents := by
  have hi := poolInv_of_reach hp
  have h₁ := hi.agents_eq
  have h₂ := Nat.div_mul_le_self config.poolSize config.supportedTypes.length
  simp only [agentCount, hi.totalAgents_eq] at h₁
  simp only [stats, hi.config_eq]
  omega

/-- The tests' pool of four: two acquires, the release of the first with a failing reset,
which retires its agent, and an acquire cancelled while it waits for a permit. `stats`
reports one agent available and three busy: one held, one retired, and the one
`initialize_pool` never spawned. -/
theorem stats_busy_add_available_retired :
    ∃ p, Reach step (fun _ _ => true) (withConfig { AgentPoolConfig.default with poolSize := 4 }) p ∧
      p.stats = ⟨4, 1, 3, 10000⟩ ∧ p.held.length = 1 ∧ p.retired = 1 ∧
      p.stats.busyAgents + p.stats.availableAgents = p.stats.totalAgents := by
  obtain ⟨p, hp, h⟩ := reach_of_runSteps step (fun _ _ => true)
    (withConfig { AgentPoolConfig.default with poolSize := 4 })
    [.acquireStart, .acquirePermit, .acquirePop, .acquireStart, .acquirePermit, .acquirePop,
      .releaseStart ⟨3, .go, 0⟩, .releaseReset ⟨3, .go, 0⟩ false, .acquireStart, .acquireCancel]
    (fun p => p.stats == ⟨4, 1, 3, 10000⟩ && p.held.length == 1 && p.retired == 1) (by decide)
  simp only [Bool.and_eq_true, beq_iff_eq] at h
  exact ⟨p, hp, h.1.1, h.1.2, h.2, stats_busy_add_available hp⟩

/-! ## The pool's contract -/

/-- When the kinds divide `pool_size` and every reset succeeds, the free and pending
permits never exceed the available agents and equal them when no call is in flight, so no
`acquire` returns `PoolExhausted`; once every agent acquired is back, `stats` reports them
all available. -/
theorem pool_contract_of_dvd (config : AgentPoolConfig)
    (hdvd : config.supportedTypes.length ∣ config.poolSize) {p : AgentPool}
    (hp : Reach step resetsSucceed (withConfig config) p) :
    p.permits + p.pending ≤ p.available.length ∧
      (p.Quiescent → p.permits + p.pending = p.available.length) ∧ p.exhausted = 0 ∧
      (p.held = [] → p.resetting = [] → p.toPush = [] →
        p.stats.availableAgents = p.stats.totalAgents ∧ p.stats.busyAgents = 0) := by
  have hspawned := Nat.div_mul_cancel hdvd
  have hbal : ∀ {q : AgentPool}, PoolInv config q → q.retired = 0 →
      q.permits + q.pending + q.returning = q.available.length := fun hi hr => by
    have := hi.permits_add_spawned
    rw [hi.totalAgents_eq, hspawned] at this
    omega
  obtain ⟨hi, hr, he⟩ : PoolInv config p ∧ p.retired = 0 ∧ p.exhausted = 0 := by
    refine hp.induct (fun q => PoolInv config q ∧ q.retired = 0 ∧ q.exhausted = 0)
      ⟨poolInv_withConfig config, rfl, rfl⟩ ?_
    rintro q q' a ⟨hi, hr, he⟩ ha h
    have := hbal hi hr
    exact ⟨hi.step h, (step_retired h ha).trans hr, (step_exhausted h (by omega)).trans he⟩
  have hb := hbal hi hr
  refine ⟨by omega, fun hq => by rw [← hb, hq.2.2.2.2, Nat.add_zero], he, fun hh hs ht => ?_⟩
  have h₁ := hi.agents_eq
  simp only [agentCount, hi.totalAgents_eq, hspawned, hh, hs, ht, hr, List.length_nil,
    Nat.add_zero] at h₁
  simp only [stats, hi.config_eq, h₁, Nat.sub_self, and_self]

/-- A pool of six over the default kinds: an acquire, one cancelled while it waits for a
permit, one dropped while it waits for the mutex with a permit in hand, a second acquire,
and the release of the first agent. The pool ends at rest with one agent held, and keeps
the contract. -/
theorem pool_of_six_keeps_contract :
    ∃ p, Reach step resetsSucceed (withConfig { AgentPoolConfig.default with poolSize := 6 }) p ∧
      p.Quiescent ∧ p.held.length = 1 ∧
      (p.permits + p.pending ≤ p.available.length ∧
        (p.Quiescent → p.permits + p.pending = p.available.length) ∧ p.exhausted = 0 ∧
        (p.held = [] → p.resetting = [] → p.toPush = [] →
          p.stats.availableAgents = p.stats.totalAgents ∧ p.stats.busyAgents = 0)) := by
  obtain ⟨p, hp, h⟩ := reach_of_runSteps step resetsSucceed
    (withConfig { AgentPoolConfig.default with poolSize := 6 })
    [.acquireStart, .acquirePermit, .acquirePop, .acquireStart, .acquireCancel,
      .acquireStart, .acquirePermit, .acquireDrop, .acquireStart, .acquirePermit, .acquirePop,
      .releaseStart ⟨6, .go, 0⟩, .releaseReset ⟨6, .go, 0⟩ true, .releasePush ⟨6, .go, 0⟩,
      .releaseAddPermit]
    (fun p => decide p.Quiescent && p.held.length == 1) (by decide)
  simp only [Bool.and_eq_true, decide_eq_true_eq, beq_iff_eq] at h
  exact ⟨p, hp, h.1, h.2, pool_contract_of_dvd _ (by decide) hp⟩

/-- The tests' pool of four over the three default kinds: `initialize_pool` spawns one
agent of each kind for four permits, so the quiescent pool starts with a permit more than
agents and `stats` reports one agent busy, and four acquires in a row, every reset
succeeding, end with the fourth returning `PoolExhausted`. -/
theorem pool_of_four_spawns_three :
    let p₀ : AgentPool := withConfig { AgentPoolConfig.default with poolSize := 4 }
    p₀.Quiescent ∧ p₀.held = [] ∧ p₀.permits + p₀.pending = 4 ∧ p₀.available.length = 3 ∧
      p₀.stats = ⟨4, 3, 1, 10000⟩ ∧
      ∃ p, Reach step resetsSucceed p₀ p ∧ p.exhausted = 1 ∧ p.held.length = 3 := by
  intro p₀
  refine ⟨by decide, rfl, rfl, rfl, rfl, ?_⟩
  obtain ⟨p, hp, h⟩ := reach_of_runSteps step resetsSucceed p₀
    ((List.replicate 4 [.acquireStart, .acquirePermit, .acquirePop]).flatten)
    (fun p => p.exhausted == 1 && p.held.length == 3) (by decide)
  simp only [Bool.and_eq_true, beq_iff_eq] at h
  exact ⟨p, hp, h⟩

end AgentPool

end SentraLab.Runtime
