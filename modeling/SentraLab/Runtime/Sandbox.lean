import SentraLab.Basic

/-!
# The sandbox and its resource limits

Model of `runtime/resource_limiter.rs` (`ResourceLimits` and `validate`) and of
`runtime/sandbox.rs` on Linux: `Sandbox::new` turns a `SandboxConfig` into limits, and
`apply_limits` writes them into cgroup files. The cgroup file system is a parameter: which
`create_dir_all` and which `File::create` fail. A failure there is logged or skipped, never
returned, and a write is the file's path and the text written.

The fixed-width fields keep their types: `cpu_quota` is a `u32`, `memory_limit_mb` a `u64`,
and the arithmetic on them is `UInt64` arithmetic, wrapping past `2^64` as a release build
does (a debug build panics instead).

## Strategy

`Sandbox::new` never calls `validate` (`new_accepts_every_config`): it accepts every
configuration, and the limits it derives pass `validate` exactly when a limited quota lies
in `[1, 400]` and a limited memory in `[64, 16384]` MB, while `apply_limits` writes
`cpu_quota * 1000` and `memory_limit_mb * 1024 * 1024 mod 2^64`. `apply_limits` always
returns `Ok` (`applyLimits_ok`), which `AgentRuntime.spawn` relies on.

`ResourceLimiter::aggregate_limits` multiplies the memory limit by the agent count in
wrapping `u64` arithmetic, so `validate`'s answer for the default limiter depends on the
count mod `2^55` (`default_aggregateLimits_validate`).

`cleanup` is not modelled: no code of the engine calls it, and what it does depends on
`remove_dir_all` on the cgroup file system, which refuses to unlink a cgroup's interface
files.
-/

namespace SentraLab.Runtime

/-- `ResourceLimits`. -/
structure ResourceLimits where
  cpuQuota : Option UInt32
  memoryLimitMb : Option UInt64
  networkBandwidthMbps : Option UInt32
deriving DecidableEq, Repr

namespace ResourceLimits

/-- `ResourceLimits::default`. -/
def default : ResourceLimits := ⟨some 50, some 512, none⟩

/-- `ResourceLimits::unlimited`. -/
def unlimited : ResourceLimits := ⟨none, none, none⟩

/-- `ResourceLimits::strict`. -/
def strict : ResourceLimits := ⟨some 25, some 256, some 10⟩

/-- `ResourceLimits::relaxed`. -/
def relaxed : ResourceLimits := ⟨some 100, some 2048, none⟩

/-- One block of `validate`: for a value that is set, an error when it is too small, then
one when it is too large. -/
def checkBounds {α : Type} (tooSmall tooLarge : α → Prop) [DecidablePred tooSmall]
    [DecidablePred tooLarge] (smallMsg largeMsg : String) : Option α → Except String Unit
  | some x => if tooSmall x then .error smallMsg else if tooLarge x then .error largeMsg else .ok ()
  | none => .ok ()

/-- `ResourceLimits::validate`: the CPU quota, the memory limit and the network bandwidth,
checked in that order, the first error returned. -/
def validate (l : ResourceLimits) : Except String Unit := do
  checkBounds (· = 0) (· > 400) "CPU quota cannot be 0"
    "CPU quota cannot exceed 400% (4 cores)" l.cpuQuota
  checkBounds (· < 64) (· > 16384) "Memory limit cannot be less than 64MB"
    "Memory limit cannot exceed 16GB" l.memoryLimitMb
  checkBounds (· = 0) (· > 10000) "Network bandwidth cannot be 0"
    "Network bandwidth cannot exceed 10 Gbps" l.networkBandwidthMbps

theorem checkBounds_eq_ok {α : Type} {tooSmall tooLarge : α → Prop} [DecidablePred tooSmall]
    [DecidablePred tooLarge] {smallMsg largeMsg : String} (v : Option α) :
    checkBounds tooSmall tooLarge smallMsg largeMsg v = .ok () ↔
      ∀ x, v = some x → ¬tooSmall x ∧ ¬tooLarge x := by
  cases v with
  | none => simp [checkBounds]
  | some x => simp only [checkBounds]; split_ifs <;> simp_all

/-- `validate` passes exactly when a set quota is in `[1, 400]`, a set memory limit in
`[64, 16384]` and a set bandwidth in `[1, 10000]`. -/
theorem validate_eq_ok_iff (l : ResourceLimits) :
    l.validate = .ok () ↔
      (∀ q, l.cpuQuota = some q → q ≠ 0 ∧ q ≤ 400) ∧
      (∀ m, l.memoryLimitMb = some m → 64 ≤ m ∧ m ≤ 16384) ∧
      (∀ b, l.networkBandwidthMbps = some b → b ≠ 0 ∧ b ≤ 10000) := by
  have hbind {x y : Except String Unit} :
      (x >>= fun _ => y) = .ok () ↔ x = .ok () ∧ y = .ok () := by
    cases x <;> simp [bind, Except.bind]
  simp only [validate, hbind, checkBounds_eq_ok, gt_iff_lt, UInt32.not_lt, UInt64.not_lt,
    ne_eq, UInt64.not_le]

/-- The four presets pass their own check. -/
theorem validate_presets : ∀ l ∈ [default, unlimited, strict, relaxed], l.validate = .ok () := by
  intro l hl
  simp only [List.mem_cons, List.mem_singleton, List.not_mem_nil, or_false] at hl
  rcases hl with rfl | rfl | rfl | rfl <;> rfl

end ResourceLimits

/-- `ResourceLimiter`: the limits it applies to every process. -/
structure ResourceLimiter where
  defaultLimits : ResourceLimits
deriving DecidableEq, Repr

namespace ResourceLimiter

/-- `ResourceLimiter::default`. -/
def default : ResourceLimiter := ⟨ResourceLimits.default⟩

/-- `aggregate_limits`: the default limits with the memory limit multiplied by the number of
agents (`num_agents as u64` of a 64-bit `usize`), the product wrapping past `2^64`; the CPU
quota and the bandwidth stay per process. -/
def aggregateLimits (limiter : ResourceLimiter) (numAgents : UInt64) : ResourceLimits :=
  { limiter.defaultLimits with
    memoryLimitMb := limiter.defaultLimits.memoryLimitMb.map (· * numAgents) }

/-- For every agent count `n`, `validate` of the default limiter's aggregate of `512 * n` MB
answers by `n mod 2^55`, the product wrapping past `2^64`: `"Memory limit cannot be less
than 64MB"` for `0`, `Ok` for `1` to `32`, and `"Memory limit cannot exceed 16GB"` above.
So no agents fail, 33 agents up to `2^55 - 1` fail as too much, `2^55` agents wrap to
0 MB and fail as too little, and `2^55 + 1` pass again. -/
theorem default_aggregateLimits_validate (n : UInt64) :
    (default.aggregateLimits n).validate =
      if n.toNat % 36028797018963968 = 0 then .error "Memory limit cannot be less than 64MB"
      else if n.toNat % 36028797018963968 ≤ 32 then .ok ()
      else .error "Memory limit cannot exceed 16GB" := by
  have hn := n.toNat_lt_size
  have hmem : (512 * n).toNat = 512 * (n.toNat % 36028797018963968) := by
    show 512 * n.toNat % 18446744073709551616 = _
    simp only [UInt64.size] at hn
    omega
  have hsmall : 512 * n < 64 ↔ n.toNat % 36028797018963968 = 0 := by
    rw [UInt64.lt_def, BitVec.lt_def]
    show (512 * n).toNat < 64 ↔ _
    omega
  have hlarge : 512 * n > 16384 ↔ 32 < n.toNat % 36028797018963968 := by
    rw [gt_iff_lt, UInt64.lt_def, BitVec.lt_def]
    show 16384 < (512 * n).toNat ↔ _
    omega
  show (ResourceLimits.checkBounds (· = 0) (· > 400) _ _ (some (50 : UInt32)) >>= fun _ =>
    ResourceLimits.checkBounds (· < 64) (· > 16384) _ _ (some (512 * n)) >>= fun _ =>
    ResourceLimits.checkBounds (· = 0) (· > 10000) _ _ (none : Option UInt32)) = _
  have hcpu : ¬(50 : UInt32) = 0 ∧ ¬(50 : UInt32) > 400 := by decide
  simp only [ResourceLimits.checkBounds, hcpu, hsmall, hlarge, if_false]
  split_ifs <;> first | rfl | omega

end ResourceLimiter

/-- `SandboxConfig`. -/
structure SandboxConfig where
  limitCpu : Bool
  cpuQuota : UInt32
  limitMemory : Bool
  memoryLimitMb : UInt64
  isolateNetwork : Bool
  restrictFilesystem : Bool
  readPaths : List String
  writePaths : List String
deriving DecidableEq, Repr

/-- `SandboxConfig::default`. -/
def SandboxConfig.default : SandboxConfig :=
  ⟨true, 50, true, 512, false, true, ["/usr", "/lib", "/etc"], ["/tmp"]⟩

/-- `Sandbox`. -/
structure Sandbox where
  config : SandboxConfig
  resourceLimits : ResourceLimits
deriving DecidableEq, Repr

/-- What the cgroup file system does: whether `create_dir_all` of a directory fails, and
whether `File::create` of a file fails. -/
structure CgroupFs where
  dirFails : String → Bool
  createFails : String → Bool

/-- A cgroup file system on which every call succeeds. -/
def CgroupFs.ok : CgroupFs := ⟨fun _ => false, fun _ => false⟩

namespace Sandbox

/-- `Sandbox::new`: the limits come from the configuration's flags, unchecked. -/
def new (config : SandboxConfig) : Except EngineError Sandbox :=
  .ok ⟨config, ⟨if config.limitCpu then some config.cpuQuota else none,
    if config.limitMemory then some config.memoryLimitMb else none, none⟩⟩

/-- The CFS period `apply_cpu_limit` writes, in microseconds. -/
def period : UInt64 := 100000

/-- `apply_cpu_limit`'s `quota_value = (quota as u64 * period) / 100`. -/
def quotaValue (quota : UInt32) : UInt64 := quota.toUInt64 * period / 100

/-- `apply_memory_limit`'s `limit_bytes = limit_mb * 1024 * 1024`. -/
def limitBytes (limitMb : UInt64) : UInt64 := limitMb * 1024 * 1024

/-- The cgroup directory of a process under one controller. -/
def cgroupPath (controller : String) (pid : UInt32) : String :=
  "/sys/fs/cgroup/" ++ controller ++ "/sentra-lab-" ++ toString pid

/-- The files a cgroup setup writes, of those `File::create` opens. -/
def writeFiles (fs : CgroupFs) (writes : List (String × String)) : List (String × String) :=
  writes.filter fun w => !fs.createFails w.1

/-- `apply_cpu_limit` on Linux: the quota, the period and the pid, in the process's `cpu`
cgroup; nothing when its directory cannot be created. -/
def applyCpuLimit (fs : CgroupFs) (pid quota : UInt32) :
    List (String × String) × Except EngineError Unit :=
  let path := cgroupPath "cpu" pid
  if fs.dirFails path then ([], .ok ()) else
  (writeFiles fs [(path ++ "/cpu.cfs_quota_us", toString (quotaValue quota)),
    (path ++ "/cpu.cfs_period_us", toString period), (path ++ "/cgroup.procs", toString pid)],
    .ok ())

/-- `apply_memory_limit` on Linux: the byte limit and the pid, in the process's `memory`
cgroup; nothing when its directory cannot be created. -/
def applyMemoryLimit (fs : CgroupFs) (pid : UInt32) (limitMb : UInt64) :
    List (String × String) × Except EngineError Unit :=
  let path := cgroupPath "memory" pid
  if fs.dirFails path then ([], .ok ()) else
  (writeFiles fs [(path ++ "/memory.limit_in_bytes", toString (limitBytes limitMb)),
    (path ++ "/cgroup.procs", toString pid)], .ok ())

/-- `apply_limits`: the CPU limit, then the memory limit, each when set. -/
def applyLimits (s : Sandbox) (fs : CgroupFs) (pid : UInt32) :
    List (String × String) × Except EngineError Unit :=
  let cpu := match s.resourceLimits.cpuQuota with
    | some quota => applyCpuLimit fs pid quota
    | none => ([], .ok ())
  match cpu.2 with
  | .error e => (cpu.1, .error e)
  | .ok () =>
    let memory := match s.resourceLimits.memoryLimitMb with
      | some limit => applyMemoryLimit fs pid limit
      | none => ([], .ok ())
    (cpu.1 ++ memory.1, memory.2)

/-! ## Arithmetic -/

/-- `quota as u64 * 100000` never wraps, so `quota_value` is `quota * 1000`. -/
theorem toNat_quotaValue (quota : UInt32) : (quotaValue quota).toNat = quota.toNat * 1000 := by
  have hq := quota.toNat_lt_size
  have hmul : (quota.toUInt64 * period).toNat = quota.toNat * 100000 % UInt64.size := rfl
  rw [quotaValue, UInt64.toNat_div, hmul,
    Nat.mod_eq_of_lt (by simp only [UInt32.size, UInt64.size] at hq ⊢; omega)]
  show quota.toNat * 100000 / 100 = _
  omega

/-- `limit_mb * 1024 * 1024` is the megabytes in bytes, taken mod `2^64`. -/
theorem toNat_limitBytes (limitMb : UInt64) :
    (limitBytes limitMb).toNat = limitMb.toNat * 1024 * 1024 % UInt64.size := by
  show limitMb.toNat * 1024 % UInt64.size * 1024 % UInt64.size = _
  rw [Nat.mod_mul_mod]

/-! ## What `apply_limits` writes -/

/-- `apply_limits` never returns an error: a cgroup directory or file that cannot be
created is logged or skipped. -/
theorem applyLimits_ok (s : Sandbox) (fs : CgroupFs) (pid : UInt32) :
    (s.applyLimits fs pid).2 = .ok () := by
  have hcpu (quota : UInt32) : (applyCpuLimit fs pid quota).2 = .ok () := by
    simp only [applyCpuLimit]; split <;> rfl
  have hmem (limit : UInt64) : (applyMemoryLimit fs pid limit).2 = .ok () := by
    simp only [applyMemoryLimit]; split <;> rfl
  simp only [applyLimits]
  cases s.resourceLimits.cpuQuota <;> cases s.resourceLimits.memoryLimitMb <;>
    simp [hcpu, hmem]

/-- On a cgroup file system where every call succeeds, a set quota is written as
`quota * 1000` and a set memory limit as its megabytes in bytes, mod `2^64`. -/
theorem applyLimits_writes (s : Sandbox) (pid : UInt32) :
    (∀ q, s.resourceLimits.cpuQuota = some q →
      (cgroupPath "cpu" pid ++ "/cpu.cfs_quota_us", toString (q.toNat * 1000)) ∈
        (s.applyLimits CgroupFs.ok pid).1) ∧
    (∀ m, s.resourceLimits.memoryLimitMb = some m →
      (cgroupPath "memory" pid ++ "/memory.limit_in_bytes",
        toString (m.toNat * 1024 * 1024 % UInt64.size)) ∈
        (s.applyLimits CgroupFs.ok pid).1) := by
  have hq (q : UInt32) : toString (quotaValue q) = toString (q.toNat * 1000) := by
    show toString (quotaValue q).toNat = _; rw [toNat_quotaValue]
  have hm (m : UInt64) :
      toString (limitBytes m) = toString (m.toNat * 1024 * 1024 % UInt64.size) := by
    show toString (limitBytes m).toNat = _; rw [toNat_limitBytes]
  constructor
  · intro q h
    simp [applyLimits, h, applyCpuLimit, CgroupFs.ok, writeFiles, hq]
  · intro m h
    cases hc : s.resourceLimits.cpuQuota <;>
      simp [applyLimits, h, hc, applyCpuLimit, applyMemoryLimit, CgroupFs.ok, writeFiles, hm]

/-- For every configuration, `Sandbox::new` returns `Ok` without checking the limits it
derives: they pass `validate` exactly when a limited CPU quota lies in `[1, 400]` and a
limited memory in `[64, 16384]` MB, and on a cgroup file system where every call succeeds,
`apply_limits` writes `cpu.cfs_quota_us = cpu_quota * 1000` and
`memory.limit_in_bytes = memory_limit_mb * 1024 * 1024 mod 2^64`, whatever `validate`
says. -/
theorem new_accepts_every_config (config : SandboxConfig) (pid : UInt32) :
    ∃ s, Sandbox.new config = .ok s ∧
      (s.resourceLimits.validate = .ok () ↔
        (config.limitCpu = true → config.cpuQuota ≠ 0 ∧ config.cpuQuota ≤ 400) ∧
        (config.limitMemory = true →
          64 ≤ config.memoryLimitMb ∧ config.memoryLimitMb ≤ 16384)) ∧
      (config.limitCpu = true →
        (cgroupPath "cpu" pid ++ "/cpu.cfs_quota_us", toString (config.cpuQuota.toNat * 1000)) ∈
          (s.applyLimits CgroupFs.ok pid).1) ∧
      (config.limitMemory = true →
        (cgroupPath "memory" pid ++ "/memory.limit_in_bytes",
          toString (config.memoryLimitMb.toNat * 1024 * 1024 % UInt64.size)) ∈
          (s.applyLimits CgroupFs.ok pid).1) := by
  refine ⟨_, rfl, ?_, fun h => (applyLimits_writes _ pid).1 _ (by simp [h]),
    fun h => (applyLimits_writes _ pid).2 _ (by simp [h])⟩
  rw [ResourceLimits.validate_eq_ok_iff]
  cases config.limitCpu <;> cases config.limitMemory <;> simp

/-- The default configuration with `cpu_quota: 0` and `memory_limit_mb: 2^44`: accepted,
rejected by `validate`, and written as a CPU quota of 0 and a memory limit of 0 bytes. -/
theorem new_accepts_every_config_zero_quota :
    let config : SandboxConfig :=
      { SandboxConfig.default with cpuQuota := 0, memoryLimitMb := 17592186044416 }
    ∃ s, Sandbox.new config = .ok s ∧ s.resourceLimits.validate = .error "CPU quota cannot be 0" ∧
      (cgroupPath "cpu" 7 ++ "/cpu.cfs_quota_us", "0") ∈ (s.applyLimits CgroupFs.ok 7).1 ∧
      (cgroupPath "memory" 7 ++ "/memory.limit_in_bytes", "0") ∈
        (s.applyLimits CgroupFs.ok 7).1 := by
  intro config
  obtain ⟨s, hs, -, hcpu, hmem⟩ := new_accepts_every_config config 7
  cases hs
  have h₁ : toString (config.cpuQuota.toNat * 1000) = "0" := by decide
  have h₂ : toString (config.memoryLimitMb.toNat * 1024 * 1024 % UInt64.size) = "0" := by
    decide
  exact ⟨_, rfl, rfl, h₁ ▸ hcpu rfl, h₂ ▸ hmem rfl⟩

end Sandbox

end SentraLab.Runtime
