import MysqlAsyncOpts.Lib.Core

/-! # Pool constraints and pool options

`PoolConstraints` keeps its fields private and is built only by `new`, which refuses
`min > max`, and by the default constant, which a `const_assert` checks; the model
carries `min ≤ max` as a field. `PoolOpts` has no such field: the bound on
`ttl_check_interval` is kept by its setter alone, so it is an invariant (`WF`) of the
values its public API builds (`Reachable`). -/

namespace MysqlAsyncOpts.Opts.Pool
open MysqlAsyncOpts.Lib.Core

@[ext] structure PoolConstraints where
  min : Nat
  max : Nat
  min_le_max : min ≤ max
  deriving DecidableEq, Repr

/-- `DEFAULT_POOL_CONSTRAINTS`, with its `const_assert`. -/
def defaultPoolConstraints : PoolConstraints := ⟨10, 100, by decide⟩

def defaultInactiveConnectionTtl : Duration := Duration.fromSecs 0

def defaultTtlCheckInterval : Duration := Duration.fromSecs 30

namespace PoolConstraints

def new (min max : Nat) : Option PoolConstraints :=
  if h : min ≤ max then some ⟨min, max, h⟩ else none

theorem new_eq_some {min max : Nat} {c : PoolConstraints} :
    new min max = some c ↔ c.min = min ∧ c.max = max := by
  unfold new
  split
  · constructor
    · rintro ⟨⟩; exact ⟨rfl, rfl⟩
    · obtain ⟨_, _, _⟩ := c
      rintro ⟨rfl, rfl⟩; rfl
  · exact ⟨nofun, fun ⟨h1, h2⟩ => by have := c.min_le_max; omega⟩

theorem new_eq_none {min max : Nat} : new min max = none ↔ max < min := by
  unfold new
  split <;> simp <;> omega

end PoolConstraints

structure PoolOpts where
  constraints : PoolConstraints
  inactiveConnectionTtl : Duration
  ttlCheckInterval : Duration
  deriving DecidableEq, Repr

namespace PoolOpts

def default : PoolOpts :=
  ⟨defaultPoolConstraints, defaultInactiveConnectionTtl, defaultTtlCheckInterval⟩

def withConstraints (p : PoolOpts) (constraints : PoolConstraints) : PoolOpts :=
  { p with constraints := constraints }

def withInactiveConnectionTtl (p : PoolOpts) (ttl : Duration) : PoolOpts :=
  { p with inactiveConnectionTtl := ttl }

/-- An interval below one second is replaced by the default, not refused. -/
def withTtlCheckInterval (p : PoolOpts) (interval : Duration) : PoolOpts :=
  if interval < Duration.fromSecs 1 then { p with ttlCheckInterval := defaultTtlCheckInterval }
  else { p with ttlCheckInterval := interval }

/-- How many connections go back to the idle queue: up to `max` while idle ones are
recycled later (a non-zero TTL), `min` when extra ones are dropped at once. -/
def activeBound (p : PoolOpts) : Nat :=
  if p.inactiveConnectionTtl > Duration.fromSecs 0 then p.constraints.max else p.constraints.min

@[simp] theorem withConstraints_constraints (p : PoolOpts) (c : PoolConstraints) :
    (p.withConstraints c).constraints = c := rfl

@[simp] theorem withConstraints_inactiveConnectionTtl (p : PoolOpts) (c : PoolConstraints) :
    (p.withConstraints c).inactiveConnectionTtl = p.inactiveConnectionTtl := rfl

@[simp] theorem withConstraints_ttlCheckInterval (p : PoolOpts) (c : PoolConstraints) :
    (p.withConstraints c).ttlCheckInterval = p.ttlCheckInterval := rfl

@[simp] theorem withInactiveConnectionTtl_constraints (p : PoolOpts) (d : Duration) :
    (p.withInactiveConnectionTtl d).constraints = p.constraints := rfl

@[simp] theorem withInactiveConnectionTtl_inactiveConnectionTtl (p : PoolOpts) (d : Duration) :
    (p.withInactiveConnectionTtl d).inactiveConnectionTtl = d := rfl

@[simp] theorem withInactiveConnectionTtl_ttlCheckInterval (p : PoolOpts) (d : Duration) :
    (p.withInactiveConnectionTtl d).ttlCheckInterval = p.ttlCheckInterval := rfl

@[simp] theorem withTtlCheckInterval_constraints (p : PoolOpts) (d : Duration) :
    (p.withTtlCheckInterval d).constraints = p.constraints := by
  unfold withTtlCheckInterval; split <;> rfl

@[simp] theorem withTtlCheckInterval_inactiveConnectionTtl (p : PoolOpts) (d : Duration) :
    (p.withTtlCheckInterval d).inactiveConnectionTtl = p.inactiveConnectionTtl := by
  unfold withTtlCheckInterval; split <;> rfl

theorem withTtlCheckInterval_ttlCheckInterval (p : PoolOpts) (d : Duration) :
    (p.withTtlCheckInterval d).ttlCheckInterval =
      if d < Duration.fromSecs 1 then defaultTtlCheckInterval else d := by
  unfold withTtlCheckInterval; split <;> rfl

/-! ## The invariant -/

/-- `min ≤ max` and a check interval of at least one second. -/
structure WF (p : PoolOpts) : Prop where
  constraints : p.constraints.min ≤ p.constraints.max
  interval : Duration.fromSecs 1 ≤ p.ttlCheckInterval

/-- The values the public API builds: the default, and any setter applied to one. -/
inductive Reachable : PoolOpts → Prop
  | default : Reachable default
  | withConstraints {p : PoolOpts} (c : PoolConstraints) :
      Reachable p → Reachable (p.withConstraints c)
  | withInactiveConnectionTtl {p : PoolOpts} (d : Duration) :
      Reachable p → Reachable (p.withInactiveConnectionTtl d)
  | withTtlCheckInterval {p : PoolOpts} (d : Duration) :
      Reachable p → Reachable (p.withTtlCheckInterval d)

theorem wf_default : WF default := ⟨by decide, by decide⟩

theorem WF.withConstraints {p : PoolOpts} (h : WF p) (c : PoolConstraints) :
    WF (p.withConstraints c) := ⟨c.min_le_max, h.interval⟩

theorem WF.withInactiveConnectionTtl {p : PoolOpts} (h : WF p) (d : Duration) :
    WF (p.withInactiveConnectionTtl d) := ⟨h.constraints, h.interval⟩

/-- The setter keeps the bound for every argument: one below a second is replaced. -/
theorem WF.withTtlCheckInterval {p : PoolOpts} (h : WF p) (d : Duration) :
    WF (p.withTtlCheckInterval d) := by
  refine ⟨by simpa using h.constraints, ?_⟩
  rw [withTtlCheckInterval_ttlCheckInterval]
  split
  · decide
  · simpa using ‹¬d < Duration.fromSecs 1›

theorem Reachable.wf {p : PoolOpts} (h : Reachable p) : WF p := by
  induction h with
  | default => exact wf_default
  | withConstraints c _ ih => exact ih.withConstraints c
  | withInactiveConnectionTtl d _ ih => exact ih.withInactiveConnectionTtl d
  | withTtlCheckInterval d _ ih => exact ih.withTtlCheckInterval d

/-- The active bound lies between the two constraints. -/
theorem WF.activeBound_mem {p : PoolOpts} (h : WF p) :
    p.constraints.min ≤ p.activeBound ∧ p.activeBound ≤ p.constraints.max := by
  have := h.constraints
  unfold activeBound
  split <;> exact ⟨by omega, by omega⟩

end PoolOpts

end MysqlAsyncOpts.Opts.Pool
