import MysqlAsyncOpts.Opts.Builder
import MysqlAsyncOpts.Spec.QueryPairs

/-! # The pool options of every produced `Opts`

`PoolOpts` keeps its fields private, so the values a caller can hold are those of
`Reachable`: the default and the setters. This module follows them through the two
ways options are made: the query loop of `from_url`, which applies two of the setters
and then `with_constraints`, and the builder, whose `pool_opts` call stores a value
the caller holds or the default. Every such value keeps `WF`, and so the active bound
lies between the pool's two constraints. -/

namespace MysqlAsyncOpts.Spec.PoolInvariant
open MysqlAsyncOpts.Lib.Core MysqlAsyncOpts.Lib.UrlCrate MysqlAsyncOpts.Lib.Protocol
open MysqlAsyncOpts.Opts.Pool MysqlAsyncOpts.Opts.Options MysqlAsyncOpts.Opts.Builder
open MysqlAsyncOpts.Opts.FromUrl MysqlAsyncOpts.Spec.QueryPairs
open PoolOpts

/-- A builder call whose `PoolOpts` argument, if it has one, is a value a caller can hold. -/
def PoolArgReachable : OptsBuilderCall → Prop
  | .poolOpts (some p) => Reachable p
  | _ => True

/-- The options the crate hands out: `Opts::default`, `Opts::from_url`, and
`From<OptsBuilder>` after any calls on a builder made from produced options (the
default builder is the one made from `Opts::default`). -/
inductive Produced : Opts → Prop
  | default : Produced Opts.default
  | fromUrl {url : Url} {o : Opts} : Opts.fromUrl url = .ok o → Produced o
  | build {o : Opts} (all : CapabilityFlags) (calls : List OptsBuilderCall) :
      Produced o → (∀ c ∈ calls, PoolArgReachable c) →
        Produced (Opts.ofBuilder ((OptsBuilder.fromOpts o).run all calls))

/-! ## The query loop -/

/-- A query parameter applies `with_inactive_connection_ttl`, `with_ttl_check_interval`
or no setter at all. -/
theorem apply_reachable (q : Param) {st : QueryState} (h : Reachable st.opts.poolOpts) :
    Reachable (q.apply st).opts.poolOpts := by
  cases q with
  | inactiveConnectionTtl s => exact h.withInactiveConnectionTtl _
  | ttlCheckInterval s => exact h.withTtlCheckInterval _
  | _ => exact h

theorem mysqloptsFromUrl_reachable {url : Url} {m : MysqlOpts} (h : mysqloptsFromUrl url = .ok m) :
    Reachable m.poolOpts := by
  obtain ⟨-, -, -, st, hrun, hfin⟩ := mysqloptsFromUrl_eq_ok.mp h
  obtain ⟨c, -, rfl⟩ := finish_eq_ok.mp hfin
  have hloop := foldlM_preserves (Reachable ·.opts.poolOpts) apply_reachable hrun .default
  exact hloop.withConstraints c

theorem fromUrl_reachable {url : Url} {o : Opts} (h : Opts.fromUrl url = .ok o) :
    Reachable o.poolOpts := by
  obtain ⟨_, m, -, hm, rfl⟩ := Opts.fromUrl_eq_ok.mp h
  exact mysqloptsFromUrl_reachable hm

/-! ## The builder -/

section
variable (all : CapabilityFlags)

/-- `pool_opts` stores its argument or the default; no other call touches the pool. -/
theorem call_reachable {b : OptsBuilder} {c : OptsBuilderCall} (hc : PoolArgReachable c)
    (h : Reachable b.opts.poolOpts) : Reachable (b.call all c).opts.poolOpts := by
  cases c with
  | poolOpts p =>
    cases p with
    | none => exact .default
    | some p => exact hc
  | _ => exact h

theorem run_reachable : ∀ {b : OptsBuilder} {calls : List OptsBuilderCall},
    (∀ c ∈ calls, PoolArgReachable c) → Reachable b.opts.poolOpts →
      Reachable (b.run all calls).opts.poolOpts
  | _, [], _, h => h
  | b, c :: cs, hc, h =>
    @run_reachable (b.call all c) cs (fun c' h' => hc c' (List.mem_cons_of_mem _ h'))
      (call_reachable all (hc c (List.mem_cons_self _ _)) h)

end

/-- A run from the default builder is produced: that builder is made from the default
options. -/
theorem Produced.defaultBuilder (all : CapabilityFlags) (calls : List OptsBuilderCall)
    (h : ∀ c ∈ calls, PoolArgReachable c) :
    Produced (Opts.ofBuilder (OptsBuilder.default.run all calls)) :=
  OptsBuilder.default_eq_fromOpts ▸ .build all calls .default h

theorem Produced.reachable {o : Opts} (h : Produced o) : Reachable o.poolOpts := by
  induction h with
  | default => exact .default
  | fromUrl h => exact fromUrl_reachable h
  | build all calls _ hcalls ih => exact run_reachable all hcalls ih

/-- **The pool invariant.** `WF` holds of the default and is kept by each setter for
every argument, so it holds of the pool options of every produced `Opts`, whose active
bound therefore lies between `min` and `max`. -/
theorem producedPoolOpts_wf :
    WF PoolOpts.default ∧
    (∀ (p : PoolOpts) (c : PoolConstraints), WF p → WF (p.withConstraints c)) ∧
    (∀ (p : PoolOpts) (d : Duration), WF p → WF (p.withInactiveConnectionTtl d)) ∧
    (∀ (p : PoolOpts) (d : Duration), WF p → WF (p.withTtlCheckInterval d)) ∧
    ∀ o : Opts, Produced o → WF o.poolOpts ∧
      o.poolOpts.constraints.min ≤ o.poolOpts.activeBound ∧
      o.poolOpts.activeBound ≤ o.poolOpts.constraints.max :=
  ⟨wf_default, fun _ c h => h.withConstraints c, fun _ d h => h.withInactiveConnectionTtl d,
    fun _ d h => h.withTtlCheckInterval d,
    fun _ h => ⟨h.reachable.wf, h.reachable.wf.activeBound_mem⟩⟩

/-- The default builder after `pool_opts(Some(PoolOpts::default()
.with_ttl_check_interval(Duration::from_nanos(5))))`: the setter keeps the default
interval in place of the short one. -/
def shortIntervalOpts : Opts :=
  Opts.ofBuilder (OptsBuilder.default.run defaultCaps
    [.poolOpts (some (PoolOpts.default.withTtlCheckInterval ⟨5⟩))])

theorem producedPoolOpts_wf_shortInterval :
    Produced shortIntervalOpts ∧ WF shortIntervalOpts.poolOpts ∧
      shortIntervalOpts.poolOpts.constraints.min ≤ shortIntervalOpts.poolOpts.activeBound ∧
      shortIntervalOpts.poolOpts.activeBound ≤ shortIntervalOpts.poolOpts.constraints.max :=
  have hp : Produced shortIntervalOpts := Produced.defaultBuilder defaultCaps _ fun c hc => by
    rw [List.mem_singleton.mp hc]
    exact Reachable.default.withTtlCheckInterval _
  ⟨hp, producedPoolOpts_wf.2.2.2.2 _ hp⟩

end MysqlAsyncOpts.Spec.PoolInvariant
