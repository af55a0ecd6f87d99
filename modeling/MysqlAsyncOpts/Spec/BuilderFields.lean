import MysqlAsyncOpts.Opts.Builder

/-! # The fields of a builder after a run of calls

Each builder method sets one field, with a default for an absent value where the
source has one, and touches nothing else. So after any sequence of calls every field
holds what the last call of its setter gave it, or its value before the run. The
capabilities, which two methods change bit by bit, are the subject of
`MysqlAsyncOpts.Spec.Capabilities`. -/

namespace MysqlAsyncOpts.Spec.BuilderFields
open MysqlAsyncOpts.Lib.Core MysqlAsyncOpts.Lib.Protocol MysqlAsyncOpts.Opts.Pool
open MysqlAsyncOpts.Opts.Options MysqlAsyncOpts.Opts.Builder

/-- The builder a sequence of calls describes, field by field: the argument of the last
call of each setter (the statement cache size 32, the pool options their default and
the socket preference `true` for an absent one), or the field of `b0` when no call sets
it. The capabilities are `caps`. -/
def lastWins (b0 : OptsBuilder) (calls : List OptsBuilderCall) (caps : CapabilityFlags) :
    OptsBuilder where
  ipOrHostname :=
    (lastCall (fun | .ipOrHostname h => some h | _ => none) calls).getD b0.ipOrHostname
  tcpPort := (lastCall (fun | .tcpPort p => some p | _ => none) calls).getD b0.tcpPort
  opts :=
    { user := (lastCall (fun | .user u => some u | _ => none) calls).getD b0.opts.user
      pass := (lastCall (fun | .pass p => some p | _ => none) calls).getD b0.opts.pass
      dbName := (lastCall (fun | .dbName d => some d | _ => none) calls).getD b0.opts.dbName
      init := (lastCall (fun | .init cmds => some cmds | _ => none) calls).getD b0.opts.init
      tcpKeepalive := (lastCall (fun | .tcpKeepalive t => some t | _ => none) calls).getD
        b0.opts.tcpKeepalive
      tcpNodelay :=
        (lastCall (fun | .tcpNodelay n => some n | _ => none) calls).getD b0.opts.tcpNodelay
      localInfileHandler :=
        (lastCall (fun | .localInfileHandler h => some h | _ => none) calls).getD
          b0.opts.localInfileHandler
      poolOpts :=
        (lastCall (fun | .poolOpts p => some (p.getD PoolOpts.default) | _ => none) calls).getD
          b0.opts.poolOpts
      connTtl := (lastCall (fun | .connTtl t => some t | _ => none) calls).getD b0.opts.connTtl
      stmtCacheSize :=
        (lastCall (fun | .stmtCacheSize n => some (n.getD 32) | _ => none) calls).getD
          b0.opts.stmtCacheSize
      sslOpts := (lastCall (fun | .sslOpts s => some s | _ => none) calls).getD b0.opts.sslOpts
      preferSocket :=
        (lastCall (fun | .preferSocket p => some (p.getD true) | _ => none) calls).getD
          b0.opts.preferSocket
      socket := (lastCall (fun | .socket s => some s | _ => none) calls).getD b0.opts.socket
      compression := (lastCall (fun | .compression c => some c | _ => none) calls).getD
        b0.opts.compression
      capabilities := caps }

/-- **The last call of each setter wins.** For every builder and every sequence of
calls, the builder they give is, field by field, the one `lastWins` describes. -/
theorem run_lastWins (all : CapabilityFlags) (b0 : OptsBuilder) (calls : List OptsBuilderCall) :
    b0.run all calls = lastWins b0 calls (b0.run all calls).opts.capabilities := by
  have step := fun {β : Type} (get : OptsBuilder → β) (sel : OptsBuilderCall → Option β)
      (H : ∀ b c, get (b.call all c) = (sel c).getD (get b)) =>
    OptsBuilder.run_lastCall all get sel H b0 calls
  apply OptsBuilder.ext
  · apply MysqlOpts.ext
    · exact step (·.opts.user) _ fun b c => by cases c <;> rfl
    · exact step (·.opts.pass) _ fun b c => by cases c <;> rfl
    · exact step (·.opts.dbName) _ fun b c => by cases c <;> rfl
    · exact step (·.opts.tcpKeepalive) _ fun b c => by cases c <;> rfl
    · exact step (·.opts.tcpNodelay) _ fun b c => by cases c <;> rfl
    · exact step (·.opts.localInfileHandler) _ fun b c => by cases c <;> rfl
    · exact step (·.opts.poolOpts) _ fun b c => by cases c <;> rfl
    · exact step (·.opts.connTtl) _ fun b c => by cases c <;> rfl
    · exact step (·.opts.init) _ fun b c => by cases c <;> rfl
    · exact step (·.opts.stmtCacheSize) _ fun b c => by cases c <;> rfl
    · exact step (·.opts.sslOpts) _ fun b c => by cases c <;> rfl
    · exact step (·.opts.preferSocket) _ fun b c => by cases c <;> rfl
    · exact step (·.opts.socket) _ fun b c => by cases c <;> rfl
    · exact step (·.opts.compression) _ fun b c => by cases c <;> rfl
    · rfl
  · exact step (·.ipOrHostname) _ fun b c => by cases c <;> rfl
  · exact step (·.tcpPort) _ fun b c => by cases c <;> rfl

/-! ## The order of calls of different setters -/

/-- The field a call writes, by its name in the source; both capability calls write
`capabilities`. -/
def writtenField : OptsBuilderCall → String
  | .ipOrHostname _ => "ip_or_hostname"
  | .tcpPort _ => "tcp_port"
  | .user _ => "user"
  | .pass _ => "pass"
  | .dbName _ => "db_name"
  | .init _ => "init"
  | .tcpKeepalive _ => "tcp_keepalive"
  | .tcpNodelay _ => "tcp_nodelay"
  | .localInfileHandler _ => "local_infile_handler"
  | .poolOpts _ => "pool_opts"
  | .connTtl _ => "conn_ttl"
  | .stmtCacheSize _ => "stmt_cache_size"
  | .sslOpts _ => "ssl_opts"
  | .preferSocket _ => "prefer_socket"
  | .socket _ => "socket"
  | .compression _ => "compression"
  | .addCapability _ => "capabilities"
  | .removeCapability _ => "capabilities"

section
variable (all : CapabilityFlags)

/-- A field that every call updates by `step`, and that calls writing another field
leave, ends a run at the fold of `step` over the calls that write it. -/
theorem run_field {β : Type} (get : OptsBuilder → β) (step : OptsBuilderCall → β → β)
    (f : String) (H : ∀ b c, get (b.call all c) = step c (get b))
    (hframe : ∀ c x, writtenField c ≠ f → step c x = x) :
    ∀ (b : OptsBuilder) (calls : List OptsBuilderCall), get (b.run all calls) =
      (calls.filter (writtenField · == f)).foldl (fun x c => step c x) (get b)
  | b, [] => rfl
  | b, c :: cs => by
    rw [OptsBuilder.run_cons, run_field get step f H hframe (b.call all c) cs, H,
      List.filter_cons]
    by_cases hc : writtenField c = f
    · simp [hc]
    · simp [hc, hframe c _ hc]

/-- Two runs that make the same calls writing `f` end with the same value of a field
that only those calls change. -/
theorem run_field_eq {β : Type} {b : OptsBuilder} {calls₁ calls₂ : List OptsBuilderCall}
    (get : OptsBuilder → β) (step : OptsBuilderCall → β → β) (f : String)
    (hcalls : calls₁.filter (writtenField · == f) = calls₂.filter (writtenField · == f))
    (H : ∀ b c, get (b.call all c) = step c (get b) := by intro _ c; cases c <;> rfl)
    (hframe : ∀ c x, writtenField c ≠ f → step c x = x := by
      intro c _ hc; cases c <;> first | rfl | exact absurd rfl hc) :
    get (b.run all calls₁) = get (b.run all calls₂) := by
  rw [run_field all get step f H hframe, run_field all get step f H hframe, hcalls]

/-- **Calls of different setters commute.** Two runs that make, setter by setter, the
same calls in the same order build the same builder, however the calls of different
setters interleave; the two capability calls count as one setter. -/
theorem run_eq_of_fieldCalls (b : OptsBuilder) (calls₁ calls₂ : List OptsBuilderCall)
    (h : ∀ f, calls₁.filter (writtenField · == f) = calls₂.filter (writtenField · == f)) :
    b.run all calls₁ = b.run all calls₂ := by
  apply OptsBuilder.ext
  · apply MysqlOpts.ext
    · exact run_field_eq all (·.opts.user) (fun | .user u, _ => u | _, x => x) _ (h "user")
    · exact run_field_eq all (·.opts.pass) (fun | .pass p, _ => p | _, x => x) _ (h "pass")
    · exact run_field_eq all (·.opts.dbName) (fun | .dbName d, _ => d | _, x => x) _
        (h "db_name")
    · exact run_field_eq all (·.opts.tcpKeepalive) (fun | .tcpKeepalive t, _ => t | _, x => x) _
        (h "tcp_keepalive")
    · exact run_field_eq all (·.opts.tcpNodelay) (fun | .tcpNodelay n, _ => n | _, x => x) _
        (h "tcp_nodelay")
    · exact run_field_eq all (·.opts.localInfileHandler)
        (fun | .localInfileHandler h, _ => h | _, x => x) _ (h "local_infile_handler")
    · exact run_field_eq all (·.opts.poolOpts)
        (fun | .poolOpts p, _ => p.getD PoolOpts.default | _, x => x) _ (h "pool_opts")
    · exact run_field_eq all (·.opts.connTtl) (fun | .connTtl t, _ => t | _, x => x) _
        (h "conn_ttl")
    · exact run_field_eq all (·.opts.init) (fun | .init cmds, _ => cmds | _, x => x) _ (h "init")
    · exact run_field_eq all (·.opts.stmtCacheSize)
        (fun | .stmtCacheSize n, _ => n.getD 32 | _, x => x) _ (h "stmt_cache_size")
    · exact run_field_eq all (·.opts.sslOpts) (fun | .sslOpts s, _ => s | _, x => x) _
        (h "ssl_opts")
    · exact run_field_eq all (·.opts.preferSocket)
        (fun | .preferSocket p, _ => p.getD true | _, x => x) _ (h "prefer_socket")
    · exact run_field_eq all (·.opts.socket) (fun | .socket s, _ => s | _, x => x) _ (h "socket")
    · exact run_field_eq all (·.opts.compression) (fun | .compression c, _ => c | _, x => x) _
        (h "compression")
    · exact run_field_eq all (·.opts.capabilities)
        (fun | .addCapability m, x => x ||| m
             | .removeCapability m, x => x &&& CapabilityFlags.complement all m
             | _, x => x) _ (h "capabilities")
  · exact run_field_eq all (·.ipOrHostname) (fun | .ipOrHostname h, _ => h | _, x => x) _
      (h "ip_or_hostname")
  · exact run_field_eq all (·.tcpPort) (fun | .tcpPort p, _ => p | _, x => x) _ (h "tcp_port")

end

/-- A user, a port and a capability removal. -/
def userPortCalls : List OptsBuilderCall :=
  [.user (some "root"), .tcpPort 3307, .removeCapability CapabilityFlags.clientCompress]

/-- The calls of `userPortCalls`, the user's moved last. -/
def portUserCalls : List OptsBuilderCall :=
  [.tcpPort 3307, .removeCapability CapabilityFlags.clientCompress, .user (some "root")]

theorem run_eq_of_fieldCalls_userPort :
    (∀ f, userPortCalls.filter (writtenField · == f) =
      portUserCalls.filter (writtenField · == f)) ∧
    OptsBuilder.default.run ⟨0⟩ userPortCalls = OptsBuilder.default.run ⟨0⟩ portUserCalls :=
  have h : ∀ f, userPortCalls.filter (writtenField · == f) =
      portUserCalls.filter (writtenField · == f) := by
    intro f
    by_cases h1 : f = "user"
    · subst h1; decide
    by_cases h2 : f = "tcp_port"
    · subst h2; decide
    by_cases h3 : f = "capabilities"
    · subst h3; decide
    simp [userPortCalls, portUserCalls, List.filter, writtenField,
      beq_eq_false_iff_ne.mpr (Ne.symm h1), beq_eq_false_iff_ne.mpr (Ne.symm h2),
      beq_eq_false_iff_ne.mpr (Ne.symm h3)]
  ⟨h, run_eq_of_fieldCalls ⟨0⟩ _ _ _ h⟩

end MysqlAsyncOpts.Spec.BuilderFields
