import MysqlAsyncOpts.Opts.Options

/-! # The builder

`OptsBuilder` holds a draft, a host string and a port. Its methods are the
constructors of `OptsBuilderCall`, one per method with the method's argument, and
`OptsBuilder.call` is what each does to the builder: every method but the two
capability ones sets one field, with a default for an absent value where the
source has one. A run is a sequence of calls; `Opts.ofBuilder` publishes it with a
host/port address. -/

namespace MysqlAsyncOpts.Opts.Builder
open MysqlAsyncOpts.Lib.Core MysqlAsyncOpts.Lib.Protocol MysqlAsyncOpts.Opts.Pool
open MysqlAsyncOpts.Opts.Options

@[ext] structure OptsBuilder where
  opts : MysqlOpts
  ipOrHostname : String
  tcpPort : Nat
  deriving DecidableEq, Repr

namespace OptsBuilder

def default : OptsBuilder :=
  let address := HostPortOrUrl.default
  { opts := MysqlOpts.default, ipOrHostname := address.getIpOrHostname,
    tcpPort := address.getTcpPort }

def fromOpts (o : Opts) : OptsBuilder :=
  { tcpPort := o.inner.address.getTcpPort
    ipOrHostname := o.inner.address.getIpOrHostname
    opts := o.inner.mysqlOpts }

/-- The default builder is the one made from the default options. -/
theorem default_eq_fromOpts : OptsBuilder.default = OptsBuilder.fromOpts Opts.default := rfl

end OptsBuilder

inductive OptsBuilderCall where
  | ipOrHostname (ipOrHostname : String)
  | tcpPort (tcpPort : Nat)
  | user (user : Option String)
  | pass (pass : Option String)
  | dbName (dbName : Option String)
  | init (init : List String)
  | tcpKeepalive (tcpKeepalive : Option Nat)
  | tcpNodelay (nodelay : Bool)
  | localInfileHandler (handler : Option LocalInfileHandlerObject)
  | poolOpts (poolOpts : Option PoolOpts)
  | connTtl (connTtl : Option Duration)
  | stmtCacheSize (cacheSize : Option Nat)
  | sslOpts (sslOpts : Option SslOpts)
  | preferSocket (preferSocket : Option Bool)
  | socket (socket : Option String)
  | compression (compression : Option Compression)
  | addCapability (capFlag : CapabilityFlags)
  | removeCapability (capFlag : CapabilityFlags)
  deriving DecidableEq, Repr

section
-- `CapabilityFlags::all()`: the declared flags, within which `!` complements.
variable (all : CapabilityFlags)

/-- The builder's methods. -/
def OptsBuilder.call (b : OptsBuilder) : OptsBuilderCall → OptsBuilder
  | .ipOrHostname h => { b with ipOrHostname := h }
  | .tcpPort p => { b with tcpPort := p }
  | .user u => { b with opts := { b.opts with user := u } }
  | .pass p => { b with opts := { b.opts with pass := p } }
  | .dbName d => { b with opts := { b.opts with dbName := d } }
  | .init cmds => { b with opts := { b.opts with init := cmds } }
  | .tcpKeepalive t => { b with opts := { b.opts with tcpKeepalive := t } }
  | .tcpNodelay n => { b with opts := { b.opts with tcpNodelay := n } }
  | .localInfileHandler h => { b with opts := { b.opts with localInfileHandler := h } }
  | .poolOpts p => { b with opts := { b.opts with poolOpts := p.getD PoolOpts.default } }
  | .connTtl t => { b with opts := { b.opts with connTtl := t } }
  | .stmtCacheSize n =>
    { b with opts := { b.opts with stmtCacheSize := n.getD defaultStmtCacheSize } }
  | .sslOpts s => { b with opts := { b.opts with sslOpts := s } }
  | .preferSocket p => { b with opts := { b.opts with preferSocket := p.getD true } }
  | .socket s => { b with opts := { b.opts with socket := s } }
  | .compression c => { b with opts := { b.opts with compression := c } }
  | .addCapability f => { b with opts := { b.opts with capabilities := b.opts.capabilities ||| f } }
  | .removeCapability f =>
    { b with opts :=
      { b.opts with capabilities := b.opts.capabilities &&& CapabilityFlags.complement all f } }

def OptsBuilder.run (b : OptsBuilder) (calls : List OptsBuilderCall) : OptsBuilder :=
  calls.foldl (OptsBuilder.call all) b

@[simp] theorem OptsBuilder.run_nil (b : OptsBuilder) : b.run all [] = b := rfl

@[simp] theorem OptsBuilder.run_cons (b : OptsBuilder) (c : OptsBuilderCall)
    (cs : List OptsBuilderCall) :
    b.run all (c :: cs) = (b.call all c).run all cs := rfl

end

/-! ## The last call of a kind -/

/-- What the last call that `sel` picks out says. -/
def lastCall {α : Type} (sel : OptsBuilderCall → Option α) (calls : List OptsBuilderCall) :
    Option α :=
  (calls.filterMap sel).getLast?

theorem lastCall_cons {α : Type} (sel : OptsBuilderCall → Option α) (c : OptsBuilderCall)
    (cs : List OptsBuilderCall) : lastCall sel (c :: cs) = (lastCall sel cs).or (sel c) := by
  unfold lastCall
  rw [List.filterMap_cons]
  cases sel c with
  | none => cases (cs.filterMap sel).getLast? <;> rfl
  | some v => rw [List.getLast?_cons]; cases (cs.filterMap sel).getLast? <;> rfl

/-- Last call wins: a part of the builder that each call either sets, as `sel` says,
or leaves alone ends at what the last call setting it says. -/
theorem OptsBuilder.run_lastCall {β : Type} (all : CapabilityFlags) (get : OptsBuilder → β)
    (sel : OptsBuilderCall → Option β) (H : ∀ b c, get (b.call all c) = (sel c).getD (get b)) :
    ∀ (b : OptsBuilder) (calls : List OptsBuilderCall),
      get (b.run all calls) = (lastCall sel calls).getD (get b)
  | b, [] => rfl
  | b, c :: cs => by
    rw [run_cons, run_lastCall all get sel H, H, lastCall_cons]
    cases lastCall sel cs <;> rfl

/-- `From<OptsBuilder> for Opts`. -/
def Opts.ofBuilder (b : OptsBuilder) : Opts :=
  ⟨⟨b.opts, .hostPort b.ipOrHostname b.tcpPort⟩⟩

end MysqlAsyncOpts.Opts.Builder
