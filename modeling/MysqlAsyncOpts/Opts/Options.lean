import MysqlAsyncOpts.Lib.UrlCrate
import MysqlAsyncOpts.Lib.Protocol
import MysqlAsyncOpts.Opts.Pool

/-! # The server address and the published options

`HostPortOrUrl` is the address: a host string and a port, or the parsed URL itself.
`MysqlOpts` is the draft every construction path fills; `Opts` wraps it with the
address behind an `Arc`, which the model drops (nothing is mutated after
publication). The capability set offered to the server is derived on every read. -/

namespace MysqlAsyncOpts.Opts.Options
open MysqlAsyncOpts.Lib.Core MysqlAsyncOpts.Lib.Net MysqlAsyncOpts.Lib.UrlCrate
open MysqlAsyncOpts.Lib.Protocol MysqlAsyncOpts.Opts.Pool

/-- `DEFAULT_PORT`. -/
def defaultPort : Nat := 3306

/-- `DEFAULT_STMT_CACHE_SIZE`. -/
def defaultStmtCacheSize : Nat := 32

inductive HostPortOrUrl where
  | hostPort (host : String) (port : Nat)
  | url (url : Url)
  deriving DecidableEq, Repr

namespace HostPortOrUrl

def default : HostPortOrUrl := hostPort "127.0.0.1" defaultPort

def getIpOrHostname : HostPortOrUrl → String
  | .hostPort host _ => host
  | .url u => u.hostStr.getD "127.0.0.1"

def getTcpPort : HostPortOrUrl → Nat
  | .hostPort _ port => port
  | .url u => u.port.getD defaultPort

/-- A host string is read as an IPv4, then an IPv6 literal, else compared with
`localhost`; a URL's host is looked at by its kind. -/
def isLoopback : HostPortOrUrl → Bool
  | .hostPort host _ =>
    match Ipv4Addr.fromStr host, Ipv6Addr.fromStr host with
    | some ip, _ => ip.isLoopback
    | none, some ip => ip.isLoopback
    | none, none => host == "localhost"
  | .url u =>
    match u.host with
    | some (.ipv4 ip) => ip.isLoopback
    | some (.ipv6 ip) => ip.isLoopback
    | some (.domain s) => s == "localhost"
    | none => false

end HostPortOrUrl

/-- TLS options, by their identity: the options only store them and test whether they
are set. -/
structure SslOpts where
  id : Nat
  deriving DecidableEq, Repr

/-- A local-infile handler, by its identity: the options only store and hand it back. -/
structure LocalInfileHandlerObject where
  id : Nat
  deriving DecidableEq, Repr

@[ext] structure MysqlOpts where
  user : Option String
  pass : Option String
  dbName : Option String
  tcpKeepalive : Option Nat
  tcpNodelay : Bool
  localInfileHandler : Option LocalInfileHandlerObject
  poolOpts : PoolOpts
  connTtl : Option Duration
  init : List String
  stmtCacheSize : Nat
  sslOpts : Option SslOpts
  preferSocket : Bool
  socket : Option String
  compression : Option Compression
  capabilities : CapabilityFlags
  deriving DecidableEq, Repr

open CapabilityFlags in
/-- The stored capabilities of a fresh draft. -/
def defaultCaps : CapabilityFlags :=
  clientProtocol41 ||| clientSecureConnection ||| clientLongPassword ||| clientTransactions |||
    clientLocalFiles ||| clientMultiStatements ||| clientMultiResults ||| clientPsMultiResults |||
    clientDeprecateEof ||| clientPluginAuth

/-- `MysqlOpts::default`, on a target that is not Windows (`prefer_socket` is
`cfg!(not(target_os = "windows"))`). -/
def MysqlOpts.default : MysqlOpts where
  user := none
  pass := none
  dbName := none
  init := []
  tcpKeepalive := none
  tcpNodelay := true
  localInfileHandler := none
  poolOpts := PoolOpts.default
  connTtl := none
  stmtCacheSize := defaultStmtCacheSize
  sslOpts := none
  preferSocket := true
  socket := none
  compression := none
  capabilities := defaultCaps

structure InnerOpts where
  mysqlOpts : MysqlOpts
  address : HostPortOrUrl
  deriving DecidableEq, Repr

structure Opts where
  inner : InnerOpts
  deriving DecidableEq, Repr

namespace Opts

/-- The derived `Opts::default`: the default draft at the default address. -/
def default : Opts := ⟨⟨MysqlOpts.default, HostPortOrUrl.default⟩⟩

def addrIsLoopback (o : Opts) : Bool := o.inner.address.isLoopback

def ipOrHostname (o : Opts) : String := o.inner.address.getIpOrHostname

def hostportOrUrl (o : Opts) : HostPortOrUrl := o.inner.address

def tcpPort (o : Opts) : Nat := o.inner.address.getTcpPort

def user (o : Opts) : Option String := o.inner.mysqlOpts.user

def pass (o : Opts) : Option String := o.inner.mysqlOpts.pass

def dbName (o : Opts) : Option String := o.inner.mysqlOpts.dbName

def init (o : Opts) : List String := o.inner.mysqlOpts.init

def tcpKeepalive (o : Opts) : Option Nat := o.inner.mysqlOpts.tcpKeepalive

def tcpNodelay (o : Opts) : Bool := o.inner.mysqlOpts.tcpNodelay

def localInfileHandler (o : Opts) : Option LocalInfileHandlerObject :=
  o.inner.mysqlOpts.localInfileHandler

def poolOpts (o : Opts) : PoolOpts := o.inner.mysqlOpts.poolOpts

def connTtl (o : Opts) : Option Duration := o.inner.mysqlOpts.connTtl

def stmtCacheSize (o : Opts) : Nat := o.inner.mysqlOpts.stmtCacheSize

def sslOpts (o : Opts) : Option SslOpts := o.inner.mysqlOpts.sslOpts

def preferSocket (o : Opts) : Bool := o.inner.mysqlOpts.preferSocket

def socket (o : Opts) : Option String := o.inner.mysqlOpts.socket

def compression (o : Opts) : Option Compression := o.inner.mysqlOpts.compression

open CapabilityFlags in
/-- The stored flags, with the database, TLS and compression bits put back whenever
their field is set. -/
def getCapabilities (o : Opts) : CapabilityFlags :=
  let out := o.inner.mysqlOpts.capabilities
  let out := if o.inner.mysqlOpts.dbName.isSome then out ||| clientConnectWithDb else out
  let out := if o.inner.mysqlOpts.sslOpts.isSome then out ||| clientSsl else out
  if o.inner.mysqlOpts.compression.isSome then out ||| clientCompress else out

open CapabilityFlags in
/-- Bit by bit: a stored bit, or one of the three bits whose field is set. -/
theorem getCapabilities_getLsbD (o : Opts) (i : Nat) :
    o.getCapabilities.bits.getLsbD i =
      (o.inner.mysqlOpts.capabilities.bits.getLsbD i ||
        (decide (i = 3) && o.inner.mysqlOpts.dbName.isSome) ||
        (decide (i = 11) && o.inner.mysqlOpts.sslOpts.isSome) ||
        (decide (i = 5) && o.inner.mysqlOpts.compression.isSome)) := by
  simp only [getCapabilities, clientConnectWithDb, clientSsl, clientCompress,
    getLsbD_orIf _ _ (show 3 < 32 by decide), getLsbD_orIf _ _ (show 11 < 32 by decide),
    getLsbD_orIf _ _ (show 5 < 32 by decide)]

end Opts

end MysqlAsyncOpts.Opts.Options
