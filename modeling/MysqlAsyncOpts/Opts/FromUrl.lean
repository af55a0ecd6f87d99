import MysqlAsyncOpts.Opts.Options

/-! # Options from a URL

`Opts::from_url` gives the URL a port, then `mysqlopts_from_url` checks the scheme
and the host (`from_url_basic`), decodes the user, password and database, and runs
the loop over the query pairs, which stops at the first pair it does not accept.
The pool bounds are checked once, after the loop.

The loop body is written in two parts: `readParam` is the dispatch on the key, with
each branch's parser and the parameter name its error reports, and `Param.apply` is
the assignment each branch makes. -/

namespace MysqlAsyncOpts.Opts.FromUrl
open MysqlAsyncOpts.Lib.Core MysqlAsyncOpts.Lib.UrlCrate MysqlAsyncOpts.Lib.Protocol
open MysqlAsyncOpts.Opts.Pool MysqlAsyncOpts.Opts.Options

/-- The variants of `UrlError` that the options raise. -/
inductive UrlError where
  | unsupportedScheme (scheme : String)
  | invalid
  | unknownParameter (param : String)
  | invalidParamValue (param : String) (value : String)
  | invalidPoolConstraints (min : Nat) (max : Nat)
  deriving DecidableEq, Repr

def getOptsUserFromUrl (url : Url) : Option String :=
  if url.username ≠ "" then some (decode url.username) else none

def getOptsPassFromUrl (url : Url) : Option String := url.password.map decode

/-- The first path segment, decoded; an empty one is kept. -/
def getOptsDbNameFromUrl (url : Url) : Option String :=
  match url.pathSegments with
  | some segments => segments.head?.map decode
  | none => none

def fromUrlBasic (url : Url) : Except UrlError (MysqlOpts × List (String × String)) :=
  if url.scheme ≠ "mysql" then .error (.unsupportedScheme url.scheme)
  else if url.cannotBeABase || !url.hasHost then .error .invalid
  else .ok ({ MysqlOpts.default with
    user := getOptsUserFromUrl url, pass := getOptsPassFromUrl url,
    dbName := getOptsDbNameFromUrl url },
    url.queryPairs)

/-- A recognised query parameter with its parsed value. -/
inductive Param where
  | poolMin (value : Nat)
  | poolMax (value : Nat)
  | inactiveConnectionTtl (secs : Nat)
  | ttlCheckInterval (secs : Nat)
  | connTtl (secs : Nat)
  | tcpKeepalive (value : Nat)
  | tcpNodelay (value : Bool)
  | stmtCacheSize (value : Nat)
  | preferSocket (value : Bool)
  | socket (value : String)
  | compression (value : Compression)
  deriving DecidableEq, Repr

/-- A branch of the dispatch that parses its value, or fails naming `param`. -/
def parsedParam {α : Type} (param : String) (parse : String → Option α) (mk : α → Param)
    (value : String) : Except UrlError Param :=
  match parse value with
  | some v => .ok (mk v)
  | none => .error (.invalidParamValue param value)

/-- The `compression` branch: a name, or a value one byte long that is an ASCII digit. -/
def compressionParam (value : String) : Except UrlError Param :=
  if value = "fast" then .ok (.compression Compression.fast)
  else if value = "on" ∨ value = "true" then .ok (.compression Compression.default)
  else if value = "best" then .ok (.compression Compression.best)
  else match asBytes value with
    | [b] =>
      if 0x30 ≤ b ∧ b ≤ 0x39 then .ok (.compression (Compression.new (b - 0x30).toNat))
      else .error (.invalidParamValue "compression" value)
    | _ => .error (.invalidParamValue "compression" value)

/-- The dispatch on the key. The `tcp_keepalive` branch names `tcp_keepalive_ms` in
its error, as the source does. -/
def readParam (key value : String) : Except UrlError Param :=
  if key = "pool_min" then parsedParam "pool_min" usizeFromStr .poolMin value
  else if key = "pool_max" then parsedParam "pool_max" usizeFromStr .poolMax value
  else if key = "inactive_connection_ttl" then
    parsedParam "inactive_connection_ttl" u64FromStr .inactiveConnectionTtl value
  else if key = "ttl_check_interval" then
    parsedParam "ttl_check_interval" u64FromStr .ttlCheckInterval value
  else if key = "conn_ttl" then parsedParam "conn_ttl" u64FromStr .connTtl value
  else if key = "tcp_keepalive" then parsedParam "tcp_keepalive_ms" u32FromStr .tcpKeepalive value
  else if key = "tcp_nodelay" then parsedParam "tcp_nodelay" boolFromStr .tcpNodelay value
  else if key = "stmt_cache_size" then
    parsedParam "stmt_cache_size" usizeFromStr .stmtCacheSize value
  else if key = "prefer_socket" then parsedParam "prefer_socket" boolFromStr .preferSocket value
  else if key = "socket" then .ok (.socket value)
  else if key = "compression" then compressionParam value
  else .error (.unknownParameter key)

/-- The loop's state: the draft and the two pool bounds read so far. -/
structure QueryState where
  opts : MysqlOpts
  poolMin : Nat
  poolMax : Nat
  deriving DecidableEq, Repr

def Param.apply (st : QueryState) : Param → QueryState
  | .poolMin v => { st with poolMin := v }
  | .poolMax v => { st with poolMax := v }
  | .inactiveConnectionTtl s => { st with opts := { st.opts with
      poolOpts := st.opts.poolOpts.withInactiveConnectionTtl (Duration.fromSecs s) } }
  | .ttlCheckInterval s => { st with opts := { st.opts with
      poolOpts := st.opts.poolOpts.withTtlCheckInterval (Duration.fromSecs s) } }
  | .connTtl s => { st with opts := { st.opts with connTtl := some (Duration.fromSecs s) } }
  | .tcpKeepalive v => { st with opts := { st.opts with tcpKeepalive := some v } }
  | .tcpNodelay v => { st with opts := { st.opts with tcpNodelay := v } }
  | .stmtCacheSize v => { st with opts := { st.opts with stmtCacheSize := v } }
  | .preferSocket v => { st with opts := { st.opts with preferSocket := v } }
  | .socket v => { st with opts := { st.opts with socket := some v } }
  | .compression c => { st with opts := { st.opts with compression := some c } }

/-- One round of `for (key, value) in query_pairs`. -/
def queryParam (st : QueryState) (pair : String × String) : Except UrlError QueryState :=
  (readParam pair.1 pair.2).map (Param.apply st)

def mysqloptsFromUrl (url : Url) : Except UrlError MysqlOpts := do
  let (opts, queryPairs) ← fromUrlBasic url
  let st ← queryPairs.foldlM queryParam
    ⟨opts, defaultPoolConstraints.min, defaultPoolConstraints.max⟩
  match PoolConstraints.new st.poolMin st.poolMax with
  | some c => pure { st.opts with poolOpts := st.opts.poolOpts.withConstraints c }
  | none => throw (.invalidPoolConstraints st.poolMin st.poolMax)

/-- The first step of `Opts::from_url`: a URL without a port is given the default one,
and one that refuses it is invalid. -/
def ensurePort (url : Url) : Except UrlError Url :=
  if url.port.isNone then
    match url.setPort (some defaultPort) with
    | some url => pure url
    | none => throw .invalid
  else pure url

/-- `Opts::from_url` on a parsed URL. -/
def Opts.fromUrl (url : Url) : Except UrlError Opts := do
  let url ← ensurePort url
  let mysqlOpts ← mysqloptsFromUrl url
  pure ⟨⟨mysqlOpts, .url url⟩⟩

/-! ## The port step -/

theorem ensurePort_eq_error {url : Url} {e : UrlError} :
    ensurePort url = .error e ↔
      url.port = none ∧ url.setPort (some defaultPort) = none ∧ e = .invalid := by
  unfold ensurePort
  cases url.port with
  | some p => simp [pure, Except.pure]
  | none =>
    cases url.setPort (some defaultPort) <;>
      simp [pure, Except.pure, throw, throwThe, MonadExceptOf.throw, Except.error.injEq, eq_comm]

/-- The port step changes the port alone. -/
theorem ensurePort_eq_ok {url url' : Url} (h : ensurePort url = .ok url') :
    ∃ q, url' = { url with port := q } := by
  unfold ensurePort at h
  split at h
  · split at h
    · cases h; exact ⟨_, Url.setPort_eq_some ‹_›⟩
    · cases h
  · cases h; exact ⟨url.port, rfl⟩

theorem Opts.fromUrl_eq_ok {url : Url} {o : Opts} :
    Opts.fromUrl url = .ok o ↔
      ∃ url' m, ensurePort url = .ok url' ∧ mysqloptsFromUrl url' = .ok m ∧
        o = ⟨⟨m, .url url'⟩⟩ := by
  simp only [Opts.fromUrl, bind, pure, Except.pure, bind_eq_ok, Except.ok.injEq]
  exact ⟨fun ⟨url', h1, m, h2, h⟩ => ⟨url', m, h1, h2, h.symm⟩,
    fun ⟨url', m, h1, h2, h⟩ => ⟨url', h1, m, h2, h.symm⟩⟩

theorem Opts.fromUrl_eq_error {url : Url} {e : UrlError} :
    Opts.fromUrl url = .error e ↔
      ensurePort url = .error e ∨
        ∃ url', ensurePort url = .ok url' ∧ mysqloptsFromUrl url' = .error e := by
  simp [Opts.fromUrl, bind, pure, Except.pure, bind_eq_error]

/-! ## The dispatch and the loop -/

def recognizedKeys : List String :=
  ["pool_min", "pool_max", "inactive_connection_ttl", "ttl_check_interval", "conn_ttl",
    "tcp_keepalive", "tcp_nodelay", "stmt_cache_size", "prefer_socket", "socket", "compression"]

/-- The key whose branch builds a parameter. -/
def Param.key : Param → String
  | .poolMin _ => "pool_min"
  | .poolMax _ => "pool_max"
  | .inactiveConnectionTtl _ => "inactive_connection_ttl"
  | .ttlCheckInterval _ => "ttl_check_interval"
  | .connTtl _ => "conn_ttl"
  | .tcpKeepalive _ => "tcp_keepalive"
  | .tcpNodelay _ => "tcp_nodelay"
  | .stmtCacheSize _ => "stmt_cache_size"
  | .preferSocket _ => "prefer_socket"
  | .socket _ => "socket"
  | .compression _ => "compression"

theorem parsedParam_eq_ok {α : Type} {param : String} {parse : String → Option α}
    {mk : α → Param} {value : String} {q : Param} :
    parsedParam param parse mk value = .ok q ↔ ∃ x, parse value = some x ∧ mk x = q := by
  unfold parsedParam
  cases parse value <;> simp [Except.ok.injEq]

theorem parsedParam_ok_iff {α : Type} {param : String} {parse : String → Option α}
    {mk : α → Param} {value : String} :
    (∃ q, parsedParam param parse mk value = .ok q) ↔ (parse value).isSome := by
  unfold parsedParam
  cases parse value <;> simp

theorem parsedParam_eq_error {α : Type} {param : String} {parse : String → Option α}
    {mk : α → Param} {value : String} {e : UrlError} :
    parsedParam param parse mk value = .error e ↔
      parse value = none ∧ .invalidParamValue param value = e := by
  unfold parsedParam
  cases parse value <;> simp

theorem compressionParam_key {v : String} {q : Param} (h : compressionParam v = .ok q) :
    q.key = "compression" := by
  unfold compressionParam at h
  split_ifs at h <;> (try split at h) <;> (try split_ifs at h) <;> first | (cases h; rfl) | cases h

@[simp] theorem readParam_poolMin (v : String) :
    readParam "pool_min" v = parsedParam "pool_min" usizeFromStr .poolMin v := by
  rw [readParam]; simp

@[simp] theorem readParam_poolMax (v : String) :
    readParam "pool_max" v = parsedParam "pool_max" usizeFromStr .poolMax v := by
  rw [readParam]; simp

@[simp] theorem readParam_inactiveConnectionTtl (v : String) :
    readParam "inactive_connection_ttl" v =
      parsedParam "inactive_connection_ttl" u64FromStr .inactiveConnectionTtl v := by
  rw [readParam]; simp

@[simp] theorem readParam_ttlCheckInterval (v : String) :
    readParam "ttl_check_interval" v =
      parsedParam "ttl_check_interval" u64FromStr .ttlCheckInterval v := by
  rw [readParam]; simp

@[simp] theorem readParam_connTtl (v : String) :
    readParam "conn_ttl" v = parsedParam "conn_ttl" u64FromStr .connTtl v := by
  rw [readParam]; simp

@[simp] theorem readParam_tcpKeepalive (v : String) :
    readParam "tcp_keepalive" v = parsedParam "tcp_keepalive_ms" u32FromStr .tcpKeepalive v := by
  rw [readParam]; simp

@[simp] theorem readParam_tcpNodelay (v : String) :
    readParam "tcp_nodelay" v = parsedParam "tcp_nodelay" boolFromStr .tcpNodelay v := by
  rw [readParam]; simp

@[simp] theorem readParam_stmtCacheSize (v : String) :
    readParam "stmt_cache_size" v =
      parsedParam "stmt_cache_size" usizeFromStr .stmtCacheSize v := by
  rw [readParam]; simp

@[simp] theorem readParam_preferSocket (v : String) :
    readParam "prefer_socket" v = parsedParam "prefer_socket" boolFromStr .preferSocket v := by
  rw [readParam]; simp

@[simp] theorem readParam_socket (v : String) : readParam "socket" v = .ok (.socket v) := by
  rw [readParam]; simp

@[simp] theorem readParam_compression (v : String) :
    readParam "compression" v = compressionParam v := by
  rw [readParam]; simp

theorem readParam_unknown {k v : String} (hk : k ∉ recognizedKeys) :
    readParam k v = .error (.unknownParameter k) := by
  simp only [recognizedKeys, List.mem_cons, List.not_mem_nil, or_false, not_or] at hk
  obtain ⟨h1, h2, h3, h4, h5, h6, h7, h8, h9, h10, h11⟩ := hk
  simp [readParam, h1, h2, h3, h4, h5, h6, h7, h8, h9, h10, h11]

/-- What the dispatch accepts is built by the branch of its key. -/
theorem readParam_key {k v : String} {q : Param} (h : readParam k v = .ok q) : q.key = k := by
  by_cases hk : k ∈ recognizedKeys
  · simp only [recognizedKeys, List.mem_cons, List.not_mem_nil, or_false] at hk
    rcases hk with rfl | rfl | rfl | rfl | rfl | rfl | rfl | rfl | rfl | rfl | rfl <;>
      simp only [readParam_poolMin, readParam_poolMax, readParam_inactiveConnectionTtl,
        readParam_ttlCheckInterval, readParam_connTtl, readParam_tcpKeepalive, readParam_tcpNodelay,
        readParam_stmtCacheSize, readParam_preferSocket, readParam_socket,
        readParam_compression] at h
    all_goals first
      | exact compressionParam_key h
      | (cases h; rfl)
      | (obtain ⟨x, -, rfl⟩ := parsedParam_eq_ok.mp h; rfl)
  · rw [readParam_unknown hk] at h; cases h

theorem foldlM_queryParam_cons (p : String × String) (L : List (String × String))
    (st : QueryState) :
    (p :: L).foldlM queryParam st = match readParam p.1 p.2 with
      | .ok q => L.foldlM queryParam (q.apply st)
      | .error e => .error e := by
  rw [List.foldlM_cons, queryParam]
  cases readParam p.1 p.2 <;> rfl

end MysqlAsyncOpts.Opts.FromUrl
