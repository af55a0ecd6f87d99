import MysqlAsyncOpts.Opts.FromUrl

/-! # The query pairs: the last pair of a key wins

What `mysqlopts_from_url` makes of a URL that passes the scheme and host checks,
over every sequence of query pairs: it succeeds exactly when every pair has a
recognised key and a value its key's parser reads, and the last pool bounds (or the
defaults) are ordered; then every field holds the value of the last pair of its key,
or its default. The bounds are compared once, after the loop, so a sequence that
passes through `min > max` on its way is accepted. -/

namespace MysqlAsyncOpts.Spec.QueryPairs
open MysqlAsyncOpts.Lib.Core MysqlAsyncOpts.Lib.UrlCrate MysqlAsyncOpts.Lib.Protocol
open MysqlAsyncOpts.Opts.Pool MysqlAsyncOpts.Opts.Options MysqlAsyncOpts.Opts.FromUrl

/-! ## The pairs, read by their last value -/

/-- The value of the last pair of `pairs` whose key is `key`. -/
def lastValue (pairs : List (String × String)) (key : String) : Option String :=
  ((pairs.filter (·.1 == key)).getLast?).map (·.2)

/-- The last value of `key`, parsed. -/
def lastParsed {α : Type} (parse : String → Option α) (key : String)
    (pairs : List (String × String)) : Option α :=
  (lastValue pairs key).bind parse

/-- A field that each pair of `key` sets to `f (parse v)`, starting from `f none`, ends
at `f` of the last parse. -/
theorem getD_map_lastValue {α β : Type} (parse : String → Option α) (f : Option α → β)
    (pairs : List (String × String)) (key : String) :
    ((lastValue pairs key).map fun v => f (parse v)).getD (f none) =
      f (lastParsed parse key pairs) := by
  unfold lastParsed
  cases lastValue pairs key <;> rfl

/-- The compression grammar: `fast`, `on` or `true`, `best`, or one ASCII digit. -/
def compressionLevel (value : String) : Option Nat :=
  if value = "fast" then some 1
  else if value = "on" ∨ value = "true" then some 6
  else if value = "best" then some 9
  else match value.toList with
    | [c] => if c.isDigit then some (c.toNat - 48) else none
    | _ => none

/-- A pair whose key is recognised and whose value its key's parser reads. -/
def valueParses (key value : String) : Bool :=
  if key = "pool_min" ∨ key = "pool_max" ∨ key = "stmt_cache_size" then
    (usizeFromStr value).isSome
  else if key = "inactive_connection_ttl" ∨ key = "ttl_check_interval" ∨ key = "conn_ttl" then
    (u64FromStr value).isSome
  else if key = "tcp_keepalive" then (u32FromStr value).isSome
  else if key = "tcp_nodelay" ∨ key = "prefer_socket" then (boolFromStr value).isSome
  else if key = "socket" then true
  else if key = "compression" then (compressionLevel value).isSome
  else false

def lastPoolMin (pairs : List (String × String)) : Nat :=
  (lastParsed usizeFromStr "pool_min" pairs).getD defaultPoolConstraints.min

def lastPoolMax (pairs : List (String × String)) : Nat :=
  (lastParsed usizeFromStr "pool_max" pairs).getD defaultPoolConstraints.max

/-- A check interval below one second becomes thirty seconds. -/
def ttlRule (secs : Nat) : Duration :=
  if Duration.fromSecs secs < Duration.fromSecs 1 then Duration.fromSecs 30
  else Duration.fromSecs secs

/-- The options whose identity comes from `url` and whose every query field holds the
value of the last pair of its key, else the default. -/
structure FromLastPairs (url : Url) (o : MysqlOpts) : Prop where
  user : o.user = getOptsUserFromUrl url
  pass : o.pass = getOptsPassFromUrl url
  dbName : o.dbName = getOptsDbNameFromUrl url
  tcpKeepalive : o.tcpKeepalive = lastParsed u32FromStr "tcp_keepalive" url.queryPairs
  tcpNodelay : o.tcpNodelay =
    (lastParsed boolFromStr "tcp_nodelay" url.queryPairs).getD MysqlOpts.default.tcpNodelay
  localInfileHandler : o.localInfileHandler = none
  poolMin : o.poolOpts.constraints.min = lastPoolMin url.queryPairs
  poolMax : o.poolOpts.constraints.max = lastPoolMax url.queryPairs
  inactiveConnectionTtl : o.poolOpts.inactiveConnectionTtl =
    ((lastParsed u64FromStr "inactive_connection_ttl" url.queryPairs).map Duration.fromSecs).getD
      MysqlOpts.default.poolOpts.inactiveConnectionTtl
  ttlCheckInterval : o.poolOpts.ttlCheckInterval =
    ((lastParsed u64FromStr "ttl_check_interval" url.queryPairs).map ttlRule).getD
      MysqlOpts.default.poolOpts.ttlCheckInterval
  connTtl : o.connTtl = (lastParsed u64FromStr "conn_ttl" url.queryPairs).map Duration.fromSecs
  init : o.init = []
  stmtCacheSize : o.stmtCacheSize =
    (lastParsed usizeFromStr "stmt_cache_size" url.queryPairs).getD MysqlOpts.default.stmtCacheSize
  sslOpts : o.sslOpts = none
  preferSocket : o.preferSocket =
    (lastParsed boolFromStr "prefer_socket" url.queryPairs).getD MysqlOpts.default.preferSocket
  socket : o.socket = lastValue url.queryPairs "socket"
  compression : o.compression =
    (lastParsed compressionLevel "compression" url.queryPairs).map Compression.new
  compression_le : ∀ c, o.compression = some c → c.level ≤ 9
  capabilities : o.capabilities = defaultCaps

theorem lastValue_cons (p : String × String) (pairs : List (String × String)) (key : String) :
    lastValue (p :: pairs) key =
      (lastValue pairs key).or (if p.1 = key then some p.2 else none) := by
  simp only [lastValue, List.filter_cons, beq_iff_eq]
  split
  · cases h : (pairs.filter (·.1 == key)).getLast? <;> simp [List.getLast?_cons, h]
  · cases (pairs.filter (·.1 == key)).getLast? <;> rfl

theorem compressionLevel_le {v : String} {l : Nat} (h : compressionLevel v = some l) : l ≤ 9 := by
  unfold compressionLevel at h
  split_ifs at h
  · cases h; decide
  · cases h; decide
  · cases h; decide
  · split at h
    · split_ifs at h with hd
      cases h
      simp [Char.isDigit, UInt32.le_def, BitVec.le_def, Char.toNat, UInt32.toNat] at hd ⊢
      omega
    · cases h

theorem isDigit_iff {c : Char} : c.isDigit = true ↔ 48 ≤ c.toNat ∧ c.toNat ≤ 57 := by
  simp [Char.isDigit, UInt32.le_def, BitVec.le_def, Char.toNat, UInt32.toNat]

/-- The `compression` branch reads the grammar `compressionLevel`: a byte-long value is
one ASCII character, and a digit byte is a digit character. -/
theorem compressionParam_eq (v : String) :
    compressionParam v = match compressionLevel v with
      | some l => .ok (.compression (Compression.new l))
      | none => .error (.invalidParamValue "compression" v) := by
  unfold compressionParam compressionLevel
  split_ifs
  · rfl
  · rfl
  · rfl
  · rcases hv : v.toList with _ | ⟨c, _ | ⟨c', cs⟩⟩
    · rw [show asBytes v = [] from asBytes_eq_nil.mpr (String.ext hv)]
    · by_cases hc : c.toNat < 128
      · have hb : (c.toNat.toUInt8).toNat = c.toNat := by
          simp [Nat.toUInt8,
            UInt8.toNat_ofNat_of_lt (show c.toNat < UInt8.size by simp [UInt8.size]; omega)]
        rw [asBytes_eq_singleton.mpr ⟨c, hv, hc, hb⟩]
        have hb' : c.toNat.toUInt8.toBitVec.toNat = c.toNat := hb
        simp only [UInt8.le_def, BitVec.le_def, isDigit_iff, hb',
          show (UInt8.toBitVec 48).toNat = 48 from rfl,
          show (UInt8.toBitVec 57).toNat = 57 from rfl]
        split_ifs with hd
        · have h48 : 48 ≤ c.toNat.toUInt8 := by
            simpa [UInt8.le_def, BitVec.le_def, hb'] using hd.1
          rw [UInt8.toNat_sub_of_le _ _ h48, hb]
          rfl
        · rfl
      · have hnd : c.isDigit = false := by
          rw [Bool.eq_false_iff]; intro h; have := isDigit_iff.mp h; omega
        split
        · rename_i b hbs
          obtain ⟨c', hc', hlt, -⟩ := asBytes_eq_singleton.mp hbs
          rw [hv] at hc'; cases hc'; exact absurd hlt hc
        · simp [hnd]
    · split
      · rename_i b hbs
        obtain ⟨c', hc', -⟩ := asBytes_eq_singleton.mp hbs
        rw [hv] at hc'; cases hc'
      · rfl

theorem valueParses_unknown {k v : String} (hk : k ∉ recognizedKeys) :
    valueParses k v = false := by
  simp only [recognizedKeys, List.mem_cons, List.not_mem_nil, or_false, not_or] at hk
  obtain ⟨h1, h2, h3, h4, h5, h6, h7, h8, h9, h10, h11⟩ := hk
  simp [valueParses, h1, h2, h3, h4, h5, h6, h7, h8, h9, h10, h11]

/-- The dispatch accepts exactly the pairs `valueParses` accepts. -/
theorem readParam_ok_iff {k v : String} :
    (∃ q, readParam k v = .ok q) ↔ valueParses k v = true := by
  by_cases hk : k ∈ recognizedKeys
  · simp only [recognizedKeys, List.mem_cons, List.not_mem_nil, or_false] at hk
    rcases hk with rfl | rfl | rfl | rfl | rfl | rfl | rfl | rfl | rfl | rfl | rfl <;>
      simp [valueParses, parsedParam_ok_iff]
    rw [compressionParam_eq]
    cases compressionLevel v <;> simp
  · simp [readParam_unknown hk, valueParses_unknown hk]

/-- The error the dispatch reports for a pair it refuses: the unknown key, or the
recognised key (under the name `tcp_keepalive_ms` for `tcp_keepalive`) and the value. -/
def paramError (k v : String) : UrlError :=
  if k ∈ recognizedKeys then
    .invalidParamValue (if k = "tcp_keepalive" then "tcp_keepalive_ms" else k) v
  else .unknownParameter k

theorem readParam_eq_error {k v : String} {e : UrlError} :
    readParam k v = .error e ↔ valueParses k v = false ∧ paramError k v = e := by
  by_cases hk : k ∈ recognizedKeys
  · have hk' := hk
    simp only [recognizedKeys, List.mem_cons, List.not_mem_nil, or_false] at hk'
    rcases hk' with rfl | rfl | rfl | rfl | rfl | rfl | rfl | rfl | rfl | rfl | rfl <;>
      simp [valueParses, parsedParam_eq_error, paramError, recognizedKeys]
    rw [compressionParam_eq]
    cases compressionLevel v <;> simp
  · simp [readParam_unknown hk, valueParses_unknown hk, paramError, hk]

/-! ## The loop -/

theorem foldlM_ok_accepted : ∀ {L : List (String × String)} {st st' : QueryState},
    L.foldlM queryParam st = .ok st' → ∀ p ∈ L, valueParses p.1 p.2 = true
  | [], _, _, _ => by simp
  | p :: L, st, st', h => by
    rw [foldlM_queryParam_cons] at h
    split at h
    · rename_i q hq
      intro x hx
      rcases List.mem_cons.mp hx with rfl | hx
      · exact readParam_ok_iff.mp ⟨q, hq⟩
      · exact foldlM_ok_accepted h x hx
    · cases h

theorem foldlM_ok_of_accepted : ∀ {L : List (String × String)} (st : QueryState),
    (∀ p ∈ L, valueParses p.1 p.2 = true) → ∃ st', L.foldlM queryParam st = .ok st'
  | [], st, _ => ⟨st, rfl⟩
  | p :: L, st, h => by
    obtain ⟨q, hq⟩ := readParam_ok_iff.mpr (h p (List.mem_cons_self _ _))
    rw [foldlM_queryParam_cons, hq]
    exact foldlM_ok_of_accepted _ fun x hx => h x (List.mem_cons_of_mem _ hx)

/-- A property that every parameter keeps holds at the end of the loop. -/
theorem foldlM_preserves (P : QueryState → Prop)
    (H : ∀ (q : Param) st, P st → P (q.apply st)) :
    ∀ {L : List (String × String)} {st st' : QueryState}, L.foldlM queryParam st = .ok st' →
      P st → P st'
  | [], st, st', h, hp => by cases h; exact hp
  | p :: L, st, st', h, hp => by
    rw [foldlM_queryParam_cons] at h
    split at h
    · exact foldlM_preserves P H h (H _ _ hp)
    · cases h

section
variable {β : Type} (get : QueryState → β)

/-- A field no parameter writes keeps its value through the loop. -/
theorem foldlM_keeps (H : ∀ (q : Param) st, get (q.apply st) = get st)
    {L : List (String × String)} {st st' : QueryState} (h : L.foldlM queryParam st = .ok st') :
    get st' = get st :=
  foldlM_preserves (get · = get st) (fun q s hs => (H q s).trans hs) h rfl

/-- Last write wins: a field that the pairs of key `K` set to `val` of their value,
and that the other pairs leave alone, ends at the value of the last `K` pair. -/
theorem foldlM_lastValue (K : String) (val : String → β)
    (H : ∀ k v (q : Param) st, readParam k v = .ok q →
      get (q.apply st) = if k = K then val v else get st) :
    ∀ {L : List (String × String)} {st st' : QueryState}, L.foldlM queryParam st = .ok st' →
      get st' = ((lastValue L K).map val).getD (get st)
  | [], st, st', h => by cases h; rfl
  | p :: L, st, st', h => by
    rw [foldlM_queryParam_cons] at h
    split at h
    · rename_i q hq
      rw [foldlM_lastValue K val H h, H _ _ _ _ hq, lastValue_cons]
      cases lastValue L K <;> split <;> rfl
    · cases h

end

/-- A split of `p :: L` at a first `Q` element after `P` elements takes `p` itself, or
passes `p` and splits `L`. -/
theorem exists_split_cons {α : Type} {P Q : α → Prop} {p : α} {L : List α} :
    (∃ pre x post, p :: L = pre ++ x :: post ∧ (∀ y ∈ pre, P y) ∧ Q x) ↔
      Q p ∨ P p ∧ ∃ pre x post, L = pre ++ x :: post ∧ (∀ y ∈ pre, P y) ∧ Q x := by
  constructor
  · rintro ⟨_ | ⟨y, pre⟩, x, post, hL, hpre, hx⟩
    · obtain ⟨rfl, rfl⟩ := List.cons.inj hL
      exact .inl hx
    · obtain ⟨rfl, rfl⟩ := List.cons.inj hL
      exact .inr ⟨hpre _ (List.mem_cons_self _ _), pre, x, post, rfl,
        fun z hz => hpre z (List.mem_cons_of_mem _ hz), hx⟩
  · rintro (hp | ⟨hp, pre, x, post, rfl, hpre, hx⟩)
    · exact ⟨[], p, L, rfl, nofun, hp⟩
    · exact ⟨p :: pre, x, post, rfl, List.forall_mem_cons.mpr ⟨hp, hpre⟩, hx⟩

/-- The loop stops at the first pair it refuses, with that pair's error. -/
theorem foldlM_eq_error : ∀ {L : List (String × String)} {st : QueryState} {e : UrlError},
    L.foldlM queryParam st = .error e ↔ ∃ pre p post, L = pre ++ p :: post ∧
      (∀ x ∈ pre, valueParses x.1 x.2 = true) ∧ readParam p.1 p.2 = .error e
  | [], st, e => by simp [List.foldlM, pure, Except.pure]
  | p :: L, st, e => by
    rw [foldlM_queryParam_cons, exists_split_cons]
    cases hp : readParam p.1 p.2 with
    | error e' => simp [(readParam_eq_error.mp hp).1]
    | ok q =>
      rw [foldlM_eq_error]
      simp [readParam_ok_iff.mp ⟨q, hp⟩]

/-! ## What one pair does to each field -/

/-- What a parameter leaves: every field but the one of its key. -/
structure KeepsOtherFields (q : Param) (st : QueryState) : Prop where
  poolMin : q.key ≠ "pool_min" → (q.apply st).poolMin = st.poolMin
  poolMax : q.key ≠ "pool_max" → (q.apply st).poolMax = st.poolMax
  inactiveConnectionTtl : q.key ≠ "inactive_connection_ttl" →
    (q.apply st).opts.poolOpts.inactiveConnectionTtl = st.opts.poolOpts.inactiveConnectionTtl
  ttlCheckInterval : q.key ≠ "ttl_check_interval" →
    (q.apply st).opts.poolOpts.ttlCheckInterval = st.opts.poolOpts.ttlCheckInterval
  connTtl : q.key ≠ "conn_ttl" → (q.apply st).opts.connTtl = st.opts.connTtl
  tcpKeepalive : q.key ≠ "tcp_keepalive" → (q.apply st).opts.tcpKeepalive = st.opts.tcpKeepalive
  tcpNodelay : q.key ≠ "tcp_nodelay" → (q.apply st).opts.tcpNodelay = st.opts.tcpNodelay
  stmtCacheSize : q.key ≠ "stmt_cache_size" →
    (q.apply st).opts.stmtCacheSize = st.opts.stmtCacheSize
  preferSocket : q.key ≠ "prefer_socket" → (q.apply st).opts.preferSocket = st.opts.preferSocket
  socket : q.key ≠ "socket" → (q.apply st).opts.socket = st.opts.socket
  compression : q.key ≠ "compression" → (q.apply st).opts.compression = st.opts.compression

theorem keepsOtherFields (q : Param) (st : QueryState) : KeepsOtherFields q st := by
  cases q <;> constructor <;> simp [Param.key, Param.apply]

/-- A field that only the parameter of key `K` writes: a pair of that key sets it to the
value `x` that key's parse gives, any other pair leaves it. -/
theorem step_field {β : Type} (get : QueryState → β) (K : String) {k v : String} {q : Param}
    {st : QueryState} (x : β) (hset : ∀ q st, readParam K v = .ok q → get (q.apply st) = x)
    (hkeep : ∀ (q : Param) st, q.key ≠ K → get (q.apply st) = get st)
    (h : readParam k v = .ok q) : get (q.apply st) = if k = K then x else get st := by
  split
  · subst_vars; exact hset q st h
  · exact hkeep q st (by rw [readParam_key h]; assumption)

/-- The branch of a key that parses its value builds its parameter from the parsed value. -/
theorem readParam_parsed {α : Type} {K param v : String} {parse : String → Option α}
    {mk : α → Param} {q : Param} (hK : readParam K v = parsedParam param parse mk v)
    (h : readParam K v = .ok q) : ∃ x, parse v = some x ∧ q = mk x := by
  obtain ⟨x, hx, rfl⟩ := parsedParam_eq_ok.mp (hK ▸ h)
  exact ⟨x, hx, rfl⟩

section
variable (k v : String) (q : Param) (st : QueryState) (h : readParam k v = .ok q)
include h

theorem step_poolMin :
    (q.apply st).poolMin =
      if k = "pool_min" then (usizeFromStr v).getD defaultPoolConstraints.min else st.poolMin := by
  refine step_field (·.poolMin) "pool_min" _ (fun q st h => ?_)
    (fun q st => (keepsOtherFields q st).poolMin) h
  obtain ⟨x, hx, rfl⟩ := readParam_parsed (readParam_poolMin v) h; simp [Param.apply, hx]

theorem step_poolMax :
    (q.apply st).poolMax =
      if k = "pool_max" then (usizeFromStr v).getD defaultPoolConstraints.max else st.poolMax := by
  refine step_field (·.poolMax) "pool_max" _ (fun q st h => ?_)
    (fun q st => (keepsOtherFields q st).poolMax) h
  obtain ⟨x, hx, rfl⟩ := readParam_parsed (readParam_poolMax v) h; simp [Param.apply, hx]

theorem step_inactiveConnectionTtl :
    (q.apply st).opts.poolOpts.inactiveConnectionTtl =
      if k = "inactive_connection_ttl" then
        ((u64FromStr v).map Duration.fromSecs).getD MysqlOpts.default.poolOpts.inactiveConnectionTtl
      else st.opts.poolOpts.inactiveConnectionTtl := by
  refine step_field (·.opts.poolOpts.inactiveConnectionTtl) "inactive_connection_ttl" _
    (fun q st h => ?_) (fun q st => (keepsOtherFields q st).inactiveConnectionTtl) h
  obtain ⟨x, hx, rfl⟩ := readParam_parsed (readParam_inactiveConnectionTtl v) h
  simp [Param.apply, hx]

theorem step_ttlCheckInterval :
    (q.apply st).opts.poolOpts.ttlCheckInterval =
      if k = "ttl_check_interval" then
        ((u64FromStr v).map ttlRule).getD MysqlOpts.default.poolOpts.ttlCheckInterval
      else st.opts.poolOpts.ttlCheckInterval := by
  refine step_field (·.opts.poolOpts.ttlCheckInterval) "ttl_check_interval" _ (fun q st h => ?_)
    (fun q st => (keepsOtherFields q st).ttlCheckInterval) h
  obtain ⟨x, hx, rfl⟩ := readParam_parsed (readParam_ttlCheckInterval v) h
  simp only [Param.apply, PoolOpts.withTtlCheckInterval_ttlCheckInterval, hx, Option.map_some',
    Option.getD_some, ttlRule]
  rfl

theorem step_connTtl :
    (q.apply st).opts.connTtl =
      if k = "conn_ttl" then (u64FromStr v).map Duration.fromSecs else st.opts.connTtl := by
  refine step_field (·.opts.connTtl) "conn_ttl" _ (fun q st h => ?_)
    (fun q st => (keepsOtherFields q st).connTtl) h
  obtain ⟨x, hx, rfl⟩ := readParam_parsed (readParam_connTtl v) h; simp [Param.apply, hx]

theorem step_tcpKeepalive :
    (q.apply st).opts.tcpKeepalive =
      if k = "tcp_keepalive" then u32FromStr v else st.opts.tcpKeepalive := by
  refine step_field (·.opts.tcpKeepalive) "tcp_keepalive" _ (fun q st h => ?_)
    (fun q st => (keepsOtherFields q st).tcpKeepalive) h
  obtain ⟨x, hx, rfl⟩ := readParam_parsed (readParam_tcpKeepalive v) h; simp [Param.apply, hx]

theorem step_tcpNodelay :
    (q.apply st).opts.tcpNodelay =
      if k = "tcp_nodelay" then (boolFromStr v).getD MysqlOpts.default.tcpNodelay
      else st.opts.tcpNodelay := by
  refine step_field (·.opts.tcpNodelay) "tcp_nodelay" _ (fun q st h => ?_)
    (fun q st => (keepsOtherFields q st).tcpNodelay) h
  obtain ⟨x, hx, rfl⟩ := readParam_parsed (readParam_tcpNodelay v) h; simp [Param.apply, hx]

theorem step_stmtCacheSize :
    (q.apply st).opts.stmtCacheSize =
      if k = "stmt_cache_size" then (usizeFromStr v).getD MysqlOpts.default.stmtCacheSize
      else st.opts.stmtCacheSize := by
  refine step_field (·.opts.stmtCacheSize) "stmt_cache_size" _ (fun q st h => ?_)
    (fun q st => (keepsOtherFields q st).stmtCacheSize) h
  obtain ⟨x, hx, rfl⟩ := readParam_parsed (readParam_stmtCacheSize v) h
  simp [Param.apply, hx]

theorem step_preferSocket :
    (q.apply st).opts.preferSocket =
      if k = "prefer_socket" then (boolFromStr v).getD MysqlOpts.default.preferSocket
      else st.opts.preferSocket := by
  refine step_field (·.opts.preferSocket) "prefer_socket" _ (fun q st h => ?_)
    (fun q st => (keepsOtherFields q st).preferSocket) h
  obtain ⟨x, hx, rfl⟩ := readParam_parsed (readParam_preferSocket v) h; simp [Param.apply, hx]

theorem step_socket :
    (q.apply st).opts.socket = if k = "socket" then some v else st.opts.socket := by
  refine step_field (·.opts.socket) "socket" _ (fun q st h => ?_)
    (fun q st => (keepsOtherFields q st).socket) h
  cases (readParam_socket v).symm.trans h
  rfl

theorem step_compression :
    (q.apply st).opts.compression =
      if k = "compression" then (compressionLevel v).map Compression.new
      else st.opts.compression := by
  refine step_field (·.opts.compression) "compression" _ (fun q st h => ?_)
    (fun q st => (keepsOtherFields q st).compression) h
  rw [readParam_compression, compressionParam_eq] at h
  cases hl : compressionLevel v <;> rw [hl] at h <;> cases h
  rfl

end

/-! ## The whole parse -/

/-- The loop's first state: the draft of `from_url_basic` and the default bounds. -/
def start (url : Url) : QueryState :=
  ⟨{ MysqlOpts.default with
    user := getOptsUserFromUrl url, pass := getOptsPassFromUrl url,
    dbName := getOptsDbNameFromUrl url },
    defaultPoolConstraints.min, defaultPoolConstraints.max⟩

/-- The draft `mysqlopts_from_url` publishes after a loop that ends in `st`. -/
def finish (st : QueryState) : Except UrlError MysqlOpts :=
  match PoolConstraints.new st.poolMin st.poolMax with
  | some c => .ok { st.opts with poolOpts := st.opts.poolOpts.withConstraints c }
  | none => .error (.invalidPoolConstraints st.poolMin st.poolMax)

theorem mysqloptsFromUrl_unsupportedScheme {url : Url} (h : url.scheme ≠ "mysql") :
    mysqloptsFromUrl url = .error (.unsupportedScheme url.scheme) := by
  simp only [mysqloptsFromUrl, fromUrlBasic, h, ne_eq, not_false_eq_true, if_true]
  rfl

theorem mysqloptsFromUrl_invalid {url : Url} (hscheme : url.scheme = "mysql")
    (h : (url.cannotBeABase || !url.hasHost) = true) : mysqloptsFromUrl url = .error .invalid := by
  simp only [mysqloptsFromUrl, fromUrlBasic, hscheme, h, ne_eq, not_true_eq_false, if_false,
    if_true]
  rfl

section
variable {url : Url} (hscheme : url.scheme = "mysql") (hbase : url.cannotBeABase = false)
  (hhost : url.hasHost = true)
include hscheme hbase hhost

theorem mysqloptsFromUrl_eq_run :
    mysqloptsFromUrl url = (url.queryPairs.foldlM queryParam (start url)).bind finish := by
  simp only [mysqloptsFromUrl, fromUrlBasic, hscheme, hbase, hhost, ne_eq, not_true_eq_false,
    if_false, Bool.not_true, Bool.or_false]
  rfl

end

/-- What a parse that succeeds went through: the scheme and host checks, the loop from
`start url`, and the pool bounds. -/
theorem mysqloptsFromUrl_eq_ok {url : Url} {m : MysqlOpts} :
    mysqloptsFromUrl url = .ok m ↔ url.scheme = "mysql" ∧ url.cannotBeABase = false ∧
      url.hasHost = true ∧
        ∃ st, url.queryPairs.foldlM queryParam (start url) = .ok st ∧ finish st = .ok m := by
  by_cases hs : url.scheme = "mysql"
  · cases hb : url.cannotBeABase <;> cases hh : url.hasHost <;>
      simp [mysqloptsFromUrl_invalid, mysqloptsFromUrl_eq_run, bind_eq_ok, hs, hb, hh]
  · simp [mysqloptsFromUrl_unsupportedScheme hs, hs]

theorem finish_eq_ok {st : QueryState} {m : MysqlOpts} :
    finish st = .ok m ↔ ∃ c, PoolConstraints.new st.poolMin st.poolMax = some c ∧
      m = { st.opts with poolOpts := st.opts.poolOpts.withConstraints c } := by
  unfold finish
  cases PoolConstraints.new st.poolMin st.poolMax <;> simp [eq_comm]

theorem finish_eq_error {st : QueryState} {e : UrlError} :
    finish st = .error e ↔
      st.poolMax < st.poolMin ∧ .invalidPoolConstraints st.poolMin st.poolMax = e := by
  unfold finish
  cases h : PoolConstraints.new st.poolMin st.poolMax with
  | none => simp [PoolConstraints.new_eq_none.mp h]
  | some c =>
    obtain ⟨h1, h2⟩ := PoolConstraints.new_eq_some.mp h
    have := c.min_le_max
    simp only [reduceCtorEq, false_iff, not_and]
    omega

/-- The fields of the draft at the end of a loop from `start url`. -/
theorem run_fields {url : Url} {st : QueryState}
    (h : url.queryPairs.foldlM queryParam (start url) = .ok st) :
    st.poolMin = lastPoolMin url.queryPairs ∧ st.poolMax = lastPoolMax url.queryPairs ∧
      ∀ c : PoolConstraints, c.min = st.poolMin → c.max = st.poolMax →
        FromLastPairs url { st.opts with poolOpts := st.opts.poolOpts.withConstraints c } := by
  have keep := foldlM_keeps (fun st => (st.opts.user, st.opts.pass, st.opts.dbName, st.opts.init,
    st.opts.localInfileHandler, st.opts.sslOpts, st.opts.capabilities))
    (by intro q st; cases q <;> rfl) h
  simp only [start, Prod.mk.injEq] at keep
  obtain ⟨hu, hp, hd, hi, hl, hs, hc⟩ := keep
  have last := fun {β} get K (val : String → β) H => foldlM_lastValue get K val H h
  have hmin : st.poolMin = lastPoolMin url.queryPairs :=
    (last (·.poolMin) "pool_min" _ step_poolMin).trans
      (getD_map_lastValue usizeFromStr (·.getD defaultPoolConstraints.min) _ _)
  have hmax : st.poolMax = lastPoolMax url.queryPairs :=
    (last (·.poolMax) "pool_max" _ step_poolMax).trans
      (getD_map_lastValue usizeFromStr (·.getD defaultPoolConstraints.max) _ _)
  have hcomp : st.opts.compression =
      (lastParsed compressionLevel "compression" url.queryPairs).map Compression.new :=
    (last (·.opts.compression) "compression" _ step_compression).trans
      (getD_map_lastValue compressionLevel (·.map Compression.new) _ _)
  refine ⟨hmin, hmax, fun c hcmin hcmax =>
    ⟨hu, hp, hd, ?_, ?_, hl, hcmin.trans hmin, hcmax.trans hmax, ?_, ?_, ?_, hi, ?_, hs, ?_, ?_,
      hcomp, ?_, hc⟩⟩
  · exact (last (·.opts.tcpKeepalive) "tcp_keepalive" _ step_tcpKeepalive).trans
      (getD_map_lastValue u32FromStr id _ _)
  · exact (last (·.opts.tcpNodelay) "tcp_nodelay" _ step_tcpNodelay).trans
      (getD_map_lastValue boolFromStr (·.getD MysqlOpts.default.tcpNodelay) _ _)
  · exact (last (·.opts.poolOpts.inactiveConnectionTtl) "inactive_connection_ttl" _
      step_inactiveConnectionTtl).trans (getD_map_lastValue u64FromStr
        (fun o => (o.map Duration.fromSecs).getD MysqlOpts.default.poolOpts.inactiveConnectionTtl)
        _ _)
  · exact (last (·.opts.poolOpts.ttlCheckInterval) "ttl_check_interval" _
      step_ttlCheckInterval).trans (getD_map_lastValue u64FromStr
        (fun o => (o.map ttlRule).getD MysqlOpts.default.poolOpts.ttlCheckInterval) _ _)
  · exact (last (·.opts.connTtl) "conn_ttl" _ step_connTtl).trans
      (getD_map_lastValue u64FromStr (·.map Duration.fromSecs) _ _)
  · exact (last (·.opts.stmtCacheSize) "stmt_cache_size" _ step_stmtCacheSize).trans
      (getD_map_lastValue usizeFromStr (·.getD MysqlOpts.default.stmtCacheSize) _ _)
  · exact (last (·.opts.preferSocket) "prefer_socket" _ step_preferSocket).trans
      (getD_map_lastValue boolFromStr (·.getD MysqlOpts.default.preferSocket) _ _)
  · exact ((last (·.opts.socket) "socket" _ step_socket).trans
      (getD_map_lastValue some id _ _)).trans (Option.bind_some _)
  · intro c' hc'
    rw [show st.opts.compression = _ from hcomp, lastParsed] at hc'
    obtain ⟨l, hl, rfl⟩ := Option.map_eq_some'.mp hc'
    obtain ⟨v, -, hv⟩ := Option.bind_eq_some.mp hl
    exact compressionLevel_le hv

theorem fromLastPairs_of_ok {url : Url} {o : MysqlOpts} (h : mysqloptsFromUrl url = .ok o) :
    FromLastPairs url o := by
  obtain ⟨-, -, -, st, hrun, hfin⟩ := mysqloptsFromUrl_eq_ok.mp h
  obtain ⟨c, hc, rfl⟩ := finish_eq_ok.mp hfin
  obtain ⟨h1, h2⟩ := PoolConstraints.new_eq_some.mp hc
  exact (run_fields hrun).2.2 c h1 h2

section
variable {url : Url} (hscheme : url.scheme = "mysql") (hbase : url.cannotBeABase = false)
  (hhost : url.hasHost = true)
include hscheme hbase hhost

theorem mysqloptsFromUrl_ok_iff :
    (∃ o, mysqloptsFromUrl url = .ok o) ↔
      (∀ p ∈ url.queryPairs, valueParses p.1 p.2 = true) ∧
        lastPoolMin url.queryPairs ≤ lastPoolMax url.queryPairs := by
  constructor
  · rintro ⟨o, h⟩
    obtain ⟨-, -, -, st, hrun, hfin⟩ := mysqloptsFromUrl_eq_ok.mp h
    obtain ⟨c, hc, -⟩ := finish_eq_ok.mp hfin
    obtain ⟨hmin, hmax, -⟩ := run_fields hrun
    obtain ⟨h1, h2⟩ := PoolConstraints.new_eq_some.mp hc
    exact ⟨foldlM_ok_accepted hrun, hmin ▸ hmax ▸ h1 ▸ h2 ▸ c.min_le_max⟩
  · rintro ⟨hacc, hle⟩
    obtain ⟨st, hrun⟩ := foldlM_ok_of_accepted (start url) hacc
    obtain ⟨hmin, hmax, -⟩ := run_fields hrun
    have hc : PoolConstraints.new st.poolMin st.poolMax =
        some ⟨st.poolMin, st.poolMax, by omega⟩ :=
      PoolConstraints.new_eq_some.mpr ⟨rfl, rfl⟩
    exact ⟨_, mysqloptsFromUrl_eq_ok.mpr
      ⟨hscheme, hbase, hhost, st, hrun, finish_eq_ok.mpr ⟨_, hc, rfl⟩⟩⟩

/-- **The query of a URL, pair by pair.** For a URL that passes the scheme and host
checks, the parse succeeds exactly when every query pair has a recognised key and a
value its key's parser reads, and the last `pool_min` (or 10) is at most the last
`pool_max` (or 100); and what it returns holds, in every field, the value of the last
pair of that field's key, or the default. -/
theorem mysqloptsFromUrl_lastPairs :
    ((∃ o, mysqloptsFromUrl url = .ok o) ↔
      (∀ p ∈ url.queryPairs, valueParses p.1 p.2 = true) ∧
        lastPoolMin url.queryPairs ≤ lastPoolMax url.queryPairs) ∧
    ∀ o, mysqloptsFromUrl url = .ok o → FromLastPairs url o :=
  ⟨mysqloptsFromUrl_ok_iff hscheme hbase hhost, fun _ => fromLastPairs_of_ok⟩

end

/-- `mysql://localhost/db?pool_max=5&pool_min=20&pool_min=1`: the bounds pass through
`min > max` on the way and end ordered. -/
def boundsUrl : Url :=
  { scheme := "mysql", cannotBeABase := false, username := "", password := none,
    hostInternal := .domain, hostSlice := "localhost", port := some 3306, path := "/db",
    queryPairs := [("pool_max", "5"), ("pool_min", "20"), ("pool_min", "1")] }

theorem mysqloptsFromUrl_lastPairs_boundsUrl :
    (boundsUrl.scheme = "mysql" ∧ boundsUrl.cannotBeABase = false ∧
      boundsUrl.hasHost = true) ∧
    (((∃ o, mysqloptsFromUrl boundsUrl = .ok o) ↔
      (∀ p ∈ boundsUrl.queryPairs, valueParses p.1 p.2 = true) ∧
        lastPoolMin boundsUrl.queryPairs ≤ lastPoolMax boundsUrl.queryPairs) ∧
    ∀ o, mysqloptsFromUrl boundsUrl = .ok o → FromLastPairs boundsUrl o) :=
  ⟨⟨rfl, rfl, rfl⟩, mysqloptsFromUrl_lastPairs rfl rfl rfl⟩

/-! ## Which error a refused query reports -/

section
variable {url : Url} (hscheme : url.scheme = "mysql") (hbase : url.cannotBeABase = false)
  (hhost : url.hasHost = true)
include hscheme hbase hhost

/-- **Which error a refused query reports.** The first pair that is refused decides:
its unknown key, or its key (with `tcp_keepalive` named `tcp_keepalive_ms`) and raw
value. The pool bounds are refused only when every pair was accepted. -/
theorem mysqloptsFromUrl_eq_error (e : UrlError) :
    mysqloptsFromUrl url = .error e ↔
      (∃ pre p post, url.queryPairs = pre ++ p :: post ∧
        (∀ x ∈ pre, valueParses x.1 x.2 = true) ∧ valueParses p.1 p.2 = false ∧
        paramError p.1 p.2 = e) ∨
      ((∀ p ∈ url.queryPairs, valueParses p.1 p.2 = true) ∧
        lastPoolMax url.queryPairs < lastPoolMin url.queryPairs ∧
        .invalidPoolConstraints (lastPoolMin url.queryPairs) (lastPoolMax url.queryPairs) = e) := by
  rw [mysqloptsFromUrl_eq_run hscheme hbase hhost, bind_eq_error, foldlM_eq_error]
  simp only [readParam_eq_error]
  refine or_congr Iff.rfl ⟨?_, ?_⟩
  · rintro ⟨st, hrun, hfin⟩
    obtain ⟨hmin, hmax, -⟩ := run_fields hrun
    exact ⟨foldlM_ok_accepted hrun, hmin ▸ hmax ▸ finish_eq_error.mp hfin⟩
  · rintro ⟨hall, hbounds⟩
    obtain ⟨st, hrun⟩ := foldlM_ok_of_accepted (start url) hall
    obtain ⟨hmin, hmax, -⟩ := run_fields hrun
    exact ⟨st, hrun, finish_eq_error.mpr (by rw [hmin, hmax]; exact hbounds)⟩

end

/-- `mysql://localhost/db?tcp_keepalive=10s`, once its port is set. -/
def keepaliveUrl : Url :=
  { scheme := "mysql", cannotBeABase := false, username := "", password := none,
    hostInternal := .domain, hostSlice := "localhost", port := some 3306, path := "/db",
    queryPairs := [("tcp_keepalive", "10s")] }

theorem mysqloptsFromUrl_eq_error_keepaliveUrl :
    (keepaliveUrl.scheme = "mysql" ∧ keepaliveUrl.cannotBeABase = false ∧
      keepaliveUrl.hasHost = true) ∧
    (mysqloptsFromUrl keepaliveUrl = .error (.invalidParamValue "tcp_keepalive_ms" "10s") ↔
      (∃ pre p post, keepaliveUrl.queryPairs = pre ++ p :: post ∧
        (∀ x ∈ pre, valueParses x.1 x.2 = true) ∧ valueParses p.1 p.2 = false ∧
        paramError p.1 p.2 = .invalidParamValue "tcp_keepalive_ms" "10s") ∨
      ((∀ p ∈ keepaliveUrl.queryPairs, valueParses p.1 p.2 = true) ∧
        lastPoolMax keepaliveUrl.queryPairs < lastPoolMin keepaliveUrl.queryPairs ∧
        UrlError.invalidPoolConstraints (lastPoolMin keepaliveUrl.queryPairs)
          (lastPoolMax keepaliveUrl.queryPairs) = .invalidParamValue "tcp_keepalive_ms" "10s")) :=
  ⟨⟨rfl, rfl, rfl⟩, @mysqloptsFromUrl_eq_error keepaliveUrl rfl rfl rfl _⟩

/-- A bad `tcp_keepalive` value is reported under `tcp_keepalive_ms`, a name the query
does not have. -/
theorem tcpKeepalive_error_param :
    mysqloptsFromUrl keepaliveUrl = .error (.invalidParamValue "tcp_keepalive_ms" "10s") := by
  decide

end MysqlAsyncOpts.Spec.QueryPairs
