import MysqlAsyncOpts.Spec.QueryPairs

/-! # The query, read without the loop

`mysqlopts_from_url` runs one loop over the query pairs, checking and assigning each in
turn, and compares the pool bounds once after it. `lastWinsParse` reads the same URL
without a loop: the first pair that does not parse decides the error; else the last
bounds are compared; else every field takes the last value of its key. The loop
computes exactly this function for every URL, so a pair that a later pair of its key
overwrites is checked and has no other effect. -/

namespace MysqlAsyncOpts.Spec.LastWins
open MysqlAsyncOpts.Lib.Core MysqlAsyncOpts.Lib.UrlCrate MysqlAsyncOpts.Lib.Protocol
open MysqlAsyncOpts.Opts.Pool MysqlAsyncOpts.Opts.Options MysqlAsyncOpts.Opts.FromUrl
open MysqlAsyncOpts.Spec.QueryPairs

/-- The options of `url` with pool constraints `c`: the identity from the URL, and each
query field from the last pair of its key, else the default. -/
def lastPairsOpts (url : Url) (c : PoolConstraints) : MysqlOpts where
  user := getOptsUserFromUrl url
  pass := getOptsPassFromUrl url
  dbName := getOptsDbNameFromUrl url
  tcpKeepalive := lastParsed u32FromStr "tcp_keepalive" url.queryPairs
  tcpNodelay := (lastParsed boolFromStr "tcp_nodelay" url.queryPairs).getD
    MysqlOpts.default.tcpNodelay
  localInfileHandler := none
  poolOpts :=
    ⟨c, ((lastParsed u64FromStr "inactive_connection_ttl" url.queryPairs).map
          Duration.fromSecs).getD MysqlOpts.default.poolOpts.inactiveConnectionTtl,
      ((lastParsed u64FromStr "ttl_check_interval" url.queryPairs).map ttlRule).getD
        MysqlOpts.default.poolOpts.ttlCheckInterval⟩
  connTtl := (lastParsed u64FromStr "conn_ttl" url.queryPairs).map Duration.fromSecs
  init := []
  stmtCacheSize := (lastParsed usizeFromStr "stmt_cache_size" url.queryPairs).getD
    MysqlOpts.default.stmtCacheSize
  sslOpts := none
  preferSocket := (lastParsed boolFromStr "prefer_socket" url.queryPairs).getD
    MysqlOpts.default.preferSocket
  socket := lastValue url.queryPairs "socket"
  compression := (lastParsed compressionLevel "compression" url.queryPairs).map Compression.new
  capabilities := defaultCaps

/-- The parse as the query's last values describe it: the scheme and host checks, then
the first pair that does not parse, then the last bounds, then `lastPairsOpts`. -/
def lastWinsParse (url : Url) : Except UrlError MysqlOpts :=
  if url.scheme ≠ "mysql" then .error (.unsupportedScheme url.scheme)
  else if url.cannotBeABase || !url.hasHost then .error .invalid
  else match url.queryPairs.find? (fun p => !valueParses p.1 p.2) with
    | some p => .error (paramError p.1 p.2)
    | none =>
      match PoolConstraints.new (lastPoolMin url.queryPairs) (lastPoolMax url.queryPairs) with
      | some c => .ok (lastPairsOpts url c)
      | none =>
        .error (.invalidPoolConstraints (lastPoolMin url.queryPairs) (lastPoolMax url.queryPairs))

/-! ## `FromLastPairs` fixes every field -/

theorem eq_lastPairsOpts {url : Url} {o : MysqlOpts} (F : FromLastPairs url o) :
    o = lastPairsOpts url o.poolOpts.constraints := by
  obtain ⟨_, _, _, _, _, _, ⟨_, _, _⟩, _, _, _, _, _, _, _, _⟩ := o
  obtain ⟨⟩ := F
  subst_vars
  rfl

theorem fromLastPairs_unique {url : Url} {o₁ o₂ : MysqlOpts} (F₁ : FromLastPairs url o₁)
    (F₂ : FromLastPairs url o₂) : o₁ = o₂ := by
  have hc : o₁.poolOpts.constraints = o₂.poolOpts.constraints :=
    PoolConstraints.ext (F₁.poolMin.trans F₂.poolMin.symm) (F₁.poolMax.trans F₂.poolMax.symm)
  rw [eq_lastPairsOpts F₁, eq_lastPairsOpts F₂, hc]

/-! ## The loop computes the declarative parse -/

/-- **The loop is last-write-wins.** For every URL, `mysqlopts_from_url` returns what
`lastWinsParse` describes: the same error, or the same options. -/
theorem mysqloptsFromUrl_eq_lastWinsParse (url : Url) :
    mysqloptsFromUrl url = lastWinsParse url := by
  by_cases hs : url.scheme = "mysql"
  swap
  · simp [mysqloptsFromUrl_unsupportedScheme hs, lastWinsParse, hs]
  cases hg : (url.cannotBeABase || !url.hasHost)
  swap
  · simp [mysqloptsFromUrl_invalid hs hg, lastWinsParse, hs, hg]
  have ⟨hbase, hhost⟩ : url.cannotBeABase = false ∧ url.hasHost = true := by simpa using hg
  simp only [mysqloptsFromUrl_eq_run hs hbase hhost, lastWinsParse, hs, hg, ne_eq,
    not_true_eq_false, if_false, Bool.false_eq_true]
  cases hrun : url.queryPairs.foldlM queryParam (start url) with
  | error e =>
    obtain ⟨pre, p, post, hL, hpre, hp⟩ := foldlM_eq_error.mp hrun
    obtain ⟨hbad, rfl⟩ := readParam_eq_error.mp hp
    have hfind : url.queryPairs.find? (fun p => !valueParses p.1 p.2) = some p :=
      List.find?_eq_some.mpr ⟨by simp [hbad], pre, post, hL, fun x hx => by simp [hpre x hx]⟩
    rw [hfind]
    rfl
  | ok st =>
    have hfind : url.queryPairs.find? (fun p => !valueParses p.1 p.2) = none :=
      List.find?_eq_none.mpr fun x hx => by simp [foldlM_ok_accepted hrun x hx]
    obtain ⟨hmin, hmax, hfields⟩ := run_fields hrun
    rw [hfind, ← hmin, ← hmax]
    show finish st = _
    unfold finish
    cases hc : PoolConstraints.new st.poolMin st.poolMax with
    | none => rfl
    | some c =>
      obtain ⟨h1, h2⟩ := PoolConstraints.new_eq_some.mp hc
      exact congrArg Except.ok (eq_lastPairsOpts (hfields c h1 h2))

example : lastWinsParse
    { scheme := "mysql", cannotBeABase := false, username := "", password := none,
      hostInternal := .domain, hostSlice := "localhost", port := some 3306, path := "/db",
      queryPairs := [("pool_min", "x"), ("foo", "1")] } =
    .error (.invalidParamValue "pool_min" "x") := by decide

/-! ## Only the last pair of a key counts -/

/-- **An overwritten pair has no effect.** Two URLs that parse, with the same user,
password and database, and the same last value for every recognised key, give the same
options, whatever pairs came before those last ones. -/
theorem mysqloptsFromUrl_eq_of_lastValue {u₁ u₂ : Url} {o₁ o₂ : MysqlOpts}
    (h₁ : mysqloptsFromUrl u₁ = .ok o₁) (h₂ : mysqloptsFromUrl u₂ = .ok o₂)
    (huser : getOptsUserFromUrl u₁ = getOptsUserFromUrl u₂)
    (hpass : getOptsPassFromUrl u₁ = getOptsPassFromUrl u₂)
    (hdb : getOptsDbNameFromUrl u₁ = getOptsDbNameFromUrl u₂)
    (hlast : ∀ K ∈ recognizedKeys, lastValue u₁.queryPairs K = lastValue u₂.queryPairs K) :
    o₁ = o₂ := by
  simp only [recognizedKeys, List.mem_cons, List.not_mem_nil, or_false, forall_eq_or_imp,
    forall_eq] at hlast
  obtain ⟨hmin, hmax, hittl, hcheck, hconn, hka, hnd, hcache, hps, hsock, hcomp⟩ := hlast
  have F₁ := fromLastPairs_of_ok h₁
  have F₂ := fromLastPairs_of_ok h₂
  have hc : o₁.poolOpts.constraints = o₂.poolOpts.constraints := by
    refine PoolConstraints.ext ?_ ?_
    · rw [F₁.poolMin, F₂.poolMin, lastPoolMin, lastPoolMin, lastParsed, lastParsed, hmin]
    · rw [F₁.poolMax, F₂.poolMax, lastPoolMax, lastPoolMax, lastParsed, lastParsed, hmax]
  rw [eq_lastPairsOpts F₁, eq_lastPairsOpts F₂, hc]
  simp only [lastPairsOpts, lastParsed, huser, hpass, hdb, hittl, hcheck, hconn, hka, hnd,
    hcache, hps, hsock, hcomp]

/-- `mysql://localhost/db?pool_max=5&pool_min=1`: the pairs of `boundsUrl` without the
overwritten `pool_min=20`. -/
def lastBoundsUrl : Url :=
  { boundsUrl with queryPairs := [("pool_max", "5"), ("pool_min", "1")] }

theorem mysqloptsFromUrl_eq_of_lastValue_boundsUrl :
    ∃ o₁ o₂, mysqloptsFromUrl boundsUrl = .ok o₁ ∧ mysqloptsFromUrl lastBoundsUrl = .ok o₂ ∧
      getOptsUserFromUrl boundsUrl = getOptsUserFromUrl lastBoundsUrl ∧
      getOptsPassFromUrl boundsUrl = getOptsPassFromUrl lastBoundsUrl ∧
      getOptsDbNameFromUrl boundsUrl = getOptsDbNameFromUrl lastBoundsUrl ∧
      (∀ K ∈ recognizedKeys,
        lastValue boundsUrl.queryPairs K = lastValue lastBoundsUrl.queryPairs K) ∧ o₁ = o₂ :=
  have hlast : ∀ K ∈ recognizedKeys,
      lastValue boundsUrl.queryPairs K = lastValue lastBoundsUrl.queryPairs K := by decide
  ⟨_, _, rfl, rfl, rfl, rfl, rfl, hlast,
    @mysqloptsFromUrl_eq_of_lastValue boundsUrl lastBoundsUrl _ _ rfl rfl rfl rfl rfl hlast⟩

/-! ## The last value of a key in an accepted query -/

/-- The last value of a key is the value of one of its pairs. -/
theorem lastValue_mem {L : List (String × String)} {K v : String} (h : lastValue L K = some v) :
    (K, v) ∈ L := by
  obtain ⟨p, hp, rfl⟩ := Option.map_eq_some'.mp h
  obtain ⟨hmem, hk⟩ := List.mem_filter.mp (List.mem_of_getLast?_eq_some hp)
  rw [show K = p.1 from (beq_iff_eq.mp hk).symm]
  exact hmem

/-- In a query whose pairs all parse, the last value of a key parses. -/
theorem lastParsed_isSome {L : List (String × String)} {K : String} {α : Type}
    {parse : String → Option α} (hacc : ∀ p ∈ L, valueParses p.1 p.2 = true)
    (hparse : ∀ v, valueParses K v = (parse v).isSome) :
    (lastParsed parse K L).isSome = (lastValue L K).isSome := by
  cases hv : lastValue L K with
  | none => simp [lastParsed, hv]
  | some v => simpa [lastParsed, hv, hparse] using hacc _ (lastValue_mem hv)

end MysqlAsyncOpts.Spec.LastWins
