import MysqlAsyncOpts.Spec.LastWins

/-! # `Opts::from_url` around the query

`Opts::from_url` first gives a URL without a port the default one, and only then does
`from_url_basic` look at the scheme. `Url::set_port` refuses a URL without a host,
with an empty host, or of scheme `file`, so for those the error is `Invalid` whatever
the scheme; no query pair and no pool bound ever gives `Invalid`. After the checks, the
database is the first path segment, decoded; an empty first segment gives the empty
name, and `get_capabilities` offers `CLIENT_CONNECT_WITH_DB` for it. This module also
says when `from_url` succeeds, and which capabilities its options offer. -/

namespace MysqlAsyncOpts.Spec.UrlBasic
open MysqlAsyncOpts.Lib.Core MysqlAsyncOpts.Lib.UrlCrate MysqlAsyncOpts.Lib.Protocol
open MysqlAsyncOpts.Opts.Options MysqlAsyncOpts.Opts.FromUrl MysqlAsyncOpts.Spec.QueryPairs
open MysqlAsyncOpts.Spec.LastWins

/-! ## The errors before the query -/

theorem paramError_ne_invalid (k v : String) : paramError k v ≠ .invalid := by
  unfold paramError
  split <;> simp

/-- The parse refuses as invalid only a `mysql` URL that cannot be a base or has no host:
every error of the loop and of the pool bounds is another one. -/
theorem mysqloptsFromUrl_eq_invalid {url : Url} :
    mysqloptsFromUrl url = .error .invalid ↔
      url.scheme = "mysql" ∧ (url.cannotBeABase || !url.hasHost) = true := by
  by_cases hs : url.scheme = "mysql"
  · cases hg : (url.cannotBeABase || !url.hasHost)
    · simp only [Bool.or_eq_false_iff, Bool.not_eq_false'] at hg
      rw [mysqloptsFromUrl_eq_run hs hg.1 hg.2, bind_eq_error, foldlM_eq_error]
      simp [readParam_eq_error, finish_eq_error, paramError_ne_invalid, hs]
    · simp [mysqloptsFromUrl_invalid hs hg, hs]
  · simp [mysqloptsFromUrl_unsupportedScheme hs, hs]

/-- **When a URL is invalid.** `Opts::from_url` refuses a URL as invalid exactly when it
has no port and `set_port` refuses it, whatever its scheme, or it is a `mysql` URL that
cannot be a base or has no host. -/
theorem fromUrl_eq_invalid {url : Url} :
    Opts.fromUrl url = .error .invalid ↔
      (url.port = none ∧ url.setPort (some defaultPort) = none) ∨
        (url.scheme = "mysql" ∧ (url.cannotBeABase || !url.hasHost) = true) := by
  rw [Opts.fromUrl_eq_error, ensurePort_eq_error]
  simp only [and_true]
  constructor
  · rintro (h | ⟨url', hport, h⟩)
    · exact .inl h
    · obtain ⟨q, rfl⟩ := ensurePort_eq_ok hport
      exact .inr (mysqloptsFromUrl_eq_invalid.mp h)
  · rintro (h | h)
    · exact .inl h
    · cases hport : ensurePort url with
      | error e =>
        obtain ⟨h1, h2, -⟩ := ensurePort_eq_error.mp hport
        exact .inl ⟨h1, h2⟩
      | ok url' =>
        obtain ⟨q, rfl⟩ := ensurePort_eq_ok hport
        exact .inr ⟨_, rfl, mysqloptsFromUrl_eq_invalid.mpr h⟩

/-- `postgres:db`, as `Url::parse` gives it: a URL that cannot be a base, with no host. -/
def opaquePathUrl : Url :=
  { scheme := "postgres", cannotBeABase := true, username := "", password := none,
    hostInternal := .none, hostSlice := "", port := none, path := "db", queryPairs := [] }

/-- `postgres:db` is refused as invalid: `set_port` refuses it before the scheme is
looked at, which would have refused it as unsupported. -/
theorem fromUrl_opaquePath_invalid :
    Opts.fromUrl opaquePathUrl = .error .invalid ∧
      mysqloptsFromUrl opaquePathUrl = .error (.unsupportedScheme "postgres") := by
  decide

/-! ## The database -/

theorem getOptsDbNameFromUrl_eq (url : Url) :
    getOptsDbNameFromUrl url = (url.pathSegments.bind List.head?).map decode := by
  unfold getOptsDbNameFromUrl
  cases url.pathSegments <;> rfl

theorem fromUrl_mysqlOpts {url : Url} {o : Opts} (h : Opts.fromUrl url = .ok o) :
    ∃ url', ensurePort url = .ok url' ∧ FromLastPairs url' o.inner.mysqlOpts := by
  obtain ⟨url', m, hport, hm, rfl⟩ := Opts.fromUrl_eq_ok.mp h
  exact ⟨url', hport, fromLastPairs_of_ok hm⟩

/-- **The database of a URL.** The options of a URL name the first path segment,
decoded, as their database; the name is empty exactly when that segment is, and
`CLIENT_CONNECT_WITH_DB` is offered exactly when there is a name. -/
theorem fromUrl_dbName {url : Url} {o : Opts} (h : Opts.fromUrl url = .ok o) :
    o.dbName = (url.pathSegments.bind List.head?).map decode ∧
      (o.dbName = some "" ↔ url.pathSegments.bind List.head? = some "") ∧
      o.getCapabilities.contains CapabilityFlags.clientConnectWithDb = o.dbName.isSome := by
  obtain ⟨url', hport, hfields⟩ := fromUrl_mysqlOpts h
  obtain ⟨q, rfl⟩ := ensurePort_eq_ok hport
  have hdb : o.dbName = (url.pathSegments.bind List.head?).map decode := by
    rw [Opts.dbName, hfields.dbName, getOptsDbNameFromUrl_eq]; rfl
  refine ⟨hdb, ?_, ?_⟩
  · rw [hdb]
    cases url.pathSegments.bind List.head? <;> simp [decode_eq_empty]
  · have h3 : defaultCaps.bits.getLsbD 3 = false := by decide
    rw [CapabilityFlags.clientConnectWithDb, CapabilityFlags.contains_bit (by decide),
      Opts.getCapabilities_getLsbD, hfields.capabilities, h3]
    simp [Opts.dbName]

/-- `mysql://localhost/`, as `Url::parse` gives it: the path is a single slash. -/
def rootPathUrl : Url :=
  { scheme := "mysql", cannotBeABase := false, username := "", password := none,
    hostInternal := .domain, hostSlice := "localhost", port := none, path := "/", queryPairs := [] }

theorem fromUrl_dbName_rootPath :
    ∃ o, Opts.fromUrl rootPathUrl = .ok o ∧
      (o.dbName = (rootPathUrl.pathSegments.bind List.head?).map decode ∧
        (o.dbName = some "" ↔ rootPathUrl.pathSegments.bind List.head? = some "") ∧
        o.getCapabilities.contains CapabilityFlags.clientConnectWithDb = o.dbName.isSome) :=
  ⟨_, rfl, @fromUrl_dbName rootPathUrl _ rfl⟩

/-- The options of `mysql://localhost/` name the empty database, and offer
`CLIENT_CONNECT_WITH_DB` for it. -/
theorem fromUrl_rootPath_emptyDb :
    ∃ o, Opts.fromUrl rootPathUrl = .ok o ∧ o.user = none ∧ o.dbName = some "" ∧
      o.getCapabilities.contains CapabilityFlags.clientConnectWithDb = true :=
  ⟨_, rfl, by decide, by decide, by decide⟩

/-! ## The port step -/

/-- The port step of a `mysql` URL: a missing port becomes 3306. -/
theorem ensurePort_mysql {url url' : Url} (hs : url.scheme = "mysql")
    (h : ensurePort url = .ok url') :
    url' = { url with port := some (url.port.getD defaultPort) } := by
  unfold ensurePort at h
  cases hp : url.port with
  | some p =>
    simp only [hp, Option.isNone_some, Bool.false_eq_true, if_false] at h
    cases h
    cases url; cases hp; rfl
  | none =>
    simp only [hp, Option.isNone_none, if_true] at h
    split at h
    · cases h
      simp [Url.setPort_eq_some ‹_›, hs, Url.defaultPort]
    · cases h

/-- The options of a URL are the parse of the URL with its port made explicit, and keep
that URL as their address. -/
theorem fromUrl_eq_ok_port {url : Url} {o : Opts} (h : Opts.fromUrl url = .ok o) :
    mysqloptsFromUrl { url with port := some (url.port.getD defaultPort) } =
        .ok o.inner.mysqlOpts ∧
      o.inner.address = .url { url with port := some (url.port.getD defaultPort) } ∧
      url.hasHost = true := by
  obtain ⟨url', m, hport, hm, rfl⟩ := Opts.fromUrl_eq_ok.mp h
  obtain ⟨q, rfl⟩ := ensurePort_eq_ok hport
  obtain ⟨hs, -, hh, -⟩ := mysqloptsFromUrl_eq_ok.mp hm
  rw [← ensurePort_mysql (show url.scheme = "mysql" from hs) hport]
  exact ⟨hm, rfl, hh⟩

/-! ## When `from_url` succeeds -/

/-- The parse reads no port. -/
theorem mysqloptsFromUrl_withPort (url : Url) (p : Option Nat) :
    mysqloptsFromUrl { url with port := p } = mysqloptsFromUrl url := rfl

/-- A `mysql` URL with a host passes the port step when it has a port or a non-empty
host. -/
theorem ensurePort_mysql_of_host {url : Url} (hs : url.scheme = "mysql")
    (hh : url.hasHost = true) (hport : url.port = none → url.host ≠ some (.domain "")) :
    ensurePort url = .ok { url with port := some (url.port.getD defaultPort) } := by
  cases h : ensurePort url with
  | error e =>
    obtain ⟨hp, hset, -⟩ := ensurePort_eq_error.mp h
    rcases Url.setPort_eq_none.mp hset with h' | h' | h'
    · simp [hh] at h'
    · exact absurd h' (hport hp)
    · simp [hs] at h'
  | ok u => rw [ensurePort_mysql hs h]

/-- **When `from_url` succeeds.** Exactly for a `mysql` URL that can be a base and has
a host, non-empty unless a port is given, whose query pairs all parse and whose last
bounds are ordered. The options then hold, in every field, the last value of its key,
and keep the URL with its port made explicit. -/
theorem fromUrl_ok_iff {url : Url} {o : Opts} :
    Opts.fromUrl url = .ok o ↔
      url.scheme = "mysql" ∧ url.cannotBeABase = false ∧ url.hasHost = true ∧
        (url.port = none → url.host ≠ some (.domain "")) ∧
        (∀ p ∈ url.queryPairs, valueParses p.1 p.2 = true) ∧
        lastPoolMin url.queryPairs ≤ lastPoolMax url.queryPairs ∧
        FromLastPairs url o.inner.mysqlOpts ∧
        o.inner.address = .url { url with port := some (url.port.getD defaultPort) } := by
  constructor
  · intro h
    obtain ⟨hm, ha, -⟩ := fromUrl_eq_ok_port h
    rw [mysqloptsFromUrl_withPort] at hm
    obtain ⟨hs, hb, hh, -⟩ := mysqloptsFromUrl_eq_ok.mp hm
    obtain ⟨hacc, hle⟩ := (mysqloptsFromUrl_ok_iff hs hb hh).mp ⟨_, hm⟩
    refine ⟨hs, hb, hh, fun hp hd => ?_, hacc, hle, fromLastPairs_of_ok hm, ha⟩
    have hinvalid : ensurePort url = .error .invalid :=
      ensurePort_eq_error.mpr ⟨hp, Url.setPort_eq_none.mpr (.inr (.inl hd)), rfl⟩
    obtain ⟨_, _, hport, -, -⟩ := Opts.fromUrl_eq_ok.mp h
    rw [hinvalid] at hport
    cases hport
  · rintro ⟨hs, hb, hh, hport, hacc, hle, hF, ha⟩
    obtain ⟨m, hm⟩ := (mysqloptsFromUrl_ok_iff hs hb hh).mpr ⟨hacc, hle⟩
    have hmo : m = o.inner.mysqlOpts := fromLastPairs_unique (fromLastPairs_of_ok hm) hF
    refine Opts.fromUrl_eq_ok.mpr ⟨_, m, ensurePort_mysql_of_host hs hh hport,
      (mysqloptsFromUrl_withPort url _).trans hm, ?_⟩
    obtain ⟨⟨m', a⟩⟩ := o
    cases hmo
    cases ha
    rfl

/-! ## The capabilities -/

/-- **The capabilities of a URL's options.** The base flags, with
`CLIENT_CONNECT_WITH_DB` when the URL names a database and `CLIENT_COMPRESS` when its
query sets `compression`. No URL makes the options offer `CLIENT_SSL`. -/
theorem fromUrl_getCapabilities {url : Url} {o : Opts} (h : Opts.fromUrl url = .ok o) :
    (∀ i, i < 32 → o.getCapabilities.contains (CapabilityFlags.bit i) =
      (defaultCaps.contains (CapabilityFlags.bit i) ||
        (decide (i = 3) && (url.pathSegments.bind List.head?).isSome) ||
        (decide (i = 5) && (lastValue url.queryPairs "compression").isSome))) ∧
    o.getCapabilities.contains CapabilityFlags.clientSsl = false := by
  obtain ⟨hm, -, -⟩ := fromUrl_eq_ok_port h
  rw [mysqloptsFromUrl_withPort] at hm
  obtain ⟨hs, hb, hh, -⟩ := mysqloptsFromUrl_eq_ok.mp hm
  obtain ⟨hacc, -⟩ := (mysqloptsFromUrl_ok_iff hs hb hh).mp ⟨_, hm⟩
  have F := fromLastPairs_of_ok hm
  have hcomp : (lastParsed compressionLevel "compression" url.queryPairs).isSome =
      (lastValue url.queryPairs "compression").isSome :=
    lastParsed_isSome hacc fun v => by simp [valueParses]
  refine ⟨fun i hi => ?_, ?_⟩
  · rw [CapabilityFlags.contains_bit hi, CapabilityFlags.contains_bit hi,
      Opts.getCapabilities_getLsbD, F.capabilities, F.sslOpts, F.dbName, F.compression,
      getOptsDbNameFromUrl_eq, Option.isSome_map', Option.isSome_map', hcomp]
    simp
  · have h11 : defaultCaps.bits.getLsbD 11 = false := by decide
    rw [CapabilityFlags.clientSsl, CapabilityFlags.contains_bit (by decide),
      Opts.getCapabilities_getLsbD, F.capabilities, F.sslOpts, h11]
    simp

theorem fromUrl_getCapabilities_rootPath :
    ∃ o, Opts.fromUrl rootPathUrl = .ok o ∧
      ((∀ i, i < 32 → o.getCapabilities.contains (CapabilityFlags.bit i) =
        (defaultCaps.contains (CapabilityFlags.bit i) ||
          (decide (i = 3) && (rootPathUrl.pathSegments.bind List.head?).isSome) ||
          (decide (i = 5) && (lastValue rootPathUrl.queryPairs "compression").isSome))) ∧
      o.getCapabilities.contains CapabilityFlags.clientSsl = false) :=
  ⟨_, rfl, @fromUrl_getCapabilities rootPathUrl _ rfl⟩

end MysqlAsyncOpts.Spec.UrlBasic
