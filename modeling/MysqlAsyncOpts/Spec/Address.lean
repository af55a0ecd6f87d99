import MysqlAsyncOpts.Opts.Builder
import MysqlAsyncOpts.Opts.FromUrl

/-! # The builder round trip and the loopback test

`OptsBuilder::from_opts` keeps the draft and replaces the address by its host string
and port, and `From<OptsBuilder>` publishes them as a host/port address. The loopback
test reads the two kinds of address differently: a URL address by the kind of its
host, a host/port address by parsing the host string. For an IPv6 host the URL crate
keeps the brackets in the host string, which neither IP parser reads. -/

namespace MysqlAsyncOpts.Spec.Address
open MysqlAsyncOpts.Lib.UrlCrate MysqlAsyncOpts.Opts.Options MysqlAsyncOpts.Opts.Builder
open MysqlAsyncOpts.Opts.FromUrl

/-- `Opts::from(OptsBuilder::from_opts(o))`. -/
def roundTrip (o : Opts) : Opts := Opts.ofBuilder (OptsBuilder.fromOpts o)

/-- `mysql://[::1]/`, as `Url::parse` gives it. -/
def ipv6LoopbackUrl : Url :=
  { scheme := "mysql", cannotBeABase := false, username := "", password := none,
    hostInternal := .ipv6 ⟨1⟩, hostSlice := "[::1]", port := none, path := "/",
    queryPairs := [] }

/-- The options of `mysql://[::1]/` are loopback; rebuilt through the builder, with the
host string `[::1]`, they are not. -/
theorem fromUrl_ipv6_loopback_lost :
    ∃ o, Opts.fromUrl ipv6LoopbackUrl = .ok o ∧ o.addrIsLoopback = true ∧
      (roundTrip o).ipOrHostname = "[::1]" ∧ (roundTrip o).addrIsLoopback = false :=
  ⟨_, rfl, rfl, rfl, by decide⟩

end MysqlAsyncOpts.Spec.Address
