import MysqlAsyncOpts.Lib.Core
import MysqlAsyncOpts.Lib.Net
import MysqlAsyncOpts.Lib.UrlCrate
import MysqlAsyncOpts.Lib.Protocol
import MysqlAsyncOpts.Opts.Pool
import MysqlAsyncOpts.Opts.Options
import MysqlAsyncOpts.Opts.Builder
import MysqlAsyncOpts.Opts.FromUrl
import MysqlAsyncOpts.Spec.QueryPairs
import MysqlAsyncOpts.Spec.LastWins
import MysqlAsyncOpts.Spec.UrlBasic
import MysqlAsyncOpts.Spec.PoolInvariant
import MysqlAsyncOpts.Spec.Capabilities
import MysqlAsyncOpts.Spec.BuilderFields
import MysqlAsyncOpts.Spec.Address
