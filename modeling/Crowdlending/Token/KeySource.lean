import Crowdlending.Moment
import Crowdlending.Token.KeyCache

/-!
# Where keys are looked up

A platform looks keys up among those that it publishes, or at an endpoint that the settings name,
with a cache before it. What the endpoint replies is laid down beforehand, one reply for each
request; when the replies are used up, the endpoint is out of reach. The cache goes by the clock of
the calls.
-/
namespace Crowdlending.Token
open Crypto

inductive KeySource where
  | published
  | remote (cache : KeyCache) (replies : List Reply)
deriving Repr, DecidableEq

namespace KeySource

/-- What a look-up finds now. -/
def find (keys : KeySet) (now : Moment) : KeySource → String → Except Failure PublicKey
  | published, kid => keys.find kid
  | remote cache replies, kid =>
      (cache.find now.milliseconds (replies.headD .unreachable) kid).result

/-- Verifies a token. A request to the endpoint takes up the next reply. -/
def verify (scheme : SignatureScheme) (issuers : Issuers) (keys : KeySet) (now : Moment)
    (expected : Kind) (token : String) : KeySource → KeySource × Except Failure Claims
  | published => (published, Token.verify scheme keys.find issuers now.seconds expected token)
  | remote cache replies =>
      let l := cache.verify scheme issuers now.milliseconds (replies.headD .unreachable)
        now.seconds expected token
      (remote l.cache (if l.fetched then replies.tail else replies), l.result)

end KeySource

end Crowdlending.Token
