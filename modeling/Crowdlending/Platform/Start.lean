import Crowdlending.Platform.State

/-!
# Starting the platform

What a platform is set up with when its settings are read: it publishes the keys of the settings,
signs with the first of them, and verifies by what it publishes, or by what an endpoint serves if
the settings name one.
-/
namespace Crowdlending
open Token Settings

/-- Keys are published before one is taken to sign with. -/
def Setup.ofSettings (scheme : Crypto.SignatureScheme) (hashCore : Crypto.Bcrypt.Core)
    (b : Basic) : Except Failure Setup := do
  let keys ← KeySet.ofKeys b.tokens.keys
  let issuer ← Issuer.ofSettings b.tokens
  return {
    scheme, hashCore, hashCost := b.hashCost, issuer, keys
    issuers := ⟨b.tokens.accessIssuer, b.tokens.refreshIssuer⟩
    countryCode := b.countryCode, sender := b.sender }

/-- The cache of the endpoint, if there is one, is empty at first. -/
def Platform.ofSettings (b : Basic) (replies : List Reply) : Platform :=
  start b.queueCapacity <| match b.keySetUrl with
    | none => .published
    | some _ => .remote ⟨1000 * b.keySetTtl, none⟩ replies

end Crowdlending
