import Crowdlending.Json.Member
import Crowdlending.Settings.Basic

/-!
# Settings as documents

The written form of settings, for those who operate the service. Durations are in seconds.
-/
namespace Crowdlending.Settings
open Json

def SigningKey.toDoc (k : SigningKey) : Doc :=
  .ofMembers
    [("kid", .ofText k.kid), ("private", .ofText k.privatePem), ("public", .ofText k.publicPem)]

def TokenSettings.members (t : TokenSettings) : List (String × Doc) :=
  [("keys", .list (t.keys.map SigningKey.toDoc)), ("access_token_issuer", .ofText t.accessIssuer),
    ("access_token_ttl", .int t.accessTtl), ("refresh_token_issuer", .ofText t.refreshIssuer),
    ("refresh_token_ttl", .int t.refreshTtl), ("refresh_token_extended_ttl", .int t.extendedTtl)]

def MailSettings.toDoc (m : MailSettings) : Doc :=
  .ofMembers [("enabled", .bool m.enabled), ("host", .ofText m.host), ("port", .int m.portNumber)]

def Basic.toDoc (s : Basic) : Doc :=
  .ofMembers <| s.tokens.members ++
    [("database_url", .ofText s.databaseUrl), ("grpc_bind_address", .ofText s.rpcAddress),
      ("http_bind_address", .ofText s.httpAddress), ("db_max_connections", .int s.maxConnections),
      ("bcrypt_cost", .int s.hashCost), ("jwks_url", .ofOption .ofText s.keySetUrl),
      ("jwks_cache_ttl", .int s.keySetTtl),
      ("auth_excluded_methods", .list (s.openMethods.map Doc.ofText)),
      ("default_country_code", .ofText s.countryCode), ("smtp", s.mail.toDoc),
      ("notification_queue_capacity", .int s.queueCapacity),
      ("notification_from", .ofText s.sender), ("log_json", .bool s.logJson)]

end Crowdlending.Settings
