import Crowdlending.Codec.Base64
import Crowdlending.Json.Reader
import Crowdlending.Json.Shape
import Crowdlending.Settings.Duration

/-!
# Settings

The service is set up by named variables. A variable that is empty counts as
absent. Variables are looked at in a fixed order, and the first one that is
missing or wrong is reported.
-/
namespace Crowdlending.Settings
open Text Number Json

/-- A key pair that tokens are signed with, both halves in PEM form. -/
structure SigningKey where
  kid : String
  privatePem : String
  publicPem : String
deriving Repr, DecidableEq

structure TokenSettings where
  /-- The first one signs. -/
  keys : List SigningKey
  accessIssuer : String
  accessTtl : Nat
  refreshIssuer : String
  refreshTtl : Nat
  extendedTtl : Nat
deriving Repr, DecidableEq

structure MailSettings where
  enabled : Bool
  host : String
  portNumber : Nat
deriving Repr, DecidableEq

structure Basic where
  databaseUrl : String
  rpcAddress : String
  httpAddress : String
  maxConnections : Nat
  hashCost : Nat
  tokens : TokenSettings
  keySetUrl : Option String
  keySetTtl : Nat
  openMethods : List String
  countryCode : String
  mail : MailSettings
  queueCapacity : Nat
  sender : String
  logJson : Bool
deriving Repr, DecidableEq

inductive KeyListFault where
  | json
  | none
  | emptyKid
  | duplicateKid (kid : String)
  | base64 (kid field : String)
  | notText (kid field : String)
deriving Repr, DecidableEq

def KeyListFault.message : KeyListFault → String
  | .json => "JSON"
  | .none => "at least one key is required"
  | .emptyKid => "empty kid"
  | .duplicateKid kid => "duplicate kid " ++ kid
  | .base64 kid field => kid ++ "." ++ field ++ ": base64"
  | .notText kid field => kid ++ "." ++ field ++ ": not UTF-8"

inductive Reason where
  | number (fault : NumeralFault)
  | duration (fault : DurationFault)
  | hashCost
  | sameIssuer
  | countryCode
  | boolean
  | notPositive
deriving Repr, DecidableEq

def Reason.message : Reason → String
  | .number fault => fault.message
  | .duration fault => fault.message
  | .hashCost => "must be between 4 and 31"
  | .sameIssuer => "must differ from JWT_ACCESS_TOKEN_ISSUER"
  | .countryCode => "must start with '+'"
  | .boolean => "expected true or false"
  | .notPositive => "must be positive"

inductive SettingsFault where
  | missing (name : String)
  | invalid (name : String) (reason : Reason)
  | signingKeys (fault : KeyListFault)
deriving Repr, DecidableEq

def SettingsFault.message : SettingsFault → String
  | .missing name => "Missing required environment variable: " ++ name
  | .invalid name reason => "Invalid value for " ++ name ++ ": " ++ reason.message
  | .signingKeys fault => "Invalid JWT_KEYS: " ++ fault.message

/-- Variables by name. -/
abbrev Variables := String → Option String

/-- The value of a variable that is set to more than nothing. -/
def Variables.given? (vars : Variables) (name : String) : Option String :=
  (vars name).filter fun v => !v.isEmpty

section
variable (vars : Variables)

def required (name : String) : Except SettingsFault String :=
  match vars.given? name with
  | some v => .ok v
  | none => .error (.missing name)

def optional (name default : String) : String := (vars.given? name).getD default

def number (name : String) (most default : Nat) : Except SettingsFault Nat :=
  match vars.given? name with
  | none => .ok default
  | some v => match readNat most (trimChars v.toList) with
    | .ok n => .ok n
    | .error e => .error (.invalid name (.number e))

def boolean (name : String) (default : Bool) : Except SettingsFault Bool :=
  let v := lowerAscii (trim ((vars name).getD ""))
  if v.isEmpty then .ok default
  else if v = "true" ∨ v = "1" ∨ v = "yes" then .ok true
  else if v = "false" ∨ v = "0" ∨ v = "no" then .ok false
  else .error (.invalid name .boolean)

def duration (name default : String) : Except SettingsFault Nat :=
  match readDuration (optional vars name default) with
  | .ok n => .ok n
  | .error e => .error (.invalid name (.duration e))

end

def keyFields : List Field :=
  [.required "kid" Doc.asText, .required "private_key" Doc.asText,
    .required "public_key" Doc.asText]

/-- A key as written: its halves are still in base 64. -/
def SigningKey.ofDoc (d : Doc) : Except Fault SigningKey := do
  let found : Found ← Field.collect keyFields d
  .ok ⟨← found.value "kid" Doc.asText, ← found.value "private_key" Doc.asText,
    ← found.value "public_key" Doc.asText⟩

def readPem (kid field encoded : String) : Except KeyListFault String :=
  match Codec.Base64.decodePadded .standard (trimChars encoded.toList) with
  | none => .error (.base64 kid field)
  | some bytes => match String.fromUTF8? ⟨bytes.toArray⟩ with
    | none => .error (.notText kid field)
    | some s => .ok s

/-- Decodes the keys in order; a kid may not be empty or come twice. -/
def decodeKeys (seen : List String) : List SigningKey → Except KeyListFault (List SigningKey)
  | [] => .ok []
  | k :: r => do
      if k.kid.isEmpty then throw .emptyKid
      if seen.contains k.kid then throw (.duplicateKid k.kid)
      let privatePem ← readPem k.kid "private_key" k.privatePem
      let publicPem ← readPem k.kid "public_key" k.publicPem
      let rest ← decodeKeys (k.kid :: seen) r
      return ⟨k.kid, privatePem, publicPem⟩ :: rest

def readKeys (text : String) : Except KeyListFault (List SigningKey) :=
  match (readText text).asList SigningKey.ofDoc with
  | .error _ => .error .json
  | .ok [] => .error .none
  | .ok keys => decodeKeys [] keys

def defaultOpenMethods : String := "Register,Login,RefreshToken,IsUserExist"

/-- The names between commas, without blanks around them and without empty ones. -/
def readNames (s : String) : List String :=
  ((cut ',' s.toList).map fun p => String.ofList (trimChars p)).filter fun n => !n.isEmpty

def readTokens (vars : Variables) : Except SettingsFault TokenSettings := do
  let keys ← match readKeys (← required vars "JWT_KEYS") with
    | .ok keys => .ok keys
    | .error e => .error (.signingKeys e)
  let accessIssuer ← required vars "JWT_ACCESS_TOKEN_ISSUER"
  let accessTtl ← duration vars "JWT_ACCESS_TOKEN_TTL" "15m"
  let refreshIssuer ← required vars "JWT_REFRESH_TOKEN_ISSUER"
  let refreshTtl ← duration vars "JWT_REFRESH_TOKEN_TTL" "24h"
  let extendedTtl ← duration vars "JWT_REFRESH_TOKEN_EXTENDED_TTL" "720h"
  if accessIssuer = refreshIssuer then throw (.invalid "JWT_REFRESH_TOKEN_ISSUER" .sameIssuer)
  return { keys, accessIssuer, accessTtl, refreshIssuer, refreshTtl, extendedTtl }

def readMail (vars : Variables) : Except SettingsFault MailSettings := do
  let enabled ← boolean vars "SMTP_ENABLED" false
  let host := (vars "SMTP_HOST").getD ""
  if enabled ∧ host.isEmpty then throw (.missing "SMTP_HOST")
  return { enabled, host, portNumber := ← number vars "SMTP_PORT" maxU16 1025 }

/-- The settings that the variables give. -/
def read (vars : Variables) : Except SettingsFault Basic := do
  let databaseUrl ← required vars "DATABASE_URL"
  let maxConnections ← number vars "DB_MAX_CONNECTIONS" maxU32 5
  let hashCost ← number vars "BCRYPT_COST" maxU32 12
  if hashCost < 4 ∨ 31 < hashCost then throw (.invalid "BCRYPT_COST" .hashCost)
  let tokens ← readTokens vars
  let keySetTtl ← number vars "JWKS_CACHE_TTL_SECONDS" maxU64 300
  let countryCode := optional vars "DEFAULT_COUNTRY_CODE" "+62"
  if countryCode.toList.head? ≠ some '+' then throw (.invalid "DEFAULT_COUNTRY_CODE" .countryCode)
  let mail ← readMail vars
  let queueCapacity ← number vars "NOTIFICATION_QUEUE_CAPACITY" maxU64 256
  if queueCapacity = 0 then throw (.invalid "NOTIFICATION_QUEUE_CAPACITY" .notPositive)
  return {
    databaseUrl, maxConnections, hashCost, tokens, keySetTtl, countryCode, mail, queueCapacity
    rpcAddress := optional vars "GRPC_BIND_ADDRESS" "0.0.0.0:50051"
    httpAddress := optional vars "HTTP_BIND_ADDRESS" "0.0.0.0:8080"
    keySetUrl := vars.given? "JWKS_URL"
    openMethods := readNames (optional vars "AUTH_EXCLUDED_METHODS" defaultOpenMethods)
    sender := optional vars "NOTIFICATION_FROM" "loan@service.com"
    logJson := lowerAscii ((vars "LOG_FORMAT").getD "") = "json" }

end Crowdlending.Settings
