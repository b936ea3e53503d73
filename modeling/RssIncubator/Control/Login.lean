import RssIncubator.Lib.Dialogue
import RssIncubator.Control.Urls

/-!
# The login (`rotation-control`)

The login asks the provider where it is to be spoken to, sends the user there with a browser, waits for the redirect, trades
the code it brings for tokens, and lets the identity token be verified with the keys of the provider before it gives the access
token away.  One deadline is set for all of it: whatever the login waits for, it waits for no longer.

It is a program that makes calls: to the provider, to the browser, to the clock and to the source of random values.  Of the
answers nothing is assumed.
-/

namespace RssIncubator.Control

open Lib Lib.Dialogue
open Agent (Uuid utf8)

structure AuthArgs (Url : Type) where
  issuer : Url
  clientId : String
  tenantId : String
  redirectUri : Url
  caCertificate : Option String

/-! ### Calls -/

structure HttpReply where
  status : ℕ
  body : Bytes
  deriving DecidableEq

/-- `PkceCodeChallenge` and `PkceCodeVerifier`. -/
structure Pkce where
  challenge : String
  verifier : String
  deriving DecidableEq

/-- `HeaderMap`, in the order of insertion. -/
abbrev HeaderMap := List (String × String)

/-- What the control asks of its surroundings.  What is waited for in a login is waited for until a deadline. -/
inductive Call (Url : Type) where
  | read (path : String)
  | stdin (limit : ℕ)
  /-- A client with a root certificate of its own, which follows no redirect. -/
  | client (certificate : Option Bytes)
  | get (url : Url) (deadline : ℕ)
  | postForm (url : Url) (form : List (String × String)) (deadline : ℕ)
  | send (method : String) (url : Url) (headers : HeaderMap) (body : Option Bytes)
  | bind (host : String) (port : UInt16) (deadline : ℕ)
  | openBrowser (url : Url)
  /-- The connections that are accepted on the port. -/
  | accept (deadline : ℕ)
  /-- `Instant::now`, in nanoseconds. -/
  | instant
  | unixSeconds
  | newV4
  | newRandomSha256
  deriving DecidableEq

/-- What can come back.  Where there is a deadline, nothing may come before it. -/
abbrev Answer {Url : Type} : Call Url → Type
  | .read _ => Option Bytes
  | .stdin _ => Option Bytes
  | .client _ => Bool
  | .get _ _ => Option (Except AppError HttpReply)
  | .postForm _ _ _ => Option (Except AppError HttpReply)
  | .send _ _ _ _ => Except AppError HttpReply
  | .bind _ _ _ => Option Bool
  | .openBrowser _ => Bool
  | .accept _ => Option (List (Option (Connection UInt8)))
  | .instant => ℕ
  | .unixSeconds => Option ℕ
  | .newV4 => Uuid
  | .newRandomSha256 => Pkce

abbrev History (Url : Type) := List (Exchange (Call Url) Answer)

abbrev Session (Url : Type) := Dialogue (Call Url) Answer AppError

/-- A session under the deadline, which can end it without an error of its own. -/
abbrev Timed (Url : Type) := Dialogue (Call Url) Answer (Option AppError)

section

variable {Url α : Type}

/-- What has come in time. -/
def inTime (answer : Option α) : Timed Url α := ofExcept (answer.elim (.error none) .ok)

def ended (result : Except AppError α) : Timed Url α := ofExcept (result.mapError some)

def withinLoginDeadline (stage : ErrorStage) (future : Timed Url α) : Session Url α :=
  future.mapErr fun
    | none => (AppError.auth "login_timeout").atStage stage
    | some error => error.atStage stage

end

/-! ### Other crates -/

structure Discovery where
  issuer : String
  authorizationEndpoint : String
  tokenEndpoint : String
  jwksUri : String
  deriving DecidableEq

structure TokenWire (IdToken : Type) where
  accessToken : String
  idToken : IdToken

/-- `CoreJwsSigningAlgorithm`. -/
inductive SigningAlgorithm where
  | hmacSha256
  | hmacSha384
  | hmacSha512
  | rsaSsaPkcs1V15Sha256
  | rsaSsaPkcs1V15Sha384
  | rsaSsaPkcs1V15Sha512
  | ecdsaP256Sha256
  | ecdsaP384Sha384
  | ecdsaP521Sha512
  | rsaSsaPssSha256
  | rsaSsaPssSha384
  | rsaSsaPssSha512
  | edDsa
  | none
  deriving DecidableEq

/-- `CoreIdTokenVerifier::new_public_client`, with what is set of it. -/
structure IdTokenVerifier (KeySet Time : Type) where
  clientId : String
  issuer : String
  jwks : KeySet
  allowedAlgs : List SigningAlgorithm
  otherAudience : String → Bool
  time : Time
  issueTime : Time → Bool

/-- The claims of a token whose signature, issuer, audience, times and nonce its verifier accepts. -/
structure IdTokenClaims where
  audiences : List String
  authorizedParty : Option String
  tenantId : String

/-- `serde_json::Number`. -/
inductive Number where
  | posInt (value : ℕ)
  | negInt (value : ℤ)
  | float (literal : String)
  deriving DecidableEq

/-- `Number::from`, of an `i64`. -/
def Number.ofInt (value : ℤ) : Number := if 0 ≤ value then posInt value.toNat else negInt value

/-- `serde_json::Value`. -/
inductive Value where
  | null
  | bool (value : Bool)
  | number (value : Number)
  | string (value : String)
  | array (items : List Value)
  | object (fields : List (String × Value))

namespace Value

/-- `Value::get`, of a name. -/
def get (value : Value) (name : String) : Option Value :=
  match value with
  | object fields => (fields.find? (·.1 = name)).map (·.2)
  | _ => none

def asArray : Value → Option (List Value)
  | array items => some items
  | _ => none

def asStr : Value → Option String
  | string value => some value
  | _ => none

def asU64 : Value → Option ℕ
  | number (.posInt value) => some value
  | _ => none

end Value

/-- What the login uses of `serde_json`, `openidconnect`, `chrono` and `reqwest`. -/
structure Crates extends UrlLibrary where
  IdToken : Type
  KeySet : Type
  Time : Type
  fromTimestamp : ℤ → Option Time
  notAfter : Time → Time → Bool
  discovery : Bytes → Option Discovery
  tokenWire : Bytes → Option (TokenWire IdToken)
  value : Bytes → Option Value
  keySet : Bytes → Option KeySet
  issuerUrl : String → Option String
  /-- `IdToken::claims`, with a nonce. -/
  claims : IdTokenVerifier KeySet Time → String → IdToken → Option IdTokenClaims
  /-- `Certificate::from_pem` takes it. -/
  certificate : Bytes → Bool

def maxResponseBytes : ℕ := 1024 * 1024

/-- `LOGIN_TIMEOUT`, in nanoseconds. -/
def loginTimeout : ℕ := 2 * 60 * 10 ^ 9

namespace Crates

variable (crates : Crates)

/-! ### Replies -/

def fetchReply (url : crates.Url) (deadline : ℕ) (stage : ErrorStage) : Timed crates.Url Bytes := do
  let answer ← (call (Call.get url deadline) : Timed crates.Url (Option (Except AppError HttpReply)))
  let response ← inTime answer
  let response ← ended (response.mapError fun error => error.atStage stage)
  ended (refuse (response.status ≠ 200) ((AppError.transport "upstream_rejected" false).atStage stage))
  pure response.body

def fetchJson {T : Type} (fromSlice : Bytes → Option T) (url : crates.Url) (deadline : ℕ) (stage : ErrorStage) :
    Timed crates.Url T := do
  let body ← crates.fetchReply url deadline stage
  ended (okOr (fromSlice body) ((AppError.untrusted "malformed_json").atStage stage))

/-- The operations of one key, if it names any. -/
def checkKeyOperations (key : Value) : Except AppError Unit :=
  let refused := (AppError.auth "id_token_key_usage").atStage .jwks
  match key.get "key_ops" with
  | none => .ok ()
  | some operations =>
    match operations.asArray with
    | none => .error refused
    | some operations => refuse (operations.length ≠ 1 ∨ operations.head?.bind Value.asStr ≠ some "verify") refused

def validateJwksKeyOperations (body : Bytes) : Except AppError Unit := do
  let value ← okOr (crates.value body) ((AppError.untrusted "malformed_json").atStage .jwks)
  let keys ← okOr ((value.get "keys").bind Value.asArray) ((AppError.untrusted "malformed_json").atStage .jwks)
  keys.forM checkKeyOperations

def fetchJwks (url : crates.Url) (deadline : ℕ) : Timed crates.Url crates.KeySet := do
  let body ← crates.fetchReply url deadline .jwks
  ended (crates.validateJwksKeyOperations body)
  ended (okOr (crates.keySet body) ((AppError.untrusted "malformed_json").atStage .jwks))

def classifyTokenResponse (status : ℕ) : Except AppError Unit :=
  if status = 200 then .ok ()
  else if status = 400 ∨ status = 401 ∨ status = 403 then
    .error ((AppError.auth "token_exchange_rejected").atStage .tokenExchange)
  else if status = 429 ∨ 500 ≤ status ∧ status ≤ 599 then
    .error ((AppError.transport "token_upstream_rejected" true).atStage .tokenExchange)
  else .error ((AppError.untrusted "token_status_unknown").atStage .tokenExchange)

/-! ### The identity token -/

/-- The verifier of a login: for its client and its provider, one algorithm, and no token of the future. -/
def verifier (auth : AuthArgs crates.Url) (issuer : String) (jwks : crates.KeySet) (now : crates.Time) :
    IdTokenVerifier crates.KeySet crates.Time :=
  ⟨auth.clientId, issuer, jwks, [.rsaSsaPkcs1V15Sha256], fun _ => true, now, fun issuedAt => crates.notAfter issuedAt now⟩

def validateIdToken (token : crates.IdToken) (jwks : crates.KeySet) (auth : AuthArgs crates.Url) (nonce : String) (now : ℕ) :
    Except AppError Unit := do
  let now ← okOr (if now < 2 ^ 63 then crates.fromTimestamp now else none) (.auth "clock_invalid")
  let issuer ← okOr (crates.issuerUrl (crates.asStr auth.issuer)) (.auth "issuer_invalid")
  let claims ← okOr (crates.claims (crates.verifier auth issuer jwks now) nonce token) (.auth "id_token_invalid")
  refuse (1 < claims.audiences.length ∧ claims.authorizedParty ≠ some auth.clientId) (.auth "authorized_party_mismatch")
  refuse (claims.authorizedParty.any (· ≠ auth.clientId)) (.auth "authorized_party_mismatch")
  refuse (claims.tenantId ≠ auth.tenantId) (.auth "tenant_mismatch")

/-! ### The conversation -/

/-- `LoopbackCallback::authorize`. -/
def authorize (redirect : crates.Url) (state : String) (authorize : crates.Url) (deadline : ℕ) :
    Timed crates.Url String := do
  let host ← ended (okOr (crates.hostStr redirect) (.input "invalid_redirect"))
  let port ← ended (okOr (crates.portOrKnownDefault redirect) (.input "invalid_redirect"))
  let answer ← (call (Call.bind host port deadline) : Timed crates.Url (Option Bool))
  let bound ← inTime answer
  ended (refuse (bound = false) ((AppError.auth "callback_bind_failed").atStage .callback))
  let opened ← (call (Call.openBrowser authorize) : Timed crates.Url Bool)
  ended (refuse (opened = false) ((AppError.auth "browser_launch_failed").atStage .callback))
  let answer ← (call (Call.accept deadline) : Timed crates.Url (Option (List (Option (Connection UInt8)))))
  let listener ← inTime answer
  -- a listener that says nothing of this login is waited on until the deadline
  let result ← inTime (crates.receiveCallback redirect state listener).1
  ended result

def authorizeUrl (auth : AuthArgs crates.Url) (endpoint : crates.Url) (state nonce challenge : String) : crates.Url :=
  crates.appendPairs endpoint
    [("response_type", "code"), ("client_id", auth.clientId), ("redirect_uri", crates.asStr auth.redirectUri),
      ("scope", "openid"), ("state", state), ("nonce", nonce), ("code_challenge", challenge),
      ("code_challenge_method", "S256")]

def grantForm (auth : AuthArgs crates.Url) (code verifier : String) : List (String × String) :=
  [("grant_type", "authorization_code"), ("code", code), ("redirect_uri", crates.asStr auth.redirectUri),
    ("client_id", auth.clientId), ("code_verifier", verifier)]

/-- The first checks of a login, of what it was told by its user. -/
def checkAuth (auth : AuthArgs crates.Url) : Except AppError crates.Url := do
  crates.secureRemoteUrl auth.issuer false
  crates.secureRemoteUrl auth.redirectUri true
  let callbackHost ← okOr (crates.hostStr auth.redirectUri) (.input "invalid_redirect")
  refuse ((IpAddr.parse callbackHost).all (!·.isLoopback)) (.input "redirect_not_loopback")
  crates.discoveryUrl auth.issuer

/-- The endpoints of the provider: for the browser, for the code, and for the keys. -/
def endpoints (auth : AuthArgs crates.Url) (discovery : Discovery) :
    Except AppError (crates.Url × crates.Url × crates.Url) := do
  refuse (discovery.issuer ≠ crates.asStr auth.issuer) ((AppError.auth "issuer_mismatch").atStage .discovery)
  let invalid := (AppError.untrusted "invalid_discovery").atStage .discovery
  let authorizationEndpoint ← okOr (crates.parse discovery.authorizationEndpoint) invalid
  let tokenEndpoint ← okOr (crates.parse discovery.tokenEndpoint) invalid
  let jwksUri ← okOr (crates.parse discovery.jwksUri) invalid
  crates.secureRemoteUrl authorizationEndpoint false
  crates.secureRemoteUrl tokenEndpoint false
  crates.secureRemoteUrl jwksUri false
  pure (authorizationEndpoint, tokenEndpoint, jwksUri)

def exchange (auth : AuthArgs crates.Url) (tokenEndpoint : crates.Url) (code verifier : String) (deadline : ℕ) :
    Session crates.Url (TokenWire crates.IdToken) := do
  let response ← withinLoginDeadline .tokenExchange do
    let form := crates.grantForm auth code verifier
    let answer ← (call (Call.postForm tokenEndpoint form deadline) : Timed crates.Url (Option (Except AppError HttpReply)))
    let response ← inTime answer
    ended response
  ofExcept (classifyTokenResponse response.status)
  ofExcept (okOr (crates.tokenWire response.body) ((AppError.untrusted "malformed_json").atStage .tokenExchange))

/-- The access token. -/
def authenticateInner (auth : AuthArgs crates.Url) (deadline : ℕ) : Session crates.Url String := do
  let discoveryUrl ← ofExcept (crates.checkAuth auth)
  let discovery ← withinLoginDeadline .discovery (crates.fetchJson crates.discovery discoveryUrl deadline .discovery)
  let (authorizationEndpoint, tokenEndpoint, jwksUri) ← ofExcept (crates.endpoints auth discovery)
  let state ← (call Call.newV4 : Session crates.Url Uuid)
  let nonce ← (call Call.newV4 : Session crates.Url Uuid)
  let pkce ← (call Call.newRandomSha256 : Session crates.Url Pkce)
  let authorizeUrl := crates.authorizeUrl auth authorizationEndpoint state.hyphenated nonce.hyphenated pkce.challenge
  let code ← withinLoginDeadline .callback (crates.authorize auth.redirectUri state.hyphenated authorizeUrl deadline)
  let token ← crates.exchange auth tokenEndpoint code pkce.verifier deadline
  let jwks ← withinLoginDeadline .jwks (crates.fetchJwks jwksUri deadline)
  let now ← (call Call.unixSeconds : Session crates.Url (Option ℕ))
  let now ← ofExcept (okOr now (.auth "clock_invalid"))
  ofExcept (crates.validateIdToken token.idToken jwks auth nonce.hyphenated now)
  pure token.accessToken

/-- `authenticate` and `authenticate_with_limit`. -/
def authenticate (auth : AuthArgs crates.Url) : Session crates.Url String := do
  let start ← (call Call.instant : Session crates.Url ℕ)
  crates.authenticateInner auth (start + loginTimeout)

/-- `ReqwestHttpPort::new`. -/
def newHttpPort (caCertificate : Option String) : Session crates.Url Unit := do
  let certificate ← match caCertificate with
    | none => pure none
    | some path => do
      let bytes ← (call (Call.read path) : Session crates.Url (Option Bytes))
      let bytes ← ofExcept (okOr bytes (.input "input_unreadable"))
      ofExcept (refuse (maxResponseBytes < bytes.length) (.input "ca_certificate_oversize"))
      ofExcept (refuse (crates.certificate bytes = false) (.input "invalid_ca_certificate"))
      pure (some bytes)
  let built ← (call (Call.client certificate) : Session crates.Url Bool)
  ofExcept (refuse (built = false) (.transport "http_client_unavailable" false))

def login (auth : AuthArgs crates.Url) : Session crates.Url String := do
  crates.newHttpPort auth.caCertificate
  crates.authenticate auth

end Crates

end RssIncubator.Control
