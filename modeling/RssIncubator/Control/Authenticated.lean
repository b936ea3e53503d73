import RssIncubator.Control.Login

/-!
# What a login does with its secrets

Whatever the provider, the browser and the connections of this machine answer, the code and its verifier go to the token
endpoint that the provider published, over TLS and once; and an access token is given away only when the identity token that
came with it was verified with the keys of the same provider, for the nonce of the same login, and all that was waited for
came before the one deadline of the login.

`May` lists the calls of a login with what must have been told before, `Authenticated` what must have been told for its token.
What is sent in them stands there as it goes out: the query of the browser's address, the form with the code, and what the
verifier is set to.
-/

namespace RssIncubator.Control

open Lib Lib.Dialogue
open Agent (Uuid except_bind_ok mapError_eq_ok)

section

variable {Url : Type}

/-- The call was answered so. -/
def Told (h : History Url) (q : Call Url) (a : Answer q) : Prop := ⟨q, a⟩ ∈ h

variable {h h' : History Url} {q : Call Url} {a : Answer q}

theorem Told.mono (ht : Told h q a) (hh : h <+: h') : Told h' q a := hh.subset ht

theorem Told.last : Told (h ++ [⟨q, a⟩]) q a := List.mem_append_right _ (List.mem_singleton_self _)

/-- No code was traded yet. -/
def Untraded (h : History Url) : Prop := ∀ e ∈ h, ∀ url form deadline, e.1 ≠ .postForm url form deadline

theorem Untraded.append (hu : Untraded h) (hq : ∀ url form deadline, q ≠ .postForm url form deadline) :
    Untraded (h ++ [⟨q, a⟩]) := by
  intro e he
  rcases List.mem_append.1 he with he | he
  · exact hu e he
  · obtain rfl := List.mem_singleton.1 he
    exact hq

end

section

variable (crates : Crates)

/-- A URL that the provider names, spoken to over TLS. -/
def Endpoint (text : String) (url : crates.Url) : Prop := crates.parse text = some url ∧ crates.scheme url = "https"

/-- Where a provider says of itself where it is spoken to. -/
def WellKnown (issuer url : crates.Url) : Prop :=
  crates.join (crates.setPath issuer (UrlLibrary.trimEndSlashes (crates.path issuer) ++ "/"))
    ".well-known/openid-configuration" = some url

variable {crates} (auth : AuthArgs crates.Url) (h : History crates.Url) (deadline : ℕ)

/-- The login began so long before its deadline. -/
def Started : Prop := ∃ start, Told h .instant start ∧ deadline = start + loginTimeout

/-- What the provider published of itself at its well-known address. -/
structure Discovered (d : Discovery) : Prop where
  started : Started h deadline
  fetched : ∃ url body, WellKnown crates auth.issuer url ∧ Told h (.get url deadline) (some (.ok ⟨200, body⟩)) ∧
    crates.discovery body = some d
  issuer : d.issuer = crates.asStr auth.issuer

/-- The random values of the login, each drawn for itself. -/
def Drawn (state nonce : Uuid) (pkce : Pkce) : Prop :=
  [⟨.newV4, state⟩, ⟨.newV4, nonce⟩, ⟨.newRandomSha256, pkce⟩] <:+: h

variable (crates) in
/-- The address the browser is sent to: that of the provider, with the request of this login in its query. -/
def CodeRequest (endpoint url : crates.Url) (state nonce : Uuid) (pkce : Pkce) : Prop :=
  url = crates.appendPairs endpoint
    [("response_type", "code"), ("client_id", auth.clientId), ("redirect_uri", crates.asStr auth.redirectUri),
      ("scope", "openid"), ("state", state.hyphenated), ("nonce", nonce.hyphenated), ("code_challenge", pkce.challenge),
      ("code_challenge_method", "S256")]

/-- The browser was sent to the provider with them. -/
structure Asked (d : Discovery) (state nonce : Uuid) (pkce : Pkce) : Prop where
  drawn : Drawn h state nonce pkce
  opened : ∃ endpoint url, Endpoint crates d.authorizationEndpoint endpoint ∧
    CodeRequest crates auth endpoint url state nonce pkce ∧ Told h (.openBrowser url) true

/-- A connection to this machine brought the code, with the state of the login. -/
def Redirected (state : Uuid) (code : String) : Prop :=
  ∃ listener socket, Told h (.accept deadline) (some listener) ∧ some socket ∈ listener ∧
    Says crates.toUrlCrate auth.redirectUri state.hyphenated socket (.code code)

/-- The form that trades the code: with its verifier, and as it was asked for. -/
def Trades (form : List (String × String)) (code : String) (pkce : Pkce) : Prop :=
  form = [("grant_type", "authorization_code"), ("code", code), ("redirect_uri", crates.asStr auth.redirectUri),
    ("client_id", auth.clientId), ("code_verifier", pkce.verifier)]

/-- The provider gave tokens for the code and its verifier. -/
def Granted (d : Discovery) (code : String) (pkce : Pkce) (token : TokenWire crates.IdToken) : Prop :=
  ∃ endpoint form body, Endpoint crates d.tokenEndpoint endpoint ∧ Trades auth form code pkce ∧
    Told h (.postForm endpoint form deadline) (some (.ok ⟨200, body⟩)) ∧ crates.tokenWire body = some token

/-- The operations that a key names are to verify, and nothing else. -/
def OnlyVerifies (key : Value) : Prop := ∀ operations, key.get "key_ops" = some operations → ∃ operation,
  operations.asArray = some [operation] ∧ operation.asStr = some "verify"

/-- The keys the provider publishes. -/
def Keyed (d : Discovery) (keys : crates.KeySet) : Prop :=
  ∃ endpoint body value items, Endpoint crates d.jwksUri endpoint ∧
    Told h (.get endpoint deadline) (some (.ok ⟨200, body⟩)) ∧
    crates.value body = some value ∧ (value.get "keys").bind Value.asArray = some items ∧
    (∀ key ∈ items, OnlyVerifies key) ∧ crates.keySet body = some keys

variable (crates) in
/-- A verifier for the tokens of one client and one provider, signed by RS256 with one of these keys, of now and not of the
future.  A token may be for others beside the client: for whom it was made is looked at in its claims. -/
structure Strict (verifier : IdTokenVerifier crates.KeySet crates.Time) (issuer : String) (keys : crates.KeySet)
    (now : crates.Time) : Prop where
  client : verifier.clientId = auth.clientId
  issuer : verifier.issuer = issuer
  keys : verifier.jwks = keys
  algorithm : verifier.allowedAlgs = [.rsaSsaPkcs1V15Sha256]
  others : ∀ audience, verifier.otherAudience audience = true
  time : verifier.time = now
  issued : ∀ issuedAt, verifier.issueTime issuedAt = crates.notAfter issuedAt now

/-- The identity token was made with these keys for the user of this login. -/
def Verified (nonce : Uuid) (keys : crates.KeySet) (token : crates.IdToken) : Prop :=
  ∃ seconds now issuer verifier claims, Told h .unixSeconds (some seconds) ∧
    crates.fromTimestamp (seconds : ℕ) = some now ∧ crates.issuerUrl (crates.asStr auth.issuer) = some issuer ∧
    Strict crates auth verifier issuer keys now ∧ crates.claims verifier nonce.hyphenated token = some claims ∧
    (∀ party, claims.authorizedParty = some party → party = auth.clientId) ∧
    (1 < claims.audiences.length → claims.authorizedParty = some auth.clientId) ∧ claims.tenantId = auth.tenantId

/-- The calls a login makes, each with what was told before. -/
inductive May : Call crates.Url → Prop
  | read {path} (hpath : auth.caCertificate = some path) : May (.read path)
  | client (certificate) : May (.client certificate)
  | instant : May .instant
  | discover {url deadline} (hstart : Started h deadline) (hurl : WellKnown crates auth.issuer url)
      (hsecure : crates.scheme url = "https") : May (.get url deadline)
  | newV4 : May .newV4
  | newRandomSha256 : May .newRandomSha256
  | bind {d host port deadline} (hd : Discovered auth h deadline d) (hhost : crates.hostStr auth.redirectUri = some host)
      (hloopback : crates.loopback auth.redirectUri) (hport : crates.portOrKnownDefault auth.redirectUri = some port) :
      May (.bind host port deadline)
  | openBrowser {d endpoint url state nonce pkce host port deadline} (hd : Discovered auth h deadline d)
      (hendpoint : Endpoint crates d.authorizationEndpoint endpoint) (hdrawn : Drawn h state nonce pkce)
      (hrequests : CodeRequest crates auth endpoint url state nonce pkce)
      (hbound : Told h (.bind host port deadline) (some true)) : May (.openBrowser url)
  | accept {url deadline} (hstart : Started h deadline) (hopened : Told h (.openBrowser url) true) : May (.accept deadline)
  | postForm {d endpoint form state nonce pkce code deadline} (hd : Discovered auth h deadline d)
      (hendpoint : Endpoint crates d.tokenEndpoint endpoint) (hasked : Asked auth h d state nonce pkce)
      (hcode : Redirected auth h deadline state code) (htrades : Trades auth form code pkce) (hfirst : Untraded h) :
      May (.postForm endpoint form deadline)
  | keys {d endpoint code pkce token deadline} (hd : Discovered auth h deadline d)
      (hendpoint : Endpoint crates d.jwksUri endpoint) (hgranted : Granted auth h deadline d code pkce token) :
      May (.get endpoint deadline)
  | unixSeconds : May .unixSeconds

/-- What was told before an access token is given away, with one deadline for all that was waited for. -/
inductive Authenticated : String → Prop
  | intro {deadline d state nonce pkce code token keys} (discovered : Discovered auth h deadline d)
      (asked : Asked auth h d state nonce pkce) (redirected : Redirected auth h deadline state code)
      (granted : Granted auth h deadline d code pkce token) (keyed : Keyed h deadline d keys)
      (verified : Verified auth h nonce keys token.idToken) : Authenticated token.accessToken

end

/-! ### What is known once a check has passed -/

section

variable {crates : Crates} {auth : AuthArgs crates.Url} {url : crates.Url} {body : Bytes}

theorem checkKeyOperations_ok {key : Value} (h : Crates.checkKeyOperations key = .ok ()) : OnlyVerifies key := by
  intro operations hops
  unfold Crates.checkKeyOperations at h
  rw [hops] at h
  dsimp only at h
  cases harray : operations.asArray with
  | none =>
    rw [harray] at h
    cases h
  | some items =>
    rw [harray, refuse_eq_ok, not_or, not_not, not_not] at h
    obtain ⟨operation, rfl⟩ := List.length_eq_one_iff.1 h.1
    exact ⟨operation, rfl, by simpa using h.2⟩

theorem forM_ok {ε α : Type} {f : α → Except ε Unit} {l : List α} : l.forM f = .ok () ↔ ∀ x ∈ l, f x = .ok () := by
  induction l with
  | nil => simp [pure, Except.pure]
  | cons x l ih =>
    rw [List.forM_eq_forM] at ih ⊢
    rw [List.forM_cons, except_bind_ok, List.forall_mem_cons]
    constructor
    · rintro ⟨⟨⟩, hx, hl⟩
      exact ⟨hx, ih.1 hl⟩
    · rintro ⟨hx, hl⟩
      exact ⟨(), hx, ih.2 hl⟩

theorem validateJwksKeyOperations_ok (h : crates.validateJwksKeyOperations body = .ok ()) :
    ∃ value items, crates.value body = some value ∧ (value.get "keys").bind Value.asArray = some items ∧
      ∀ key ∈ items, OnlyVerifies key := by
  obtain ⟨value, hvalue, h⟩ := except_bind_ok.1 h
  obtain ⟨items, hitems, h⟩ := except_bind_ok.1 h
  exact ⟨value, items, okOr_eq_ok.1 hvalue, okOr_eq_ok.1 hitems, fun key hkey => checkKeyOperations_ok (forM_ok.1 h key hkey)⟩

theorem checkAuth_ok (resolves : crates.Resolves) (h : crates.checkAuth auth = .ok url) :
    WellKnown crates auth.issuer url ∧ crates.scheme url = "https" ∧ crates.loopback auth.redirectUri := by
  obtain ⟨⟨⟩, hissuer, h⟩ := except_bind_ok.1 h
  obtain ⟨⟨⟩, -, h⟩ := except_bind_ok.1 h
  obtain ⟨host, hhost, h⟩ := except_bind_ok.1 h
  obtain ⟨⟨⟩, hloopback, h⟩ := except_bind_ok.1 h
  refine ⟨okOr_eq_ok.1 h, ?_, ?_⟩
  · rw [UrlLibrary.scheme_congr (resolves.discoveryUrl h)]
    exact UrlLibrary.secureRemoteUrl_remote.1 hissuer
  · unfold UrlLibrary.loopback
    rw [okOr_eq_ok.1 hhost, Option.bind_some]
    rw [refuse_eq_ok] at hloopback
    cases hip : IpAddr.parse host with
    | none => simp [hip] at hloopback
    | some ip => simpa [hip] using hloopback

theorem endpoints_ok {d : Discovery} {authorizationEndpoint tokenEndpoint jwksUri : crates.Url}
    (h : crates.endpoints auth d = .ok (authorizationEndpoint, tokenEndpoint, jwksUri)) : d.issuer = crates.asStr auth.issuer ∧
      Endpoint crates d.authorizationEndpoint authorizationEndpoint ∧ Endpoint crates d.tokenEndpoint tokenEndpoint ∧
      Endpoint crates d.jwksUri jwksUri := by
  obtain ⟨⟨⟩, hissuer, h⟩ := except_bind_ok.1 h
  obtain ⟨u1, h1, h⟩ := except_bind_ok.1 h
  obtain ⟨u2, h2, h⟩ := except_bind_ok.1 h
  obtain ⟨u3, h3, h⟩ := except_bind_ok.1 h
  obtain ⟨⟨⟩, s1, h⟩ := except_bind_ok.1 h
  obtain ⟨⟨⟩, s2, h⟩ := except_bind_ok.1 h
  obtain ⟨⟨⟩, s3, h⟩ := except_bind_ok.1 h
  obtain ⟨rfl, rfl, rfl⟩ : u1 = _ ∧ u2 = _ ∧ u3 = _ := by simpa [pure, Except.pure] using h
  rw [refuse_eq_ok, not_not] at hissuer
  exact ⟨hissuer, ⟨okOr_eq_ok.1 h1, UrlLibrary.secureRemoteUrl_remote.1 s1⟩,
    ⟨okOr_eq_ok.1 h2, UrlLibrary.secureRemoteUrl_remote.1 s2⟩, ⟨okOr_eq_ok.1 h3, UrlLibrary.secureRemoteUrl_remote.1 s3⟩⟩

theorem validateIdToken_ok {h : History crates.Url} {token : crates.IdToken} {keys : crates.KeySet} {nonce : Uuid} {seconds : ℕ}
    (ht : Told h .unixSeconds (some seconds))
    (hok : crates.validateIdToken token keys auth nonce.hyphenated seconds = .ok ()) : Verified auth h nonce keys token := by
  obtain ⟨now, hnow, hok⟩ := except_bind_ok.1 hok
  obtain ⟨issuer, hissuer, hok⟩ := except_bind_ok.1 hok
  obtain ⟨claims, hclaims, hok⟩ := except_bind_ok.1 hok
  obtain ⟨⟨⟩, hparty, hok⟩ := except_bind_ok.1 hok
  obtain ⟨⟨⟩, hparty', htenant⟩ := except_bind_ok.1 hok
  rw [okOr_eq_ok] at hnow hissuer hclaims
  rw [refuse_eq_ok] at hparty hparty' htenant
  have hseconds : seconds < 2 ^ 63 := by
    by_contra hlarge
    rw [if_neg hlarge] at hnow
    cases hnow
  rw [if_pos hseconds] at hnow
  have hstrict : Strict crates auth (crates.verifier auth issuer keys now) issuer keys now :=
    ⟨rfl, rfl, rfl, rfl, fun _ => rfl, rfl, fun _ => rfl⟩
  refine ⟨seconds, now, issuer, _, claims, ht, hnow, hissuer, hstrict, hclaims, fun party hp => ?_, fun hmany => ?_,
    not_not.1 htenant⟩
  · simpa [hp] using hparty'
  · by_contra hne
    exact hparty ⟨hmany, hne⟩

/-- A code comes from a connection that says so. -/
theorem receiveCallback_code {crate : UrlCrate} {redirect : crate.Url} {state code : String}
    {listener : List (Option (Connection UInt8))} (h : (crate.receiveCallback redirect state listener).1 = some (.ok code)) :
    ∃ socket, some socket ∈ listener ∧ Says crate redirect state socket (.code code) := by
  induction listener with
  | nil => cases h
  | cons c listener ih =>
    cases c with
    | none => cases h
    | some socket =>
      unfold UrlCrate.receiveCallback at h
      cases hout : crate.outcome socket redirect state with
      | none =>
        rw [hout] at h
        obtain ⟨socket', hmem, hsays⟩ := ih h
        exact ⟨socket', List.mem_cons_of_mem _ hmem, hsays⟩
      | some outcome =>
        rw [hout] at h
        have hresult : outcome.result = .ok code := Option.some.inj h
        cases outcome with
        | rejected => cases hresult
        | code value =>
          obtain rfl := Except.ok.inj hresult
          exact ⟨socket, List.mem_cons_self, outcome_eq_some.1 hout⟩

end

/-! ### The parts of the conversation -/

section

variable {crates : Crates} {may : History crates.Url → Call crates.Url → Prop} {h : History crates.Url} {url : crates.Url}
  {deadline : ℕ}

theorem Keeps.inTime {α β : Type} {R : History crates.Url → β → Prop} {answer : Option α} {f : α → Timed crates.Url β}
    (hf : ∀ a, answer = some a → Keeps may (Returns R) h (f a)) : Keeps may (Returns R) h (inTime answer >>= f) := by
  cases answer with
  | none => trivial
  | some a => exact hf a rfl

theorem Keeps.ended {α β : Type} {R : History crates.Url → β → Prop} {x : Except AppError α} {f : α → Timed crates.Url β}
    (hf : ∀ a, x = .ok a → Keeps may (Returns R) h (f a)) : Keeps may (Returns R) h (ended x >>= f) := by
  cases x with
  | error e => trivial
  | ok a => exact hf a rfl

theorem Keeps.finally {α : Type} {R : History crates.Url → α → Prop} {x : Except AppError α}
    (hR : ∀ a, x = .ok a → R h a) : Keeps may (Returns R) h (Control.ended x) := by
  cases x with
  | error e => trivial
  | ok a => exact hR a rfl

theorem keeps_fetchReply {stage : ErrorStage} (hmay : may h (.get url deadline)) :
    Keeps may (Returns fun h' body => h' = h ++ [⟨.get url deadline, some (.ok ⟨200, body⟩)⟩]) h
      (crates.fetchReply url deadline stage) := by
  refine Dialogue.Keeps.ask hmay fun answer => ?_
  refine Keeps.inTime fun response hanswer => Keeps.ended fun reply hreply => Keeps.ended fun _ hstatus => ?_
  rw [refuse_eq_ok, not_not] at hstatus
  obtain rfl := hanswer
  obtain rfl := mapError_eq_ok.1 hreply
  obtain ⟨status, body⟩ := reply
  obtain rfl : status = 200 := hstatus
  rfl

theorem keeps_fetchJson {T : Type} {fromSlice : Bytes → Option T} {stage : ErrorStage} (hmay : may h (.get url deadline)) :
    Keeps may (Returns fun h' value => ∃ body, h' = h ++ [⟨.get url deadline, some (.ok ⟨200, body⟩)⟩] ∧
      fromSlice body = some value) h (crates.fetchJson fromSlice url deadline stage) := by
  refine (keeps_fetchReply hmay).seq fun l body hl => Keeps.finally fun value hvalue => ?_
  exact ⟨body, hl, okOr_eq_ok.1 hvalue⟩

theorem keeps_fetchJwks (hmay : may h (.get url deadline)) :
    Keeps may (Returns fun h' keys => ∃ body value items, h' = h ++ [⟨.get url deadline, some (.ok ⟨200, body⟩)⟩] ∧
      crates.value body = some value ∧ (value.get "keys").bind Value.asArray = some items ∧
      (∀ key ∈ items, OnlyVerifies key) ∧ crates.keySet body = some keys) h (crates.fetchJwks url deadline) := by
  refine (keeps_fetchReply hmay).seq fun l body hl => Keeps.ended fun _ hvalid => Keeps.finally fun keys hkeys => ?_
  obtain ⟨value, items, hvalue, hitems, honly⟩ := validateJwksKeyOperations_ok hvalid
  exact ⟨body, value, items, hl, hvalue, hitems, honly, okOr_eq_ok.1 hkeys⟩

/-- The port is bound before the browser is opened, and the browser opened before anybody is listened to. -/
theorem keeps_authorize {redirect : crates.Url} {state : String}
    (hbind : ∀ host port, crates.hostStr redirect = some host → crates.portOrKnownDefault redirect = some port →
      may h (.bind host port deadline))
    (hopen : ∀ host port, may (h ++ [⟨.bind host port deadline, some true⟩]) (.openBrowser url))
    (haccept : ∀ host port,
      may (h ++ [⟨.bind host port deadline, some true⟩] ++ [⟨.openBrowser url, true⟩]) (.accept deadline)) :
    Keeps may (Returns fun h' code => ∃ host port listener,
      h' = h ++ [⟨.bind host port deadline, some true⟩] ++ [⟨.openBrowser url, true⟩] ++ [⟨.accept deadline, some listener⟩] ∧
      (crates.receiveCallback redirect state listener).1 = some (.ok code)) h
      (crates.authorize redirect state url deadline) := by
  refine Keeps.ended fun host hhost => Keeps.ended fun port hport => ?_
  refine Dialogue.Keeps.ask (hbind host port (okOr_eq_ok.1 hhost) (okOr_eq_ok.1 hport)) fun answer => ?_
  refine Keeps.inTime fun bound hanswer => Keeps.ended fun _ hbound => ?_
  rw [refuse_eq_ok, Bool.not_eq_false] at hbound
  obtain rfl := hbound
  obtain rfl := hanswer
  refine Dialogue.Keeps.ask (hopen host port) fun opened => Keeps.ended fun _ hopened => ?_
  rw [refuse_eq_ok, Bool.not_eq_false] at hopened
  obtain rfl := hopened
  refine Dialogue.Keeps.ask (haccept host port) fun answer => Keeps.inTime fun listener hanswer => ?_
  obtain rfl := hanswer
  refine Keeps.inTime fun result hresult => Keeps.finally fun code hcode => ?_
  exact ⟨host, port, listener, rfl, hresult.trans (congrArg some hcode)⟩

theorem classifyTokenResponse_ok {status : ℕ} : Crates.classifyTokenResponse status = .ok () ↔ status = 200 := by
  unfold Crates.classifyTokenResponse
  by_cases h : status = 200
  · simp [h]
  · rw [if_neg h]
    split_ifs <;> simp [h]

theorem keeps_exchange {auth : AuthArgs crates.Url} {code verifier : String}
    (hmay : may h (.postForm url (crates.grantForm auth code verifier) deadline)) :
    Keeps may (Returns fun h' token => ∃ body,
      h' = h ++ [⟨.postForm url (crates.grantForm auth code verifier) deadline, some (.ok ⟨200, body⟩)⟩] ∧
      crates.tokenWire body = some token) h (crates.exchange auth url code verifier deadline) := by
  have hpost : Keeps may (Returns fun h' (response : HttpReply) =>
      h' = h ++ [⟨.postForm url (crates.grantForm auth code verifier) deadline, some (.ok response)⟩]) h
      (do
        let answer ← (call (Call.postForm url (crates.grantForm auth code verifier) deadline) :
          Timed crates.Url (Option (Except AppError HttpReply)))
        let response ← inTime answer
        ended response) := by
    refine Dialogue.Keeps.ask hmay fun answer => Keeps.inTime fun response hanswer => Keeps.finally fun reply hreply => ?_
    rw [hanswer, hreply]
  refine (Keeps.mapErr hpost).seq fun l response hl => ?_
  refine Keeps.pass fun _ hstatus => ?_
  obtain ⟨status, body⟩ := response
  obtain rfl : status = 200 := classifyTokenResponse_ok.1 hstatus
  rw [hl]
  cases htoken : crates.tokenWire body with
  | none => exact trivial
  | some token => exact ⟨body, rfl, htoken⟩

end

/-! ### The whole conversation -/

section

variable {crates : Crates} {auth : AuthArgs crates.Url} {h h' : History crates.Url} {deadline : ℕ} {d : Discovery}
  {state nonce : Uuid} {pkce : Pkce} {code : String}

theorem Started.mono (hs : Started h deadline) (hh : h <+: h') : Started h' deadline := by
  obtain ⟨start, hstart, hdeadline⟩ := hs
  exact ⟨start, hstart.mono hh, hdeadline⟩

theorem Discovered.mono (hd : Discovered auth h deadline d) (hh : h <+: h') : Discovered auth h' deadline d := by
  obtain ⟨url, body, hurl, hbody, hparse⟩ := hd.fetched
  exact ⟨hd.started.mono hh, ⟨url, body, hurl, hbody.mono hh, hparse⟩, hd.issuer⟩

theorem Drawn.mono (hd : Drawn h state nonce pkce) (hh : h <+: h') : Drawn h' state nonce pkce := hd.trans hh.isInfix

theorem Asked.mono (ha : Asked auth h d state nonce pkce) (hh : h <+: h') : Asked auth h' d state nonce pkce := by
  obtain ⟨endpoint, url, hendpoint, hrequest, hopened⟩ := ha.opened
  exact ⟨ha.drawn.mono hh, endpoint, url, hendpoint, hrequest, hopened.mono hh⟩

theorem Redirected.mono (hr : Redirected auth h deadline state code) (hh : h <+: h') :
    Redirected auth h' deadline state code := by
  obtain ⟨listener, socket, hlistener, hsocket⟩ := hr
  exact ⟨listener, socket, hlistener.mono hh, hsocket⟩

theorem Granted.mono {token : TokenWire crates.IdToken} (hg : Granted auth h deadline d code pkce token) (hh : h <+: h') :
    Granted auth h' deadline d code pkce token := by
  obtain ⟨endpoint, form, body, hendpoint, htrades, hbody, htoken⟩ := hg
  exact ⟨endpoint, form, body, hendpoint, htrades, hbody.mono hh, htoken⟩

theorem Keyed.mono {keys : crates.KeySet} (hk : Keyed h deadline d keys) (hh : h <+: h') : Keyed h' deadline d keys := by
  obtain ⟨endpoint, body, value, items, hendpoint, hbody, hkeys⟩ := hk
  exact ⟨endpoint, body, value, items, hendpoint, hbody.mono hh, hkeys⟩

/-- The end of a login, once the code has come. -/
theorem keeps_granted {authorizationEndpoint tokenEndpoint jwksUri : crates.Url} (hd : Discovered auth h deadline d)
    (hendpoints : crates.endpoints auth d = .ok (authorizationEndpoint, tokenEndpoint, jwksUri))
    (hasked : Asked auth h d state nonce pkce) (hcode : Redirected auth h deadline state code) (hfirst : Untraded h) :
    Keeps (May auth) (Returns (Authenticated auth)) h (do
      let token ← crates.exchange auth tokenEndpoint code pkce.verifier deadline
      let jwks ← withinLoginDeadline .jwks (crates.fetchJwks jwksUri deadline)
      let now ← (call Call.unixSeconds : Session crates.Url (Option ℕ))
      let now ← ofExcept (okOr now (.auth "clock_invalid"))
      ofExcept (crates.validateIdToken token.idToken jwks auth nonce.hyphenated now)
      pure token.accessToken) := by
  obtain ⟨-, -, htokenEndpoint, hjwksUri⟩ := endpoints_ok hendpoints
  refine (keeps_exchange (.postForm hd htokenEndpoint hasked hcode rfl hfirst)).seq fun l token hl => ?_
  obtain ⟨body, hl, htoken⟩ := hl
  have hgranted : Granted auth (h ++ l) deadline d code pkce token := by
    rw [hl]
    exact ⟨tokenEndpoint, _, body, htokenEndpoint, rfl, Told.last, htoken⟩
  have hmay := May.keys (hd.mono (List.prefix_append h l)) hjwksUri hgranted
  refine (Keeps.mapErr (keeps_fetchJwks hmay)).seq fun l' keys hl' => ?_
  obtain ⟨body', value, items, hl', hkeys⟩ := hl'
  have hkeyed : Keyed (h ++ l ++ l') deadline d keys := by
    rw [hl']
    exact ⟨jwksUri, body', value, items, hjwksUri, Told.last, hkeys⟩
  refine Keeps.ask .unixSeconds fun now => Keeps.pass fun seconds hnow => Keeps.pass fun _ hvalid => ?_
  obtain rfl := okOr_eq_ok.1 hnow
  have hlast := List.prefix_append (h ++ l ++ l') [⟨.unixSeconds, some seconds⟩]
  have hafter := (List.prefix_append (h ++ l) l').trans hlast
  have hall := (List.prefix_append h l).trans hafter
  exact .intro (hd.mono hall) (hasked.mono hall) (hcode.mono hall) (hgranted.mono hafter) (hkeyed.mono hlast)
    (validateIdToken_ok Told.last hvalid)

theorem keeps_authenticateInner (resolves : crates.Resolves) (hstart : Started h deadline) (hfirst : Untraded h) :
    Keeps (May auth) (Returns (Authenticated auth)) h (crates.authenticateInner auth deadline) := by
  refine Keeps.pass fun url hcheck => ?_
  obtain ⟨hurl, hsecure, hloopback⟩ := checkAuth_ok resolves hcheck
  refine (Keeps.mapErr (keeps_fetchJson (.discover hstart hurl hsecure))).seq fun l d hl => ?_
  obtain ⟨body, hl, hbody⟩ := hl
  rw [hl]
  refine Keeps.pass fun ⟨authorizationEndpoint, tokenEndpoint, jwksUri⟩ hendpoints => ?_
  obtain ⟨hissuer, hauthorizationEndpoint, -, -⟩ := endpoints_ok hendpoints
  refine Keeps.ask .newV4 fun state => Keeps.ask .newV4 fun nonce => Keeps.ask .newRandomSha256 fun pkce => ?_
  -- all that was told until here
  obtain ⟨g, hg⟩ : ∃ g, g = h ++ [⟨.get url deadline, some (.ok ⟨200, body⟩)⟩] ++ [⟨.newV4, state⟩] ++ [⟨.newV4, nonce⟩] ++
    [⟨.newRandomSha256, pkce⟩] := ⟨_, rfl⟩
  have hbefore : h <+: g := by
    rw [hg]
    simp only [List.append_assoc]
    exact List.prefix_append _ _
  have hd : Discovered auth g deadline d := ⟨hstart.mono hbefore, ⟨url, body, hurl, by simp [hg, Told], hbody⟩, hissuer⟩
  have hdrawn : Drawn g state nonce pkce :=
    ⟨h ++ [⟨.get url deadline, some (.ok ⟨200, body⟩)⟩], [], by simp [hg]⟩
  have hfirst' : Untraded g := by
    rw [hg]
    exact (((hfirst.append (by simp)).append (by simp)).append (by simp)).append (by simp)
  rw [← hg]
  refine Keeps.seq (Keeps.mapErr (keeps_authorize ?_ ?_ ?_)) fun l code hl => ?_
  · exact fun host port hhost hport => .bind hd hhost hloopback hport
  · intro host port
    have hall := List.prefix_append g [⟨.bind host port deadline, some true⟩]
    exact .openBrowser (hd.mono hall) hauthorizationEndpoint (hdrawn.mono hall) rfl Told.last
  · exact fun host port => .accept (hd.started.mono ((List.prefix_append _ _).trans (List.prefix_append _ _))) Told.last
  obtain ⟨host, port, listener, hl, hcode⟩ := hl
  obtain ⟨socket, hsocket, hcode'⟩ := receiveCallback_code hcode
  have hall := List.prefix_append g l
  rw [hl] at hall ⊢
  refine keeps_granted (hd.mono hall) hendpoints ⟨hdrawn.mono hall, authorizationEndpoint, _, hauthorizationEndpoint, rfl, ?_⟩
    ⟨listener, socket, Told.last, hsocket, hcode'⟩ (((hfirst'.append (by simp)).append (by simp)).append (by simp))
  exact Told.last.mono (List.prefix_append _ [_])

theorem keeps_authenticate (resolves : crates.Resolves) (hfirst : Untraded h) :
    Keeps (May auth) (Returns (Authenticated auth)) h (crates.authenticate auth) :=
  Keeps.ask .instant fun start => keeps_authenticateInner resolves ⟨start, Told.last, rfl⟩ (hfirst.append (by simp))

theorem keeps_newHttpPort (hfirst : Untraded h) :
    Keeps (May auth) (Returns fun h' _ => Untraded h') h (crates.newHttpPort auth.caCertificate) := by
  have hclient : ∀ certificate g, Untraded g → Keeps (May auth) (Returns fun h' (_ : Unit) => Untraded h') g (do
      let built ← (call (Call.client certificate) : Session crates.Url Bool)
      ofExcept (refuse (built = false) (.transport "http_client_unavailable" false))) := by
    intro certificate g hg
    refine Keeps.ask (.client certificate) fun built => ?_
    cases built with
    | false => exact trivial
    | true => exact hg.append (by simp)
  unfold Crates.newHttpPort
  cases hca : auth.caCertificate with
  | none => exact hclient none h hfirst
  | some path =>
    refine Keeps.ask (.read hca) fun bytes => Keeps.pass fun bytes _ => Keeps.pass fun _ _ => Keeps.pass fun _ _ => ?_
    exact hclient (some bytes) _ (hfirst.append (by simp))

theorem keeps_login (resolves : crates.Resolves) : Keeps (May auth) (Returns (Authenticated auth)) [] (crates.login auth) := by
  refine (keeps_newHttpPort fun _ he => absurd he List.not_mem_nil).seq fun l _ hl => ?_
  exact keeps_authenticate resolves hl

/-- **The code of a login goes to its provider, and its token comes from there.**  Whatever is answered, each call of a login is
one that it may make after what it was told, and an access token is given away only when all was told that it takes. -/
theorem login_authenticated (resolves : crates.Resolves) (auth : AuthArgs crates.Url) :
    (∀ l q next, Talks (crates.login auth) l (.ask q next) → May auth l q) ∧
    ∀ l token, Talks (crates.login auth) l (.done (.ok token)) → Authenticated auth l token :=
  ⟨fun _ _ _ ht => (keeps_login resolves).permits ht, fun _ _ ht => (keeps_login resolves).result ht⟩

end

/-! ### A login -/

namespace Fixture

/-- A URL in its parts. -/
structure Address where
  scheme : String
  host : String
  port : UInt16
  path : String
  pairs : List (String × String)
  deriving DecidableEq

def Address.pairsOf (query : List Char) : List (String × String) :=
  (query.splitOnP (· = '&')).map fun pair =>
    (String.ofList (pair.takeWhile (· ≠ '=')), String.ofList ((pair.dropWhile (· ≠ '=')).drop 1))

/-- Of references only paths, with a query or without. -/
def Address.join (base : Address) (reference : String) : Address :=
  let path := reference.toList.takeWhile (· ≠ '?')
  let query := (reference.toList.dropWhile (· ≠ '?')).drop 1
  let directory := (base.path.toList.reverse.dropWhile (· ≠ '/')).reverse
  { base with
    path := String.ofList (if path.head? = some '/' then path else directory ++ path)
    pairs := if query = [] then [] else pairsOf query }

def issuer : Address := ⟨"https", "issuer.example", 443, "/", []⟩

def redirect : Address := ⟨"http", "127.0.0.1", 8765, "/callback", []⟩

def Address.asStr (url : Address) : String :=
  url.scheme ++ "://" ++ url.host ++ (if url.port = 8765 then ":8765" else "") ++ url.path

def urls : UrlLibrary where
  Url := Address
  join base reference := some (base.join reference)
  scheme := Address.scheme
  hostStr url := some url.host
  portOrKnownDefault url := some url.port
  path := Address.path
  fragment _ := none
  queryPairs := Address.pairs
  parse text := (["/authorize", "/token", "/jwks"].map issuer.join).find? (·.asStr = text)
  asStr := Address.asStr
  username _ := ""
  password _ := none
  query url := if url.pairs = [] then none else some ""
  setPath url path := { url with path := path }
  appendPairs url pairs := { url with pairs := url.pairs ++ pairs }

theorem resolves : urls.Resolves := ⟨fun _ _ => rfl, fun base reference url _ hjoin => by
  obtain rfl := Option.some.inj hjoin
  rfl⟩

def discoveryBody : Bytes := Agent.utf8 ("\x7b\"issuer\":\"https://issuer.example/\",\"authorization_endpoint\":" ++
  "\"https://issuer.example/authorize\",\"token_endpoint\":\"https://issuer.example/token\"," ++
  "\"jwks_uri\":\"https://issuer.example/jwks\"\x7d")

def tokenBody : Bytes := Agent.utf8 "\x7b\"access_token\":\"access\",\"id_token\":\"identity\"\x7d"

def jwksBody : Bytes := Agent.utf8 "\x7b\"keys\":[\x7b\"key_ops\":[\"verify\"]\x7d]\x7d"

def state : Uuid := ⟨List.replicate 16 1, rfl⟩
def nonce : Uuid := ⟨List.replicate 16 2, rfl⟩
def pkce : Pkce := ⟨"challenge", "verifier"⟩

/-- A provider with one key and one token. -/
def crates : Crates where
  toUrlLibrary := urls
  IdToken := String
  KeySet := List String
  Time := ℤ
  fromTimestamp := some
  notAfter a b := a ≤ b
  discovery body := if body = discoveryBody then some ⟨"https://issuer.example/", "https://issuer.example/authorize",
    "https://issuer.example/token", "https://issuer.example/jwks"⟩ else none
  tokenWire body := if body = tokenBody then some ⟨"access", "identity"⟩ else none
  value body := if body = jwksBody then some (.object [("keys", .array [.object [("key_ops", .array [.string "verify"])]])])
    else none
  keySet body := if body = jwksBody then some ["key"] else none
  issuerUrl := some
  claims verifier text token := if verifier.clientId = "client" ∧ verifier.issuer = "https://issuer.example/" ∧
    verifier.jwks = ["key"] ∧ .rsaSsaPkcs1V15Sha256 ∈ verifier.allowedAlgs ∧ verifier.time < 2000 ∧ verifier.issueTime 900 ∧
    text = nonce.hyphenated ∧ token = "identity" then some ⟨["client"], none, "tenant"⟩ else none
  certificate _ := true

instance : DecidableEq crates.Url := inferInstanceAs (DecidableEq Address)

def auth : AuthArgs crates.Url := ⟨issuer, "client", "tenant", redirect, none⟩

/-- The request that ends the login, as it comes on a connection. -/
def socket : Connection UInt8 :=
  [.data 71 (Agent.utf8 ("ET /callback?state=" ++ state.hyphenated ++ "&code=code HTTP/1.1\r\nHost: 127.0.0.1\r\n\r\n"))]

/-- The address the browser is sent to. -/
def asking : Address :=
  ⟨"https", "issuer.example", 443, "/authorize", [("response_type", "code"), ("client_id", "client"),
    ("redirect_uri", "http://127.0.0.1:8765/callback"), ("scope", "openid"), ("state", state.hyphenated),
    ("nonce", nonce.hyphenated), ("code_challenge", "challenge"), ("code_challenge_method", "S256")]⟩

/-- The form that trades the code. -/
def trading : List (String × String) :=
  [("grant_type", "authorization_code"), ("code", "code"), ("redirect_uri", "http://127.0.0.1:8765/callback"),
    ("client_id", "client"), ("code_verifier", "verifier")]

/-- A conversation that begins two minutes before this, and ends in time. -/
def deadline : ℕ := 5 + 120 * 10 ^ 9

def conversation : History crates.Url :=
  [⟨.client none, true⟩, ⟨.instant, (5 : ℕ)⟩,
    ⟨.get (issuer.join "/.well-known/openid-configuration") deadline, some (.ok ⟨200, discoveryBody⟩)⟩,
    ⟨.newV4, state⟩, ⟨.newV4, nonce⟩, ⟨.newRandomSha256, pkce⟩, ⟨.bind "127.0.0.1" 8765 deadline, some true⟩,
    ⟨.openBrowser asking, true⟩, ⟨.accept deadline, some [some [], some socket]⟩,
    ⟨.postForm (issuer.join "/token") trading deadline, some (.ok ⟨200, tokenBody⟩)⟩,
    ⟨.get (issuer.join "/jwks") deadline, some (.ok ⟨200, jwksBody⟩)⟩, ⟨.unixSeconds, some 1000⟩]

end Fixture

/-- A login that comes to its token, and was told all it takes. -/
theorem login_authenticated_first : Talks (Fixture.crates.login Fixture.auth) Fixture.conversation (.done (.ok "access")) ∧
    Authenticated Fixture.auth Fixture.conversation "access" := by
  have ht : Talks (Fixture.crates.login Fixture.auth) Fixture.conversation (.done (.ok "access")) :=
    talks_of_result (by decide +kernel)
  exact ⟨ht, (login_authenticated Fixture.resolves Fixture.auth).2 _ _ ht⟩

end RssIncubator.Control
