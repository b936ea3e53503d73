import RssIncubator.Lib.Connection
import RssIncubator.Product.Mapping
import RssIncubator.Driver.Mqtt

/-!
# The callback of a login (`rotation-control`)

A login opens a browser and waits on a port of this machine for the redirect that ends it.  Anything on the machine can
connect to the port: the receiver reads the headers of one connection after another, in whatever pieces they come, and goes on
until one of them is the redirect of this login, known by the state it carries.

The `url` crate is a parameter.
-/

namespace RssIncubator.Control

open Lib
open Agent (utf8)
open Driver (fromUtf8 fromUtf8_utf8 fromUtf8_eq_some)
open Product (isWhitespace)

/-! ### Errors -/

inductive ErrorClass where
  | input
  | auth
  | typed
  | transport
  | untrusted
  deriving DecidableEq

inductive ErrorStage where
  | input
  | runtime
  | discovery
  | callback
  | tokenExchange
  | jwks
  | idToken
  | api
  | transport
  deriving DecidableEq

structure AppError where
  code : String
  errorClass : ErrorClass
  stage : ErrorStage
  requestId : Option String
  retryable : Bool
  deriving DecidableEq

namespace AppError

def auth (code : String) : AppError := ⟨code, .auth, .idToken, none, false⟩

def atStage (error : AppError) (stage : ErrorStage) : AppError := { error with stage := stage }

end AppError

/-! ### The headers of a connection -/

def maxCallbackBytes : ℕ := 8192

def callbackInvalid : String := "callback_invalid"

/-- `b"\r\n\r\n"`. -/
def headersEnd : Bytes := [13, 10, 13, 10]

/-- What is read until the headers end, behind what has been read. -/
def readHeaders (socket : Connection UInt8) (request : Bytes) : Except AppError Bytes :=
  if request.length < maxCallbackBytes then
    let remaining := maxCallbackBytes - request.length
    match socket.read (min remaining 1024) with
    | .failed => .error ((AppError.auth "callback_failed").atStage .callback)
    | .elapsed => .error ((AppError.auth "callback_connection_timeout").atStage .callback)
    | .data chunk rest =>
      if chunk = [] then .error ((AppError.auth callbackInvalid).atStage .callback)
      else if headersEnd <:+: request ++ chunk then .ok (request ++ chunk)
      else readHeaders rest (request ++ chunk)
  else .error ((AppError.auth callbackInvalid).atStage .callback)
termination_by maxCallbackBytes - request.length
decreasing_by
  rename_i hroom hchunk _
  have hlen := List.length_pos_of_ne_nil hchunk
  rw [List.length_append]
  omega

def readCallbackHeaders (socket : Connection UInt8) : Except AppError Bytes := readHeaders socket []

section Headers

variable {socket : Connection UInt8} {request headers rest : Bytes}

/-- What is read is the beginning of the stream, within the bound, with the end of the headers in it. -/
theorem readHeaders_ok (h : readHeaders socket request = .ok headers) : headersEnd <:+: headers ∧
    headers <+: request ++ socket.stream ∧ headers.length ≤ maxCallbackBytes := by
  fun_induction readHeaders socket request with
  | case1 => cases h
  | case2 => cases h
  | case3 => cases h
  | case4 socket request hroom remaining chunk rest hread hchunk hend =>
    obtain rfl := Except.ok.inj h
    have hlen := Connection.length_read hread
    refine ⟨hend, ?_, ?_⟩
    · rw [Connection.stream_read hread, ← List.append_assoc]
      exact List.prefix_append _ _
    · rw [List.length_append]
      omega
  | case5 socket request hroom remaining chunk rest hread hchunk hend ih =>
    obtain ⟨hend', hpre, hlen⟩ := ih h
    rw [List.append_assoc, ← Connection.stream_read hread] at hpre
    exact ⟨hend', hpre, hlen⟩
  | case6 => cases h

/-- Bytes that end with their first end of headers are read whole, in whatever pieces they come. -/
theorem readHeaders_delivers (socket : Connection UInt8) (request : Bytes) : ∀ rest, socket.Delivers rest → rest ≠ [] →
    EndsFirst headersEnd (request ++ rest) → (request ++ rest).length ≤ maxCallbackBytes →
    readHeaders socket request = .ok (request ++ rest) := by
  fun_induction readHeaders socket request with
  | case1 socket request hroom remaining hread =>
    intro rest hd hrest hends hlen
    obtain ⟨chunk, more, l, hdata, -⟩ := hd.read hrest (show 0 < min remaining 1024 by omega)
    cases hdata.symm.trans hread
  | case2 socket request hroom remaining hread =>
    intro rest hd hrest hends hlen
    obtain ⟨chunk, more, l, hdata, -⟩ := hd.read hrest (show 0 < min remaining 1024 by omega)
    cases hdata.symm.trans hread
  | case3 socket request hroom remaining more hread =>
    intro rest hd hrest hends hlen
    obtain ⟨chunk, more', l, hdata, hne, -⟩ := hd.read hrest (show 0 < min remaining 1024 by omega)
    exact absurd (Read.data.inj (hdata.symm.trans hread)).1 hne
  | case4 socket request hroom remaining chunk more hread hchunk hend =>
    intro rest hd hrest hends hlen
    obtain ⟨chunk', more', l, hdata, -, rfl, -⟩ := hd.read hrest (show 0 < min remaining 1024 by omega)
    obtain ⟨rfl, rfl⟩ := Read.data.inj (hdata.symm.trans hread)
    have hpre : request ++ chunk' <+: request ++ (chunk' ++ l) := by
      rw [← List.append_assoc]
      exact List.prefix_append _ _
    exact congrArg Except.ok ((hends.eq_of_prefix hpre).1 hend)
  | case5 socket request hroom remaining chunk more hread hchunk hend ih =>
    intro rest hd hrest hends hlen
    obtain ⟨chunk', more', l, hdata, -, rfl, hmore⟩ := hd.read hrest (show 0 < min remaining 1024 by omega)
    obtain ⟨rfl, rfl⟩ := Read.data.inj (hdata.symm.trans hread)
    rw [← List.append_assoc] at hends hlen ⊢
    refine ih l hmore ?_ hends hlen
    rintro rfl
    -- all has come, and the end of the headers with it
    rw [List.append_nil] at hends
    exact hend hends.1.isInfix
  | case6 socket request hroom =>
    intro rest hd hrest hends hlen
    have hpos := List.length_pos_of_ne_nil hrest
    rw [List.length_append] at hlen
    omega

theorem headersEnd_ne : headersEnd ≠ [] := List.cons_ne_nil _ _

theorem endsFirst_ne {l : Bytes} (h : EndsFirst headersEnd l) : l ≠ [] := by
  rintro rfl
  exact headersEnd_ne (List.suffix_nil.1 h.1)

end Headers

/-! ### The request -/

/-- What the receiver uses of the `url` crate. -/
structure UrlCrate where
  Url : Type
  join : Url → String → Option Url
  scheme : Url → String
  hostStr : Url → Option String
  portOrKnownDefault : Url → Option UInt16
  path : Url → String
  fragment : Url → Option String
  /-- The pairs of the query, decoded. -/
  queryPairs : Url → List (String × String)

/-- `split("\r\n").next()`. -/
def firstLine : List Char → List Char
  | '\r' :: '\n' :: _ => []
  | c :: text => c :: firstLine text
  | [] => []

/-- `split_whitespace`. -/
def splitWhitespace (text : List Char) : List String :=
  ((text.splitOnP isWhitespace).filter (· ≠ [])).map String.ofList

inductive CallbackOutcome where
  | code (code : String)
  | rejected
  deriving DecidableEq

namespace UrlCrate

variable (crate : UrlCrate)

/-- The values of a name in the query. -/
def values (callback : crate.Url) (name : String) : List String :=
  ((crate.queryPairs callback).filter (·.1 = name)).map (·.2)

def parseCallbackRequest (request : Bytes) (redirect : crate.Url) (expectedState : String) : Option CallbackOutcome := do
  let text ← fromUtf8 request
  match splitWhitespace (firstLine text.toList) with
  | method :: target :: version :: parts =>
    if method ≠ "GET" then none
    else if version ≠ "HTTP/1.1" ∨ parts ≠ [] ∨ ¬ utf8 "/" <+: utf8 target ∨ utf8 "//" <+: utf8 target then none
    else
      let callback ← crate.join redirect target
      if crate.scheme callback ≠ crate.scheme redirect ∨ crate.hostStr callback ≠ crate.hostStr redirect ∨
        crate.portOrKnownDefault callback ≠ crate.portOrKnownDefault redirect ∨ crate.path callback ≠ crate.path redirect ∨
        (crate.fragment callback).isSome then none
      else
        let states := crate.values callback "state"
        if states.head? ≠ some expectedState ∨ states.tail ≠ [] then none
        else if (crate.queryPairs callback).any (·.1 = "error") then some .rejected
        else
          let codes := crate.values callback "code"
          let code ← codes.head?
          if code = "" ∨ codes.tail ≠ [] then none else some (.code code)
  | _ => none

end UrlCrate

section Request

variable {crate : UrlCrate} {redirect callback : crate.Url} {expectedState code : String} {headers : Bytes}
  {outcome : CallbackOutcome}

/-- The headers are a request for the redirect of the login, with its state. -/
structure LoginRedirect (crate : UrlCrate) (redirect : crate.Url) (expectedState : String) (headers : Bytes)
    (callback : crate.Url) : Prop where
  request : ∃ text target, utf8 text = headers ∧ splitWhitespace (firstLine text.toList) = ["GET", target, "HTTP/1.1"] ∧
    utf8 "/" <+: utf8 target ∧ ¬ utf8 "//" <+: utf8 target ∧ crate.join redirect target = some callback
  scheme : crate.scheme callback = crate.scheme redirect
  host : crate.hostStr callback = crate.hostStr redirect
  port : crate.portOrKnownDefault callback = crate.portOrKnownDefault redirect
  path : crate.path callback = crate.path redirect
  fragment : crate.fragment callback = none
  state : crate.values callback "state" = [expectedState]

/-- How such a request ends the login: an error counts before a code. -/
inductive Ends (crate : UrlCrate) (redirect : crate.Url) (expectedState : String) (headers : Bytes) :
    CallbackOutcome → Prop where
  | rejected {callback : crate.Url} (h : LoginRedirect crate redirect expectedState headers callback)
      (herror : crate.values callback "error" ≠ []) : Ends crate redirect expectedState headers .rejected
  | code {callback : crate.Url} {code : String} (h : LoginRedirect crate redirect expectedState headers callback)
      (herror : crate.values callback "error" = []) (hcode : crate.values callback "code" = [code]) (hne : code ≠ "") :
      Ends crate redirect expectedState headers (.code code)

theorem values_eq_nil {name : String} : crate.values callback name = [] ↔
    (crate.queryPairs callback).any (·.1 = name) = false := by
  simp [UrlCrate.values]

theorem eq_singleton {l : List String} {s : String} : l = [s] ↔ l.head? = some s ∧ l.tail = [] := by
  cases l <;> simp

theorem LoginRedirect.parse (h : LoginRedirect crate redirect expectedState headers callback) :
    crate.parseCallbackRequest headers redirect expectedState =
      if (crate.queryPairs callback).any (·.1 = "error") then some .rejected
      else (crate.values callback "code").head?.bind fun code =>
        if code = "" ∨ (crate.values callback "code").tail ≠ [] then none else some (.code code) := by
  obtain ⟨text, target, rfl, hparts, hslash, hdouble, hjoin⟩ := h.request
  unfold UrlCrate.parseCallbackRequest
  rw [fromUtf8_utf8, Option.bind_eq_bind, Option.bind_some, hparts]
  simp [hslash, hdouble, hjoin, h.scheme, h.host, h.port, h.path, h.fragment, h.state]

/-- Only such a request is one for the receiver. -/
theorem loginRedirect_of_parse (h : crate.parseCallbackRequest headers redirect expectedState = some outcome) :
    ∃ callback, LoginRedirect crate redirect expectedState headers callback := by
  unfold UrlCrate.parseCallbackRequest at h
  rw [Option.bind_eq_bind, Option.bind_eq_some_iff] at h
  obtain ⟨text, htext, h⟩ := h
  split at h
  · rename_i method target version parts hparts
    split_ifs at h with hmethod htarget
    simp only [not_or, not_not] at hmethod htarget
    obtain ⟨rfl, rfl, hslash, hdouble⟩ := htarget
    subst hmethod
    rw [Option.bind_eq_bind, Option.bind_eq_some_iff] at h
    obtain ⟨callback, hjoin, h⟩ := h
    dsimp only at h
    have hrequest := fromUtf8_eq_some.1 htext
    split_ifs at h with hurl hstate
    all_goals
      simp only [not_or, not_not, Bool.not_eq_true, Option.isSome_eq_false_iff, Option.isNone_iff_eq_none] at hurl hstate
      obtain ⟨hscheme, hhost, hport, hpath, hfragment⟩ := hurl
      exact ⟨callback, ⟨text, target, hrequest, hparts, hslash, hdouble, hjoin⟩, hscheme, hhost, hport, hpath, hfragment,
        eq_singleton.2 hstate⟩
  · cases h

theorem parseCallbackRequest_eq_some : crate.parseCallbackRequest headers redirect expectedState = some outcome ↔
    Ends crate redirect expectedState headers outcome := by
  constructor
  · intro h
    obtain ⟨callback, hlogin⟩ := loginRedirect_of_parse h
    rw [hlogin.parse] at h
    split_ifs at h with herror
    · obtain rfl := Option.some.inj h
      exact .rejected hlogin fun hnone => Bool.false_ne_true ((values_eq_nil.1 hnone).symm.trans herror)
    · rw [Option.bind_eq_some_iff] at h
      obtain ⟨code, hcode, h⟩ := h
      split_ifs at h with hcodes
      rw [not_or, not_not] at hcodes
      obtain rfl := Option.some.inj h
      exact .code hlogin (values_eq_nil.2 (Bool.eq_false_of_not_eq_true herror)) (eq_singleton.2 ⟨hcode, hcodes.2⟩) hcodes.1
  · rintro (⟨hlogin, herror⟩ | ⟨hlogin, herror, hcode, hne⟩)
    · rw [hlogin.parse, if_pos]
      rwa [Ne, values_eq_nil, Bool.not_eq_false] at herror
    · rw [hlogin.parse, if_neg (by rw [values_eq_nil.1 herror]; exact Bool.false_ne_true), hcode]
      exact if_neg (by simp [hne])

end Request

example : splitWhitespace (firstLine "GET  /callback?state=s HTTP/1.1\r\nHost: a".toList) =
    ["GET", "/callback?state=s", "HTTP/1.1"] := by
  decide

/-! ### The receiver -/

def callbackPage (status body : String) : String :=
  "HTTP/1.1 " ++ status ++ "\r\nContent-Type: text/plain\r\nContent-Length: " ++ toString (utf8 body).length ++
    "\r\nConnection: close\r\n\r\n" ++ body

def CallbackOutcome.result : CallbackOutcome → Except AppError String
  | .code value => .ok value
  | .rejected => .error ((AppError.auth "authorization_rejected").atStage .callback)

def CallbackOutcome.page : CallbackOutcome → String
  | .code _ => callbackPage "200 OK" "Authentication complete."
  | .rejected => callbackPage "400 Bad Request" "Authentication rejected."

def ignoredPage : String := callbackPage "400 Bad Request" "Authentication ignored."

namespace UrlCrate

variable (crate : UrlCrate)

/-- What a connection says. -/
def outcome (socket : Connection UInt8) (redirect : crate.Url) (expectedState : String) : Option CallbackOutcome :=
  (readCallbackHeaders socket).toOption.bind fun request => crate.parseCallbackRequest request redirect expectedState

/-- The connections that are accepted, in order, `none` when accepting fails: the result, if there is one by then, and the pages
that are written, one for each connection. -/
def receiveCallback (redirect : crate.Url) (expectedState : String) :
    List (Option (Connection UInt8)) → Option (Except AppError String) × List String
  | [] => (none, [])
  | none :: _ => (some (.error ((AppError.auth "callback_failed").atStage .callback)), [])
  | some socket :: listener =>
    match crate.outcome socket redirect expectedState with
    | some outcome => (some outcome.result, [outcome.page])
    | none =>
      let (result, pages) := receiveCallback redirect expectedState listener
      (result, ignoredPage :: pages)

end UrlCrate

section Receiver

variable {crate : UrlCrate} {redirect : crate.Url} {expectedState : String} {socket : Connection UInt8}

/-- The connection ends the login. -/
def Says (crate : UrlCrate) (redirect : crate.Url) (expectedState : String) (socket : Connection UInt8)
    (outcome : CallbackOutcome) : Prop :=
  ∃ headers, readCallbackHeaders socket = .ok headers ∧ Ends crate redirect expectedState headers outcome

theorem outcome_eq_some {outcome : CallbackOutcome} :
    crate.outcome socket redirect expectedState = some outcome ↔ Says crate redirect expectedState socket outcome := by
  unfold UrlCrate.outcome Says
  simp only [Option.bind_eq_some_iff, parseCallbackRequest_eq_some]
  refine exists_congr fun headers => and_congr_left fun _ => ?_
  cases readCallbackHeaders socket <;> simp [Except.toOption]

theorem outcome_eq_none : crate.outcome socket redirect expectedState = none ↔
    ∀ outcome, ¬ Says crate redirect expectedState socket outcome := by
  rw [Option.eq_none_iff_forall_ne_some]
  exact forall_congr' fun outcome => not_congr outcome_eq_some

theorem receiveCallback_ignored {before listener : List (Option (Connection UInt8))}
    (h : ∀ c ∈ before, ∃ socket, c = some socket ∧ ∀ outcome, ¬ Says crate redirect expectedState socket outcome) :
    crate.receiveCallback redirect expectedState (before ++ listener) =
      ((crate.receiveCallback redirect expectedState listener).1,
        before.map (fun _ => ignoredPage) ++ (crate.receiveCallback redirect expectedState listener).2) := by
  induction before with
  | nil => rfl
  | cons c before ih =>
    rw [List.forall_mem_cons] at h
    obtain ⟨⟨socket, rfl, hsocket⟩, hbefore⟩ := h
    rw [List.cons_append, UrlCrate.receiveCallback, outcome_eq_none.2 hsocket, ih hbefore]
    rfl

/-- A connection is known by what it says. -/
theorem receiveCallback_congr {socket' : Connection UInt8} {listener : List (Option (Connection UInt8))}
    (h : ∀ outcome, Says crate redirect expectedState socket outcome ↔ Says crate redirect expectedState socket' outcome) :
    crate.receiveCallback redirect expectedState (some socket :: listener) =
      crate.receiveCallback redirect expectedState (some socket' :: listener) := by
  have hsame : crate.outcome socket redirect expectedState = crate.outcome socket' redirect expectedState :=
    Option.ext fun outcome => by rw [outcome_eq_some, outcome_eq_some, h]
  rw [UrlCrate.receiveCallback, UrlCrate.receiveCallback, hsame]

/-- **Only the redirect of the login ends it.**  The first connection whose headers are the redirect, with the state of the
login, and with an error or one code, decides; every other gets a page and changes nothing.  Headers that end where the stream
does count whatever the pieces they come in, and a stream without an end of headers in its first 8192 bytes says nothing. -/
theorem login_decided (crate : UrlCrate) (redirect : crate.Url) (expectedState : String) :
    let receive := crate.receiveCallback redirect expectedState
    let Ignored := fun socket : Connection UInt8 => ∀ outcome, ¬ Says crate redirect expectedState socket outcome
    (∀ (before : List (Connection UInt8)) socket outcome listener, (∀ c ∈ before, Ignored c) →
      Says crate redirect expectedState socket outcome → receive (before.map some ++ some socket :: listener) =
        (some outcome.result, before.map (fun _ => ignoredPage) ++ [outcome.page])) ∧
    (∀ (before : List (Connection UInt8)) listener, (∀ c ∈ before, Ignored c) → receive (before.map some ++ listener) =
      ((receive listener).1, before.map (fun _ => ignoredPage) ++ (receive listener).2)) ∧
    (∀ (connections : List (Connection UInt8)) result, (receive (connections.map some)).1 = some result →
      ∃ before socket after outcome, connections = before ++ socket :: after ∧ (∀ c ∈ before, Ignored c) ∧
        Says crate redirect expectedState socket outcome ∧ result = outcome.result) ∧
    (∀ stream, EndsFirst headersEnd stream → stream.length ≤ maxCallbackBytes →
      ∀ socket : Connection UInt8, socket.Delivers stream →
        (∀ outcome, Says crate redirect expectedState socket outcome ↔ Ends crate redirect expectedState stream outcome) ∧
        ∀ socket', socket'.Delivers stream → ∀ listener,
          receive (some socket :: listener) = receive (some socket' :: listener)) ∧
    ∀ socket : Connection UInt8, ¬ headersEnd <:+: socket.stream.take maxCallbackBytes → Ignored socket := by
  intro receive Ignored
  have hignored : ∀ (before : List (Connection UInt8)) listener, (∀ c ∈ before, Ignored c) →
      receive (before.map some ++ listener) = ((receive listener).1, before.map (fun _ => ignoredPage) ++ (receive listener).2) := by
    intro before listener h
    have hsome : ∀ c ∈ before.map some, ∃ socket, c = some socket ∧ Ignored socket := by
      intro c hc
      obtain ⟨socket, hmem, rfl⟩ := List.mem_map.1 hc
      exact ⟨socket, rfl, h socket hmem⟩
    refine (receiveCallback_ignored hsome).trans ?_
    rw [List.map_map]
    rfl
  have hstream : ∀ stream, EndsFirst headersEnd stream → stream.length ≤ maxCallbackBytes → ∀ socket : Connection UInt8,
      socket.Delivers stream → ∀ outcome, Says crate redirect expectedState socket outcome ↔
        Ends crate redirect expectedState stream outcome := by
    intro stream hends hlen socket hd outcome
    have hread : readCallbackHeaders socket = .ok stream :=
      readHeaders_delivers socket [] stream hd (endsFirst_ne hends) hends hlen
    unfold Says
    simp [hread]
  refine ⟨?_, hignored, ?_, ?_, ?_⟩
  · intro before socket outcome listener hbefore hsocket
    rw [hignored before _ hbefore]
    simp only [receive, UrlCrate.receiveCallback, outcome_eq_some.2 hsocket]
  · intro connections
    induction connections with
    | nil => rintro result ⟨⟩
    | cons socket after ih =>
      intro result hresult
      rcases hout : crate.outcome socket redirect expectedState with _ | outcome
      · have hsocket : Ignored socket := outcome_eq_none.1 hout
        have hrest := hignored [socket] (after.map some) (by simpa using hsocket)
        obtain ⟨before, socket', after', outcome, rfl, hbefore, hsocket', rfl⟩ :=
          ih result ((congrArg Prod.fst hrest).symm.trans hresult)
        exact ⟨socket :: before, socket', after', outcome, rfl, List.forall_mem_cons.2 ⟨hsocket, hbefore⟩, hsocket', rfl⟩
      · refine ⟨[], socket, after, outcome, rfl, by simp, outcome_eq_some.1 hout, ?_⟩
        simp only [receive, List.map_cons, UrlCrate.receiveCallback, hout] at hresult
        exact (Option.some.inj hresult).symm
  · intro stream hends hlen socket hd
    refine ⟨hstream stream hends hlen socket hd, fun socket' hd' listener => receiveCallback_congr fun outcome => ?_⟩
    rw [hstream stream hends hlen socket hd, hstream stream hends hlen socket' hd']
  · rintro socket hno outcome ⟨headers, hread, -⟩
    obtain ⟨hend, hpre, hlen⟩ := readHeaders_ok hread
    rw [List.nil_append] at hpre
    exact hno (hend.trans (List.prefix_take_iff.2 ⟨hpre, hlen⟩).isInfix)

end Receiver

end RssIncubator.Control
