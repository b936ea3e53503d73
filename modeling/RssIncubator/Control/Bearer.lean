import RssIncubator.Broker.Topic
import RssIncubator.Control.Authenticated
import RssIncubator.Control.Rotate
import Mathlib.Data.Bool.AllAny

/-!
# Where the access token goes

A command speaks to the service at most once, at the origin it was given and over TLS, with the token of a login in the same
run; what it then says to its user is what the service replied, and it claims no success of which the service did not tell.

`Speaks` lists the calls of a run, `Verdict` how a reply ends it.
-/

namespace RssIncubator.Control

open Lib Lib.Dialogue
open Agent (Uuid except_bind_ok mapError_eq_ok)
open Broker (hyphenated_injective)
open Product

/-! ### What a run may do -/

section

variable {Url : Type} (h : History Url)

/-- Nothing was sent to the service. -/
def Unsent : Prop := ∀ e ∈ h, ∀ method url headers body, e.1 ≠ .send method url headers body

/-- The service replied, to the request of these identifiers. -/
def Replied (requestId correlationId : Uuid) (reply : HttpReply) : Prop :=
  ∃ method url token tenant body, Told h (.send method url (apiHeaders token tenant requestId correlationId) body) (.ok reply)

variable {h} {q : Call Url} {a : Answer q}

theorem Unsent.append (hu : Unsent h) (hq : ∀ method url headers body, q ≠ .send method url headers body) :
    Unsent (h ++ [⟨q, a⟩]) := by
  intro e he
  rcases List.mem_append.1 he with he | he
  · exact hu e he
  · obtain rfl := List.mem_singleton.1 he
    exact hq

theorem Unsent.not_replied (hu : Unsent h) {requestId correlationId : Uuid} {reply : HttpReply} :
    ¬ Replied h requestId correlationId reply := by
  rintro ⟨method, url, token, tenant, body, ht⟩
  exact hu _ ht _ _ _ _ rfl

def Command.auth : Command Url → Option (AuthArgs Url)
  | .login auth => some auth
  | .rotate args => some args.auth
  | .status args => some args.auth
  | _ => none

/-- The file the command reads, if it reads one of its own. -/
def Command.input : Command Url → Option String
  | .policyCheck input => some input
  | .rotate args => some args.input
  | .audit input => some input
  | _ => none

/-- The command asks something of the service. -/
def Command.Asks : Command Url → Prop
  | .rotate _ => True
  | .status _ => True
  | _ => False

end

section

variable (service : Service)

/-- What is relied on of the contract crate: its templates are paths, with any device in them. -/
structure Paths : Prop where
  policyPut : ∀ deviceId, IsPath (bindDevicePath service.requests.policyPut.pathTemplate deviceId)
  statusGet : ∀ deviceId, IsPath (bindDevicePath service.requests.statusGet.pathTemplate deviceId)

/-- The policy in a file that was read. -/
def PolicyRead (h : History service.Url) (path : String) (policy : RotationPolicy) : Prop :=
  ∃ bytes input, Told h (.read path) (some bytes) ∧ bytes.length ≤ maxResponseBytes ∧ service.policyInput bytes = some input ∧
    RotationPolicy.tryNew input.keyUsages input.renewBeforeSeconds input.sans input.validitySeconds = some policy

/-- What a command asks of the service, at which base and for whom. -/
inductive Prepares (h : History service.Url) :
    Command service.Url → AuthArgs service.Url → service.Url → PreparedRequest → Prop
  | rotate {args policy key prepared} (hpolicy : PolicyRead service h args.input policy)
      (hkey : args.idempotencyKey = some key ∨ args.idempotencyKey = none ∧ Told h .newV4 key)
      (hprepared : preparePolicyPut service.requests args.deviceId args.expectedGeneration key policy = .ok prepared) :
      Prepares h (.rotate args) args.auth args.rssBaseUrl prepared
  | status {args} : Prepares h (.status args) args.auth args.rssBaseUrl (prepareStatusGet service.requests args.deviceId)

/-- The calls of a run, each with what was told before. -/
inductive Speaks (command : Command service.Url) (h : History service.Url) : Call service.Url → Prop
  | read {path} (hpath : command.input = some path) : Speaks command h (.read path)
  | stdin (hinput : command.input = some "-") : Speaks command h (.stdin (maxResponseBytes + 1))
  | newV4 (hasks : command.Asks) : Speaks command h .newV4
  | login {auth q} (hauth : command.auth = some auth) (hq : May auth h q) : Speaks command h q
  | send {auth base prepared token url requestId correlationId} (hprepares : Prepares service h command auth base prepared)
      (hurl : service.join base prepared.path = some url) (horigin : service.origin url = service.origin base)
      (hsecure : service.scheme url = "https") (htoken : Authenticated auth h token) (hrequest : Told h .newV4 requestId)
      (hcorrelation : Told h .newV4 correlationId) (hfirst : Unsent h) :
      Speaks command h
        (.send prepared.method url (apiHeaders token auth.tenantId requestId correlationId) prepared.body)

/-- How the reply of the service ends a command. -/
inductive Verdict (requestId correlationId : Uuid) (reply : HttpReply) :
    Command service.Url → Except AppError Output → Prop
  | accepted {args value} (h : decodePolicyResponse service.responses reply.status reply.body = .accepted value) :
      Verdict requestId correlationId reply (.rotate args) (.ok (.accepted (acceptedRecord requestId correlationId value)))
  | refused {args error} (h : decodePolicyResponse service.responses reply.status reply.body = .rejected error) :
      Verdict requestId correlationId reply (.rotate args) (.error (.fromDiagnostic error))
  | observed {args value} (h : decodeStatusResponse service.responses reply.status reply.body = .observed value) :
      Verdict requestId correlationId reply (.status args) (.ok (.observed requestId correlationId value))
  | unobserved {args error} (h : decodeStatusResponse service.responses reply.status reply.body = .rejected error) :
      Verdict requestId correlationId reply (.status args) (.error (.fromDiagnostic error))

/-- What a run ends with: the verdict of the reply, if there was one, and no success without. -/
structure EndsWith (command : Command service.Url) (h : History service.Url) (r : Except AppError Output) : Prop where
  verdict : ∀ requestId correlationId reply, Replied h requestId correlationId reply →
    Verdict service requestId correlationId reply command r
  replied : ∀ output, r = .ok output → command.Asks → ∃ requestId correlationId reply,
    Replied h requestId correlationId reply

end

/-! ### The parts of a run -/

section

variable {crates : Crates} {auth : AuthArgs crates.Url} {h h' : History crates.Url} {q : Call crates.Url}

/-- A login says nothing to the service. -/
theorem May.silent (hq : May auth h q) : ∀ method url headers body, q ≠ .send method url headers body := by
  cases hq <;> simp

theorem Verified.mono {nonce : Uuid} {keys : crates.KeySet} {token : crates.IdToken} (hv : Verified auth h nonce keys token)
    (hh : h <+: h') : Verified auth h' nonce keys token := by
  obtain ⟨seconds, now, issuer, verifier, claims, hseconds, hclaims⟩ := hv
  exact ⟨seconds, now, issuer, verifier, claims, hseconds.mono hh, hclaims⟩

theorem Authenticated.mono {token : String} (ha : Authenticated auth h token) (hh : h <+: h') : Authenticated auth h' token := by
  obtain ⟨hd, hasked, hcode, hgranted, hkeyed, hverified⟩ := ha
  exact .intro (hd.mono hh) (hasked.mono hh) (hcode.mono hh) (hgranted.mono hh) (hkeyed.mono hh) (hverified.mono hh)

end

section

variable {service : Service} {command : Command service.Url} {h h' : History service.Url}

theorem PolicyRead.mono {path : String} {policy : RotationPolicy} (hp : PolicyRead service h path policy) (hh : h <+: h') :
    PolicyRead service h' path policy := by
  obtain ⟨bytes, input, hread, hpolicy⟩ := hp
  exact ⟨bytes, input, hread.mono hh, hpolicy⟩

theorem EndsWith.failed (hu : Unsent h) (error : AppError) : EndsWith service command h (.error error) where
  verdict _ _ _ hr := absurd hr hu.not_replied
  replied _ hr := by cases hr

theorem EndsWith.unasked (hu : Unsent h) (hasks : ¬ command.Asks) (r : Except AppError Output) :
    EndsWith service command h r where
  verdict _ _ _ hr := absurd hr hu.not_replied
  replied _ _ ha := absurd ha hasks

/-- The rule for a part of a run that says nothing to the service. -/
theorem Keeps.silent {α β : Type} {may : History service.Url → Call service.Url → Prop} {P : History service.Url → α → Prop}
    {ends : History service.Url → Except AppError β → Prop} {d : Session service.Url α} {f : α → Session service.Url β}
    (hk : Keeps may (Returns P) h d)
    (hmay : ∀ g q, may g q → Speaks service command g q ∧ ∀ method url headers body, q ≠ .send method url headers body)
    (hends : ∀ g e, Unsent g → ends g (.error e)) (hu : Unsent h)
    (hf : ∀ l a, Unsent (h ++ l) → P (h ++ l) a → Keeps (Speaks service command) ends (h ++ l) (f a)) :
    Keeps (Speaks service command) ends h (d >>= f) := by
  have hcarry := hk.carry (fun g q hq => (hmay g q hq).1) (fun g q a hq hg => hg.append (hmay g q hq).2) hu
  exact hcarry.bind (fun l a hl => hf l a hl.1 hl.2) fun l e hl => hends _ e hl.1

theorem keeps_readInput {answer : Option Bytes} {may : History service.Url → Call service.Url → Prop} :
    Keeps may (Returns fun h' bytes => h' = h ∧ answer = some bytes ∧ bytes.length ≤ maxResponseBytes) h
      (service.readInput answer) := by
  refine Keeps.pass fun bytes hbytes => Keeps.pass fun _ hsize => ?_
  rw [refuse_eq_ok, not_lt] at hsize
  exact ⟨rfl, okOr_eq_ok.1 hbytes, hsize⟩

theorem keeps_readPolicy {path : String} (hfirst : Untraded h) :
    Keeps (fun _ q => q = .read path) (Returns fun h' policy => PolicyRead service h' path policy ∧ Untraded h') h
      (service.readPolicy path) := by
  refine Keeps.ask rfl fun answer => keeps_readInput.seq fun l bytes hl => ?_
  obtain ⟨hl, hanswer, hsize⟩ := hl
  rw [hl]
  refine Keeps.pass fun input hinput => ?_
  cases hpolicy : RotationPolicy.tryNew input.keyUsages input.renewBeforeSeconds input.sans input.validitySeconds with
  | none => exact trivial
  | some policy =>
    refine ⟨⟨bytes, input, ?_, hsize, okOr_eq_ok.1 hinput, hpolicy⟩, hfirst.append (by simp)⟩
    rw [← hanswer]
    exact Told.last

/-- The service is asked once or not at all. -/
theorem keeps_sendApi {base : service.Url} {prepared : PreparedRequest} {token tenant : String}
    {requestId correlationId : Uuid} {may : History service.Url → Call service.Url → Prop} (hu : Unsent h)
    (hmay : ∀ url, service.join base prepared.path = some url →
      may h (.send prepared.method url (apiHeaders token tenant requestId correlationId) prepared.body)) :
    Keeps may (fun h' r => Unsent h' ∧ (∃ e, r = .error e) ∨ ∃ url answer,
      h' = h ++ [⟨.send prepared.method url (apiHeaders token tenant requestId correlationId) prepared.body, answer⟩] ∧
        r = answer.mapError fun error => error.atStage .api) h
      (service.sendApi base prepared token tenant requestId correlationId) := by
  refine Keeps.check (fun url hurl => ?_) fun e _ => .inl ⟨hu, e, rfl⟩
  refine Keeps.check (fun _ _ => ?_) fun e _ => .inl ⟨hu, e, rfl⟩
  refine Keeps.check (fun _ _ => ?_) fun e _ => .inl ⟨hu, e, rfl⟩
  refine Keeps.check (fun _ _ => ?_) fun e _ => .inl ⟨hu, e, rfl⟩
  exact ⟨hmay url (okOr_eq_ok.1 hurl), fun answer => .inr ⟨url, answer, rfl, rfl⟩⟩

/-- What was replied to the one request that was sent. -/
theorem replied_concat (hu : Unsent h) {method token tenant : String} {url : service.Url} {requestId correlationId : Uuid}
    {body : Option Bytes} {answer : Except AppError HttpReply} {r c : Uuid} {reply : HttpReply} :
    Replied (h ++ [⟨.send method url (apiHeaders token tenant requestId correlationId) body, answer⟩]) r c reply ↔
      r = requestId ∧ c = correlationId ∧ answer = .ok reply := by
  constructor
  · rintro ⟨method', url', token', tenant', body', ht⟩
    rcases List.mem_append.1 ht with ht | ht
    · exact absurd rfl (hu _ ht _ _ _ _)
    · obtain ⟨hcall, hanswer⟩ := Sigma.mk.inj (List.mem_singleton.1 ht)
      simp only [Call.send.injEq, apiHeaders, List.cons.injEq, Prod.mk.injEq, true_and, and_true] at hcall
      obtain ⟨-, -, ⟨-, -, hr, hc⟩, -⟩ := hcall
      exact ⟨hyphenated_injective hr, hyphenated_injective hc, (eq_of_heq hanswer).symm⟩
  · rintro ⟨rfl, rfl, rfl⟩
    exact ⟨_, _, _, _, _, Told.last⟩

/-- The last part of a command: one request, and the verdict of its reply. -/
theorem keeps_asked {auth : AuthArgs service.Url} {base : service.Url} {prepared : PreparedRequest} {token : String}
    {requestId correlationId : Uuid} {verdict : HttpReply → Except AppError Output}
    (hprepares : Prepares service h command auth base prepared) (hjoin : IsPath prepared.path) (resolves : service.Resolves)
    (hbase : service.validateRssBaseUrl base = .ok ()) (htoken : Authenticated auth h token)
    (hrequest : Told h .newV4 requestId) (hcorrelation : Told h .newV4 correlationId) (hu : Unsent h)
    (hverdict : ∀ reply, Verdict service requestId correlationId reply command (verdict reply)) :
    Keeps (Speaks service command) (EndsWith service command) h (do
      let response ← service.sendApi base prepared token auth.tenantId requestId correlationId
      ofExcept (verdict response)) := by
  refine Keeps.bind (keeps_sendApi hu fun url hurl => ?_) (fun l response hl => ?_) fun l e hl => ?_
  · have horigin := resolves.join base prepared.path url hjoin hurl
    have hsecure := (UrlLibrary.validateRssBaseUrl_ok.1 hbase).1
    exact .send hprepares hurl horigin ((UrlLibrary.scheme_congr horigin).trans hsecure) htoken hrequest hcorrelation hu
  · obtain ⟨-, e, he⟩ | ⟨url, answer, hl, hr⟩ := hl
    · cases he
    · obtain rfl := mapError_eq_ok.1 hr.symm
      rw [hl]
      refine ⟨fun r c reply hreplied => ?_, fun output _ _ => ⟨_, _, _, (replied_concat hu).2 ⟨rfl, rfl, rfl⟩⟩⟩
      obtain ⟨rfl, rfl, hreply⟩ := (replied_concat hu).1 hreplied
      obtain rfl := Except.ok.inj hreply
      exact hverdict _
  · obtain ⟨hquiet, -⟩ | ⟨url, answer, hl, hr⟩ := hl
    · exact .failed hquiet e
    · rw [hl]
      refine ⟨fun r c reply hreplied => ?_, fun output hout => by cases hout⟩
      obtain ⟨-, -, rfl⟩ := (replied_concat hu).1 hreplied
      cases hr

end

/-! ### Commands -/

section

variable {service : Service} {command : Command service.Url} {h : History service.Url}

theorem untraded_nil {Url : Type} : Untraded ([] : History Url) := fun _ he => absurd he List.not_mem_nil

theorem unsent_nil {Url : Type} : Unsent ([] : History Url) := fun _ he => absurd he List.not_mem_nil

/-- The login of a command says nothing to the service. -/
theorem login_silent {auth : AuthArgs service.Url} (hauth : command.auth = some auth) (g : History service.Url)
    (q : Call service.Url) (hq : May auth g q) :
    Speaks service command g q ∧ ∀ method url headers body, q ≠ .send method url headers body :=
  ⟨.login hauth hq, hq.silent⟩

theorem read_silent {path : String} (hpath : command.input = some path) (g : History service.Url) (q : Call service.Url)
    (hq : q = .read path) : Speaks service command g q ∧ ∀ method url headers body, q ≠ .send method url headers body := by
  subst hq
  exact ⟨.read hpath, by simp⟩

/-- The key of a request is the one of its user, or drawn for it. -/
theorem keeps_idempotencyKey {args : RotateArgs service.Url} {β : Type} {ends : History service.Url → Except AppError β → Prop}
    {f : Uuid → Session service.Url β} (hu : Unsent h)
    (hf : ∀ l key, Unsent (h ++ l) → (args.idempotencyKey = some key ∨ args.idempotencyKey = none ∧ Told (h ++ l) .newV4 key) →
      Keeps (Speaks service (.rotate args)) ends (h ++ l) (f key)) :
    Keeps (Speaks service (.rotate args)) ends h
      (args.idempotencyKey.elim (call Call.newV4 : Session service.Url Uuid) pure >>= f) := by
  cases hkey : args.idempotencyKey with
  | some key =>
    have := hf [] key
    rw [List.append_nil] at this
    exact this hu (.inl hkey)
  | none => exact Keeps.ask (.newV4 trivial) fun key => hf _ key (hu.append (by simp)) (.inr ⟨hkey, Told.last⟩)

theorem keeps_rotate (resolves : service.Resolves) (paths : Paths service) (args : RotateArgs service.Url) :
    Keeps (Speaks service (.rotate args)) (EndsWith service (.rotate args)) [] (service.rotate args) := by
  have hfailed : ∀ g e, Unsent g → EndsWith service (.rotate args) g (.error e) := fun _ e hu => .failed hu e
  refine Keeps.silent (keeps_newHttpPort untraded_nil) (login_silent rfl) hfailed unsent_nil fun l₁ _ hu hfirst => ?_
  refine Keeps.check (fun _ hbase => ?_) fun e _ => .failed hu e
  refine Keeps.silent (keeps_readPolicy hfirst) (read_silent rfl) hfailed hu fun l₂ policy hu hpolicy => ?_
  refine Keeps.silent (keeps_authenticate resolves hpolicy.2) (login_silent rfl) hfailed hu fun l₃ token hu htoken => ?_
  refine Keeps.ask (.newV4 trivial) fun requestId => Keeps.ask (.newV4 trivial) fun correlationId => ?_
  refine keeps_idempotencyKey ((hu.append (by simp)).append (by simp)) fun l₄ key hu hkey => ?_
  refine Keeps.check (fun prepared hprepared => ?_) fun e _ => .failed hu e
  have hprepared' := mapError_eq_ok.1 hprepared
  have hpath : IsPath prepared.path := by
    obtain ⟨-, -, -, -, body, -, rfl⟩ := preparePolicyPut_eq_ok.1 hprepared'
    exact paths.policyPut _
  -- what was told before is told still
  have hrequest := List.prefix_append ([] ++ l₁ ++ l₂ ++ l₃) [⟨.newV4, requestId⟩]
  have hcorrelation := List.prefix_append ([] ++ l₁ ++ l₂ ++ l₃ ++ [⟨.newV4, requestId⟩]) [⟨.newV4, correlationId⟩]
  have hkeyed := List.prefix_append ([] ++ l₁ ++ l₂ ++ l₃ ++ [⟨.newV4, requestId⟩] ++ [⟨.newV4, correlationId⟩]) l₄
  have hsince := hrequest.trans (hcorrelation.trans hkeyed)
  have hpolicy' := hpolicy.1.mono ((List.prefix_append _ l₃).trans hsince)
  refine keeps_asked (.rotate hpolicy' hkey hprepared') hpath resolves hbase (htoken.mono hsince)
    (Told.last.mono (hcorrelation.trans hkeyed)) (Told.last.mono hkeyed) hu fun reply => ?_
  split
  · exact .accepted ‹_›
  · exact .refused ‹_›

end

/-! ### A rotation -/

namespace Fixture

theorem hex_path (b : Bytes) : ∀ c ∈ (Agent.hex b).toList, c.isAlphanum := by
  have hdigit : ∀ n < 16, (Agent.hexDigit n).isAlphanum := by decide
  intro c hc
  rw [Agent.hex, String.toList_ofList, List.mem_flatMap] at hc
  obtain ⟨x, -, hc⟩ := hc
  have hx := x.toNat_lt
  simp only [List.mem_cons, List.not_mem_nil, or_false] at hc
  rcases hc with rfl | rfl
  · exact hdigit _ (by omega)
  · exact hdigit _ (by omega)

theorem hyphenated_path (u : Uuid) : ∀ c ∈ u.hyphenated.toList, c.isAlphanum ∨ c ∈ ['-', '.', '_', '/'] := by
  have hdash : ∀ c ∈ "-".toList, c.isAlphanum ∨ c ∈ ['-', '.', '_', '/'] :=
    List.all_iff_forall_prop.1 (by decide +kernel)
  have hhex : ∀ b, ∀ c ∈ (Agent.hex b).toList, c.isAlphanum ∨ c ∈ ['-', '.', '_', '/'] := fun b c hc => .inl (hex_path b c hc)
  simp only [Uuid.hyphenated, String.toList_append, List.forall_mem_append]
  exact ⟨⟨⟨⟨⟨⟨⟨⟨hhex _, hdash⟩, hhex _⟩, hdash⟩, hhex _⟩, hdash⟩, hhex _⟩, hdash⟩, hhex _⟩

/-- A path with a device between its parts. -/
theorem isPath_device (device : Uuid) {template : String} {rest : List Char}
    (htemplate : ∀ replacement, replaceFrom "\x7bdeviceId\x7d".toList replacement 0 template.toList =
      "/api/v2/identity/devices/".toList ++ (replacement ++ rest))
    (hrest : ∀ c ∈ rest, c.isAlphanum ∨ c ∈ ['-', '.', '_', '/']) : IsPath (bindDevicePath template device) := by
  have hfirst : ∀ c ∈ "/api/v2/identity/devices/".toList, c.isAlphanum ∨ c ∈ ['-', '.', '_', '/'] :=
    List.all_iff_forall_prop.1 (by decide +kernel)
  unfold IsPath bindDevicePath
  rw [String.toList_ofList, htemplate]
  refine ⟨?_, ?_⟩
  · rintro ⟨tail, htail⟩
    exact absurd (congrArg (fun l : List Char => l[1]?) htail) (by simp)
  · intro c hc
    rcases List.mem_append.1 hc with hc | hc
    · exact hfirst c hc
    · rcases List.mem_append.1 hc with hc | hc
      · exact hyphenated_path device c hc
      · exact hrest c hc

def requests : Requests where
  policyPut := ⟨"PUT", "/api/v2/identity/devices/\x7bdeviceId\x7d/certificate-policy"⟩
  statusGet := ⟨"GET", "/api/v2/identity/devices/\x7bdeviceId\x7d/certificate-status"⟩
  san _ := true
  policy _ := true
  request _ := true
  toVec request := if request = ⟨4, Uuid.nil, ⟨[.clientAuth], 600, none, 3600⟩⟩ then some (Agent.utf8
    ("\x7b\"expectedGeneration\":4,\"idempotencyKey\":\"00000000-0000-0000-0000-000000000000\",\"policy\":" ++
      "\x7b\"keyUsages\":[\"clientAuth\"],\"renewBeforeSeconds\":600,\"validitySeconds\":3600\x7d\x7d")) else none

def policyBody : Bytes :=
  Agent.utf8 "\x7b\"keyUsages\":[\"clientAuth\"],\"renewBeforeSeconds\":600,\"validitySeconds\":3600\x7d"

def receipt : Uuid := ⟨List.replicate 16 3, rfl⟩

def acceptedBody : Bytes := Agent.utf8 ("\x7b\"data\":\x7b\"acceptedGeneration\":5,\"authorizationReceiptId\":\"" ++
  receipt.hyphenated ++ "\",\"condition\":\"PendingDevice\"\x7d\x7d")

def responses : Responses Bytes where
  policyPut body := if body = acceptedBody then some ⟨receipt, 5, .pendingDevice⟩ else none
  policyPutValidation _ := none
  policyPutNotFound _ := none
  policyPutConflict _ := none
  statusGet _ := none

def service : Service where
  toCrates := crates
  requests := requests
  responses := responses
  method _ := true
  headerValue _ := true
  policyInput bytes := if bytes = policyBody then some ⟨[.clientAuth], 600, [], 3600⟩ else none
  rotateRecord _ := none
  parseUuid _ := none
  display _ := ""

theorem paths : Paths service where
  policyPut device := by
    have hrest : ∀ c ∈ "/certificate-policy".toList, c.isAlphanum ∨ c ∈ ['-', '.', '_', '/'] :=
      List.all_iff_forall_prop.1 (by decide +kernel)
    exact isPath_device device (fun _ => rfl) hrest
  statusGet device := by
    have hrest : ∀ c ∈ "/certificate-status".toList, c.isAlphanum ∨ c ∈ ['-', '.', '_', '/'] :=
      List.all_iff_forall_prop.1 (by decide +kernel)
    exact isPath_device device (fun _ => rfl) hrest

instance : DecidableEq service.Url := inferInstanceAs (DecidableEq Address)

def base : Address := ⟨"https", "rss.example", 443, "/", []⟩

def rotateArgs : RotateArgs service.Url := ⟨auth, base, receipt, "policy.json", 4, some Uuid.nil⟩

/-- A rotation: the login, with a policy that is read before, and one request after. -/
def rotation : History service.Url :=
  [⟨.client none, true⟩, ⟨.read "policy.json", some policyBody⟩] ++ conversation.tail ++
    [⟨.newV4, state⟩, ⟨.newV4, nonce⟩,
      ⟨.send "PUT" (base.join ("/api/v2/identity/devices/" ++ receipt.hyphenated ++ "/certificate-policy"))
        (apiHeaders "access" "tenant" state nonce)
        (requests.toVec ⟨4, Uuid.nil, ⟨[.clientAuth], 600, none, 3600⟩⟩), .ok ⟨200, acceptedBody⟩⟩]

/-- The record of the rotation. -/
def recorded : RotateRecord := acceptedRecord state nonce ⟨receipt, 5, .pendingDevice⟩

theorem talks_rotation : Talks (service.run (.rotate rotateArgs)) rotation (.done (.ok (.accepted recorded))) :=
  talks_of_result (by decide +kernel)

end Fixture

end RssIncubator.Control
