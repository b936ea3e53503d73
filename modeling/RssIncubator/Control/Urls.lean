import RssIncubator.Control.Callback

/-!
# The addresses of a login (`rotation-control`)

Which URLs the control may speak to: remote ones over TLS, the redirect on this machine, and the service at the root of its
origin.  Of the `url` crate it is relied on that a reference which is a path stays on the origin of its base.
-/

namespace RssIncubator.Control

/-! ### Addresses of hosts -/

/-- `char::to_digit`. -/
def toDigit (radix : ℕ) (c : Char) : Option ℕ :=
  (if '0' ≤ c ∧ c ≤ '9' then some (c.toNat - '0'.toNat)
    else if 'a' ≤ c ∧ c ≤ 'z' then some (c.toNat - 'a'.toNat + 10)
    else if 'A' ≤ c ∧ c ≤ 'Z' then some (c.toNat - 'A'.toNat + 10)
    else none).filter (· < radix)

/-- `Parser::read_number`: what is read, and the rest of the text. -/
def readNumber (radix maxDigits bound : ℕ) (allowZeroPrefix : Bool) (text : List Char) : Option (ℕ × List Char) :=
  let digits := (text.takeWhile fun c => (toDigit radix c).isSome).filterMap (toDigit radix)
  let value := digits.foldl (fun value digit => value * radix + digit) 0
  if digits.length > maxDigits ∨ digits = [] then none
  else if !allowZeroPrefix && text.head? = some '0' && 1 < digits.length then none
  else if value < bound then some (value, text.drop digits.length) else none

/-- `Parser::read_separator`. -/
def readSeparator {α : Type} (separator : Char) (index : ℕ) (inner : List Char → Option (α × List Char)) (text : List Char) :
    Option (α × List Char) :=
  if index = 0 then inner text
  else match text with
    | c :: rest => if c = separator then inner rest else none
    | [] => none

def readOctet : List Char → Option (ℕ × List Char) := readNumber 10 3 256 false

/-- `Parser::read_ipv4_addr`. -/
def readIpv4Addr (text : List Char) : Option (List ℕ × List Char) := do
  let (one, text) ← readSeparator '.' 0 readOctet text
  let (two, text) ← readSeparator '.' 1 readOctet text
  let (three, text) ← readSeparator '.' 2 readOctet text
  let (four, text) ← readSeparator '.' 3 readOctet text
  some ([one, two, three, four], text)

/-- `read_groups`, with room for so many: the groups, whether they end with an IPv4 address, and the rest of the text. -/
def readGroups (index : ℕ) : ℕ → List Char → List ℕ × Bool × List Char
  | 0, text => ([], false, text)
  | room + 1, text =>
    match if room = 0 then none else readSeparator ':' index readIpv4Addr text with
    | some (octets, rest) =>
      ([256 * octets.getD 0 0 + octets.getD 1 0, 256 * octets.getD 2 0 + octets.getD 3 0], true, rest)
    | none =>
      match readSeparator ':' index (readNumber 16 4 65536 true) text with
      | none => ([], false, text)
      | some (group, rest) =>
        let (groups, ipv4, rest) := readGroups (index + 1) room rest
        (group :: groups, ipv4, rest)

/-- `Parser::read_ipv6_addr`. -/
def readIpv6Addr (text : List Char) : Option (List ℕ × List Char) :=
  match readGroups 0 8 text with
  | (head, headIpv4, rest) =>
    if head.length = 8 then some (head, rest)
    else if headIpv4 then none
    else match rest with
      | ':' :: ':' :: rest =>
        let (tail, _, rest) := readGroups 0 (8 - (head.length + 1)) rest
        some (head ++ List.replicate (8 - head.length - tail.length) 0 ++ tail, rest)
      | _ => none

inductive IpAddr where
  | v4 (octets : List ℕ)
  | v6 (groups : List ℕ)
  deriving DecidableEq

namespace IpAddr

/-- `IpAddr::from_str`. -/
def parse (text : String) : Option IpAddr :=
  match readIpv4Addr text.toList with
  | some (octets, rest) => if rest = [] then some (v4 octets) else none
  | none =>
    match readIpv6Addr text.toList with
    | some (groups, rest) => if rest = [] then some (v6 groups) else none
    | none => none

def isLoopback : IpAddr → Bool
  | v4 octets => octets.head? = some 127
  | v6 groups => groups = [0, 0, 0, 0, 0, 0, 0, 1]

example : (parse "127.0.0.1").map isLoopback = some true ∧ (parse "::1").map isLoopback = some true ∧
    (parse "::ffff:127.0.0.1").map isLoopback = some false ∧ parse "127.0.0.01" = none ∧ parse "[::1]" = none := by
  decide +kernel

end IpAddr

/-! ### Errors -/

namespace AppError

def input (code : String) : AppError := ⟨code, .input, .input, none, false⟩

def transport (code : String) (retryable : Bool) : AppError := ⟨code, .transport, .transport, none, retryable⟩

def untrusted (code : String) : AppError := ⟨code, .untrusted, .transport, none, false⟩

def exitCode (error : AppError) : ℕ :=
  match error.errorClass with
  | .input => 2
  | .auth => 3
  | .typed => 4
  | .transport => 5
  | .untrusted => 6

end AppError

/-- Refuse with an error where a check fails. -/
def refuse (p : Prop) [Decidable p] (error : AppError) : Except AppError Unit := if p then .error error else .ok ()

@[simp] theorem refuse_eq_ok {p : Prop} [Decidable p] {error : AppError} : refuse p error = .ok () ↔ ¬ p := by
  unfold refuse
  by_cases h : p <;> simp [h]

/-- `ok_or_else`. -/
def okOr {α : Type} (value : Option α) (error : AppError) : Except AppError α :=
  match value with
  | some value => .ok value
  | none => .error error

@[simp] theorem okOr_eq_ok {α : Type} {value : Option α} {error : AppError} {a : α} :
    okOr value error = .ok a ↔ value = some a := by
  cases value <;> simp [okOr]

/-! ### URLs -/

/-- The rest of what the control uses of the `url` crate. -/
structure UrlLibrary extends UrlCrate where
  parse : String → Option Url
  asStr : Url → String
  username : Url → String
  password : Url → Option String
  query : Url → Option String
  setPath : Url → String → Url
  /-- `query_pairs_mut().append_pair` for one pair after another. -/
  appendPairs : Url → List (String × String) → Url

/-- A reference that is a path: it names no scheme, no authority, no query and no fragment. -/
def IsPath (reference : String) : Prop :=
  ¬ ['/', '/'] <+: reference.toList ∧ ∀ c ∈ reference.toList, c.isAlphanum ∨ c ∈ ['-', '.', '_', '/']

instance (reference : String) : Decidable (IsPath reference) :=
  decidable_of_iff (¬ ['/', '/'] <+: reference.toList ∧
    reference.toList.all (fun c => decide (c.isAlphanum ∨ c ∈ ['-', '.', '_', '/'])) = true)
    (and_congr_right fun _ => by simp)

namespace UrlLibrary

variable (urls : UrlLibrary)

/-- Scheme, host and port. -/
def origin (url : urls.Url) : String × Option String × Option UInt16 :=
  (urls.scheme url, urls.hostStr url, urls.portOrKnownDefault url)

/-- What is relied on of the crate: the path of a URL is no part of its origin, and a path that is joined to a URL stays
there. -/
structure Resolves : Prop where
  setPath : ∀ url path, urls.origin (urls.setPath url path) = urls.origin url
  join : ∀ base reference url, IsPath reference → urls.join base reference = some url → urls.origin url = urls.origin base

def loopback (url : urls.Url) : Bool := ((urls.hostStr url).bind IpAddr.parse).any IpAddr.isLoopback

def secureRemoteUrl (url : urls.Url) (allowLoopbackHttp : Bool) : Except AppError Unit :=
  if urls.scheme url = "https" then .ok ()
  else if urls.scheme url = "http" ∧ allowLoopbackHttp ∧ urls.loopback url then .ok ()
  else .error (.input "plaintext_remote_forbidden")

def validateRssBaseUrl (url : urls.Url) : Except AppError Unit := do
  urls.secureRemoteUrl url false
  refuse (urls.path url ≠ "/" ∨ (urls.query url).isSome ∨ (urls.fragment url).isSome ∨ urls.username url ≠ "" ∨
    (urls.password url).isSome) (.input "rss_base_url_must_be_origin")

/-- `trim_end_matches('/')`. -/
def trimEndSlashes (path : String) : String := String.ofList (path.toList.reverse.dropWhile (· = '/')).reverse

def wellKnown : String := ".well-known/openid-configuration"

def discoveryUrl (issuer : urls.Url) : Except AppError urls.Url :=
  okOr (urls.join (urls.setPath issuer (trimEndSlashes (urls.path issuer) ++ "/")) wellKnown) (.input "invalid_issuer")

variable {urls} {url issuer : urls.Url}

theorem secureRemoteUrl_ok {allowLoopbackHttp : Bool} : urls.secureRemoteUrl url allowLoopbackHttp = .ok () ↔
    urls.scheme url = "https" ∨ urls.scheme url = "http" ∧ allowLoopbackHttp ∧ urls.loopback url := by
  unfold secureRemoteUrl
  by_cases hs : urls.scheme url = "https"
  · simp [hs]
  · by_cases hl : urls.scheme url = "http" ∧ allowLoopbackHttp ∧ urls.loopback url
    · simp [hl]
    · rw [if_neg hs, if_neg hl]
      simp [hs, hl]

/-- Plain text goes to no other machine. -/
theorem secureRemoteUrl_remote : urls.secureRemoteUrl url false = .ok () ↔ urls.scheme url = "https" := by
  simp [secureRemoteUrl_ok]

theorem validateRssBaseUrl_ok : urls.validateRssBaseUrl url = .ok () ↔ urls.scheme url = "https" ∧ urls.path url = "/" ∧
    urls.query url = none ∧ urls.fragment url = none ∧ urls.username url = "" ∧ urls.password url = none := by
  unfold validateRssBaseUrl
  rcases h : urls.secureRemoteUrl url false with e | ⟨⟩
  · have hs : urls.scheme url ≠ "https" := fun hs => by
      rw [secureRemoteUrl_remote.2 hs] at h
      cases h
    simp [hs, bind, Except.bind]
  · have hs := secureRemoteUrl_remote.1 h
    simp [hs, bind, Except.bind]

theorem isPath_wellKnown : IsPath wellKnown := by
  decide +kernel

theorem Resolves.discoveryUrl (resolves : urls.Resolves) (h : urls.discoveryUrl issuer = .ok url) :
    urls.origin url = urls.origin issuer := by
  have hjoin := okOr_eq_ok.1 h
  rw [resolves.join _ _ _ isPath_wellKnown hjoin, resolves.setPath]

/-- The origin tells the scheme. -/
theorem scheme_congr {url' : urls.Url} (h : urls.origin url = urls.origin url') : urls.scheme url = urls.scheme url' :=
  congrArg Prod.fst h

end UrlLibrary

end RssIncubator.Control
