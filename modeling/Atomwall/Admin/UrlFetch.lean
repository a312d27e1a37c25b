import Atomwall.Base.Program
import Atomwall.Net.AddressText
import Atomwall.Pipeline.CidrBits

/-!
`admin/url_fetch.cpp`: the import from a URL, as the calls that it makes of the network, and the addresses
that it may connect to.
-/

namespace Atomwall

open ByteString

/-! ### The URL -/

structure ParsedUrl where
  https : Bool
  host : String
  port : String
  target : String

/-- Host and port of an authority without user information; the port may be empty. -/
def splitAuthority (authority : List Char) : Option (List Char × List Char) :=
  match authority with
  | '[' :: literal =>
    match literal.dropWhile (· != ']') with
    | [] => none
    | _ :: ':' :: port => some (literal.takeWhile (· != ']'), port)
    | _ :: _ => some (literal.takeWhile (· != ']'), [])
  | _ => some (authority.takeWhile (· != ':'), (authority.dropWhile (· != ':')).drop 1)

def parseScheme (url : String) : Option (Bool × List Char) :=
  if startsWith url "http://" then some (false, url.toList.drop 7)
  else if startsWith url "https://" then some (true, url.toList.drop 8)
  else none

def parseUrl (url : String) : Option ParsedUrl := do
  let (https, view) ← parseScheme url
  let authority := view.takeWhile (· != '/')
  let target := view.dropWhile (· != '/')
  if authority.isEmpty ∨ '@' ∈ authority then none
  else
    let (host, port) ← splitAuthority authority
    if host.isEmpty then none
    else
      some { https, host := String.ofList host
             port := if port.isEmpty then (if https then "443" else "80") else String.ofList port
             target := if target.isEmpty then "/" else String.ofList target }

/-! ### The addresses -/

/-- What the filter takes of `boost::asio::ip::address`. -/
structure AddressLib where
  makeAddress : MakeAddress
  isLoopback : Address → Bool
  isMulticast : Address → Bool
  isUnspecified : Address → Bool

def unwrapV4Mapped (address : Address) : Address := normalizeClientAddress address

def kDeniedRanges : List String :=
  ["10.0.0.0/8", "172.16.0.0/12", "192.168.0.0/16", "169.254.0.0/16",
   "100.64.0.0/10", "0.0.0.0/8", "fc00::/7", "fe80::/10"]

variable (lib : AddressLib) (now : Int)

/-- A text that does not parse denies nothing. -/
def inDeniedRange (address : Address) (text : String) : Bool :=
  match parseCidr lib.makeAddress now text with
  | none => false
  | some range => addressInCidr address range

def isDisallowedAddress (rawAddress : Address) : Bool :=
  let address := unwrapV4Mapped rawAddress
  if lib.isLoopback address || lib.isMulticast address || lib.isUnspecified address then true
  else kDeniedRanges.any (inDeniedRange lib now address)

/-! ### The fetch -/

structure Endpoint where
  address : Address
  port : Nat

structure FetchRequest where
  target : String
  fields : List (String × String)

inductive ReadEnd where
  | bodyLimit
  | failed (message : String)
  | response (status : Nat) (body : String)

inductive FetchCall where
  | resolve (host port : String)
  | connect (endpoints : List Endpoint)
  | setServerName (host : String)
  | handshake
  | write (request : FetchRequest)
  | read (maxBytes : Nat)
  | shutdown

/-- An error of a call is given by its message. -/
@[reducible] def FetchCall.Result : FetchCall → Type
  | .resolve _ _ => Except String (List Endpoint)
  | .setServerName _ => Bool
  | .connect _ | .handshake | .write _ => Except String Unit
  | .read _ => ReadEnd
  | .shutdown => Unit

structure UrlFetchResult where
  ok : Bool := false
  body : String := ""
  error : String := ""

abbrev Fetch := Prog FetchCall FetchCall.Result Empty

namespace Fetch

def resolve (host port : String) : Fetch (Except String (List Endpoint)) :=
  Prog.make (FetchCall.resolve host port)
def connect (endpoints : List Endpoint) : Fetch (Except String Unit) :=
  Prog.make (FetchCall.connect endpoints)
def setServerName (host : String) : Fetch Bool := Prog.make (FetchCall.setServerName host)
def handshake : Fetch (Except String Unit) := Prog.make FetchCall.handshake
def write (request : FetchRequest) : Fetch (Except String Unit) := Prog.make (FetchCall.write request)
def read (maxBytes : Nat) : Fetch ReadEnd := Prog.make (FetchCall.read maxBytes)
def shutdown : Fetch Unit := Prog.make FetchCall.shutdown

end Fetch

def readResponse (maxBytes : Nat) : ReadEnd → UrlFetchResult
  | .bodyLimit => { error := "response exceeded " ++ toString maxBytes ++ " byte limit" }
  | .failed message => { error := message }
  | .response status body =>
    if status / 100 = 3 then
      { error := "server returned a redirect (" ++ toString status ++
          ") — redirects aren't followed, paste the final URL directly" }
    else if status / 100 ≠ 2 then { error := "server returned HTTP " ++ toString status }
    else { ok := true, body }

def fetchRequest (parsed : ParsedUrl) : FetchRequest where
  target := parsed.target
  fields := [("Host", parsed.host), ("User-Agent", "atomwall-admin/1.0"), ("Connection", "close")]

def requestOn (parsed : ParsedUrl) (maxBytes : Nat) : Fetch UrlFetchResult := do
  match ← Fetch.write (fetchRequest parsed) with
  | .error message => return { error := message }
  | .ok () =>
    let ended ← Fetch.read maxBytes
    Fetch.shutdown
    return readResponse maxBytes ended

/-- What `fetch_url` does once it is connected. -/
def exchange (parsed : ParsedUrl) (maxBytes : Nat) : Fetch UrlFetchResult := do
  if !parsed.https then requestOn parsed maxBytes
  else if ← Fetch.setServerName parsed.host then
    match ← Fetch.handshake with
    | .error message => return { error := "TLS handshake failed: " ++ message }
    | .ok () => requestOn parsed maxBytes
  else return { error := "failed to set SNI hostname" }

def filterEndpoints (endpoints : List Endpoint) : List Endpoint :=
  (endpoints.find? fun endpoint => !isDisallowedAddress lib now endpoint.address).toList

def fetchUrl (url : String) (maxBytes : Nat) : Fetch UrlFetchResult := do
  match parseUrl url with
  | none => return { error := "expected an http:// or https:// URL" }
  | some parsed =>
    match ← Fetch.resolve parsed.host parsed.port with
    | .error message => return { error := "could not resolve host: " ++ message }
    | .ok endpoints =>
      let filtered := filterEndpoints lib now endpoints
      if filtered.isEmpty then
        return { error := "refusing to fetch from a loopback/private/internal address" }
      else
        match ← Fetch.connect filtered with
        | .error message => return { error := "could not connect: " ++ message }
        | .ok () => exchange parsed maxBytes

/-! ### What is internal -/

/-- The first `length` of the `bits` bits of `n` are those of `base`. -/
def Within (bits base length n : Nat) : Prop := n >>> (bits - length) = base >>> (bits - length)

def quad (a b c d : Nat) : Nat := ((a * 256 + b) * 256 + c) * 256 + d

def InternalV4 (n : Nat) : Prop :=
  Within 32 (quad 127 0 0 0) 8 n ∨ Within 32 (quad 224 0 0 0) 4 n ∨ n = 0 ∨
  Within 32 (quad 10 0 0 0) 8 n ∨ Within 32 (quad 172 16 0 0) 12 n ∨
  Within 32 (quad 192 168 0 0) 16 n ∨ Within 32 (quad 169 254 0 0) 16 n ∨
  Within 32 (quad 100 64 0 0) 10 n ∨ Within 32 (quad 0 0 0 0) 8 n

/-- A v6 address whose first 16 bits are `group`. -/
def groupBase (group : Nat) : Nat := group * 2 ^ 112

def InternalV6 (n : Nat) : Prop :=
  n = 1 ∨ Within 128 (groupBase 0xFF00) 8 n ∨ n = 0 ∨
  Within 128 (groupBase 0xFC00) 7 n ∨ Within 128 (groupBase 0xFE80) 10 n

/-- Of an address that is unwrapped. -/
def InternalPlain (address : Address) : Prop :=
  if isV4 address then InternalV4 (addressValue address) else InternalV6 (addressValue address)

/-- Loopback, multicast, unspecified or in a private range, as a v4 address where it is a mapped one. -/
def Internal (address : Address) : Prop :=
  match address with
  | .v4 _ => InternalV4 (addressValue address)
  | .v6 _ _ =>
    if addressValue address >>> 32 = 0xFFFF then InternalV4 (addressValue address % 2 ^ 32)
    else InternalV6 (addressValue address)

/-- What the documentation of `boost::asio::ip::address` says of the functions. -/
structure AddressLib.Documented (lib : AddressLib) : Prop where
  dotted : ∀ bytes, lib.makeAddress (Address.fullText (.v4 bytes)) = some (.v4 bytes)
  uniqueLocal : lib.makeAddress "fc00::" = some (.v6 #v[0xFC, 0, 0, 0, 0, 0, 0, 0, 0, 0, 0, 0, 0, 0, 0, 0] 0)
  linkLocal : lib.makeAddress "fe80::" = some (.v6 #v[0xFE, 0x80, 0, 0, 0, 0, 0, 0, 0, 0, 0, 0, 0, 0, 0, 0] 0)
  loopback : ∀ address, lib.isLoopback address = true ↔
    if isV4 address then Within 32 (quad 127 0 0 0) 8 (addressValue address)
    else addressValue address = 1
  multicast : ∀ address, lib.isMulticast address = true ↔
    if isV4 address then Within 32 (quad 224 0 0 0) 4 (addressValue address)
    else Within 128 (groupBase 0xFF00) 8 (addressValue address)
  unspecified : ∀ address, lib.isUnspecified address = true ↔ addressValue address = 0

variable {lib} {now} {address base : Address} {text : String} {length : Nat}

/-- A range of the list, by the address and the length that its text names. -/
theorem inDeniedRange_iff {rest : List Char} (slash : text.toList.dropWhile (· != '/') = '/' :: rest)
    (named : lib.makeAddress (before '/' text) = some base)
    (digits : Decimal.scanNat rest = some (length, [])) (fits : length ≤ maxBits base) :
    inDeniedRange lib now address text = true ↔
      isV4 address = isV4 base ∧ Within (maxBits base) (addressValue base) length (addressValue address) := by
  have parsed : parseCidr lib.makeAddress now text =
      some { prefixAddress := base, prefixLen := length, text, createdAt := now } := by
    unfold parseCidr
    rw [slash]
    dsimp only
    rw [named, digits]
    exact if_neg (Nat.not_lt.mpr fits)
  rw [inDeniedRange, parsed]
  exact addressInCidr_iff fits

/-- What a text of the list denies. -/
def Denies (lib : AddressLib) (now : Int) (text : String) (v4 : Bool) (bits base length : Nat) : Prop :=
  ∀ address, inDeniedRange lib now address text = true ↔
    isV4 address = v4 ∧ Within bits base length (addressValue address)

theorem denies_v4 (documented : lib.Documented) (bytes : Vector UInt8 4) {rest : List Char} {value : Nat}
    (slash : text.toList.dropWhile (· != '/') = '/' :: rest)
    (front : before '/' text = Address.fullText (.v4 bytes))
    (digits : Decimal.scanNat rest = some (length, [])) (fits : length ≤ 32)
    (same : addressValue (.v4 bytes) = value) : Denies lib now text true 32 value length := by
  intro address
  have found := @inDeniedRange_iff lib now address (.v4 bytes) text length rest slash
    (by rw [front, documented.dotted]) digits fits
  rwa [same] at found

theorem denies_v6 (bytes : Vector UInt8 16) {rest : List Char} {value : Nat}
    (slash : text.toList.dropWhile (· != '/') = '/' :: rest)
    (named : lib.makeAddress (before '/' text) = some (.v6 bytes 0))
    (digits : Decimal.scanNat rest = some (length, [])) (fits : length ≤ 128)
    (same : addressValue (.v6 bytes 0) = value) : Denies lib now text false 128 value length := by
  intro address
  have found := @inDeniedRange_iff lib now address (.v6 bytes 0) text length rest slash named digits fits
  rwa [same] at found

/-- The addresses that the list denies. -/
theorem kDeniedRanges_any (documented : lib.Documented) :
    kDeniedRanges.any (inDeniedRange lib now address) = true ↔
      if isV4 address then
        Within 32 (quad 10 0 0 0) 8 (addressValue address) ∨
        Within 32 (quad 172 16 0 0) 12 (addressValue address) ∨
        Within 32 (quad 192 168 0 0) 16 (addressValue address) ∨
        Within 32 (quad 169 254 0 0) 16 (addressValue address) ∨
        Within 32 (quad 100 64 0 0) 10 (addressValue address) ∨
        Within 32 (quad 0 0 0 0) 8 (addressValue address)
      else
        Within 128 (groupBase 0xFC00) 7 (addressValue address) ∨
        Within 128 (groupBase 0xFE80) 10 (addressValue address) := by
  have ten : Denies lib now "10.0.0.0/8" true 32 (quad 10 0 0 0) 8 :=
    denies_v4 documented #v[10, 0, 0, 0] rfl rfl rfl (by decide) rfl
  have twelve : Denies lib now "172.16.0.0/12" true 32 (quad 172 16 0 0) 12 :=
    denies_v4 documented #v[172, 16, 0, 0] rfl rfl rfl (by decide) rfl
  have sixteen : Denies lib now "192.168.0.0/16" true 32 (quad 192 168 0 0) 16 :=
    denies_v4 documented #v[192, 168, 0, 0] rfl rfl rfl (by decide) rfl
  have link : Denies lib now "169.254.0.0/16" true 32 (quad 169 254 0 0) 16 :=
    denies_v4 documented #v[169, 254, 0, 0] rfl rfl rfl (by decide) rfl
  have shared : Denies lib now "100.64.0.0/10" true 32 (quad 100 64 0 0) 10 :=
    denies_v4 documented #v[100, 64, 0, 0] rfl rfl rfl (by decide) rfl
  have zero : Denies lib now "0.0.0.0/8" true 32 (quad 0 0 0 0) 8 :=
    denies_v4 documented #v[0, 0, 0, 0] rfl rfl rfl (by decide) rfl
  have unique : Denies lib now "fc00::/7" false 128 (groupBase 0xFC00) 7 :=
    denies_v6 _ rfl documented.uniqueLocal rfl (by decide) (by decide)
  have link6 : Denies lib now "fe80::/10" false 128 (groupBase 0xFE80) 10 :=
    denies_v6 _ rfl documented.linkLocal rfl (by decide) (by decide)
  simp only [kDeniedRanges, List.any_cons, List.any_nil, Bool.or_false, Bool.or_eq_true, ten address,
    twelve address, sixteen address, link address, shared address, zero address, unique address,
    link6 address]
  cases isV4 address with
  | true => simp
  | false => simp

/-- The address that the checks see. -/
theorem isDisallowedAddress_unwrapped (documented : lib.Documented) :
    isDisallowedAddress lib now address = true ↔ InternalPlain (unwrapV4Mapped address) := by
  have any := @kDeniedRanges_any lib now (unwrapV4Mapped address) documented
  have loopback := documented.loopback (unwrapV4Mapped address)
  have multicast := documented.multicast (unwrapV4Mapped address)
  have unspecified := documented.unspecified (unwrapV4Mapped address)
  unfold isDisallowedAddress InternalPlain
  dsimp only
  cases family : isV4 (unwrapV4Mapped address) with
  | true =>
    rw [family, if_pos rfl] at any loopback multicast
    rw [if_pos rfl]
    unfold InternalV4
    rw [← any, ← loopback, ← multicast, ← unspecified]
    simp [or_assoc]
  | false =>
    rw [family, if_neg Bool.false_ne_true] at any loopback multicast
    rw [if_neg Bool.false_ne_true]
    unfold InternalV6
    rw [← any, ← loopback, ← multicast, ← unspecified]
    simp [or_assoc]

theorem isDisallowedAddress_iff (documented : lib.Documented) :
    isDisallowedAddress lib now address = true ↔ Internal address := by
  rw [isDisallowedAddress_unwrapped documented]
  cases address with
  | v4 bytes => rfl
  | v6 bytes scopeId =>
    unfold Internal unwrapV4Mapped
    by_cases mapped : isV4Mapped bytes = true
    · obtain ⟨last, unwrapped, value⟩ := @normalizeClientAddress_mapped bytes scopeId mapped
      rw [unwrapped, if_pos (isV4Mapped_iff.mp mapped), ← value]
      rfl
    · rw [normalizeClientAddress_unmapped mapped, if_neg fun high => mapped (isV4Mapped_iff.mpr high)]
      rfl

def v4Mapped (bytes : Vector UInt8 4) (scopeId : Nat) : Address :=
  .v6 #v[0, 0, 0, 0, 0, 0, 0, 0, 0, 0, 0xFF, 0xFF, bytes[0], bytes[1], bytes[2], bytes[3]] scopeId

theorem unwrapV4Mapped_v4Mapped (bytes : Vector UInt8 4) (scopeId : Nat) :
    unwrapV4Mapped (v4Mapped bytes scopeId) = .v4 bytes := by
  have last : #v[bytes[0], bytes[1], bytes[2], bytes[3]] = bytes := by
    apply Vector.ext
    intro i small
    obtain rfl | rfl | rfl | rfl : i = 0 ∨ i = 1 ∨ i = 2 ∨ i = 3 := by omega
    all_goals rfl
  unfold unwrapV4Mapped v4Mapped normalizeClientAddress
  exact (if_pos rfl).trans (congrArg Address.v4 last)

/-! ### The calls of a fetch -/

abbrev Made := List (Prog.Event FetchCall FetchCall.Result)

/-- The lists of endpoints that were connected to, newest first. -/
def connected (done : Made) : List (List Endpoint) :=
  done.filterMap fun e =>
    match e.op with
    | .connect endpoints => some endpoints
    | _ => none

def Resolved (done : Made) (endpoints : List Endpoint) : Prop :=
  ∃ host port, ⟨.resolve host port, .ok endpoints⟩ ∈ done

def FirstAllowed (lib : AddressLib) (now : Int) (endpoints : List Endpoint) (endpoint : Endpoint) : Prop :=
  ∃ before after, endpoints = before ++ endpoint :: after ∧
    (∀ other ∈ before, isDisallowedAddress lib now other.address = true) ∧
    isDisallowedAddress lib now endpoint.address = false

/-- What the calls of a fetch and its result are. -/
structure FetchEnds (lib : AddressLib) (now : Int) (done : Made) (result : Except Empty UrlFetchResult) :
    Prop where
  connects : ∀ endpoints ∈ connected done, ∃ resolved endpoint,
    Resolved done resolved ∧ FirstAllowed lib now resolved endpoint ∧ endpoints = [endpoint]
  refuses : ∀ resolved, Resolved done resolved →
    (∀ endpoint ∈ resolved, isDisallowedAddress lib now endpoint.address = true) →
    connected done = [] ∧ ∃ error, result = .ok { error }

theorem filterEndpoints_eq_nil {endpoints : List Endpoint} : filterEndpoints lib now endpoints = [] ↔
    ∀ endpoint ∈ endpoints, isDisallowedAddress lib now endpoint.address = true := by
  simp [filterEndpoints, Option.toList_eq_nil_iff]

theorem filterEndpoints_cons {endpoints rest : List Endpoint} {endpoint : Endpoint}
    (kept : filterEndpoints lib now endpoints = endpoint :: rest) :
    rest = [] ∧ FirstAllowed lib now endpoints endpoint := by
  unfold filterEndpoints at kept
  cases found : endpoints.find? fun endpoint => !isDisallowedAddress lib now endpoint.address with
  | none =>
    rw [found] at kept
    cases kept
  | some first =>
    rw [found] at kept
    obtain ⟨rfl, rfl⟩ := List.cons.inj kept
    obtain ⟨allowed, before, after, split, others⟩ := List.find?_eq_some_iff_append.mp found
    exact ⟨rfl, before, after, split, by simpa using others, by simpa using allowed⟩

/-- The calls that decide where a fetch connects. -/
def routing (done : Made) : Made :=
  done.filter fun e =>
    match e.op with
    | .resolve _ _ | .connect _ => true
    | _ => false

theorem connected_routing (done : Made) : connected (routing done) = connected done := by
  unfold connected routing
  rw [List.filterMap_filter]
  congr 1
  funext e
  cases e with
  | mk op result => cases op <;> rfl

theorem resolved_routing {done : Made} {endpoints : List Endpoint} :
    Resolved (routing done) endpoints ↔ Resolved done endpoints := by
  unfold Resolved routing
  simp

theorem keeps_requestOn {parsed : ParsedUrl} {maxBytes : Nat} {done start : Made}
    (same : routing done = routing start) :
    Prog.Keeps ⟨fun _ _ => True, fun after _ => routing after = routing start⟩ done
      (requestOn parsed maxBytes) := by
  unfold requestOn Fetch.write Fetch.read Fetch.shutdown
  simp only [Prog.bind_make, Prog.keeps_call, true_and]
  intro written
  cases written with
  | error message => exact same
  | ok _ => exact ⟨trivial, fun _ => ⟨trivial, fun _ => same⟩⟩

/-- Behind the connection nothing is resolved or connected to. -/
theorem keeps_exchange {parsed : ParsedUrl} {maxBytes : Nat} {done : Made} :
    Prog.Keeps ⟨fun _ _ => True, fun after _ => routing after = routing done⟩ done
      (exchange parsed maxBytes) := by
  unfold exchange
  split
  · exact keeps_requestOn rfl
  · unfold Fetch.setServerName Fetch.handshake
    simp only [Prog.bind_make, Prog.keeps_call, true_and]
    intro named
    cases named with
    | false => rfl
    | true =>
      refine ⟨trivial, fun shaken => ?_⟩
      cases shaken with
      | error message => rfl
      | ok _ => exact keeps_requestOn rfl

theorem fetchEnds_unresolved {done : Made} {result : Except Empty UrlFetchResult}
    (unconnected : connected done = []) (unresolved : ∀ endpoints, ¬ Resolved done endpoints) :
    FetchEnds lib now done result where
  connects endpoints member := by
    rw [unconnected] at member
    cases member
  refuses resolved made := absurd made (unresolved resolved)

/-- Once the resolver has answered and the first allowed endpoint was connected to, the rest of the fetch
is free. -/
theorem fetchEnds_connected {host port : String} {endpoints : List Endpoint} {endpoint : Endpoint}
    {opened : Except String Unit} {done : Made} {result : Except Empty UrlFetchResult}
    (first : FirstAllowed lib now endpoints endpoint)
    (made : routing done = [⟨.connect [endpoint], opened⟩, ⟨.resolve host port, .ok endpoints⟩]) :
    FetchEnds lib now done result := by
  have resolved : ∀ other, Resolved done other ↔ other = endpoints := by
    intro other
    rw [← resolved_routing, made]
    simp [Resolved]
  have connects : connected done = [[endpoint]] := by
    rw [← connected_routing, made]
    rfl
  refine ⟨fun others member => ?_, fun other found all => ?_⟩
  · rw [connects] at member
    exact ⟨endpoints, endpoint, (resolved _).mpr rfl, first, List.mem_singleton.mp member⟩
  · obtain rfl := (resolved other).mp found
    obtain ⟨before, after, split, _, allowed⟩ := first
    have denied := all endpoint (by simp [split])
    rw [allowed] at denied
    cases denied

theorem keeps_fetchUrl (url : String) (maxBytes : Nat) :
    Prog.Keeps ⟨fun _ _ => True, FetchEnds lib now⟩ [] (fetchUrl lib now url maxBytes) := by
  unfold fetchUrl
  cases parseUrl url with
  | none => exact fetchEnds_unresolved rfl (by simp [Resolved])
  | some parsed =>
    dsimp only
    unfold Fetch.resolve Fetch.connect
    simp only [Prog.bind_make, Prog.keeps_call, true_and]
    intro found
    cases found with
    | error message => exact fetchEnds_unresolved rfl (by simp [Resolved])
    | ok endpoints =>
      dsimp only
      cases kept : filterEndpoints lib now endpoints with
      | nil => exact ⟨fun _ member => (List.not_mem_nil member).elim, fun _ _ _ => ⟨rfl, _, rfl⟩⟩
      | cons endpoint rest =>
        obtain ⟨rfl, first⟩ := filterEndpoints_cons kept
        refine ⟨trivial, fun opened => ?_⟩
        cases opened with
        | error message => exact fetchEnds_connected first rfl
        | ok _ =>
          exact keeps_exchange.mono (fun _ _ allowed => allowed)
            fun _ _ same => fetchEnds_connected first same

/-- Whatever the network answers, a fetch connects to the first endpoint that is not internal or to none;
an address is internal in the form that is unwrapped. -/
theorem fetch_stays_outside (documented : lib.Documented) :
    (∀ (now : Int) (url : String) (maxBytes : Nat) (M Net : Type)
        (network : (call : FetchCall) → M → Net → call.Result × Net) (moments : Nat → M) (net : Net),
      FetchEnds lib now ((fetchUrl lib now url maxBytes).exec network [] moments net).done
        ((fetchUrl lib now url maxBytes).exec network [] moments net).result) ∧
    (∀ now address, isDisallowedAddress lib now address = true ↔ Internal address) ∧
    ∀ now bytes scopeId, isDisallowedAddress lib now (v4Mapped bytes scopeId) =
      isDisallowedAddress lib now (.v4 bytes) := by
  refine ⟨?_, fun now address => isDisallowedAddress_iff documented, ?_⟩
  · intro now url maxBytes M Net network moments net
    have keeps := @keeps_fetchUrl lib now url maxBytes
    exact (keeps.exec (fun _ _ _ _ (_ : True) _ => trivial) trivial).2
  · intro now bytes scopeId
    unfold isDisallowedAddress
    rw [unwrapV4Mapped_v4Mapped]
    rfl

instance (bits base length n : Nat) : Decidable (Within bits base length n) :=
  inferInstanceAs (Decidable (_ = _))

/-- Dotted addresses and the two prefixes of the list are read as Boost reads them. -/
def sampleAddressLib : AddressLib where
  makeAddress text :=
    if text = "fc00::" then some (.v6 #v[0xFC, 0, 0, 0, 0, 0, 0, 0, 0, 0, 0, 0, 0, 0, 0, 0] 0)
    else if text = "fe80::" then some (.v6 #v[0xFE, 0x80, 0, 0, 0, 0, 0, 0, 0, 0, 0, 0, 0, 0, 0, 0] 0)
    else Address.ofText text
  isLoopback address :=
    if isV4 address then Within 32 (quad 127 0 0 0) 8 (addressValue address) else addressValue address = 1
  isMulticast address :=
    if isV4 address then Within 32 (quad 224 0 0 0) 4 (addressValue address)
    else Within 128 (groupBase 0xFF00) 8 (addressValue address)
  isUnspecified address := addressValue address = 0

theorem sampleAddressLib_documented : sampleAddressLib.Documented where
  dotted bytes := by
    have plain : ∀ text : String, Address.ofText text = none →
        Address.fullText (.v4 bytes) ≠ text := by
      rintro _ unread rfl
      rw [Address.ofText_fullText] at unread
      cases unread
    unfold sampleAddressLib
    dsimp only
    rw [if_neg (plain _ (by decide)), if_neg (plain _ (by decide)), Address.ofText_fullText]
  uniqueLocal := rfl
  linkLocal := rfl
  loopback address := by cases address <;> simp [sampleAddressLib, isV4]
  multicast address := by cases address <;> simp [sampleAddressLib, isV4]
  unspecified address := by simp [sampleAddressLib]

/-- The name resolves to the metadata service of a cloud in its mapped form and then to a public address,
where nothing listens. -/
def metadataNetwork : (call : FetchCall) → Unit → Unit → call.Result × Unit
  | .resolve _ _, _, _ =>
    (.ok [⟨v4Mapped #v[169, 254, 169, 254] 0, 80⟩, ⟨.v4 #v[203, 0, 114, 9], 80⟩], ())
  | .connect _, _, _ => (.error "Connection refused", ())
  | .setServerName _, _, _ => (true, ())
  | .handshake, _, _ => (.ok (), ())
  | .write _, _, _ => (.ok (), ())
  | .read _, _, _ => (.bodyLimit, ())
  | .shutdown, _, _ => ((), ())

def metadataFetch : Prog.Ran FetchCall FetchCall.Result Empty UrlFetchResult Unit :=
  (fetchUrl sampleAddressLib 0 "http://list.example/ips" 1024).exec metadataNetwork [] (fun _ => ()) ()

theorem fetch_stays_outside_metadata :
    FetchEnds sampleAddressLib 0 metadataFetch.done metadataFetch.result ∧
    (isDisallowedAddress sampleAddressLib 0 (.v4 #v[169, 254, 169, 254]) = true ↔
      Internal (.v4 #v[169, 254, 169, 254])) ∧
    isDisallowedAddress sampleAddressLib 0 (v4Mapped #v[169, 254, 169, 254] 0) =
      isDisallowedAddress sampleAddressLib 0 (.v4 #v[169, 254, 169, 254]) :=
  have all := fetch_stays_outside sampleAddressLib_documented
  ⟨all.1 0 _ 1024 Unit Unit metadataNetwork _ (), all.2.1 0 _, all.2.2 0 _ 0⟩

end Atomwall
