import ThreatScope.Integrations.Inbound
import ThreatScope.Library.Addresses

/-!
# Where a connector may send

`validate_destination` of `integrations/security.py`. A URL names a host and a port. The
host has to be allowed by name, every address the resolver answers with is then classified,
and an address of a prohibited range is let through only by an approved private network.

The splitting of URLs, the IDNA codec and the `ipaddress` module are an `EgressRuntime`. Its
laws are what the service relies on: an address reads back from its own text, which has no
zone.

The policy refuses metadata addresses and networks that contain one. It compares within one
version of the protocol, so the mapped spelling of such an address is let through by a network
that contains it, and wherever the classifications put it in no prohibited range.
-/

set_option autoImplicit false

namespace ThreatScope.Integrations

open Library AccessControl

/-! ## What the runtime supplies -/

/-- What `urlsplit` finds in a URL. -/
structure SplitUrl where
  scheme : String
  username : String
  password : String
  fragment : String
  query : String
  /-- `parsed.hostname or ""`. -/
  hostname : String
  /-- `parsed.port`, `none` when reading it raises. -/
  port : Option (Option Nat)

/-- The standard library as the egress policy uses it. -/
structure EgressRuntime where
  py : Interpreter
  /-- `urlsplit(url)`, `none` for a `ValueError`. -/
  urlsplit : String → Option SplitUrl
  /-- `text.encode("idna").decode("ascii")`, `none` for a `UnicodeError`. -/
  idna : String → Option String
  /-- `ipaddress.ip_address(text)`, `none` for a `ValueError`. -/
  parseAddress : String → Option IpAddress
  /-- `str(address)`. -/
  addressText : IpAddress → String
  /-- `ipaddress.ip_network(text, strict=True)`, `none` for a `ValueError`. -/
  parseNetwork : String → Option IpNetwork
  isLoopback : IpAddress → Bool
  isLinkLocal : IpAddress → Bool
  isMulticast : IpAddress → Bool
  isPrivate : IpAddress → Bool
  isReserved : IpAddress → Bool
  isUnspecified : IpAddress → Bool
  parseAddress_addressText : ∀ address, parseAddress (addressText address) = some address
  addressText_zone : ∀ address, '%' ∉ (addressText address).toList

/-- `ConnectorNetworkPolicy.network_scope`. -/
inductive NetworkScope where
  | publicHttps
  | approvedPrivate
  | localTestOnly
deriving DecidableEq

/-- A row of `integration_network_policies`. -/
structure ConnectorNetworkPolicy where
  connectorId : Nat
  networkScope : NetworkScope
  allowedHosts : List String
  allowedPorts : List Int
  allowedCidrs : List String

/-- `ValidatedDestination`. -/
structure ValidatedDestination where
  url : String
  hostname : String
  port : Nat
  addresses : List String

/-! ## Texts -/

/-- `text.rstrip(".")`. -/
def stripDots (text : String) : String :=
  String.ofList ((text.toList.reverse.dropWhile fun c => c == '.').reverse)

/-- The canonical spelling of a host. -/
def canonicalHost (env : EgressRuntime) (host : String) : Option String :=
  (env.idna (stripDots host)).map env.py.casefold

/-- A letter as the flag `(?i)` matches it. -/
def sameLetter (pattern c : Char) : Bool :=
  c.toLower == pattern || (pattern == 's' && c.toNat == 0x17f) ||
    (pattern == 'k' && c.toNat == 0x212a) ||
    (pattern == 'i' && (c.toNat == 0x130 || c.toNat == 0x131))

/-- `re.search` of one spelling. -/
def mentions (text spelling : String) : Bool :=
  text.toList.tails.any fun rest =>
    decide (spelling.length ≤ rest.length) &&
      (spelling.toList.zip rest).all fun pair => sameLetter pair.1 pair.2

/-- `(?i)(token|secret|password|api[_-]?key|signature)=` finds a match. -/
def carriesCredential (query : String) : Bool :=
  ["token=", "secret=", "password=", "apikey=", "api_key=", "api-key=", "signature="].any
    (mentions query)

/-- `0x[0-9a-f]+|0[0-7]+|[0-9]+` matches a part of a host. -/
def isNumeral (part : List Char) : Bool :=
  match part with
  | '0' :: x :: rest =>
    ((x == 'x' || x == 'X') && !rest.isEmpty && rest.all fun c =>
      c.isDigit || ('a' ≤ c.toLower && c.toLower ≤ 'f')) || (x :: rest).all Char.isDigit
  | _ => !part.isEmpty && part.all Char.isDigit

/-- One to four numerals with dots between them. -/
def isNumericHost (hostname : String) : Bool :=
  let parts := Text.splitChars '.' hostname.toList
  decide (parts.length ≤ 4) && parts.all isNumeral

/-! ## The policy -/

/-- The metadata addresses `169.254.169.254`, `100.100.100.200` and `fd00:ec2::254`. -/
def metadataAddresses : List IpAddress :=
  [⟨.v4, 0xa9fea9fe⟩, ⟨.v4, 0x646464c8⟩, ⟨.v6, 0xfd000ec2000000000000000000000254⟩]

def metadataNetworks : List IpNetwork := metadataAddresses.map IpAddress.single

/-- The ranges that are prohibited without an approval. -/
def EgressRuntime.inProhibitedRange (env : EgressRuntime) (address : IpAddress) : Bool :=
  env.isLoopback address || env.isLinkLocal address || env.isMulticast address ||
    env.isPrivate address || env.isReserved address || env.isUnspecified address

def prohibitedAddress (env : EgressRuntime) (address : IpAddress) : Bool :=
  env.inProhibitedRange address ||
    metadataNetworks.any fun network => network.contains address

/-- One approved network, as `_parse_cidrs` takes it. -/
def parseCidr (env : EgressRuntime) (value : String) : Except Fault IpNetwork :=
  match env.parseNetwork value with
  | none => refuse .networkPolicyDenied "An approved CIDR is invalid"
  | some network =>
    if network.prefixLength = 0 || metadataNetworks.any fun metadata =>
        network.contains metadata.networkAddress then
      refuse .networkPolicyDenied "Broad or metadata CIDRs are prohibited"
    else .ok network

def parseCidrs (env : EgressRuntime) : List String → Except Fault (List IpNetwork)
  | [] => .ok []
  | value :: rest => do
    let network ← parseCidr env value
    let others ← parseCidrs env rest
    .ok (network :: others)

/-- `allowed_hosts`, whose encoding may raise. -/
def allowedHosts (env : EgressRuntime) (policy : ConnectorNetworkPolicy) :
    Except Fault (List String) :=
  match policy.allowedHosts.mapM (canonicalHost env) with
  | none => .error .crashed
  | some hosts => .ok hosts

/-- A host and a port that passed every check before the resolver is asked. -/
structure Target where
  hostname : String
  port : Nat
  hosts : List String
deriving DecidableEq

/-- The checks of `validate_destination` on the URL itself. -/
def examineUrl (env : EgressRuntime) (url : String) : Except Fault (String × Nat) :=
  if 2048 < url.length then refuse .configurationInvalid "Destination URL is too long"
  else match env.urlsplit url with
  | none => .error .crashed
  | some parsed =>
    if env.py.casefold parsed.scheme ≠ "https" then
      refuse .ssrfBlocked "Only HTTPS destinations are allowed"
    else if parsed.username ≠ "" || parsed.password ≠ "" || parsed.fragment ≠ "" then
      refuse .ssrfBlocked "URL user information and fragments are prohibited"
    else if carriesCredential parsed.query then
      refuse .ssrfBlocked "Credential-bearing query strings are prohibited"
    else match canonicalHost env parsed.hostname, parsed.port with
      | some hostname, some port =>
        if hostname = "" || hostname = "localhost" ||
            Text.endsWith hostname ".localhost" then
          refuse .ssrfBlocked "Localhost is prohibited"
        else .ok (hostname, if port.getD 0 = 0 then 443 else port.getD 0)
      | _, _ => refuse .configurationInvalid "Destination host or port is invalid"

/-- The checks of `validate_destination` up to the resolver. -/
def examineTarget (env : EgressRuntime) (url : String) (policy : ConnectorNetworkPolicy) :
    Except Fault Target := do
  let (hostname, port) ← examineUrl env url
  let hosts ← allowedHosts env policy
  if hosts.any fun host => Text.contains host "*" then
    refuse .networkPolicyDenied "Wildcard hosts are prohibited"
  else if !hosts.isEmpty && !hosts.contains hostname then
    refuse .networkPolicyDenied "Destination host is not allowlisted"
  else if !policy.allowedPorts.contains (port : Int) || !decide (1 ≤ port ∧ port ≤ 65535) then
    refuse .networkPolicyDenied "Destination port is not allowlisted"
  else
    let literal := env.parseAddress (Text.stripChars ['[', ']'] hostname)
    if literal.isSome && policy.networkScope = .publicHttps then
      refuse .ssrfBlocked "IP-literal destinations require explicit approval"
    else if literal.isNone && isNumericHost hostname then
      refuse .ssrfBlocked "Ambiguous numeric hosts are prohibited"
    else .ok ⟨hostname, port, hosts⟩

/-- `text.split("%")[0]`. -/
def dropZone (text : String) : String :=
  String.ofList (text.toList.takeWhile fun c => c != '%')

/-- The addresses of a resolver's answer, sorted and without repetition. -/
def distinctAddresses (records : List String) : List String :=
  (records.map dropZone).dedup.mergeSort fun first second => decide (first ≤ second)

/-- What the policy decides about one address. -/
def screenAddress (env : EgressRuntime) (policy : ConnectorNetworkPolicy) (target : Target)
    (approved : List IpNetwork) (text : String) : Except Fault Unit :=
  match env.parseAddress text with
  | none => refuse .dnsRebindingBlocked "DNS returned an invalid address"
  | some address =>
    if prohibitedAddress env address &&
        !(policy.networkScope == .approvedPrivate &&
          approved.any (fun network => network.contains address) &&
          target.hosts.contains target.hostname) then
      refuse .dnsRebindingBlocked "Destination resolved to a prohibited address"
    else .ok ()

/-- The approved networks, which only an approved private scope has. -/
def approvedNetworks (env : EgressRuntime) (policy : ConnectorNetworkPolicy) :
    Except Fault (List IpNetwork) :=
  if policy.networkScope = .approvedPrivate then parseCidrs env policy.allowedCidrs
  else .ok []

/-- Every address passes the screen. -/
def screenAll (env : EgressRuntime) (policy : ConnectorNetworkPolicy) (target : Target)
    (approved : List IpNetwork) : List String → Except Fault Unit
  | [] => .ok ()
  | text :: rest => do
    screenAddress env policy target approved text
    screenAll env policy target approved rest

/-- `validate_destination`. The resolver answers with the addresses of its records, or
raises. -/
def validateDestination (env : EgressRuntime) (url : String)
    (policy : ConnectorNetworkPolicy) (resolver : String → Nat → Option (List String)) :
    Except Fault ValidatedDestination := do
  let target ← examineTarget env url policy
  match resolver target.hostname target.port with
  | none => refuse .timeout "Destination DNS resolution failed"
  | some records =>
    let addresses := distinctAddresses records
    if addresses.isEmpty then refuse .timeout "Destination DNS resolution returned no addresses"
    else do
      let approved ← approvedNetworks env policy
      screenAll env policy target approved addresses
      .ok ⟨url, target.hostname, target.port, addresses⟩

/-! ## What the policy promises -/

/-- A destination that the policy of a connector admits. -/
structure Admissible (env : EgressRuntime) (url : String) (policy : ConnectorNetworkPolicy)
    (destination : ValidatedDestination) : Prop where
  https : ∃ parsed, env.urlsplit url = some parsed ∧
    env.py.casefold parsed.scheme = "https" ∧
    canonicalHost env parsed.hostname = some destination.hostname
  allowlisted : policy.allowedHosts ≠ [] →
    ∃ host ∈ policy.allowedHosts, canonicalHost env host = some destination.hostname
  port : (destination.port : Int) ∈ policy.allowedPorts
  addressed : destination.addresses ≠ []
  screened : ∀ text ∈ destination.addresses, ∃ address,
    env.parseAddress text = some address ∧
      (env.inProhibitedRange address = false ∨
        policy.networkScope = .approvedPrivate ∧
        (∃ host ∈ policy.allowedHosts, canonicalHost env host = some destination.hostname) ∧
        ∃ cidr ∈ policy.allowedCidrs, ∃ network, env.parseNetwork cidr = some network ∧
          network.contains address = true)

/-- An address denotes a metadata address: it is one, or the mapped spelling of one. -/
def DenotesMetadata (address : IpAddress) : Prop :=
  ∃ metadata ∈ metadataAddresses,
    address = metadata ∨ metadata.version = .v4 ∧ address = metadata.mapped

/-- No address of a destination denotes a metadata address. -/
def AvoidsMetadata (env : EgressRuntime) (destination : ValidatedDestination) : Prop :=
  ∀ text ∈ destination.addresses, ∀ address, env.parseAddress text = some address →
    ¬ DenotesMetadata address

/-- The mapped spelling of a metadata address is in no prohibited range, or the policy approves
a network that contains it, for a host that may be sent to. -/
def AdmitsMapped (env : EgressRuntime) (url : String) (policy : ConnectorNetworkPolicy) :
    Prop :=
  ∃ target approved, examineTarget env url policy = .ok target ∧
    approvedNetworks env policy = .ok approved ∧
    ∃ metadata ∈ metadataAddresses, metadata.version = .v4 ∧
      (env.inProhibitedRange metadata.mapped = false ∨
        policy.networkScope = .approvedPrivate ∧ target.hostname ∈ target.hosts ∧
          ∃ network ∈ approved, network.contains metadata.mapped = true)

section Policy

variable {env : EgressRuntime} {url : String} {policy : ConnectorNetworkPolicy}
  {target : Target} {approved : List IpNetwork} {destination : ValidatedDestination}

/-! ## The networks -/

/-- **An approved network** is one of the policy's and contains no metadata address. -/
theorem of_mem_parseCidrs {values : List String} :
    ∀ {approved : List IpNetwork}, parseCidrs env values = .ok approved →
      ∀ network ∈ approved, (∃ value ∈ values, env.parseNetwork value = some network) ∧
        ∀ metadata ∈ metadataAddresses, network.contains metadata = false := by
  induction values with
  | nil =>
    intro approved parsed network member
    cases parsed
    cases member
  | cons value rest ih =>
    intro approved parsed network member
    obtain ⟨first, taken, parsed⟩ := bind_eq_ok_iff.mp parsed
    obtain ⟨others, remaining, parsed⟩ := bind_eq_ok_iff.mp parsed
    cases parsed
    rcases List.mem_cons.mp member with rfl | later
    · unfold parseCidr at taken
      split at taken
      · cases taken
      · rename_i found
        split at taken
        · cases taken
        · rename_i narrow
          cases taken
          refine ⟨⟨value, List.mem_cons_self .., found⟩, fun metadata place => ?_⟩
          simp only [Bool.or_eq_true, decide_eq_true_eq, not_or, Bool.not_eq_true,
            List.any_eq_false] at narrow
          have apart := narrow.2 metadata.single (List.mem_map_of_mem place)
          exact apart
    · obtain ⟨⟨value, place, found⟩, apart⟩ := ih remaining network later
      exact ⟨⟨value, List.mem_cons_of_mem _ place, found⟩, apart⟩

theorem of_mem_approvedNetworks (listed : approvedNetworks env policy = .ok approved)
    {network : IpNetwork} (member : network ∈ approved) :
    policy.networkScope = .approvedPrivate ∧
      parseCidrs env policy.allowedCidrs = .ok approved := by
  unfold approvedNetworks at listed
  split at listed
  · rename_i scope
    exact ⟨scope, listed⟩
  · cases listed
    cases member

/-! ## The addresses -/

/-- **What the policy lets through** is not prohibited, or approved for an allowed host. -/
theorem screenAddress_eq_ok_iff {text : String} :
    screenAddress env policy target approved text = .ok () ↔
      ∃ address, env.parseAddress text = some address ∧
        (prohibitedAddress env address = false ∨
          policy.networkScope = .approvedPrivate ∧ target.hostname ∈ target.hosts ∧
            ∃ network ∈ approved, network.contains address = true) := by
  unfold screenAddress
  cases found : env.parseAddress text with
  | none => simp [refuse]
  | some address =>
    dsimp only
    have exempt : (policy.networkScope == .approvedPrivate &&
        approved.any (fun network => network.contains address) &&
        target.hosts.contains target.hostname) = true ↔
        policy.networkScope = .approvedPrivate ∧ target.hostname ∈ target.hosts ∧
          ∃ network ∈ approved, network.contains address = true := by
      rw [Bool.and_eq_true, Bool.and_eq_true, beq_iff_eq, List.any_eq_true,
        List.contains_iff_mem, and_assoc]
      exact and_congr_right fun _ => and_comm
    split
    · rename_i stopped
      rw [Bool.and_eq_true, Bool.not_eq_true', ← Bool.not_eq_true, exempt] at stopped
      refine iff_of_false (by simp [refuse]) ?_
      rintro ⟨other, ⟨⟩, harmless | approves⟩
      · exact Bool.false_ne_true (harmless.symm.trans stopped.1)
      · exact stopped.2 approves
    · rename_i admitted
      rw [Bool.and_eq_true, Bool.not_eq_true', not_and_or, Bool.not_eq_true,
        Bool.not_eq_false, exempt] at admitted
      exact iff_of_true rfl ⟨address, rfl, admitted⟩

theorem screenAll_eq_ok_iff {texts : List String} :
    screenAll env policy target approved texts = .ok () ↔
      ∀ text ∈ texts, screenAddress env policy target approved text = .ok () := by
  induction texts with
  | nil => exact ⟨fun _ text member => absurd member (List.not_mem_nil), fun _ => rfl⟩
  | cons text rest ih =>
    rw [List.forall_mem_cons, ← ih]
    constructor
    · intro passed
      obtain ⟨⟨⟩, first, others⟩ := bind_eq_ok_iff.mp passed
      exact ⟨first, others⟩
    · rintro ⟨first, others⟩
      exact bind_eq_ok_iff.mpr ⟨(), first, others⟩

theorem prohibited_of_mem_metadataAddresses {address : IpAddress}
    (place : address ∈ metadataAddresses) : prohibitedAddress env address = true := by
  refine Bool.or_eq_true_iff.mpr (.inr (List.any_eq_true.mpr ⟨address.single, ?_, ?_⟩))
  · exact List.mem_map_of_mem place
  · exact IpAddress.contains_single_iff.mpr rfl

/-- **A mapped spelling** is prohibited by its range only. -/
theorem prohibited_mapped {metadata : IpAddress} (place : metadata ∈ metadataAddresses)
    (narrow : metadata.version = .v4) :
    prohibitedAddress env metadata.mapped = env.inProhibitedRange metadata.mapped := by
  have apart : ∀ metadata ∈ metadataAddresses, metadata.version = .v4 →
      (metadataNetworks.any fun network => network.contains metadata.mapped) = false := by
    decide +kernel
  rw [prohibitedAddress, apart metadata place narrow, Bool.or_false]

/-! ## The target -/

theorem of_examineUrl {hostname : String} {port : Nat}
    (examined : examineUrl env url = .ok (hostname, port)) :
    ∃ parsed, env.urlsplit url = some parsed ∧
      env.py.casefold parsed.scheme = "https" ∧
      canonicalHost env parsed.hostname = some hostname := by
  unfold examineUrl at examined
  split at examined
  · cases examined
  · split at examined
    · cases examined
    · rename_i parsed split
      split at examined
      · cases examined
      · rename_i scheme
        split at examined
        · cases examined
        · split at examined
          · cases examined
          · split at examined
            · rename_i host number canonical _
              split at examined
              · cases examined
              · cases examined
                exact ⟨parsed, split, not_not.mp scheme, canonical⟩
            · cases examined

/-- **What is checked before the resolver is asked.** -/
theorem of_examineTarget (examined : examineTarget env url policy = .ok target) :
    (∃ parsed, env.urlsplit url = some parsed ∧
      env.py.casefold parsed.scheme = "https" ∧
      canonicalHost env parsed.hostname = some target.hostname) ∧
    policy.allowedHosts.mapM (canonicalHost env) = some target.hosts ∧
    (target.hosts ≠ [] → target.hostname ∈ target.hosts) ∧
    (target.port : Int) ∈ policy.allowedPorts := by
  obtain ⟨⟨hostname, port⟩, url, examined⟩ := bind_eq_ok_iff.mp examined
  obtain ⟨hosts, encoded, examined⟩ := bind_eq_ok_iff.mp examined
  have listed : policy.allowedHosts.mapM (canonicalHost env) = some hosts := by
    unfold allowedHosts at encoded
    split at encoded
    · cases encoded
    · rename_i same
      cases encoded
      exact same
  split at examined
  · cases examined
  split at examined
  · cases examined
  rename_i named
  split at examined
  · cases examined
  rename_i ported
  dsimp only at examined
  split at examined
  · cases examined
  split at examined
  · cases examined
  cases examined
  refine ⟨of_examineUrl url, listed, fun some => ?_, ?_⟩
  · by_contra absent
    exact named (by simp [some, absent])
  · by_contra absent
    exact ported (by simp [absent])

theorem exists_allowed {hosts : List String} {hostname : String}
    (listed : policy.allowedHosts.mapM (canonicalHost env) = some hosts)
    (member : hostname ∈ hosts) :
    ∃ host ∈ policy.allowedHosts, canonicalHost env host = some hostname := by
  have spelled : some hostname ∈ policy.allowedHosts.map (canonicalHost env) := by
    rw [mapM_eq_some_iff.mp listed]
    exact List.mem_map_of_mem member
  exact List.mem_map.mp spelled

/-! ## The resolver's answer -/

theorem dropZone_addressText (address : IpAddress) :
    dropZone (env.addressText address) = env.addressText address := by
  have whole : (env.addressText address).toList.takeWhile (fun c => c != '%') =
      (env.addressText address).toList := by
    rw [List.takeWhile_eq_self_iff]
    intro c member
    rw [bne_iff_ne]
    rintro rfl
    exact env.addressText_zone address member
  rw [dropZone, whole, String.ofList_toList]

/-- **A destination that is returned** passed every check. -/
theorem of_validateDestination {resolver : String → Nat → Option (List String)}
    (validated : validateDestination env url policy resolver = .ok destination) :
    ∃ target approved, examineTarget env url policy = .ok target ∧
      approvedNetworks env policy = .ok approved ∧
      destination.hostname = target.hostname ∧ destination.port = target.port ∧
      destination.addresses ≠ [] ∧
      screenAll env policy target approved destination.addresses = .ok () := by
  obtain ⟨target, examined, validated⟩ := bind_eq_ok_iff.mp validated
  split at validated
  · cases validated
  · dsimp only at validated
    split at validated
    · cases validated
    · rename_i some
      obtain ⟨approved, listed, validated⟩ := bind_eq_ok_iff.mp validated
      obtain ⟨⟨⟩, screened, validated⟩ := bind_eq_ok_iff.mp validated
      cases validated
      refine ⟨target, approved, examined, listed, rfl, rfl, fun none => some ?_, screened⟩
      exact List.isEmpty_iff.mpr none

/-- **A returned destination is admitted by the policy.** -/
theorem admissible_of_validateDestination {resolver : String → Nat → Option (List String)}
    (validated : validateDestination env url policy resolver = .ok destination) :
    Admissible env url policy destination := by
  obtain ⟨target, approved, examined, listed, host, port, addressed, screened⟩ :=
    of_validateDestination validated
  obtain ⟨https, hosts, named, ported⟩ := of_examineTarget examined
  refine ⟨host ▸ https, fun some => ?_, port ▸ ported, addressed, fun text member => ?_⟩
  · rw [host]
    refine exists_allowed hosts (named fun none => some ?_)
    have spelled := mapM_eq_some_iff.mp hosts
    rw [none, List.map_nil, List.map_eq_nil_iff] at spelled
    exact spelled
  · obtain ⟨address, found, outside | ⟨scope, allowed, network, approves, inside⟩⟩ :=
      screenAddress_eq_ok_iff.mp (screenAll_eq_ok_iff.mp screened text member)
    · exact ⟨address, found, .inl (Bool.or_eq_false_iff.mp outside).1⟩
    · obtain ⟨-, parsed⟩ := of_mem_approvedNetworks listed approves
      obtain ⟨cidr, place, read⟩ := (of_mem_parseCidrs parsed network approves).1
      rw [host]
      exact ⟨address, found, .inr ⟨scope, exists_allowed hosts allowed, cidr, place, network,
        read, inside⟩⟩

/-- A returned destination avoids metadata unless a mapped spelling is admitted. -/
theorem avoidsMetadata_of_validateDestination {resolver : String → Nat → Option (List String)}
    (validated : validateDestination env url policy resolver = .ok destination)
    (unmapped : ¬ AdmitsMapped env url policy) : AvoidsMetadata env destination := by
  obtain ⟨target, approved, examined, listed, -, -, -, screened⟩ :=
    of_validateDestination validated
  intro text member address found denotes
  obtain ⟨other, same, admitted⟩ :=
    screenAddress_eq_ok_iff.mp (screenAll_eq_ok_iff.mp screened text member)
  rw [found] at same
  cases same
  obtain ⟨metadata, place, rfl | ⟨narrow, rfl⟩⟩ := denotes
  · rcases admitted with outside | ⟨-, -, network, approves, inside⟩
    · rw [prohibited_of_mem_metadataAddresses place] at outside
      cases outside
    · obtain ⟨-, parsed⟩ := of_mem_approvedNetworks listed approves
      rw [(of_mem_parseCidrs parsed network approves).2 address place] at inside
      cases inside
  · rw [prohibited_mapped place narrow] at admitted
    exact unmapped ⟨target, approved, examined, listed, metadata, place, narrow, admitted⟩

/-- **The answer that lets a mapped spelling through**, where it is admitted. -/
theorem validateDestination_mapped {metadata : IpAddress}
    (examined : examineTarget env url policy = .ok target)
    (listed : approvedNetworks env policy = .ok approved)
    (place : metadata ∈ metadataAddresses) (narrow : metadata.version = .v4)
    (admitted : env.inProhibitedRange metadata.mapped = false ∨
      policy.networkScope = .approvedPrivate ∧ target.hostname ∈ target.hosts ∧
        ∃ network ∈ approved, network.contains metadata.mapped = true) :
    validateDestination env url policy
        (fun _ _ => some [env.addressText metadata.mapped]) =
      .ok ⟨url, target.hostname, target.port, [env.addressText metadata.mapped]⟩ := by
  have answer : distinctAddresses [env.addressText metadata.mapped] =
      [env.addressText metadata.mapped] := by
    rw [distinctAddresses, List.map_singleton, dropZone_addressText,
      (List.nodup_singleton _).dedup, List.mergeSort_singleton]
  rw [← prohibited_mapped place narrow] at admitted
  have passes : screenAddress env policy target approved
      (env.addressText metadata.mapped) = .ok () :=
    screenAddress_eq_ok_iff.mpr ⟨_, env.parseAddress_addressText _, admitted⟩
  refine bind_eq_ok_iff.mpr ⟨target, examined, ?_⟩
  dsimp only
  rw [answer]
  refine bind_eq_ok_iff.mpr ⟨approved, listed, bind_eq_ok_iff.mpr ⟨(), ?_, rfl⟩⟩
  exact screenAll_eq_ok_iff.mpr (List.forall_mem_singleton.mpr passes)

theorem not_avoidsMetadata_mapped {metadata : IpAddress} (place : metadata ∈ metadataAddresses)
    (narrow : metadata.version = .v4) (hostname : String) (port : Nat) :
    ¬ AvoidsMetadata env ⟨url, hostname, port, [env.addressText metadata.mapped]⟩ :=
  fun avoids => avoids _ (List.mem_singleton_self _) _ (env.parseAddress_addressText _)
    ⟨metadata, place, .inr ⟨narrow, rfl⟩⟩

end Policy

/-- **The egress policy.** Whatever the resolver answers, a destination is returned only when
the policy admits it and none of its addresses denotes a metadata address, exactly when the
mapped spelling of none is admitted. -/
theorem validateDestination_contract (env : EgressRuntime) (url : String)
    (policy : ConnectorNetworkPolicy) :
    (∀ resolver destination, validateDestination env url policy resolver = .ok destination →
      Admissible env url policy destination ∧ AvoidsMetadata env destination) ↔
    ¬ AdmitsMapped env url policy := by
  constructor
  · intro keeps mapped
    obtain ⟨target, approved, examined, listed, metadata, place, narrow, admitted⟩ := mapped
    have validated := validateDestination_mapped examined listed place narrow admitted
    exact not_avoidsMetadata_mapped place narrow _ _ (keeps _ _ validated).2
  · intro unmapped resolver destination validated
    exact ⟨admissible_of_validateDestination validated,
      avoidsMetadata_of_validateDestination validated unmapped⟩

/-! ## A policy with a mapped spelling -/

/-- `::ffff:169.254.169.254`. -/
def mappedMetadata : IpAddress := IpAddress.mapped ⟨.v4, 0xa9fea9fe⟩

/-- The text of the mapped spelling, and of every other address its version and its number. -/
def plainAddressText (address : IpAddress) : String :=
  if address = mappedMetadata then "::ffff:a9fe:a9fe"
  else String.ofList ((if address.version = .v4 then '4' else '6') ::
    Nat.toDigits 10 address.value)

/-- Read an address from its text. -/
def readAddress (text : String) : Option IpAddress :=
  if text = "::ffff:a9fe:a9fe" then some mappedMetadata
  else match text.toList with
    | '4' :: digits => some ⟨.v4, Nat.ofDigitChars 10 digits 0⟩
    | '6' :: digits => some ⟨.v6, Nat.ofDigitChars 10 digits 0⟩
    | _ => none

theorem readAddress_plainAddressText (address : IpAddress) :
    readAddress (plainAddressText address) = some address := by
  by_cases mapped : address = mappedMetadata
  · rw [plainAddressText, if_pos mapped, mapped]
    rfl
  · obtain ⟨version, value⟩ := address
    have other : plainAddressText ⟨version, value⟩ ≠ "::ffff:a9fe:a9fe" := by
      intro same
      have first := congrArg (fun text => text.toList.head?) same
      cases version <;> simp [plainAddressText, mapped] at first
    rw [readAddress, if_neg other, plainAddressText, if_neg mapped]
    cases version <;> simp [Nat.ofDigitChars_ten_toDigits]

theorem zone_plainAddressText (address : IpAddress) :
    '%' ∉ (plainAddressText address).toList := by
  rw [plainAddressText]
  split
  · decide
  · rw [String.toList_ofList, List.mem_cons, not_or]
    constructor
    · split <;> decide
    · intro member
      exact absurd (Nat.isDigit_of_mem_toDigits (by decide) (by decide) member) (by decide)

/-- A runtime that splits one URL and reads one network. -/
def plainEgress : EgressRuntime where
  py := plainHubPlatform.py
  urlsplit := fun url =>
    if url = "https://private.example/hook" then
      some ⟨"https", "", "", "", "", "private.example", some none⟩ else none
  idna := some
  parseAddress := readAddress
  addressText := plainAddressText
  parseNetwork := fun text =>
    if text = "::ffff:a9fe:a9fe/128" then some mappedMetadata.single else none
  isLoopback := fun _ => false
  isLinkLocal := fun _ => false
  isMulticast := fun _ => false
  isPrivate := fun address => address.version == .v6 && address.value / 2 ^ 32 == 0xffff
  isReserved := fun _ => false
  isUnspecified := fun address => address.value == 0
  parseAddress_addressText := readAddress_plainAddressText
  addressText_zone := zone_plainAddressText

/-- A private policy that approves the mapped spelling of a metadata address. -/
def mappedPolicy : ConnectorNetworkPolicy where
  connectorId := 1
  networkScope := .approvedPrivate
  allowedHosts := ["private.example"]
  allowedPorts := [443]
  allowedCidrs := ["::ffff:a9fe:a9fe/128"]

theorem addressText_mappedMetadata :
    plainEgress.addressText (IpAddress.mapped ⟨.v4, 0xa9fea9fe⟩) = "::ffff:a9fe:a9fe" := by
  change plainAddressText mappedMetadata = _
  rw [plainAddressText, if_pos rfl]

theorem examineTarget_mappedPolicy :
    examineTarget plainEgress "https://private.example/hook" mappedPolicy =
      .ok ⟨"private.example", 443, ["private.example"]⟩ := by
  decide +kernel

theorem approvedNetworks_mappedPolicy :
    approvedNetworks plainEgress mappedPolicy = .ok [mappedMetadata.single] := by
  decide +kernel

/-- **A request is sent to the metadata service under its mapped spelling.** -/
theorem validateDestination_reaches_metadata :
    validateDestination plainEgress "https://private.example/hook" mappedPolicy
        (fun _ _ => some ["::ffff:a9fe:a9fe"]) =
      .ok ⟨"https://private.example/hook", "private.example", 443, ["::ffff:a9fe:a9fe"]⟩ ∧
    ¬ AvoidsMetadata plainEgress
      ⟨"https://private.example/hook", "private.example", 443, ["::ffff:a9fe:a9fe"]⟩ := by
  rw [← addressText_mappedMetadata]
  refine ⟨validateDestination_mapped examineTarget_mappedPolicy approvedNetworks_mappedPolicy
    (List.mem_cons_self ..) rfl (.inr ⟨rfl, List.mem_singleton_self _, _,
      List.mem_singleton_self _, ?_⟩), ?_⟩
  · exact IpAddress.contains_single_iff.mpr rfl
  · exact not_avoidsMetadata_mapped (List.mem_cons_self ..) rfl _ _

end ThreatScope.Integrations
