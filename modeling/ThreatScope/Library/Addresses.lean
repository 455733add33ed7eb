import ThreatScope.Library.Text

/-!
# Addresses and networks

An address of the internet protocol is a number of one of two widths, and a network is the
set of addresses of one width that share a prefix. The addresses of the narrow width have a
second spelling as addresses of the wide one, the mapped spelling: no network contains both.
-/

set_option autoImplicit false

namespace ThreatScope.Library

/-- The two versions of the protocol. -/
inductive IpVersion where
  | v4
  | v6
deriving DecidableEq

/-- The number of bits of an address. -/
def IpVersion.bits : IpVersion → Nat
  | .v4 => 32
  | .v6 => 128

/-- An address: its version and its number. -/
structure IpAddress where
  version : IpVersion
  value : Nat
deriving DecidableEq

/-- A network: the version, the number of its first address and the length of its prefix. -/
structure IpNetwork where
  version : IpVersion
  base : Nat
  prefixLength : Nat
deriving DecidableEq

/-- The number of the addresses that share a prefix of a length. -/
def IpNetwork.hostSpan (network : IpNetwork) : Nat :=
  2 ^ (network.version.bits - network.prefixLength)

/-- `address in network`: the versions agree and the prefixes agree. -/
def IpNetwork.contains (network : IpNetwork) (address : IpAddress) : Bool :=
  network.version == address.version &&
    network.base / network.hostSpan == address.value / network.hostSpan

/-- The network of one address. -/
def IpAddress.single (address : IpAddress) : IpNetwork :=
  ⟨address.version, address.value, address.version.bits⟩

/-- The first address of a network. -/
def IpNetwork.networkAddress (network : IpNetwork) : IpAddress := ⟨network.version, network.base⟩

/-- The mapped spelling of a narrow address, `::ffff:a.b.c.d`. -/
def IpAddress.mapped (address : IpAddress) : IpAddress := ⟨.v6, 0xffff * 2 ^ 32 + address.value⟩

theorem IpNetwork.contains_iff {network : IpNetwork} {address : IpAddress} :
    network.contains address = true ↔
      network.version = address.version ∧
        network.base / network.hostSpan = address.value / network.hostSpan := by
  rw [IpNetwork.contains, Bool.and_eq_true, beq_iff_eq, beq_iff_eq]

theorem IpAddress.contains_single_iff {address other : IpAddress} :
    address.single.contains other = true ↔ other = address := by
  rw [IpNetwork.contains_iff]
  have alone : address.single.hostSpan = 1 := by
    rw [IpNetwork.hostSpan, IpAddress.single, Nat.sub_self, Nat.pow_zero]
  rw [alone, Nat.div_one, Nat.div_one]
  constructor
  · rintro ⟨versions, values⟩
    cases address
    cases other
    cases versions
    cases values
    rfl
  · rintro rfl
    exact ⟨rfl, rfl⟩

end ThreatScope.Library
