import Jellyrin.Defs.Data.IpAddress

/-! The addresses to which requests of a provider may go. -/

namespace Jellyrin.Xtream

def ipv4SpecialUse (address : Ipv4Addr) : Bool :=
  let sharedCarrierNat := address.first = 100 && 64 ≤ address.second && address.second ≤ 127
  let benchmarking := address.first = 198 && (address.second = 18 || address.second = 19)
  let protocolAssignment := address.first = 192 && address.second = 0 && address.third = 0
  let deprecated6to4Relay := address.first = 192 && address.second = 88 && address.third = 99
  address.isUnspecified || address.isMulticast || address.isBroadcast || address.isLinkLocal ||
    address.isDocumentation || address.first = 0 || 240 ≤ address.first || sharedCarrierNat ||
    benchmarking || protocolAssignment || deprecated6to4Relay

def ipv4ProviderAddressAllowed (address : Ipv4Addr) (allowPrivate : Bool) : Bool :=
  if ipv4SpecialUse address then false
  else if address.isPrivate || address.isLoopback then allowPrivate
  else true

def isIpv4Compatible (address : Ipv6Addr) : Bool :=
  address.s0 = 0 && address.s1 = 0 && address.s2 = 0 && address.s3 = 0 && address.s4 = 0 &&
    address.s5 = 0 && !address.isUnspecified && !address.isLoopback

def ipv6SpecialUse (address : Ipv6Addr) : Bool :=
  let localNat64 := address.s0 = 0x0064 && address.s1 = 0xff9b && address.s2 = 0x0001
  let discardOnly := address.s0 = 0x0100 && address.s1 = 0 && address.s2 = 0 && address.s3 = 0
  let dummyPrefix := address.s0 = 0x0100 && address.s1 = 0 && address.s2 = 0 &&
    address.s3 = 0x0001
  let teredo := address.s0 = 0x2001 && address.s1 = 0
  let benchmarking := address.s0 = 0x2001 && address.s1 = 0x0002 && address.s2 = 0
  let orchid := address.s0 = 0x2001 &&
    (address.s1 &&& 0xfff0 = 0x0010 || address.s1 &&& 0xfff0 = 0x0020)
  let documentation := address.s0 = 0x2001 && address.s1 = 0x0db8 ||
    address.s0 = 0x3fff && address.s1 &&& 0xf000 = 0
  let sixToFour := address.s0 = 0x2002
  let srv6Sid := address.s0 = 0x5f00
  let deprecatedSiteLocal := address.s0 &&& 0xffc0 = 0xfec0
  address.isUnspecified || address.isMulticast || address.isUnicastLinkLocal || localNat64 ||
    discardOnly || dummyPrefix || teredo || benchmarking || orchid || documentation ||
    sixToFour || srv6Sid || deprecatedSiteLocal

def ipv6ProviderAddressAllowed (address : Ipv6Addr) (allowPrivate : Bool) : Bool :=
  if ipv6SpecialUse address || isIpv4Compatible address then false
  else if address.isUniqueLocal || address.isLoopback then allowPrivate
  else address.s0 &&& 0xe000 = 0x2000

def nat64Address (address : Ipv6Addr) : Option Ipv4Addr :=
  if address.s0 = 0x0064 ∧ address.s1 = 0xff9b ∧ address.s2 = 0 ∧ address.s3 = 0 ∧
      address.s4 = 0 ∧ address.s5 = 0 then
    some (.ofSegments address.s6 address.s7)
  else none

def providerAddressAllowed (address : IpAddr) (allowPrivate : Bool) : Bool :=
  match address with
  | .v4 address => ipv4ProviderAddressAllowed address allowPrivate
  | .v6 address =>
    match address.toIpv4Mapped with
    | some mapped => ipv4ProviderAddressAllowed mapped allowPrivate
    | none =>
      match nat64Address address with
      | some embedded => ipv4ProviderAddressAllowed embedded allowPrivate
      | none => ipv6ProviderAddressAllowed address allowPrivate

/-! No provider is reached under an address of a special-use block. -/

/-! The blocks. -/

/-- Blocks of IPv4 that are for special use everywhere: unspecified, multicast, broadcast,
link-local, documentation, this network, reserved, CGNAT, benchmarking, protocol assignments and
6to4 relays. -/
def specialUse4 : List (Cidr 32) :=
  [.v4 ⟨0, 0, 0, 0⟩ 32, .v4 ⟨224, 0, 0, 0⟩ 4, .v4 ⟨255, 255, 255, 255⟩ 32, .v4 ⟨169, 254, 0, 0⟩ 16,
    .v4 ⟨192, 0, 2, 0⟩ 24, .v4 ⟨198, 51, 100, 0⟩ 24, .v4 ⟨203, 0, 113, 0⟩ 24, .v4 ⟨0, 0, 0, 0⟩ 8,
    .v4 ⟨240, 0, 0, 0⟩ 4, .v4 ⟨100, 64, 0, 0⟩ 10, .v4 ⟨198, 18, 0, 0⟩ 15, .v4 ⟨192, 0, 0, 0⟩ 24,
    .v4 ⟨192, 88, 99, 0⟩ 24]

def privateUse4 : List (Cidr 32) :=
  [.v4 ⟨10, 0, 0, 0⟩ 8, .v4 ⟨172, 16, 0, 0⟩ 12, .v4 ⟨192, 168, 0, 0⟩ 16, .v4 ⟨127, 0, 0, 0⟩ 8]

/-- Blocks of IPv6 that are for special use everywhere: unspecified, multicast, link-local, local
NAT64, discard, dummy, Teredo, benchmarking, ORCHID, documentation, 6to4, SRv6 and site-local. -/
def specialUse6 : List (Cidr 128) :=
  [.v6 ⟨0, 0, 0, 0, 0, 0, 0, 0⟩ 128, .v6 ⟨0xff00, 0, 0, 0, 0, 0, 0, 0⟩ 8,
    .v6 ⟨0xfe80, 0, 0, 0, 0, 0, 0, 0⟩ 10, .v6 ⟨0x64, 0xff9b, 1, 0, 0, 0, 0, 0⟩ 48,
    .v6 ⟨0x100, 0, 0, 0, 0, 0, 0, 0⟩ 64, .v6 ⟨0x100, 0, 0, 1, 0, 0, 0, 0⟩ 64,
    .v6 ⟨0x2001, 0, 0, 0, 0, 0, 0, 0⟩ 32, .v6 ⟨0x2001, 2, 0, 0, 0, 0, 0, 0⟩ 48,
    .v6 ⟨0x2001, 0x10, 0, 0, 0, 0, 0, 0⟩ 28, .v6 ⟨0x2001, 0x20, 0, 0, 0, 0, 0, 0⟩ 28,
    .v6 ⟨0x2001, 0xdb8, 0, 0, 0, 0, 0, 0⟩ 32, .v6 ⟨0x3fff, 0, 0, 0, 0, 0, 0, 0⟩ 20,
    .v6 ⟨0x2002, 0, 0, 0, 0, 0, 0, 0⟩ 16, .v6 ⟨0x5f00, 0, 0, 0, 0, 0, 0, 0⟩ 16,
    .v6 ⟨0xfec0, 0, 0, 0, 0, 0, 0, 0⟩ 10]

def ipv4Compatible : Cidr 128 := .v6 ⟨0, 0, 0, 0, 0, 0, 0, 0⟩ 96

def privateUse6 : List (Cidr 128) :=
  [.v6 ⟨0xfc00, 0, 0, 0, 0, 0, 0, 0⟩ 7, .v6 ⟨0, 0, 0, 0, 0, 0, 0, 1⟩ 128]

/-! What the tests of octets and segments mean. -/

theorem ipv4SpecialUse_iff (address : Ipv4Addr) :
    ipv4SpecialUse address = true ↔ ∃ block ∈ specialUse4, block.Contains address.toNat := by
  obtain ⟨a, b, c, d⟩ := address
  have ha := a.toNat_lt
  have hb := b.toNat_lt
  have hc := c.toNat_lt
  have hd := d.toNat_lt
  simp only [ipv4SpecialUse, Ipv4Addr.isUnspecified, Ipv4Addr.isMulticast, Ipv4Addr.isBroadcast,
    Ipv4Addr.isLinkLocal, Ipv4Addr.isDocumentation, Ipv4Addr.ext_iff, Bool.or_eq_true,
    Bool.and_eq_true, decide_eq_true_eq, ← UInt8.toNat_inj, UInt8.le_iff_toNat_le,
    UInt8.reduceToNat, or_assoc]
  simp only [specialUse4, Cidr.Contains, Cidr.v4, Ipv4Addr.toNat, List.mem_cons, List.not_mem_nil,
    or_false, exists_eq_or_imp, exists_eq_left, UInt8.reduceToNat, Nat.reduceMul, Nat.reduceAdd,
    Nat.reduceSub, Nat.reducePow, Nat.reduceDiv]
  repeat' apply or_congr
  all_goals omega

theorem ipv4PrivateUse_iff (address : Ipv4Addr) :
    (address.isPrivate || address.isLoopback) = true ↔
      ∃ block ∈ privateUse4, block.Contains address.toNat := by
  obtain ⟨a, b, c, d⟩ := address
  have ha := a.toNat_lt
  have hb := b.toNat_lt
  have hc := c.toNat_lt
  have hd := d.toNat_lt
  simp only [Ipv4Addr.isPrivate, Ipv4Addr.isLoopback, Bool.or_eq_true, Bool.and_eq_true,
    decide_eq_true_eq, ← UInt8.toNat_inj, UInt8.le_iff_toNat_le, UInt8.reduceToNat, or_assoc]
  simp only [privateUse4, Cidr.Contains, Cidr.v4, Ipv4Addr.toNat, List.mem_cons, List.not_mem_nil,
    or_false, exists_eq_or_imp, exists_eq_left, UInt8.reduceToNat, Nat.reduceMul, Nat.reduceAdd,
    Nat.reduceSub, Nat.reducePow, Nat.reduceDiv]
  repeat' apply or_congr
  all_goals omega

theorem ipv6SpecialUse_iff (address : Ipv6Addr) :
    ipv6SpecialUse address = true ↔ ∃ block ∈ specialUse6, block.Contains address.toNat := by
  obtain ⟨s0, s1, s2, s3, s4, s5, s6, s7⟩ := address
  have h0 := s0.toNat_lt
  have h1 := s1.toNat_lt
  have h2 := s2.toNat_lt
  have h3 := s3.toNat_lt
  have h4 := s4.toNat_lt
  have h5 := s5.toNat_lt
  have h6 := s6.toNat_lt
  have h7 := s7.toNat_lt
  have hff00 := @segment_and_eq_iff s0 0xff00 0xff00 8 (by decide) (by decide)
  have hfe80 := @segment_and_eq_iff s0 0xffc0 0xfe80 6 (by decide) (by decide)
  have hfec0 := @segment_and_eq_iff s0 0xffc0 0xfec0 6 (by decide) (by decide)
  have h0010 := @segment_and_eq_iff s1 0xfff0 0x0010 4 (by decide) (by decide)
  have h0020 := @segment_and_eq_iff s1 0xfff0 0x0020 4 (by decide) (by decide)
  have h3fff := @segment_and_eq_iff s1 0xf000 0 12 (by decide) (by decide)
  simp only [ipv6SpecialUse, Ipv6Addr.isUnspecified, Ipv6Addr.isMulticast,
    Ipv6Addr.isUnicastLinkLocal, Ipv6Addr.ext_iff, Bool.or_eq_true, Bool.and_eq_true,
    decide_eq_true_eq, hff00, hfe80, hfec0, h0010, h0020, h3fff, ← UInt16.toNat_inj,
    UInt16.reduceToNat, or_assoc, and_or_left]
  simp only [specialUse6, Cidr.Contains, Cidr.v6, Ipv6Addr.toNat, List.mem_cons, List.not_mem_nil,
    or_false, exists_eq_or_imp, exists_eq_left, UInt16.reduceToNat, Nat.reduceMul, Nat.reduceAdd,
    Nat.reduceSub, Nat.reducePow, Nat.reduceDiv]
  repeat' apply or_congr
  all_goals omega

theorem isIpv4Compatible_of_contains {address : Ipv6Addr}
    (h : ipv4Compatible.Contains address.toNat) (hspecial : ipv6SpecialUse address = false)
    (hloopback : address.isLoopback = false) : isIpv4Compatible address = true := by
  have hunspecified : address.isUnspecified = false := by
    simp only [ipv6SpecialUse, Bool.or_eq_false_iff] at hspecial
    tauto
  obtain ⟨s0, s1, s2, s3, s4, s5, s6, s7⟩ := address
  have h0 := s0.toNat_lt
  have h1 := s1.toNat_lt
  have h2 := s2.toNat_lt
  have h3 := s3.toNat_lt
  have h4 := s4.toNat_lt
  have h5 := s5.toNat_lt
  have h6 := s6.toNat_lt
  have h7 := s7.toNat_lt
  simp only [ipv4Compatible, Cidr.Contains, Cidr.v6, Ipv6Addr.toNat, UInt16.reduceToNat,
    Nat.reduceMul, Nat.reduceAdd, Nat.reduceSub, Nat.reducePow, Nat.reduceDiv] at h
  simp only [isIpv4Compatible, hunspecified, hloopback, Bool.not_false, Bool.and_true,
    Bool.and_eq_true, decide_eq_true_eq, ← UInt16.toNat_inj, UInt16.reduceToNat]
  omega

theorem ipv6PrivateUse_iff (address : Ipv6Addr) :
    (address.isUniqueLocal || address.isLoopback) = true ↔
      ∃ block ∈ privateUse6, block.Contains address.toNat := by
  obtain ⟨s0, s1, s2, s3, s4, s5, s6, s7⟩ := address
  have h0 := s0.toNat_lt
  have h1 := s1.toNat_lt
  have h2 := s2.toNat_lt
  have h3 := s3.toNat_lt
  have h4 := s4.toNat_lt
  have h5 := s5.toNat_lt
  have h6 := s6.toNat_lt
  have h7 := s7.toNat_lt
  have hfc00 := @segment_and_eq_iff s0 0xfe00 0xfc00 9 (by decide) (by decide)
  simp only [Ipv6Addr.isUniqueLocal, Ipv6Addr.isLoopback, Ipv6Addr.ext_iff, Bool.or_eq_true,
    decide_eq_true_eq, hfc00, ← UInt16.toNat_inj, UInt16.reduceToNat]
  simp only [privateUse6, Cidr.Contains, Cidr.v6, Ipv6Addr.toNat, List.mem_cons, List.not_mem_nil,
    or_false, exists_eq_or_imp, exists_eq_left, UInt16.reduceToNat, Nat.reduceMul, Nat.reduceAdd,
    Nat.reduceSub, Nat.reducePow, Nat.reduceDiv]
  apply or_congr
  all_goals omega

/-! Embedded addresses. -/

def ipv4Mapped : Cidr 128 := .v6 ⟨0, 0, 0, 0, 0, 0xffff, 0, 0⟩ 96

def nat64 : Cidr 128 := .v6 ⟨0x64, 0xff9b, 0, 0, 0, 0, 0, 0⟩ 96

def Embeds (address : Ipv6Addr) (embedded : Ipv4Addr) : Prop :=
  (ipv4Mapped.Contains address.toNat ∨ nat64.Contains address.toNat) ∧
    embedded.toNat = address.toNat % 2 ^ 32

theorem toNat_mod (address : Ipv6Addr) :
    address.toNat % 2 ^ 32 = (Ipv4Addr.ofSegments address.s6 address.s7).toNat := by
  have h6 := address.s6.toNat_lt
  have h7 := address.s7.toNat_lt
  rw [Ipv4Addr.toNat_ofSegments, Ipv6Addr.toNat]
  omega

theorem toNat_div (address : Ipv6Addr) : address.toNat / 2 ^ 32 =
    ((((address.s0.toNat * 2 ^ 16 + address.s1.toNat) * 2 ^ 16 + address.s2.toNat) * 2 ^ 16 +
      address.s3.toNat) * 2 ^ 16 + address.s4.toNat) * 2 ^ 16 + address.s5.toNat := by
  have h6 := address.s6.toNat_lt
  have h7 := address.s7.toNat_lt
  rw [Ipv6Addr.toNat]
  omega

theorem contains_v6_iff (network address : Ipv6Addr) :
    (Cidr.v6 network 96).Contains address.toNat ↔
      address.s0 = network.s0 ∧ address.s1 = network.s1 ∧ address.s2 = network.s2 ∧
        address.s3 = network.s3 ∧ address.s4 = network.s4 ∧ address.s5 = network.s5 := by
  have hbounds : ∀ a : Ipv6Addr, a.s1.toNat < 2 ^ 16 ∧ a.s2.toNat < 2 ^ 16 ∧ a.s3.toNat < 2 ^ 16 ∧
      a.s4.toNat < 2 ^ 16 ∧ a.s5.toNat < 2 ^ 16 := fun a =>
    ⟨a.s1.toNat_lt, a.s2.toNat_lt, a.s3.toNat_lt, a.s4.toNat_lt, a.s5.toNat_lt⟩
  have haddress := hbounds address
  have hnetwork := hbounds network
  simp only [Cidr.Contains, Cidr.v6, Nat.reduceSub, toNat_div, ← UInt16.toNat_inj]
  omega

theorem providerAddressAllowed_of_contains {address : Ipv6Addr}
    (h : ipv4Mapped.Contains address.toNat ∨ nat64.Contains address.toNat) (allowPrivate : Bool) :
    providerAddressAllowed (.v6 address) allowPrivate =
      ipv4ProviderAddressAllowed (.ofSegments address.s6 address.s7) allowPrivate := by
  cases h with
  | inl hmapped =>
    rw [ipv4Mapped, contains_v6_iff] at hmapped
    simp only [providerAddressAllowed, Ipv6Addr.toIpv4Mapped, if_pos hmapped]
  | inr hnat64 =>
    rw [nat64, contains_v6_iff] at hnat64
    have hmapped : ¬ (address.s0 = 0 ∧ address.s1 = 0 ∧ address.s2 = 0 ∧ address.s3 = 0 ∧
        address.s4 = 0 ∧ address.s5 = 0xffff) := by
      simp [hnat64]
    simp only [providerAddressAllowed, Ipv6Addr.toIpv4Mapped, if_neg hmapped, nat64Address,
      if_pos hnat64]

theorem providerAddressAllowed_of_not_contains {address : Ipv6Addr}
    (h : ¬ (ipv4Mapped.Contains address.toNat ∨ nat64.Contains address.toNat))
    (allowPrivate : Bool) :
    providerAddressAllowed (.v6 address) allowPrivate =
      ipv6ProviderAddressAllowed address allowPrivate := by
  rw [not_or, ipv4Mapped, nat64, contains_v6_iff, contains_v6_iff] at h
  simp only [providerAddressAllowed, Ipv6Addr.toIpv4Mapped, if_neg h.1, nat64Address, if_neg h.2]

theorem not_contains_of_embeds {address : Ipv6Addr}
    (h : ipv4Mapped.Contains address.toNat ∨ nat64.Contains address.toNat) :
    ∀ block ∈ specialUse6 ++ [ipv4Compatible] ++ privateUse6, ¬ block.Contains address.toNat := by
  rw [ipv4Mapped, nat64, contains_v6_iff, contains_v6_iff] at h
  obtain ⟨s0, s1, s2, s3, s4, s5, s6, s7⟩ := address
  have h6 := s6.toNat_lt
  have h7 := s7.toNat_lt
  simp only [specialUse6, ipv4Compatible, privateUse6, List.cons_append, List.nil_append,
    List.mem_cons, List.not_mem_nil, or_false, forall_eq_or_imp, forall_eq, Cidr.Contains, Cidr.v6,
    Ipv6Addr.toNat, UInt16.reduceToNat, Nat.reduceMul, Nat.reduceAdd, Nat.reduceSub,
    Nat.reducePow, Nat.reduceDiv]
  rcases h with ⟨rfl, rfl, rfl, rfl, rfl, rfl⟩ | ⟨rfl, rfl, rfl, rfl, rfl, rfl⟩ <;>
    simp only [UInt16.reduceToNat] <;> omega

/-! Which addresses are allowed. -/

def Within (blocks4 : List (Cidr 32)) (blocks6 : List (Cidr 128)) : IpAddr → Prop
  | .v4 address => ∃ block ∈ blocks4, block.Contains address.toNat
  | .v6 address =>
    (∃ block ∈ blocks6, block.Contains address.toNat) ∨
      ∃ embedded, Embeds address embedded ∧ ∃ block ∈ blocks4, block.Contains embedded.toNat

section Ipv4

variable {address : Ipv4Addr}

theorem not_mem_blocks4_of_allowed (h : ipv4ProviderAddressAllowed address false = true) :
    ¬ ∃ block ∈ specialUse4 ++ privateUse4, block.Contains address.toNat := by
  unfold ipv4ProviderAddressAllowed at h
  split at h
  case isTrue hspecial => simp at h
  case isFalse hspecial =>
    split at h
    case isTrue hprivate => simp at h
    case isFalse hprivate =>
      rw [ipv4SpecialUse_iff] at hspecial
      rw [ipv4PrivateUse_iff] at hprivate
      simp only [List.mem_append, or_and_right, exists_or, not_or]
      exact ⟨hspecial, hprivate⟩

theorem ipv4ProviderAddressAllowed_true (h : ipv4ProviderAddressAllowed address false = true) :
    ipv4ProviderAddressAllowed address true = true := by
  unfold ipv4ProviderAddressAllowed at h ⊢
  split
  case isTrue hspecial => simp [hspecial] at h
  case isFalse hspecial => simp

theorem mem_privateUse4_of_gained (h : ipv4ProviderAddressAllowed address true = true)
    (hoff : ipv4ProviderAddressAllowed address false = false) :
    ∃ block ∈ privateUse4, block.Contains address.toNat := by
  rw [← ipv4PrivateUse_iff]
  unfold ipv4ProviderAddressAllowed at h hoff
  split at h
  case isTrue hspecial => simp at h
  case isFalse hspecial =>
    rw [if_neg hspecial] at hoff
    by_contra hprivate
    simp [hprivate] at hoff

end Ipv4

section Ipv6

variable {address : Ipv6Addr}

theorem not_mem_blocks6_of_allowed (h : ipv6ProviderAddressAllowed address false = true) :
    ¬ ∃ block ∈ specialUse6 ++ [ipv4Compatible] ++ privateUse6,
      block.Contains address.toNat := by
  unfold ipv6ProviderAddressAllowed at h
  split at h
  case isTrue hspecial => simp at h
  case isFalse hspecial =>
    split at h
    case isTrue hprivate => simp at h
    case isFalse hprivate =>
      rw [Bool.or_eq_true, not_or, Bool.not_eq_true, Bool.not_eq_true] at hspecial
      have hloopback : address.isLoopback = false := by
        rw [Bool.or_eq_true, not_or] at hprivate
        simpa using hprivate.2
      simp only [List.mem_append, List.mem_singleton, or_and_right, exists_or, exists_eq_left,
        not_or]
      refine ⟨⟨?_, fun hcompatible => ?_⟩, ?_⟩
      · rw [← ipv6SpecialUse_iff, hspecial.1]
        simp
      · have := isIpv4Compatible_of_contains hcompatible hspecial.1 hloopback
        simp [this] at hspecial
      · rwa [← ipv6PrivateUse_iff]

theorem ipv6ProviderAddressAllowed_true (h : ipv6ProviderAddressAllowed address false = true) :
    ipv6ProviderAddressAllowed address true = true := by
  unfold ipv6ProviderAddressAllowed at h ⊢
  split
  case isTrue hspecial => simp [hspecial] at h
  case isFalse hspecial =>
    rw [if_neg hspecial] at h
    split
    case isTrue hprivate => rfl
    case isFalse hprivate => simpa [hprivate] using h

theorem mem_privateUse6_of_gained (h : ipv6ProviderAddressAllowed address true = true)
    (hoff : ipv6ProviderAddressAllowed address false = false) :
    ∃ block ∈ privateUse6, block.Contains address.toNat := by
  rw [← ipv6PrivateUse_iff]
  unfold ipv6ProviderAddressAllowed at h hoff
  split at h
  case isTrue hspecial => simp at h
  case isFalse hspecial =>
    rw [if_neg hspecial] at hoff
    by_contra hprivate
    rw [if_neg hprivate] at h hoff
    rw [h] at hoff
    cases hoff

end Ipv6

theorem within_v6_of_contains {address : Ipv6Addr}
    (h : ipv4Mapped.Contains address.toNat ∨ nat64.Contains address.toNat)
    {blocks4 : List (Cidr 32)} {blocks6 : List (Cidr 128)}
    (hapart : ¬ ∃ block ∈ blocks6, block.Contains address.toNat) :
    Within blocks4 blocks6 (.v6 address) ↔
      ∃ block ∈ blocks4, block.Contains (Ipv4Addr.ofSegments address.s6 address.s7).toNat := by
  rw [Within, or_iff_right hapart]
  constructor
  · rintro ⟨embedded, ⟨-, hembedded⟩, hblock⟩
    rwa [hembedded, toNat_mod] at hblock
  · intro hblock
    exact ⟨.ofSegments address.s6 address.s7, ⟨h, (toNat_mod address).symm⟩, hblock⟩

theorem within_v6_of_not_contains {address : Ipv6Addr}
    (h : ¬ (ipv4Mapped.Contains address.toNat ∨ nat64.Contains address.toNat))
    {blocks4 : List (Cidr 32)} {blocks6 : List (Cidr 128)} :
    Within blocks4 blocks6 (.v6 address) ↔
      ∃ block ∈ blocks6, block.Contains address.toNat := by
  rw [Within]
  apply or_iff_left
  rintro ⟨embedded, ⟨hembeds, -⟩, -⟩
  exact h hembeds

/-- With private networks off no allowed address is in a block for special or private use, and the
switch adds only addresses in a block for private use. -/
theorem providerAddressAllowed_outside_blocks (address : IpAddr) :
    (providerAddressAllowed address false = true →
      ¬ Within (specialUse4 ++ privateUse4) (specialUse6 ++ [ipv4Compatible] ++ privateUse6)
          address ∧
        providerAddressAllowed address true = true) ∧
      (providerAddressAllowed address true = true → providerAddressAllowed address false = false →
        Within privateUse4 privateUse6 address) := by
  cases address with
  | v4 address =>
    exact ⟨fun h => ⟨not_mem_blocks4_of_allowed h, ipv4ProviderAddressAllowed_true h⟩,
      mem_privateUse4_of_gained⟩
  | v6 address =>
    by_cases hembeds : ipv4Mapped.Contains address.toNat ∨ nat64.Contains address.toNat
    case pos =>
      have hapart := not_contains_of_embeds hembeds
      rw [within_v6_of_contains hembeds (by simpa using hapart),
        within_v6_of_contains hembeds fun ⟨block, hblock, hcontains⟩ =>
          hapart block (List.mem_append_right _ hblock) hcontains,
        providerAddressAllowed_of_contains hembeds, providerAddressAllowed_of_contains hembeds]
      exact ⟨fun h => ⟨not_mem_blocks4_of_allowed h, ipv4ProviderAddressAllowed_true h⟩,
        mem_privateUse4_of_gained⟩
    case neg =>
      rw [within_v6_of_not_contains hembeds, within_v6_of_not_contains hembeds,
        providerAddressAllowed_of_not_contains hembeds,
        providerAddressAllowed_of_not_contains hembeds]
      exact ⟨fun h => ⟨not_mem_blocks6_of_allowed h, ipv6ProviderAddressAllowed_true h⟩,
        mem_privateUse6_of_gained⟩

theorem mapped_private_within :
    Within privateUse4 privateUse6 (.v6 ⟨0, 0, 0, 0, 0, 0xffff, 0x0a00, 1⟩) ∧
      ¬ Within (specialUse4 ++ privateUse4) (specialUse6 ++ [ipv4Compatible] ++ privateUse6)
        (.v4 ⟨8, 8, 8, 8⟩) :=
  ⟨(providerAddressAllowed_outside_blocks (.v6 ⟨0, 0, 0, 0, 0, 0xffff, 0x0a00, 1⟩)).2
      (by decide) (by decide),
    ((providerAddressAllowed_outside_blocks (.v4 ⟨8, 8, 8, 8⟩)).1 (by decide)).1⟩

end Jellyrin.Xtream
