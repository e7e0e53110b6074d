import Jellyrin.Defs.Data.EntityId
import Mathlib.Data.Nat.Bitwise

/-! Addresses of `std::net`, and blocks of addresses with a common prefix. -/

namespace Jellyrin

@[ext]
structure Ipv4Addr where
  first : UInt8
  second : UInt8
  third : UInt8
  fourth : UInt8
  deriving DecidableEq

@[ext]
structure Ipv6Addr where
  s0 : UInt16
  s1 : UInt16
  s2 : UInt16
  s3 : UInt16
  s4 : UInt16
  s5 : UInt16
  s6 : UInt16
  s7 : UInt16
  deriving DecidableEq

inductive IpAddr where
  | v4 (address : Ipv4Addr)
  | v6 (address : Ipv6Addr)
  deriving DecidableEq

namespace Ipv4Addr

variable (address : Ipv4Addr)

def isUnspecified : Bool := address = ⟨0, 0, 0, 0⟩

def isMulticast : Bool := 224 ≤ address.first && address.first ≤ 239

def isBroadcast : Bool := address = ⟨255, 255, 255, 255⟩

def isLinkLocal : Bool := address.first = 169 && address.second = 254

def isDocumentation : Bool :=
  address.first = 192 && address.second = 0 && address.third = 2 ||
    address.first = 198 && address.second = 51 && address.third = 100 ||
    address.first = 203 && address.second = 0 && address.third = 113

def isPrivate : Bool :=
  address.first = 10 || address.first = 172 && 16 ≤ address.second && address.second ≤ 31 ||
    address.first = 192 && address.second = 168

def isLoopback : Bool := address.first = 127

def toNat : Nat :=
  ((address.first.toNat * 2 ^ 8 + address.second.toNat) * 2 ^ 8 + address.third.toNat) * 2 ^ 8 +
    address.fourth.toNat

end Ipv4Addr

def Ipv4Addr.ofSegments (s6 s7 : UInt16) : Ipv4Addr :=
  ⟨(s6 >>> 8).toUInt8, s6.toUInt8, (s7 >>> 8).toUInt8, s7.toUInt8⟩

namespace Ipv6Addr

variable (address : Ipv6Addr)

def isUnspecified : Bool := address = ⟨0, 0, 0, 0, 0, 0, 0, 0⟩

def isLoopback : Bool := address = ⟨0, 0, 0, 0, 0, 0, 0, 1⟩

def isMulticast : Bool := address.s0 &&& 0xff00 = 0xff00

def isUnicastLinkLocal : Bool := address.s0 &&& 0xffc0 = 0xfe80

def isUniqueLocal : Bool := address.s0 &&& 0xfe00 = 0xfc00

def toIpv4Mapped : Option Ipv4Addr :=
  if address.s0 = 0 ∧ address.s1 = 0 ∧ address.s2 = 0 ∧ address.s3 = 0 ∧ address.s4 = 0 ∧
      address.s5 = 0xffff then
    some (.ofSegments address.s6 address.s7)
  else none

def toNat : Nat :=
  ((((((address.s0.toNat * 2 ^ 16 + address.s1.toNat) * 2 ^ 16 + address.s2.toNat) * 2 ^ 16 +
    address.s3.toNat) * 2 ^ 16 + address.s4.toNat) * 2 ^ 16 + address.s5.toNat) * 2 ^ 16 +
    address.s6.toNat) * 2 ^ 16 + address.s7.toNat

end Ipv6Addr

/-! Blocks. -/

structure Cidr (width : Nat) where
  base : Nat
  length : Nat

namespace Cidr

variable {width : Nat}

def Contains (block : Cidr width) (address : Nat) : Prop :=
  address / 2 ^ (width - block.length) = block.base / 2 ^ (width - block.length)

instance (block : Cidr width) (address : Nat) : Decidable (block.Contains address) :=
  inferInstanceAs (Decidable (_ = _))

end Cidr

def Cidr.v4 (address : Ipv4Addr) (length : Nat) : Cidr 32 := ⟨address.toNat, length⟩

def Cidr.v6 (address : Ipv6Addr) (length : Nat) : Cidr 128 := ⟨address.toNat, length⟩

/-! Masks. -/

theorem and_highBits {x width low : Nat} (hx : x < 2 ^ width) (hlow : low ≤ width) :
    x &&& (2 ^ width - 2 ^ low) = x / 2 ^ low * 2 ^ low := by
  have hmask : 2 ^ width - 2 ^ low = 2 ^ low * (2 ^ (width - low) - 1) := by
    rw [Nat.mul_sub, mul_one, ← pow_add, Nat.add_sub_cancel' hlow]
  apply Nat.eq_of_testBit_eq
  intro i
  rw [hmask, Nat.testBit_and, mul_comm (x / 2 ^ low), Nat.testBit_two_pow_mul,
    Nat.testBit_two_pow_mul, Nat.testBit_div_two_pow, Nat.testBit_two_pow_sub_one]
  by_cases hi : low ≤ i
  · by_cases hwidth : i < width
    · have hshift : i - low < width - low := by omega
      simp [hi, hshift, Nat.sub_add_cancel hi]
    · have hbit : x.testBit i = false :=
        Nat.testBit_lt_two_pow (hx.trans_le (Nat.pow_le_pow_right (by decide) (by omega)))
      simp [hbit, Nat.sub_add_cancel hi]
  · simp [hi]

theorem segment_and_eq_iff {segment mask value : UInt16} {low : Nat} (hlow : low ≤ 16)
    (hmask : mask.toNat = 2 ^ 16 - 2 ^ low) :
    segment &&& mask = value ↔ segment.toNat / 2 ^ low * 2 ^ low = value.toNat := by
  rw [← UInt16.toNat_inj, UInt16.toNat_and, hmask, and_highBits segment.toNat_lt hlow]

theorem Ipv4Addr.toNat_ofSegments (s6 s7 : UInt16) :
    (Ipv4Addr.ofSegments s6 s7).toNat = s6.toNat * 2 ^ 16 + s7.toNat := by
  have h6 := s6.toNat_lt
  have h7 := s7.toNat_lt
  simp only [ofSegments, toNat, UInt16.toNat_toUInt8, UInt16.toNat_shiftRight, UInt16.reduceToNat,
    Nat.shiftRight_eq_div_pow, Nat.reduceMod, Nat.reducePow]
  omega

/-! `str::parse` of addresses. -/

def parseOctet (cs : List Char) : Option UInt8 :=
  if cs.isEmpty || 3 < cs.length || !cs.all Char.isDigit then none
  else if cs.head? = some '0' && 1 < cs.length then none
  else if Nat.ofDigitChars 10 cs 0 < 256 then some (UInt8.ofNat (Nat.ofDigitChars 10 cs 0))
  else none

def Ipv4Addr.parse (cs : List Char) : Option Ipv4Addr :=
  match (cs.splitOn '.').mapM parseOctet with
  | some [first, second, third, fourth] => some ⟨first, second, third, fourth⟩
  | _ => none

def parseSegment (cs : List Char) : Option UInt16 :=
  if cs.isEmpty || 4 < cs.length then none
  else (cs.mapM Uuid.hexValue).map fun digits =>
    UInt16.ofNat (digits.foldl (fun value digit => 16 * value + digit) 0)

/-- Segments between colons, of which an IPv4 address may write the last two. -/
def parseSegments (cs : List Char) (allowIpv4 : Bool) : Option (List UInt16) :=
  let parts := if cs.isEmpty then [] else cs.splitOn ':'
  match Ipv4Addr.parse (parts.getLastD []) with
  | some ⟨first, second, third, fourth⟩ =>
    if allowIpv4 then (parts.dropLast.mapM parseSegment).map (· ++
      [first.toUInt16 * 256 + second.toUInt16, third.toUInt16 * 256 + fourth.toUInt16])
    else none
  | none => parts.mapM parseSegment

def splitColons : List Char → Option (List Char × List Char)
  | ':' :: ':' :: cs => some ([], cs)
  | c :: cs => (splitColons cs).map fun (before, after) => (c :: before, after)
  | [] => none

def Ipv6Addr.parse (cs : List Char) : Option Ipv6Addr :=
  let segments := match splitColons cs with
    | none => parseSegments cs true
    | some (head, tail) => (parseSegments head false).bind fun head =>
      ((parseSegments tail true).filter fun tail => head.length + tail.length < 8).map fun tail =>
        head ++ List.replicate (8 - head.length - tail.length) 0 ++ tail
  match segments with
  | some [s0, s1, s2, s3, s4, s5, s6, s7] => some ⟨s0, s1, s2, s3, s4, s5, s6, s7⟩
  | _ => none

def IpAddr.parse (s : String) : Option IpAddr :=
  ((Ipv4Addr.parse s.toList).map .v4).or ((Ipv6Addr.parse s.toList).map .v6)

end Jellyrin
