import Tugtainer.Python.IpAddress

/-!
# Networks of `ipaddress`

The values of IP addresses, and the networks that contain them. A network is a block of
addresses that agree in their first bits (`IpBlock`); its other bits are zero.
-/

namespace Python

/-- `IPv4Address` or `IPv6Address`, the latter with its scope. -/
inductive IpAddress where
  | v4 (value : BitVec 32)
  | v6 (value : BitVec 128) (scope : Option String)
  deriving DecidableEq, Repr

def ipv4Value (s : List Char) : ℕ :=
  (s.splitOn '.').foldl (fun n octet => 256 * n + decimal octet) 0

/-- The values of the groups of 16 bits, the dotted form being two of them. -/
def hextetValues (parts : List (List Char)) : List ℕ :=
  (parts.filter (· ≠ [])).flatMap fun part =>
    if '.' ∈ part then [ipv4Value part / 65536, ipv4Value part % 65536] else [hexadecimal part]

/-- The value of an IPv6 address without its scope. -/
def ipv6Value (s : List Char) : ℕ :=
  let parts := s.splitOn ':'
  let groups :=
    match innerBlanks parts with
    | [] => hextetValues parts
    | skip :: _ =>
        let hi := hextetValues (parts.take skip)
        let lo := hextetValues (parts.drop (skip + 1))
        hi ++ List.replicate (8 - hi.length - lo.length) 0 ++ lo
  groups.foldl (fun n group => 65536 * n + group) 0

/-- `ip_address(s)`, or `none` where it raises a `ValueError`. -/
def ipAddress (s : String) : Option IpAddress :=
  if isIpAddress s then
    if isIpv4 s.toList then some (.v4 (BitVec.ofNat 32 (ipv4Value s.toList)))
    else
      match s.toList.splitOn '%' with
      | [addr, scope] => some (.v6 (BitVec.ofNat 128 (ipv6Value addr)) (String.ofList scope))
      | _ => some (.v6 (BitVec.ofNat 128 (ipv6Value s.toList)) none)
  else none

example : ipAddress "10.0.0.7" = some (.v4 0x0a000007) ∧
    ipAddress "fd00::1:2" = some (.v6 0xfd000000000000000000000000010002 none) ∧
    ipAddress "::ffff:1.2.3.4" = some (.v6 0xffff01020304 none) ∧
    ipAddress "fe80::1%eth0" = some (.v6 0xfe800000000000000000000000000001 "eth0") := by decide

/-- The addresses whose first `prefixlen` bits are those of `address`. -/
structure IpBlock (w : ℕ) where
  address : BitVec w
  prefixlen : ℕ
  prefixlen_le : prefixlen ≤ w
  address_masked : address &&& BitVec.allOnes w <<< (w - prefixlen) = address
  deriving DecidableEq

namespace IpBlock

variable {w : ℕ} (block : IpBlock w)

def netmask : BitVec w :=
  BitVec.allOnes w <<< (w - block.prefixlen)

def contains (address : BitVec w) : Bool :=
  address &&& block.netmask = block.address

/-- The block, if the address has no bit set after the prefix. -/
def ofPrefix (address : BitVec w) (prefixlen : ℕ) : Option (IpBlock w) :=
  if h : prefixlen ≤ w ∧ address &&& BitVec.allOnes w <<< (w - prefixlen) = address then
    some ⟨address, prefixlen, h.1, h.2⟩
  else none

end IpBlock

/-- `IPv4Network` or `IPv6Network`. -/
inductive IpNetwork where
  | v4 (block : IpBlock 32)
  | v6 (block : IpBlock 128)
  deriving DecidableEq

def IpNetwork.contains : IpNetwork → IpAddress → Bool
  | .v4 block, .v4 value => block.contains value
  | .v6 block, .v6 value _ => block.contains value
  | _, _ => false

/-- `ip_network(f"{address}/{prefixlen}")`, or `none` where it raises a `ValueError`. -/
def ipNetwork (address : String) (prefixlen : ℕ) : Option IpNetwork :=
  match ipAddress address with
  | some (.v4 value) => (IpBlock.ofPrefix value prefixlen).map .v4
  | some (.v6 value none) => (IpBlock.ofPrefix value prefixlen).map .v6
  | _ => none

end Python
