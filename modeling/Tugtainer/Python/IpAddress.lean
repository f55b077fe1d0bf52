import Tugtainer.Python.Numerals

/-!
# `ipaddress.ip_address`

Which strings `ip_address` accepts: those that are an IPv4 address in dotted
form without leading zeros, or an IPv6 address, with at most one `::`, possibly
with the last 32 bits in dotted form, and possibly with a scope.
-/

namespace Python

def isOctet (s : List Char) : Bool :=
  s != [] && s.all isDigit && s.length ≤ 3 && !(s != ['0'] && s.head? == some '0') &&
    decimal s ≤ 255

def isIpv4 (s : List Char) : Bool :=
  let octets := s.splitOn '.'
  octets.length == 4 && octets.all isOctet

def isHextet (s : List Char) : Bool :=
  s != [] && s.all isHexDigit && s.length ≤ 4

/-- The groups of an IPv6 address; the last one may be an IPv4 address, which
stands for two groups. -/
def ipv6Parts (s : List Char) : Option (List (List Char)) :=
  let parts := s.splitOn ':'
  match parts.getLast? with
  | none => none
  | some last =>
      if parts.length < 3 then none
      else if '.' ∈ last then
        if isIpv4 last then some (parts.dropLast ++ [['0'], ['0']]) else none
      else some parts

/-- The positions of the empty groups, the first and the last one apart. -/
def innerBlanks (parts : List (List Char)) : List ℕ :=
  (List.range parts.length).filter fun i =>
    0 < i && i + 1 < parts.length && parts[i]? == some []

/-- Groups without `::`. -/
def isFullIpv6 (parts : List (List Char)) : Bool :=
  parts.length == 8 && parts.all isHextet

/-- Groups with `::` at position `skip`. An empty first or last group is only
allowed next to it. -/
def isShortIpv6 (parts : List (List Char)) (skip : ℕ) : Bool :=
  let hi := parts.take skip
  let lo := parts.drop (skip + 1)
  let hi' := if hi.head? == some [] then hi.drop 1 else hi
  let lo' := if lo.getLast? == some [] then lo.dropLast else lo
  (hi.head? != some [] || hi' == []) && (lo.getLast? != some [] || lo' == []) &&
    hi'.length + lo'.length < 8 && hi'.all isHextet && lo'.all isHextet

def isIpv6 (s : List Char) : Bool :=
  match ipv6Parts s with
  | none => false
  | some parts =>
      9 ≥ parts.length &&
        match innerBlanks parts with
        | [] => isFullIpv6 parts
        | [skip] => isShortIpv6 parts skip
        | _ => false

/-- The address part of `address%scope`, unless the scope is empty or holds
another `%`. -/
def splitScope (s : List Char) : Option (List Char) :=
  match s.splitOn '%' with
  | [addr] => some addr
  | [addr, scope] => if scope = [] then none else some addr
  | _ => none

/-- `ip_address(s)` does not raise. -/
def isIpAddress (s : String) : Bool :=
  !s.toList.contains '/' &&
    (isIpv4 s.toList ||
      match splitScope s.toList with
      | none => false
      | some addr => isIpv6 addr)

example : isIpAddress "10.0.0.7" ∧ isIpAddress "fd00::1:2" ∧ isIpAddress "::" ∧
    isIpAddress "fe80::1%eth0" ∧ isIpAddress "::ffff:1.2.3.4" ∧ ¬ isIpAddress "10.0.0.07" ∧
    ¬ isIpAddress ":1::2" ∧ ¬ isIpAddress "1::2::3" := by decide

end Python
