import Tugtainer.Python.IpNetwork
import Tugtainer.Python.Url

/-!
# URLs that may be requested

`validateUrlAgainstSsrf` looks at the addresses that the host name of a URL resolves to.
A single address in an allowed network lets the URL pass, whatever the other addresses are.
`ssrfSafe_iff` says which answers of DNS this opens a restricted network to.
-/

namespace Tugtainer

open Python

/-- The networks that no request may go to by default. -/
def RESTRICTED_NETWORKS : List (Option IpNetwork) :=
  [ -- IPv4 loopback and local host
    ipNetwork "127.0.0.0" 8, ipNetwork "0.0.0.0" 8,
    -- IPv4 private networks
    ipNetwork "10.0.0.0" 8, ipNetwork "172.16.0.0" 12, ipNetwork "192.168.0.0" 16,
    -- IPv4 link-local and carrier-grade NAT
    ipNetwork "169.254.0.0" 16, ipNetwork "100.64.0.0" 10,
    -- broadcast and documentation
    ipNetwork "224.0.0.0" 4, ipNetwork "240.0.0.0" 4, ipNetwork "255.255.255.255" 32,
    -- IPv6 loopback and unspecified
    ipNetwork "::1" 128, ipNetwork "::" 128,
    -- IPv6 private and link-local
    ipNetwork "fc00::" 7, ipNetwork "fe80::" 10,
    -- IPv6 transition and mapped addresses
    ipNetwork "::ffff:0:0" 96, ipNetwork "2002::" 16,
    -- IPv6 documentation and discard
    ipNetwork "2001:db8::" 32, ipNetwork "100::" 64]

-- all of them are networks
example : none ∉ RESTRICTED_NETWORKS := by decide

def isIn (networks : List IpNetwork) (address : IpAddress) : Bool :=
  networks.any (·.contains address)

def isRestricted (address : IpAddress) : Bool :=
  isIn (RESTRICTED_NETWORKS.filterMap id) address

/-- What `validate_url_against_ssrf` raises. -/
inductive UrlError where
  /-- `ValueError` -/
  | value
  /-- `TugUrlValidationError` -/
  | validation (message : String)
  /-- `TugUrlValidationSSRFError` -/
  | ssrf (message : String)
  deriving DecidableEq, Repr

inductive RecordType where
  | a | aaaa
  deriving DecidableEq, Repr

/-- What DNS answers: the addresses in the records, or `none` where the lookup raises. -/
abbrev Dns := String → RecordType → Option (List String)

/-- `resolved.update(ip_address(rdata.address) for rdata in answers)`, up to the first
address that is none. -/
def readAddresses : List String → List IpAddress
  | [] => []
  | text :: answers =>
      match ipAddress text with
      | some address => address :: readAddresses answers
      | none => []

/-- The addresses of a host name, which may be an address itself. -/
def resolveHostname (dns : Dns) (hostname : String) : List IpAddress :=
  match ipAddress hostname with
  | some address => [address]
  | none =>
      readAddresses ((dns hostname .a).getD []) ++ readAddresses ((dns hostname .aaaa).getD [])

/-- The host name and the port of a URL. -/
structure Target where
  hostname : String
  port : Option ℕ
  deriving DecidableEq, Repr

namespace Target

def endpoint (target : Target) : String :=
  match target.port with
  | some port => target.hostname ++ ":" ++ toString port
  | none => target.hostname

/-- The part of `validate_url_against_ssrf` that reads the URL. -/
def ofUrl (U : Unicode) (url : String) : Except UrlError Target :=
  match urlparse U url with
  | none => throw .value
  | some parsed =>
      match parsed.hostname U with
      | none =>
          throw (.validation ("URL '" ++ url ++ "' does not contain hostname " ++
            "while validating for SSRF protection"))
      | some hostname =>
          match parsed.port with
          | none => throw .value
          | some port => pure { hostname := hostname, port := port }

end Target

def validateUrlAgainstSsrf (U : Unicode) (dns : Dns) (url : String)
    (allowedNetworks : List IpNetwork) (allowedEndpoints : List String) :
    Except UrlError Unit := do
  let target ← Target.ofUrl U url
  if allowedEndpoints.contains target.endpoint then pure ()
  else
    let resolved := resolveHostname dns target.hostname
    if resolved = [] then
      throw (.validation ("Failed to resolve hostname '" ++ target.hostname ++ "' " ++
        "while validating '" ++ url ++ "' for SSRF protection"))
    else if resolved.any (isIn allowedNetworks) then pure ()
    else if resolved.any isRestricted then
      throw (.ssrf ("URL '" ++ url ++ "' resolves to a private or reserved address " ++
        "while validating for SSRF protection"))
    else pure ()

section

variable {U : Unicode} {dns : Dns} {url : String} {allowedNetworks : List IpNetwork}
  {allowedEndpoints : List String}

theorem validateUrlAgainstSsrf_eq_ok {target : Target} (h : Target.ofUrl U url = .ok target) :
    validateUrlAgainstSsrf U dns url allowedNetworks allowedEndpoints = .ok () ↔
      target.endpoint ∈ allowedEndpoints ∨
        resolveHostname dns target.hostname ≠ [] ∧
          ((∃ a ∈ resolveHostname dns target.hostname, isIn allowedNetworks a = true) ∨
            ∀ a ∈ resolveHostname dns target.hostname, isRestricted a = false) := by
  have hbind : validateUrlAgainstSsrf U dns url allowedNetworks allowedEndpoints = _ :=
    congrArg (· >>= _) h
  rw [hbind]
  simp only [bind, Except.bind, List.contains_iff_mem]
  split
  · exact iff_of_true rfl (.inl ‹_›)
  · rename_i hendpoint
    simp only [hendpoint, false_or]
    split
    · exact iff_of_false nofun fun h => h.1 ‹_›
    · rename_i hne
      split
      · rename_i hallowed
        exact iff_of_true rfl ⟨hne, .inl (by simpa using hallowed)⟩
      · rename_i hallowed
        have hnone : ¬ ∃ a ∈ resolveHostname dns target.hostname,
            isIn allowedNetworks a = true := by simpa using hallowed
        split
        · rename_i hrestricted
          obtain ⟨a, ha, hr⟩ := List.any_eq_true.1 hrestricted
          exact iff_of_false nofun fun h =>
            h.2.elim hnone fun hall => by simp [hall a ha] at hr
        · rename_i hrestricted
          exact iff_of_true rfl ⟨hne, .inr (by simpa using hrestricted)⟩

/-- A URL that passes, and is no allowed endpoint, resolves to addresses in allowed networks
and to addresses that are not restricted only. -/
def SsrfSafe (U : Unicode) (dns : Dns) (url : String) (allowedNetworks : List IpNetwork)
    (allowedEndpoints : List String) : Prop :=
  ∀ target, Target.ofUrl U url = .ok target →
    validateUrlAgainstSsrf U dns url allowedNetworks allowedEndpoints = .ok () →
    target.endpoint ∉ allowedEndpoints →
    ∀ a ∈ resolveHostname dns target.hostname,
      isIn allowedNetworks a = true ∨ isRestricted a = false

/-- The host name of the URL resolves to an address in an allowed network, and also to a
restricted address in none. -/
def ResolvesToBoth (U : Unicode) (dns : Dns) (url : String) (allowedNetworks : List IpNetwork)
    (allowedEndpoints : List String) : Prop :=
  ∃ target, Target.ofUrl U url = .ok target ∧ target.endpoint ∉ allowedEndpoints ∧
    (∃ a ∈ resolveHostname dns target.hostname, isIn allowedNetworks a = true) ∧
    ∃ a ∈ resolveHostname dns target.hostname,
      isIn allowedNetworks a = false ∧ isRestricted a = true

/-- The check is safe unless an allowed address comes with a restricted one. -/
theorem ssrfSafe_iff :
    SsrfSafe U dns url allowedNetworks allowedEndpoints ↔
      ¬ ResolvesToBoth U dns url allowedNetworks allowedEndpoints := by
  constructor
  · rintro hsafe ⟨target, htarget, hendpoint, ⟨a, ha, hallowed⟩, b, hb, hnot, hrestricted⟩
    have hok : validateUrlAgainstSsrf U dns url allowedNetworks allowedEndpoints = .ok () :=
      (validateUrlAgainstSsrf_eq_ok htarget).2
        (.inr ⟨List.ne_nil_of_mem ha, .inl ⟨a, ha, hallowed⟩⟩)
    rcases hsafe target htarget hok hendpoint b hb with h | h
    · exact Bool.noConfusion (hnot.symm.trans h)
    · exact Bool.noConfusion (hrestricted.symm.trans h)
  · intro hboth target htarget hok hendpoint a ha
    have hor := (validateUrlAgainstSsrf_eq_ok htarget).1 hok
    rcases hor.resolve_left hendpoint with ⟨-, hallowed | hfree⟩
    · by_contra hbad
      obtain ⟨hnot, hrestricted⟩ := not_or.1 hbad
      exact hboth ⟨target, htarget, hendpoint, hallowed, a, ha, by simpa using hnot,
        by simpa using hrestricted⟩
    · exact .inr (hfree a ha)

end

/-! ## A host name with two addresses -/

/-- The tables of a text in ASCII. -/
def asciiTables : Unicode where
  lower := lower
  nfkc := id

def lanNetwork : IpNetwork := (ipNetwork "192.168.1.0" 24).get (by decide)

/-- DNS answers with an address in that network and a private one outside it. -/
def twoAddresses : Dns
  | "dynamic-target.local", .a => some ["192.168.1.10", "10.0.0.1"]
  | _, _ => none

/-- The URL passes, although `10.0.0.1` is restricted and in no allowed network. -/
theorem not_ssrfSafe_twoAddresses :
    ¬ SsrfSafe asciiTables twoAddresses "http://dynamic-target.local" [lanNetwork] [] := by
  intro h
  have hbad : isIn [lanNetwork] (.v4 0x0a000001) = true ∨ isRestricted (.v4 0x0a000001) = false :=
    h ⟨"dynamic-target.local", none⟩ (by decide) (by decide) (by decide) _ (by decide)
  exact absurd hbad (by decide)

end Tugtainer
