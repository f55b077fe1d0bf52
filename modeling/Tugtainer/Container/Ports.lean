import Tugtainer.Container.NetKwargs

/-!
# Published ports

The publish syntax is read back to the bindings that the mappings come of. A binding whose
host port is left to Docker has no mapping, so that all of them are read back only where
there is none of these: `readsBack_iff`.
-/

namespace Tugtainer

open Python

/-- A port of the container that is published on the host. No address is every one of the
host, and no host port is one that Docker chooses. -/
structure PublishedPort where
  hostIp : String
  hostPort : String
  containerPort : String
  proto : String
  deriving DecidableEq, Repr

/-! ## The publish syntax -/

def unbracket : List Char → List Char
  | '[' :: ip => ip.takeWhile (· != ']')
  | ip => ip

/-- `[ip]:host`, `ip:host` or `host`, and the port of the container. -/
def readPublish (mapping : PortMapping) : PublishedPort :=
  let (hostStr, containerPort, proto) := mapping
  let (ip, _, hostPort) := rpartition hostStr.toList ':'
  { hostIp := String.ofList (unbracket ip), hostPort := String.ofList hostPort
    containerPort := containerPort, proto := proto }

example : readPublish ("[::1]:8443", "443", "tcp") = ⟨"::1", "8443", "443", "tcp"⟩ := by decide

/-! ## The bindings of a container -/

/-- The container port and the protocol of a key, which is TCP unless it says otherwise. -/
def containerPortOf (key : String) : String × String :=
  match split1 key '/' with
  | (port, some proto) => (port, proto)
  | (port, none) => (port, "tcp")

def PortBinding.published (entry : PortBinding) (key : String) : PublishedPort where
  hostIp := entry.hostIp.getD ""
  hostPort := entry.hostPort.getD ""
  containerPort := (containerPortOf key).1
  proto := (containerPortOf key).2

/-- The bindings, each with the key that it stands under. -/
def keyedBindings (bindings : Option (Dict String (Option (List PortBinding)))) :
    List (String × PortBinding) :=
  (bindings.getD []).flatMap fun (key, entries) => (entries.getD []).map (key, ·)

def publishedPorts (bindings : Option (Dict String (Option (List PortBinding)))) :
    List PublishedPort :=
  (keyedBindings bindings).map fun (key, entry) => entry.published key

/-- The address has no brackets of its own, and the host port no colon. -/
structure PortBinding.Readable (entry : PortBinding) : Prop where
  ip : '[' ∉ (entry.hostIp.getD "").toList ∧ ']' ∉ (entry.hostIp.getD "").toList
  port : ':' ∉ (entry.hostPort.getD "").toList

def PortBinding.HasHostPort (entry : PortBinding) : Prop :=
  truthy entry.hostPort = true

instance (entry : PortBinding) : Decidable entry.HasHostPort :=
  inferInstanceAs (Decidable (_ = true))

/-! ## Reading the mappings back -/

theorem unbracket_of_notMem {ip : List Char} (h : '[' ∉ ip) : unbracket ip = ip := by
  unfold unbracket
  split
  · simp at h
  · rfl

theorem readPublish_bracketed {ip hostPort : String} (hip : ']' ∉ ip.toList)
    (hport : ':' ∉ hostPort.toList) (containerPort proto : String) :
    readPublish ("[" ++ ip ++ "]:" ++ hostPort, containerPort, proto) =
      ⟨ip, hostPort, containerPort, proto⟩ := by
  have hsplit : rpartition ("[" ++ ip ++ "]:" ++ hostPort).toList ':' =
      ('[' :: (ip.toList ++ [']']), true, hostPort.toList) := by
    rw [← rpartition_append_cons hport]
    simp
  have hstrip : unbracket ('[' :: (ip.toList ++ [']'])) = ip.toList :=
    takeWhile_ne_append_cons hip
  simp only [readPublish, hsplit, hstrip, String.ofList_toList]

theorem readPublish_address {ip hostPort : String} (hip : '[' ∉ ip.toList)
    (hport : ':' ∉ hostPort.toList) (containerPort proto : String) :
    readPublish (ip ++ ":" ++ hostPort, containerPort, proto) =
      ⟨ip, hostPort, containerPort, proto⟩ := by
  have hsplit : rpartition (ip ++ ":" ++ hostPort).toList ':' =
      (ip.toList, true, hostPort.toList) := by
    rw [← rpartition_append_cons hport]
    simp
  simp only [readPublish, hsplit, unbracket_of_notMem hip, String.ofList_toList]

theorem readPublish_port {hostPort : String} (hport : ':' ∉ hostPort.toList)
    (containerPort proto : String) :
    readPublish (hostPort, containerPort, proto) = ⟨"", hostPort, containerPort, proto⟩ := by
  simp [readPublish, rpartition_of_notMem hport, unbracket]

theorem map_readPublish_mapPortBinding {entry : PortBinding} (hread : entry.Readable)
    (key : String) :
    (mapPortBinding (containerPortOf key).1 (containerPortOf key).2 entry).map readPublish =
      if entry.HasHostPort then some (entry.published key) else none := by
  obtain ⟨hostIp, hostPort⟩ := entry
  obtain ⟨⟨hopen, hclose⟩, hcolon⟩ := hread
  cases hostPort with
  | none => rfl
  | some hostPort =>
      by_cases hgiven : hostPort = ""
      · subst hgiven
        rfl
      · have hhas : PortBinding.HasHostPort ⟨hostIp, some hostPort⟩ := by
          simpa [PortBinding.HasHostPort, truthy] using hgiven
        rw [if_pos hhas]
        by_cases hip : truthy hostIp = true
        · obtain ⟨ip, rfl⟩ : ∃ ip, hostIp = some ip := by
            cases hostIp with
            | none => cases hip
            | some ip => exact ⟨ip, rfl⟩
          simp only [mapPortBinding, if_neg hgiven, orElse, if_pos hip]
          split
          · exact congrArg some (readPublish_bracketed hclose hcolon _ _)
          · exact congrArg some (readPublish_address hopen hcolon _ _)
        · have hempty : hostIp.getD "" = "" := by simpa [truthy] using hip
          simp only [mapPortBinding, if_neg hgiven, orElse, if_neg hip, Option.map_some,
            PortBinding.published, hempty, Option.getD_some]
          exact congrArg some (readPublish_port hcolon _ _)

section

variable {bindings : Option (Dict String (Option (List PortBinding)))}

/-- The mappings are read back to the bindings that have a host port, in their order. -/
theorem map_readPublish_mapPortBindingsToList
    (hread : ∀ binding ∈ keyedBindings bindings, binding.2.Readable) :
    (mapPortBindingsToList bindings).map readPublish =
      ((keyedBindings bindings).filter fun (_, entry) => entry.HasHostPort).map
        fun (key, entry) => entry.published key := by
  have hmap : mapPortBindingsToList bindings = (keyedBindings bindings).filterMap
      fun (key, entry) =>
        mapPortBinding (containerPortOf key).1 (containerPortOf key).2 entry := by
    unfold mapPortBindingsToList keyedBindings containerPortOf
    simp only [List.filterMap_flatMap, List.filterMap_map]
    rfl
  rw [hmap, List.map_filterMap, ← List.filterMap_eq_map, List.filterMap_filter]
  refine List.filterMap_congr fun binding hmem => ?_
  simpa using map_readPublish_mapPortBinding (hread binding hmem) binding.1

/-- All bindings are read back, each as often as it is there, if and only if Docker is to
choose none of the host ports. -/
theorem readsBack_iff (hread : ∀ binding ∈ keyedBindings bindings, binding.2.Readable) :
    ((mapPortBindingsToList bindings).map readPublish).Perm (publishedPorts bindings) ↔
      ∀ binding ∈ keyedBindings bindings, binding.2.HasHostPort := by
  rw [map_readPublish_mapPortBindingsToList hread, publishedPorts]
  constructor
  · intro hperm
    have hlength := hperm.length_eq
    simp only [List.length_map] at hlength
    simpa using List.length_filter_eq_length_iff.1 hlength
  · intro hall
    rw [List.filter_eq_self.2 (by simpa using hall)]

end

/-- Ports on an IPv4 address, an IPv6 address and every address of the host. -/
def boundPorts : Option (Dict String (Option (List PortBinding))) :=
  some [("443/tcp", some [{ hostIp := some "127.0.0.1", hostPort := some "8443" },
      { hostIp := some "::1", hostPort := some "8443" }]),
    ("53/udp", some [{ hostIp := some "", hostPort := some "5353" }]), ("9000/tcp", none)]

theorem readsBack_iff_boundPorts :
    ((mapPortBindingsToList boundPorts).map readPublish).Perm (publishedPorts boundPorts) ↔
      ∀ binding ∈ keyedBindings boundPorts, binding.2.HasHostPort :=
  readsBack_iff fun binding hmem => by
    have hall : ∀ binding ∈ keyedBindings boundPorts,
        ('[' ∉ (binding.2.hostIp.getD "").toList ∧ ']' ∉ (binding.2.hostIp.getD "").toList) ∧
          ':' ∉ (binding.2.hostPort.getD "").toList := by decide
    exact ⟨(hall binding hmem).1, (hall binding hmem).2⟩

/-- A port that Docker is to choose. -/
def chosenPort : Option (Dict String (Option (List PortBinding))) :=
  some [("80/tcp", some [{ hostIp := some "", hostPort := some "" }])]

/-- The container is not published on any port once it was recreated. -/
theorem chosenPort_is_lost :
    publishedPorts chosenPort = [⟨"", "", "80", "tcp"⟩] ∧ mapPortBindingsToList chosenPort = [] ∧
      ¬ ((mapPortBindingsToList chosenPort).map readPublish).Perm (publishedPorts chosenPort) := by
  decide

end Tugtainer
