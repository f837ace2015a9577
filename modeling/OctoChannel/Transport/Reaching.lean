import OctoChannel.Transport.Permitted

namespace OctoChannel.Transport.Net

open Foundation

variable {Ip : Type}

/-- Where a connection for a host and a port may lead. -/
structure Reaches (net : Net Ip) (policy : TransportPolicy) (host : PyStr) (port : Nat)
    (ip : Ip) : Prop where
  metadata : ¬ net.IsMetadata ip
  linkLocal : net.isLinkLocal ip = false
  multicast : net.isMulticast ip = false
  unspecified : net.isUnspecified ip = false
  reserved : net.isReserved ip = true → net.isLoopback ip = true
  /-- Only the endpoint of a configured origin may be a private one. -/
  configured : net.isPrivate ip = true ∨ net.isLoopback ip = true →
    (net.canonicalHost host, port) ∈ policy.trustedConnectionEndpoints

/-- An address that is dialled for a URL, whichever way it is spelled. -/
def Reachable (net : Net Ip) (policy : TransportPolicy) (url address : PyStr) : Prop :=
  ∃ hop host, net.url url = some hop ∧ hop.rawHost = some host ∧
    ∀ ip, net.Spells address ip → net.Reaches policy host hop.port (net.target ip)

/-- A host of nothing but dots is not dialled. -/
private theorem inhabited_of_resolveHost {net : Net Ip} (lawful : net.Lawful)
    {policy : TransportPolicy}
    (named : ∀ endpoint ∈ policy.trustedConnectionEndpoints, endpoint.1 ≠ []) {host : PyStr}
    {port : Nat} {answer : DnsAnswer} {records : List ResolveResult}
    (passed : net.resolveHost policy (net.dialHost host) port answer = .ok records) :
    net.canonicalHost host ≠ [] := by
  intro blank
  have normal : normalize host = [] := by
    rw [canonicalHost, orText] at blank
    split at blank
    · exact blank
    · rename_i filled
      exact absurd blank filled
  have dialled : bare (net.dialHost host) = [] := by
    rw [(lawful.dialled host).1]
    rw [← lower_bare, lower] at normal
    exact List.map_eq_nil_iff.mp normal
  have unnamed : net.canonicalTrustHost (net.dialHost host) = [] := by
    rw [← canonicalTrustHost_nil lawful, canonicalTrustHost, dialled]
    rfl
  obtain ⟨-, -, names⟩ := resolveHost_checked passed
  rw [unnamed] at names
  have literal : net.canonicalLiteralIp [] = none := by
    rw [canonicalLiteralIp]
    exact congrArg (Option.map net.str) lawful.blank
  rcases names literal with trusted | outside
  · have member := of_decide_eq_true trusted
    rw [canonicalTrustHost_nil lawful] at member
    exact named _ member rfl
  · simp [isPrivateOrMetadataHost, canonicalTrustHost_nil lawful] at outside

theorem reachable_of_dial {net : Net Ip} (lawful : net.Lawful) {policy : TransportPolicy}
    (named : ∀ endpoint ∈ policy.trustedConnectionEndpoints, endpoint.1 ≠ []) {url : PyStr}
    {answer : DnsAnswer} {address : PyStr} (dialled : address ∈ net.dial policy url answer) :
    net.Reachable policy url address := by
  unfold Net.dial at dialled
  split at dialled
  · cases dialled
  · rename_i hop found
    split at dialled
    · cases dialled
    · rename_i host known
      split at dialled
      · cases dialled
      · rename_i records resolved
        obtain ⟨record, member, rfl⟩ := List.mem_map.mp dialled
        have reached : net.Hop url hop host :=
          ⟨found, known, inhabited_of_resolveHost lawful named resolved⟩
        refine ⟨hop, host, found, known, ?_⟩
        intro ip spelled
        have sound := reached.checked lawful named resolved member spelled
        exact ⟨sound.metadata, sound.linkLocal, sound.multicast, sound.unspecified,
          sound.reserved, fun inside => reached.endpoint lawful named (sound.within inside)⟩

end OctoChannel.Transport.Net
