import OctoChannel.Transport.Hosts

/-! Where a guarded download connects to: no address outside of what the guard
permits, whichever way a host is spelled and whatever the name servers answer. -/

namespace OctoChannel.Transport

open Foundation

namespace Net

variable {Ip : Type} {net : Net Ip} {policy : TransportPolicy} {url host : PyStr}
  {parsed : YarlUrl}

/-- The addresses that a text can be taken for. -/
def Spells (net : Net Ip) (address : PyStr) (ip : Ip) : Prop :=
  net.literalIp (normalize address) = some ip

/-- An address of a cloud metadata service. -/
def IsMetadata (net : Net Ip) (ip : Ip) : Prop := net.str ip ∈ metadataHosts

/-- The URL goes to the host and port of a configured origin; and to the origin
itself, where both parsers read the same scheme and port from it. -/
def OriginTrusted (net : Net Ip) (policy : TransportPolicy) (url : PyStr) : Prop :=
  ∃ hop host, net.url url = some hop ∧ net.canonicalUrlHost url = some host ∧
    (host, hop.port) ∈ policy.trustedConnectionEndpoints ∧
    ∀ parsed port, net.urlparse url = some parsed → lower parsed.scheme = hop.scheme →
      parsed.port = some port →
      port.getD ((defaultOriginPort (lower parsed.scheme)).getD 0) = hop.port →
      (hop.scheme, host, hop.port) ∈ policy.trustedDownloadOrigins

/-- The addresses a hop may connect to. -/
structure Permitted (net : Net Ip) (policy : TransportPolicy) (url address : PyStr) : Prop where
  metadata : ∀ ip, net.Spells address ip → ¬ net.IsMetadata (net.target ip)
  linkLocal : ∀ ip, net.Spells address ip → net.isLinkLocal (net.target ip) = false
  multicast : ∀ ip, net.Spells address ip → net.isMulticast (net.target ip) = false
  unspecified : ∀ ip, net.Spells address ip → net.isUnspecified (net.target ip) = false
  reserved : ∀ ip, net.Spells address ip → net.isReserved (net.target ip) = true →
    net.isLoopback (net.target ip) = true
  trusted : ∀ ip, net.Spells address ip →
    net.isPrivate (net.target ip) = true ∨ net.isLoopback (net.target ip) = true →
    net.OriginTrusted policy url

/-- What the guard finds of an address. -/
structure Sound (net : Net Ip) (trusted : Bool) (ip : Ip) : Prop where
  metadata : ¬ net.IsMetadata ip
  linkLocal : net.isLinkLocal ip = false
  multicast : net.isMulticast ip = false
  unspecified : net.isUnspecified ip = false
  reserved : net.isReserved ip = true → net.isLoopback ip = true
  within : net.isPrivate ip = true ∨ net.isLoopback ip = true → trusted = true

theorem sound_of_checked (lawful : net.Lawful) {trusted : Bool} {address : PyStr}
    (safe : net.unconditionallyUnsafeAddress address = false)
    (open' : trusted = true ∨ net.isPrivateOrMetadataHost address = false) :
    ∃ ip, net.ipAddress (normalize address) = some ip ∧ net.Sound trusted (net.target ip) := by
  unfold unconditionallyUnsafeAddress at safe
  dsimp only at safe
  split at safe
  · cases safe
  · cases read : net.ipAddress (normalize address) with
    | none =>
      rw [read] at safe
      cases safe
    | some ip =>
      rw [read] at safe
      dsimp only at safe
      split at safe
      · cases safe
      · rename_i other
        refine ⟨ip, rfl, ?_⟩
        have within : net.isPrivate (net.target ip) = true ∨ net.isLoopback (net.target ip) = true →
            trusted = true := by
          intro inside
          rcases open' with trust | outside
          · exact trust
          · unfold isPrivateOrMetadataHost at outside
            dsimp only at outside
            rcases canonicalTrustHost_address lawful read with blank | form
            · simp [blank] at outside
            · rw [form, (lawful.printed ip).1] at outside
              rcases inside with private' | loop
              · simp [private'] at outside
              · simp [loop] at outside
        cases loop : net.isLoopback (net.target ip) with
        | true =>
          obtain ⟨linkLocal, multicast, unspecified⟩ := lawful.loopback _ loop
          exact ⟨other, linkLocal, multicast, unspecified, fun _ => loop, within⟩
        | false =>
          rw [loop] at safe
          simp only [Bool.false_eq_true, if_false, Bool.or_eq_false_iff] at safe
          obtain ⟨⟨⟨linkLocal, multicast⟩, reserved⟩, unspecified⟩ := safe
          refine ⟨other, linkLocal, multicast, unspecified, fun inside => ?_, within⟩
          rw [reserved] at inside
          cases inside

/-- Every record that the resolver lets through was checked. -/
private theorem resolve_checked {host : PyStr} {port : Nat} {answer : DnsAnswer}
    {records : List ResolveResult} (passed : net.resolve policy host port answer = .ok records) :
    ∀ record ∈ records, net.unconditionallyUnsafeAddress record.address = false ∧
      (net.isConnectionTrusted policy (net.canonicalTrustHost host) port = true ∨
        net.isPrivateOrMetadataHost record.address = false) := by
  unfold resolve at passed
  dsimp only at passed
  split at passed
  · cases passed
  · split at passed
    · cases passed
    · split at passed
      · cases passed
      · split at passed
        · cases passed
        · split at passed
          · cases passed
          · rename_i clean
            cases passed
            intro record member
            rw [Bool.not_eq_true, List.any_eq_false] at clean
            have checked := clean record member
            rw [Bool.not_eq_true, Bool.or_eq_false_iff, Bool.and_eq_false_iff,
              Bool.not_eq_eq_eq_not] at checked
            exact checked

/-- What the connector has checked before it hands a host on. -/
theorem resolveHost_checked {host : PyStr} {port : Nat} {answer : DnsAnswer}
    {records : List ResolveResult} (passed : net.resolveHost policy host port answer = .ok records) :
    net.baseResolveHost (fun host port => net.resolve policy host port answer) host port =
        .ok records ∧
    (∀ text ∈ net.canonicalLiteralIp (net.canonicalTrustHost host),
      net.unconditionallyUnsafeAddress text = false ∧
        (net.isConnectionTrusted policy (net.canonicalTrustHost host) port = true ∨
          net.isPrivateOrMetadataHost text = false)) ∧
    (net.canonicalLiteralIp (net.canonicalTrustHost host) = none →
      net.isConnectionTrusted policy (net.canonicalTrustHost host) port = true ∨
        net.isPrivateOrMetadataHost (net.canonicalTrustHost host) = false) := by
  unfold resolveHost at passed
  dsimp only at passed
  split at passed
  · cases passed
  · split at passed
    · cases passed
    · rename_i literals
      split at passed
      · cases passed
      · rename_i names
        refine ⟨passed, ?_, ?_⟩
        · intro text given
          rw [Option.mem_def.mp given, Option.any_some, Bool.not_eq_true, Bool.or_eq_false_iff,
            Bool.and_eq_false_iff, Bool.not_eq_eq_eq_not] at literals
          exact literals
        · intro none
          rw [none, Option.isNone_none, Bool.true_and, Bool.not_eq_true, Bool.and_eq_false_iff,
            Bool.not_eq_eq_eq_not] at names
          exact names

private theorem spells_of_ipAddress {address : PyStr} {ip other : Ip}
    (read : net.ipAddress (normalize address) = some ip) (spelled : net.Spells address other) :
    other = ip := by
  rw [Spells, literalIp, read] at spelled
  exact (Option.some.inj spelled).symm

/-- Every address that the connector hands out for a hop was checked under the hop's
own trust. -/
theorem Hop.checked (lawful : net.Lawful) (hop : net.Hop url parsed host)
    (named : ∀ endpoint ∈ policy.trustedConnectionEndpoints, endpoint.1 ≠ []) {port : Nat}
    {answer : DnsAnswer} {records : List ResolveResult}
    (passed : net.resolveHost policy (net.dialHost host) port answer = .ok records)
    {record : ResolveResult} (member : record ∈ records) {ip : Ip}
    (spelled : net.Spells record.address ip) :
    net.Sound (net.isConnectionTrusted policy (net.canonicalTrustHost (net.dialHost host)) port)
      (net.target ip) := by
  obtain ⟨base, literals, names⟩ := resolveHost_checked passed
  rcases lawful.resolved _ _ _ _ base with rfl | base
  · -- The host is the address: the connector has checked its literal form.
    cases List.mem_singleton.mp member
    have read : net.literalIp (normalize host) = some ip := by
      rw [← (lawful.dialled host).2]
      exact spelled
    rcases hop.trustHost_dialled lawful with blank | same
    · rw [blank] at names ⊢
      have none : net.canonicalLiteralIp [] = none := by
        rw [canonicalLiteralIp]
        exact congrArg (Option.map net.str) lawful.blank
      rcases names none with trusted | outside
      · have member := of_decide_eq_true trusted
        rw [canonicalTrustHost_nil lawful] at member
        exact absurd rfl (named _ member)
      · simp [isPrivateOrMetadataHost, canonicalTrustHost_nil lawful] at outside
    · rw [same] at literals ⊢
      have form : net.canonicalHost host = net.str ip := by
        rcases hop.canonicalHost_eq lawful with ⟨other, found, form⟩ | ⟨none, -⟩
        · cases read.symm.trans found
          exact form
        · cases read.symm.trans none
      rw [form] at literals ⊢
      obtain ⟨safe, open'⟩ := literals _ (canonicalLiteralIp_str lawful ip)
      obtain ⟨found, again, sound⟩ := sound_of_checked lawful safe open'
      rw [(lawful.printed ip).2.1, (lawful.printed ip).1] at again
      cases again
      exact sound
  · obtain ⟨safe, open'⟩ := resolve_checked base record member
    obtain ⟨found, read, sound⟩ := sound_of_checked lawful safe open'
    cases spells_of_ipAddress read spelled
    exact sound

/-- What a URL has passed before it is requested. -/
structure Validated (net : Net Ip) (policy : TransportPolicy) (url : PyStr) (parsed : ParsedUrl) :
    Prop where
  found : net.urlparse url = some parsed
  scheme : parsed.scheme = py "http" ∨ parsed.scheme = py "https"
  host : (net.canonicalUrlHost url).getD [] ≠ []
  anonymous : ¬ (parsed.username.isSome ∨ parsed.password.isSome)
  endpoint : net.isDownloadEndpointTrusted policy url = true →
    net.isDownloadUrlTrusted policy url = true

private theorem validated_of_passed
    (passed : net.validateDownloadUrl url (some policy) = .ok ()) :
    ∃ parsed, net.Validated policy url parsed := by
  unfold validateDownloadUrl at passed
  split at passed
  · cases passed
  · rename_i parsed found
    dsimp only at passed
    split at passed
    · cases passed
    · rename_i schemeHost
      rw [not_or, not_and_or, not_not, not_not] at schemeHost
      split at passed
      · cases passed
      · rename_i anonymous
        split at passed
        · cases passed
        · split at passed
          · cases passed
          · split at passed
            · cases passed
            · rename_i endpoint
              refine ⟨parsed, found, schemeHost.1, schemeHost.2, anonymous, fun trusted => ?_⟩
              by_contra other
              rw [Bool.not_eq_true] at other
              exact endpoint (by simp [trusted, other])

/-- The origin of a validated URL whose port can be read. -/
theorem Validated.canonicalOrigin {parsed : ParsedUrl} (valid : net.Validated policy url parsed)
    {port : Option Nat} (read : parsed.port = some port) {host : PyStr}
    (form : net.canonicalUrlHost url = some host) :
    net.canonicalOrigin url = some (lower parsed.scheme, host,
      port.getD ((defaultOriginPort (lower parsed.scheme)).getD 0)) := by
  have standard : ∃ standard, defaultOriginPort (lower parsed.scheme) = some standard := by
    rcases valid.scheme with http | https
    · rw [http]
      exact ⟨80, by decide⟩
    · rw [https]
      exact ⟨443, by decide⟩
  obtain ⟨standard, known⟩ := standard
  have present : host ≠ [] := by
    have given := valid.host
    rwa [form] at given
  have open' : ¬ (host = [] ∨ parsed.username.isSome ∨ parsed.password.isSome) :=
    fun bad => bad.elim present valid.anonymous
  simp only [Net.canonicalOrigin, valid.found, read, known, form, if_neg open', Option.getD_some]

/-- A trusted connection of a validated hop goes to a configured origin. -/
private theorem Hop.originTrusted (lawful : net.Lawful) {hop : YarlUrl}
    (reached : net.Hop url hop host)
    (named : ∀ endpoint ∈ policy.trustedConnectionEndpoints, endpoint.1 ≠ [])
    {parsed : ParsedUrl} (valid : net.Validated policy url parsed)
    (form : net.canonicalUrlHost url = some (net.canonicalHost host))
    (trusted : net.isConnectionTrusted policy
      (net.canonicalTrustHost (net.dialHost host)) hop.port = true) :
    net.OriginTrusted policy url := by
  have endpoint := reached.endpoint lawful named trusted
  refine ⟨hop, net.canonicalHost host, reached.found, form, endpoint, ?_⟩
  intro other port found scheme read same
  cases valid.found.symm.trans found
  have origin := valid.canonicalOrigin read form
  rw [same] at origin
  have confirmed := valid.endpoint (by
    rw [isDownloadEndpointTrusted, origin, Option.any_some]
    exact decide_eq_true endpoint)
  rw [isDownloadUrlTrusted, origin, Option.any_some, scheme] at confirmed
  exact of_decide_eq_true confirmed

/-- A validated URL connects to permitted addresses only. -/
private theorem dial_permitted (lawful : net.Lawful)
    (named : ∀ endpoint ∈ policy.trustedConnectionEndpoints, endpoint.1 ≠ [])
    (passed : net.validateDownloadUrl url (some policy) = .ok ()) {answer : DnsAnswer}
    {address : PyStr} (dialled : address ∈ net.dial policy url answer) :
    net.Permitted policy url address := by
  obtain ⟨parsed, valid⟩ := validated_of_passed passed
  unfold dial at dialled
  split at dialled
  · cases dialled
  · rename_i hop found
    split at dialled
    · cases dialled
    · rename_i host named'
      split at dialled
      · cases dialled
      · rename_i records resolved
        obtain ⟨record, member, rfl⟩ := List.mem_map.mp dialled
        have inhabited : host ≠ [] := by
          intro blank
          have given := valid.host
          simp [canonicalUrlHost, found, named', blank] at given
        have form := canonicalUrlHost_eq found named' inhabited
        have reached : net.Hop url hop host := by
          refine ⟨found, named', ?_⟩
          have given := valid.host
          rwa [form] at given
        have sound {ip : Ip} (spelled : net.Spells record.address ip) :=
          reached.checked lawful named resolved member spelled
        exact ⟨fun ip spelled => (sound spelled).metadata,
          fun ip spelled => (sound spelled).linkLocal,
          fun ip spelled => (sound spelled).multicast,
          fun ip spelled => (sound spelled).unspecified,
          fun ip spelled => (sound spelled).reserved,
          fun ip spelled inside => reached.originTrusted lawful named valid form
            ((sound spelled).within inside)⟩

theorem newPolicy_named (net : Net Ip) (trustedOrigins : List PyStr) :
    ∀ endpoint ∈ (net.newPolicy trustedOrigins).trustedConnectionEndpoints, endpoint.1 ≠ [] := by
  intro endpoint member
  obtain ⟨origin, trusted, rfl⟩ := List.mem_map.mp member
  obtain ⟨url, -, safe⟩ := List.mem_filterMap.mp trusted
  have canonical : net.canonicalOrigin url = some origin := by
    unfold safePrivateTrustOrigin at safe
    split at safe
    · cases safe
    · rename_i found
      split at safe
      · cases safe
      · split at safe
        · cases safe
        · cases safe
          exact found
  unfold canonicalOrigin at canonical
  split at canonical
  · cases canonical
  · split at canonical
    · split at canonical
      · cases canonical
      · rename_i open'
        cases canonical
        exact fun blank => open' (.inl blank)
    · cases canonical

private theorem readBody_length {maxSize : Nat} {ended : Except TransportError Unit}
    {chunks : List Bytes}
    {data result : Bytes} (small : data.length ≤ maxSize)
    (read : readBody maxSize ended data chunks = .ok result) : result.length ≤ maxSize := by
  induction chunks generalizing data with
  | nil =>
    cases ended with
    | error error => cases read
    | ok =>
      cases read
      exact small
  | cons chunk rest ih =>
    rw [readBody] at read
    split at read
    · cases read
    · rename_i fits
      exact ih (Nat.not_lt.mp fits) read

private theorem receive_length {maxSize : Nat} {response : Response} {type name : PyStr}
    {content : Bytes} (received : net.receive maxSize url response = .ok (content, type, name)) :
    content.length ≤ maxSize := by
  unfold receive at received
  split at received
  · cases received
  · split at received
    · cases received
    · split at received
      · cases received
      · rename_i read
        cases received
        exact readBody_length (Nat.zero_le _) read

/-- Every connection is permitted, the requests are few, and the result is small. -/
structure Guarded (net : Net Ip) (policy : TransportPolicy) (rounds maxSize : Nat)
    (download : Download) : Prop where
  permitted : ∀ request ∈ download.requests, ∀ address ∈ request.addresses,
    net.Permitted policy request.url address
  few : download.requests.length ≤ rounds
  small : ∀ content type name, download.result = .ok (content, type, name) →
    content.length ≤ maxSize

private theorem downloadRounds_guarded (lawful : net.Lawful)
    (named : ∀ endpoint ∈ policy.trustedConnectionEndpoints, endpoint.1 ≠ []) (maxSize rounds : Nat)
    (url : PyStr) (world : List Exchange) :
    net.Guarded policy rounds maxSize
      (net.downloadRounds policy (some policy) maxSize rounds url world) := by
  induction rounds generalizing url world with
  | zero => exact ⟨nofun, Nat.le_refl 0, nofun⟩
  | succ left ih =>
    cases world with
    | nil => exact ⟨nofun, Nat.zero_le _, nofun⟩
    | cons exchange world =>
      rw [downloadRounds]
      split
      · exact ⟨nofun, Nat.zero_le _, nofun⟩
      · cases checked : net.validateDownloadUrl url (some policy) with
        | error error => exact ⟨nofun, Nat.zero_le _, nofun⟩
        | ok =>
          have permitted : ∀ address ∈ exchange.answers.flatMap (net.dial policy url),
              net.Permitted policy url address := by
            intro address member
            obtain ⟨answer, -, dialled⟩ := List.mem_flatMap.mp member
            exact dial_permitted lawful named checked dialled
          have alone : ∀ request ∈
              [(⟨url, exchange.answers.flatMap (net.dial policy url)⟩ : Request)],
              ∀ address ∈ request.addresses, net.Permitted policy request.url address := by
            intro request member
            cases List.mem_singleton.mp member
            exact permitted
          dsimp only
          cases exchange.response with
          | error error => exact ⟨alone, Nat.succ_le_succ (Nat.zero_le _), nofun⟩
          | ok response =>
            dsimp only
            split
            · split
              · exact ⟨alone, Nat.succ_le_succ (Nat.zero_le _), nofun⟩
              · split
                · exact ⟨alone, Nat.succ_le_succ (Nat.zero_le _), nofun⟩
                · obtain ⟨others, few, small⟩ :=
                    ih (net.urljoin url (response.location.getD [])) world
                  refine ⟨?_, Nat.succ_le_succ few, small⟩
                  intro request member
                  rcases List.mem_cons.mp member with rfl | later
                  · exact permitted
                  · exact others request later
            · exact ⟨alone, Nat.succ_le_succ (Nat.zero_le _), fun _ _ _ received => receive_length received⟩

/-- A download over a session that guards with the same policy. -/
theorem downloadFile_guarded {Ip : Type} (net : Net Ip) (lawful : net.Lawful)
    (trustedOrigins : List PyStr) (maxSize : Nat) (url : PyStr) (world : List Exchange) :
    net.Guarded (net.newPolicy trustedOrigins) (maxDownloadRedirects + 1) maxSize
      (net.downloadFile (net.newPolicy trustedOrigins) (some (net.newPolicy trustedOrigins)) maxSize
        url world) :=
  downloadRounds_guarded lawful (net.newPolicy_named trustedOrigins) maxSize _ url world

/-- One host under three URLs, and the address `::1`. -/
def sampleNet : Net Unit where
  ipAddress text := if text = py "::1" then some () else none
  inetAton _ := none
  str _ := py "::1"
  ipv4Mapped _ := none
  isLoopback _ := true
  isPrivate _ := true
  isLinkLocal _ := false
  isMulticast _ := false
  -- `::1` lies in `::/8`, which `ipaddress` counts as reserved.
  isReserved _ := true
  isUnspecified _ := false
  url text :=
    if text = py "http://a.io" then some ⟨some (py "a.io"), py "http", 80⟩
    else if text = py "http://[::1]" then some ⟨some (py "::1"), py "http", 80⟩
    else if text = py "https://a.io:8443" then some ⟨some (py "a.io"), py "https", 8443⟩
    else if text = py "http://a.io:+8443" then some ⟨some (py "a.io"), py "http", 8443⟩
    else none
  build host :=
    if host = py "a.io" then some (py "http://a.io")
    else if host = py "::1" then some (py "http://[::1]")
    else none
  -- `urlparse` takes digits only for a port, `yarl` whatever `int` takes.
  urlparse text :=
    if text = py "http://a.io" then some ⟨py "http", none, none, some none⟩
    else if text = py "https://a.io:8443" then some ⟨py "https", none, none, some (some 8443)⟩
    else if text = py "http://a.io:+8443" then some ⟨py "http", none, none, none⟩
    else none
  urljoin _ location := location
  dialHost host := host
  baseResolveHost resolver host port :=
    if host = py "::1" then .ok [⟨some host⟩] else resolver host port
  int _ := none
  filename _ _ := py "file"

def sampleUrls : List (PyStr × PyStr × PyStr × Nat) :=
  [(py "http://a.io", py "a.io", py "http", 80), (py "http://[::1]", py "::1", py "http", 80),
    (py "https://a.io:8443", py "a.io", py "https", 8443),
    (py "http://a.io:+8443", py "a.io", py "http", 8443)]

private theorem sampleNet_url {url : PyStr} {parsed : YarlUrl}
    (found : sampleNet.url url = some parsed) :
    ∃ entry ∈ sampleUrls, url = entry.1 ∧ parsed = ⟨some entry.2.1, entry.2.2.1, entry.2.2.2⟩ := by
  simp only [sampleNet] at found
  split_ifs at found with name loop secure signed
  · exact ⟨_, .head _, name, (Option.some.inj found).symm⟩
  · exact ⟨_, .tail _ (.head _), loop, (Option.some.inj found).symm⟩
  · exact ⟨_, .tail _ (.tail _ (.head _)), secure, (Option.some.inj found).symm⟩
  · exact ⟨_, .tail _ (.tail _ (.tail _ (.head _))), signed, (Option.some.inj found).symm⟩

theorem sampleNet_build {host built : PyStr} (found : sampleNet.build host = some built) :
    ∃ entry ∈ sampleUrls, host = entry.2.1 ∧ built = entry.1 := by
  simp only [sampleNet] at found
  split_ifs at found with name loop
  · exact ⟨_, .head _, name, (Option.some.inj found).symm⟩
  · exact ⟨_, .tail _ (.head _), loop, (Option.some.inj found).symm⟩

private theorem sampleNet_ipAddress {text : PyStr} {ip : Unit}
    (read : sampleNet.ipAddress text = some ip) :
    text = sampleNet.str ip := by
  simp only [sampleNet] at read ⊢
  split_ifs at read with loop
  exact loop

theorem sampleUrls_forms : ∀ entry ∈ sampleUrls,
    sampleNet.url entry.1 = some ⟨some entry.2.1, entry.2.2.1, entry.2.2.2⟩ ∧ entry.2.1 ≠ [] ∧
      bare entry.2.1 = entry.2.1 ∧ normalize entry.2.1 = entry.2.1 ∧
      lower entry.2.1 = entry.2.1 ∧ entry.2.1.any isBracket = false := by
  decide

theorem sampleNet_lawful : sampleNet.Lawful where
  blank := by decide
  printed ip := by
    cases ip
    decide
  loopback _ _ := ⟨rfl, rfl, rfl⟩
  hostless built again named := by
    obtain ⟨entry, member, blank, -⟩ := sampleNet_build named
    exact absurd blank.symm (sampleUrls_forms entry member).2.1
  encoded url parsed host found named := by
    obtain ⟨entry, member, -, rfl⟩ := sampleNet_url found
    cases named
    obtain ⟨-, -, plain, normal, -, unbracketed⟩ := sampleUrls_forms entry member
    refine ⟨by simpa using unbracketed, ?_⟩
    intro text spelled _ built rebuilt
    have same : text = entry.2.1 := by
      rcases spelled with rfl | rfl
      · exact plain
      · exact normal
    obtain ⟨other, present, shape, rfl⟩ := sampleNet_build rebuilt
    obtain ⟨again, inhabited, -⟩ := sampleUrls_forms other present
    refine ⟨_, other.2.1, again, rfl, inhabited, ?_⟩
    rw [← shape, same]
  address text ip read built rebuilt := by
    obtain ⟨entry, member, shape, rfl⟩ := sampleNet_build rebuilt
    obtain ⟨again, inhabited, -, normal, small, -⟩ := sampleUrls_forms entry member
    refine ⟨_, entry.2.1, again, rfl, inhabited, ?_⟩
    rw [normal, ← sampleNet_ipAddress read, ← lower_bare, shape, small]
  dialled _ := ⟨rfl, rfl⟩
  resolved resolver host port records given := by
    simp only [sampleNet] at given
    split_ifs at given
    · exact .inl (Except.ok.inj given).symm
    · exact .inr given

/-- The host is a configured origin, and its name server answers `::1`. -/
def sampleOrigins : List PyStr := [py "http://a.io"]

def sampleWorld : List Exchange :=
  [⟨true, [.ok [⟨some (py "::1")⟩]], .ok ⟨200, none, none, none, none, [[1, 2]], .ok ()⟩⟩]

/-- A download with the policy of these origins. -/
def sampleDownload (trustedOrigins : List PyStr) (url : PyStr) : Download :=
  sampleNet.downloadFile (sampleNet.newPolicy trustedOrigins)
    (some (sampleNet.newPolicy trustedOrigins)) 16 url sampleWorld

theorem sampleDownload_guarded :
    sampleNet.Guarded (sampleNet.newPolicy sampleOrigins) 6 16
        (sampleDownload sampleOrigins (py "http://a.io")) ∧
      (sampleDownload sampleOrigins (py "http://a.io")).result =
        .ok ([1, 2], py "application/octet-stream", py "file") :=
  ⟨downloadFile_guarded sampleNet sampleNet_lawful sampleOrigins 16 _ sampleWorld, by decide⟩

/-- `ipaddress` counts the address of the first connection as reserved. The second one is for a
URL with another scheme than the configured origin, whose port only `yarl` reads. -/
theorem sampleDownload_reserved : sampleNet.Lawful ∧
    (¬ ∀ request ∈ (sampleDownload sampleOrigins (py "http://a.io")).requests,
      ∀ address ∈ request.addresses, ∀ ip, sampleNet.Spells address ip →
        sampleNet.isReserved (sampleNet.target ip) = false) ∧
    ¬ ∀ request ∈ (sampleDownload [py "https://a.io:8443"] (py "http://a.io:+8443")).requests,
      ∀ address ∈ request.addresses, ∀ ip, sampleNet.Spells address ip →
        sampleNet.isLoopback (sampleNet.target ip) = true →
        ∀ hop host, sampleNet.url request.url = some hop → hop.rawHost = some host →
          (hop.scheme, host, hop.port) ∈
            (sampleNet.newPolicy [py "https://a.io:8443"]).trustedDownloadOrigins := by
  refine ⟨sampleNet_lawful, ?_, ?_⟩
  · intro unreserved
    have reached : ∃ request ∈ (sampleDownload sampleOrigins (py "http://a.io")).requests,
        ∃ address ∈ request.addresses, sampleNet.literalIp (normalize address) = some () := by
      decide
    obtain ⟨request, made, address, dialled, spelled⟩ := reached
    cases unreserved request made address dialled () spelled
  · intro exact'
    have reached : ∃ request ∈
        (sampleDownload [py "https://a.io:8443"] (py "http://a.io:+8443")).requests,
        request.url = py "http://a.io:+8443" ∧ ∃ address ∈ request.addresses,
          sampleNet.literalIp (normalize address) = some () := by
      decide
    obtain ⟨request, made, shown, address, dialled, spelled⟩ := reached
    have found : sampleNet.url request.url = some ⟨some (py "a.io"), py "http", 8443⟩ := by
      rw [shown]
      decide
    have origin := exact' request made address dialled () spelled rfl _ _ found rfl
    exact absurd origin (by decide)

end Net

end OctoChannel.Transport
