import OctoChannel.Transport.Downloads

namespace OctoChannel.Transport

open Foundation

namespace Net

variable {Ip : Type} {net : Net Ip} {policy : TransportPolicy}

/-- What the code relies on below it. -/
structure Lawful (net : Net Ip) : Prop where
  /-- An empty text is no address. -/
  blank : net.literalIp [] = none
  /-- `ip_address` reads what `str` prints, and that is in its normal form. -/
  printed : ∀ ip, net.ipAddress (net.str ip) = some ip ∧ normalize (net.str ip) = net.str ip ∧
    net.str ip ≠ []
  /-- A loopback address is in none of these networks. -/
  loopback : ∀ ip, net.isLoopback ip = true → net.isLinkLocal ip = false ∧
    net.isMulticast ip = false ∧ net.isUnspecified ip = false
  /-- A URL without a host does not get one. -/
  hostless : ∀ built again, net.build [] = some built → net.url built = some again →
    again.rawHost.getD [] = []
  /-- An encoded host has no brackets, and `yarl` leaves it as it is, up to the case of
  its letters. -/
  encoded : ∀ url parsed host, net.url url = some parsed → parsed.rawHost = some host →
    (∀ point ∈ host, isBracket point = false) ∧
    ∀ text, text = bare host ∨ text = normalize host → text ≠ [] →
    ∀ built, net.build text = some built → ∃ again encoded, net.url built = some again ∧
      again.rawHost = some encoded ∧ encoded ≠ [] ∧ normalize encoded = normalize host
  /-- An address becomes a host in its printed form. -/
  address : ∀ text ip, net.ipAddress (normalize text) = some ip →
    ∀ built, net.build (bare text) = some built → ∃ again encoded, net.url built = some again ∧
      again.rawHost = some encoded ∧ encoded ≠ [] ∧ normalize encoded = net.str ip
  /-- aiohttp cuts a host in nothing but its final dots. -/
  dialled : ∀ host, bare (net.dialHost host) = bare host ∧
    normalize (net.dialHost host) = normalize host
  /-- Its connector takes a host that is an address as it is and leaves others to the
  resolver; a cached answer is one that the resolver gave before. -/
  resolved : ∀ resolver host port records,
    net.baseResolveHost resolver host port = .ok records →
      records = [⟨some host⟩] ∨ resolver host port = .ok records

/-- A text without brackets only loses its final dots. -/
theorem bare_of_unbracketed {host : PyStr} (plain : ∀ point ∈ host, isBracket point = false) :
    bare host = host.rdropWhile isDot := by
  have left : host.dropWhile isBracket = host := by
    cases host with
    | nil => rfl
    | cons first rest => rw [List.dropWhile_cons_of_neg (by simp [plain first])]
  have right : host.rdropWhile isBracket = host := by
    apply List.rdropWhile_eq_self_iff.mpr
    intro inhabited
    rw [plain _ (List.getLast_mem inhabited)]
    exact Bool.false_ne_true
  rw [bare, left, right]

theorem isBracket_lowerPoint (point : CodePoint) : isBracket (lowerPoint point) = isBracket point := by
  have left : (ch '[').val = 0x5b := rfl
  have right : (ch ']').val = 0x5d := rfl
  unfold lowerPoint
  split
  · rw [Bool.eq_iff_iff]
    simp only [isBracket, Bool.or_eq_true, decide_eq_true_eq, Fin.ext_iff]
    omega
  · rfl

private theorem isDot_lowerPoint (point : CodePoint) : isDot (lowerPoint point) = isDot point := by
  have dot : (ch '.').val = 0x2e := rfl
  unfold lowerPoint
  split
  · rw [Bool.eq_iff_iff]
    simp only [isDot, decide_eq_true_eq, Fin.ext_iff]
    omega
  · rfl

/-- Lower case and bare text commute. -/
theorem lower_bare (host : PyStr) : lower (bare host) = normalize host := by
  have bracket : isBracket ∘ lowerPoint = isBracket := funext isBracket_lowerPoint
  have dot : isDot ∘ lowerPoint = isDot := funext isDot_lowerPoint
  simp only [normalize, bare, lower, List.rdropWhile, List.dropWhile_map, ← List.map_reverse,
    bracket, dot]

private theorem lowerPoint_lowerPoint (point : CodePoint) :
    lowerPoint (lowerPoint point) = lowerPoint point := by
  by_cases upper : 0x41 ≤ point.val ∧ point.val ≤ 0x5a
  · have small : ¬ (0x41 ≤ (lowerPoint point).val ∧ (lowerPoint point).val ≤ 0x5a) := by
      rw [lowerPoint, dif_pos upper]
      dsimp only
      omega
    exact dif_neg small
  · have same : lowerPoint point = point := dif_neg upper
    rw [same, same]

theorem unbracketed_lower {host : PyStr} (plain : ∀ point ∈ host, isBracket point = false) :
    ∀ point ∈ lower host, isBracket point = false := by
  intro point member
  obtain ⟨origin, present, rfl⟩ := List.mem_map.mp member
  rw [isBracket_lowerPoint, plain origin present]

theorem normalize_of_unbracketed {host : PyStr} (plain : ∀ point ∈ host, isBracket point = false) :
    normalize host = (lower host).rdropWhile isDot :=
  bare_of_unbracketed (unbracketed_lower plain)

/-- The normal form of a host without brackets has none, and only loses its dots once. -/
theorem bare_normalize {host : PyStr} (plain : ∀ point ∈ host, isBracket point = false) :
    bare (normalize host) = normalize host := by
  rw [normalize_of_unbracketed plain, bare_of_unbracketed, List.rdropWhile_idempotent]
  intro point member
  exact unbracketed_lower plain point ((List.rdropWhile_prefix isDot _).subset member)

private theorem normalize_normalize {host : PyStr}
    (plain : ∀ point ∈ host, isBracket point = false) :
    normalize (normalize host) = normalize host := by
  have small : lower (normalize host) = normalize host := by
    rw [normalize_of_unbracketed plain, lower]
    apply (List.map_congr_left ?_).trans (List.map_id _)
    intro point member
    obtain ⟨origin, -, rfl⟩ := List.mem_map.mp ((List.rdropWhile_prefix isDot _).subset member)
    exact lowerPoint_lowerPoint origin
  rw [normalize, small, bare_normalize plain]

/-- The form in which hosts are compared. -/
def canonicalHost (net : Net Ip) (host : PyStr) : PyStr :=
  orText (net.canonicalLiteralIp (normalize host)) (normalize host)

theorem canonicalUrlHost_eq {url host : PyStr} {parsed : YarlUrl} (found : net.url url = some parsed)
    (named : parsed.rawHost = some host) (inhabited : host ≠ []) :
    net.canonicalUrlHost url = some (net.canonicalHost host) := by
  simp only [canonicalUrlHost, found, named, if_neg inhabited]
  rfl

theorem orText_some {text fallback : PyStr} (inhabited : text ≠ []) :
    orText (some text) fallback = text := if_neg inhabited

theorem canonicalTrustHost_nil (lawful : net.Lawful) : net.canonicalTrustHost [] = [] := by
  unfold canonicalTrustHost
  cases built : net.build (bare []) with
  | none => rfl
  | some url =>
    have none : net.canonicalUrlHost url = none := by
      cases found : net.url url with
      | none => simp only [canonicalUrlHost, found]
      | some parsed =>
        have hostless := lawful.hostless url parsed built found
        cases named : parsed.rawHost with
        | none => simp only [canonicalUrlHost, found, named]
        | some host =>
          rw [named] at hostless
          simp only [canonicalUrlHost, found, named]
          exact if_pos hostless
    dsimp only
    rw [none]
    rfl

/-- The trusted form of a text whose rebuilt URL has a host in the same normal form. -/
theorem canonicalTrustHost_of_rebuilt {text host : PyStr}
    (rebuilt : ∀ built, net.build (bare text) = some built → ∃ again encoded,
      net.url built = some again ∧ again.rawHost = some encoded ∧ encoded ≠ [] ∧
        normalize encoded = normalize host)
    (inhabited : net.canonicalHost host ≠ []) :
    net.canonicalTrustHost text = [] ∨ net.canonicalTrustHost text = net.canonicalHost host := by
  unfold canonicalTrustHost
  cases built : net.build (bare text) with
  | none => exact .inl rfl
  | some url =>
    obtain ⟨again, encoded, found, named, present, same⟩ := rebuilt url built
    have form : net.canonicalHost encoded = net.canonicalHost host := by
      rw [canonicalHost, same]
      rfl
    right
    dsimp only
    rw [canonicalUrlHost_eq found named present, form, orText_some inhabited]

private theorem literalIp_str (lawful : net.Lawful) (ip : Ip) : net.literalIp
    (net.str ip) = some ip := by
  rw [literalIp, (lawful.printed ip).1]
  rfl

theorem canonicalLiteralIp_str (lawful : net.Lawful) (ip : Ip) :
    net.canonicalLiteralIp (net.str ip) = some (net.str ip) := by
  rw [canonicalLiteralIp, (lawful.printed ip).2.1, literalIp_str lawful]
  rfl

/-- The trusted form of a text that `ip_address` reads is the printed address. -/
theorem canonicalTrustHost_address (lawful : net.Lawful) {text : PyStr} {ip : Ip}
    (read : net.ipAddress (normalize text) = some ip) :
    net.canonicalTrustHost text = [] ∨ net.canonicalTrustHost text = net.str ip := by
  obtain ⟨-, normal, printed⟩ := lawful.printed ip
  have form : net.canonicalHost (net.str ip) = net.str ip := by
    rw [canonicalHost, normal, canonicalLiteralIp_str lawful, orText_some printed]
  have trusted := @canonicalTrustHost_of_rebuilt Ip net text (net.str ip) ?_ ?_
  · rwa [form] at trusted
  · rw [normal]
    exact lawful.address text ip read
  · rwa [form]

/-- A URL that `yarl` takes, with a host. -/
structure Hop (net : Net Ip) (url : PyStr) (parsed : YarlUrl) (host : PyStr) : Prop where
  found : net.url url = some parsed
  named : parsed.rawHost = some host
  inhabited : net.canonicalHost host ≠ []

variable {url host : PyStr} {parsed : YarlUrl}

theorem Hop.unbracketed (lawful : net.Lawful) (hop : net.Hop url parsed host) :
    ∀ point ∈ host, isBracket point = false :=
  (lawful.encoded url parsed host hop.found hop.named).1

theorem Hop.trustHost (lawful : net.Lawful) (hop : net.Hop url parsed host) {text : PyStr}
    (spelled : bare text = bare host ∨ bare text = normalize host) :
    net.canonicalTrustHost text = [] ∨ net.canonicalTrustHost text = net.canonicalHost host := by
  by_cases blank : bare text = []
  · left
    have same : net.canonicalTrustHost text = net.canonicalTrustHost [] := by
      unfold canonicalTrustHost
      rw [blank]
      rfl
    rw [same, canonicalTrustHost_nil lawful]
  · exact canonicalTrustHost_of_rebuilt
      (fun built => (lawful.encoded url parsed host hop.found hop.named).2 _ spelled blank built)
      hop.inhabited

theorem Hop.literalIp (lawful : net.Lawful) (hop : net.Hop url parsed host) :
    net.canonicalLiteralIp (normalize host) = (net.literalIp (normalize host)).map net.str := by
  rw [canonicalLiteralIp, normalize_normalize (hop.unbracketed lawful)]

/-- The form of a hop's host is the printed address, or its normal form. -/
theorem Hop.canonicalHost_eq (lawful : net.Lawful) (hop : net.Hop url parsed host) :
    (∃ ip, net.literalIp (normalize host) = some ip ∧ net.canonicalHost host = net.str ip) ∨
      net.literalIp (normalize host) = none ∧ net.canonicalHost host = normalize host := by
  rw [canonicalHost, hop.literalIp lawful]
  cases read : net.literalIp (normalize host) with
  | none => exact .inr ⟨rfl, rfl⟩
  | some ip => exact .inl ⟨ip, rfl, orText_some (lawful.printed ip).2.2⟩

/-- What the connector compares for a hop is the form of its host, or nothing. -/
theorem Hop.trustHost_dialled (lawful : net.Lawful) (hop : net.Hop url parsed host) :
    net.canonicalTrustHost (net.dialHost host) = [] ∨
      net.canonicalTrustHost (net.dialHost host) = net.canonicalHost host :=
  hop.trustHost lawful (.inl (lawful.dialled host).1)

private theorem Hop.trustHost_canonicalHost (lawful : net.Lawful) (hop : net.Hop url parsed host) :
    net.canonicalTrustHost (net.canonicalHost host) = [] ∨
      net.canonicalTrustHost (net.canonicalHost host) = net.canonicalHost host := by
  rcases hop.canonicalHost_eq lawful with ⟨ip, -, form⟩ | ⟨-, form⟩
  · have read : net.ipAddress (normalize (net.str ip)) = some ip := by
      rw [(lawful.printed ip).2.1, (lawful.printed ip).1]
    rw [form]
    exact canonicalTrustHost_address lawful read
  · have trusted := hop.trustHost lawful
      (.inr (show bare (normalize host) = normalize host from bare_normalize (hop.unbracketed lawful)))
    rwa [← form] at trusted

/-- A trusted connection is one to an endpoint of the policy, under the hop's host. -/
theorem Hop.endpoint (lawful : net.Lawful) (hop : net.Hop url parsed host)
    (named : ∀ endpoint ∈ policy.trustedConnectionEndpoints, endpoint.1 ≠ []) {port : Nat}
    (trusted : net.isConnectionTrusted policy (net.canonicalTrustHost (net.dialHost host)) port = true) :
    (net.canonicalHost host, port) ∈ policy.trustedConnectionEndpoints := by
  have member := of_decide_eq_true trusted
  rcases hop.trustHost_dialled lawful with blank | same
  · rw [blank, canonicalTrustHost_nil lawful] at member
    exact absurd rfl (named _ member)
  · rw [same] at member
    rcases hop.trustHost_canonicalHost lawful with blank | again
    · rw [blank] at member
      exact absurd rfl (named _ member)
    · rwa [again] at member

end Net

end OctoChannel.Transport
