import MessageRelay.Net.Peer
import MessageRelay.Proofs.Text.Cutting

/-!
# What names a peer

A peer is named by a host and a port, `host:port`.  The host is everything before the last colon and may be anything;
the port is a number of sixteen bits, in any decimal notation.  From that one notation is made (`parse_host_port`),
which is the one in which endpoints are written.  What already is an endpoint is taken as it is, so that not every
endpoint can do without its protocol (`parse_eq_http`).
-/

namespace MessageRelay

namespace Peer

/-! ## Ports -/

/-- A text denotes a port: at least one decimal digit, perhaps with a plus sign in front, and a value of sixteen
bits. -/
def DenotesPort (d : String) (n : Nat) : Prop :=
  ∃ digits, (d.toList = digits ∨ d.toList = '+' :: digits) ∧ digits ≠ [] ∧ (∀ c ∈ digits, c.isDigit = true) ∧
    Nat.ofDigitChars 10 digits 0 = n ∧ n ≤ 65535

lemma isDigit_iff {c : Char} : c.isDigit = true ↔ '0' ≤ c ∧ c ≤ '9' := by
  simp [Char.isDigit, Char.le_def]

lemma decimal?_eq_some {value n : Nat} {cs : List Char} :
    decimal? value cs = some n ↔ (∀ c ∈ cs, c.isDigit = true) ∧ Nat.ofDigitChars 10 cs value = n := by
  induction cs generalizing value with
  | nil => simp [decimal?]
  | cons c rest ih =>
    rw [decimal?, List.forall_mem_cons, isDigit_iff, Nat.ofDigitChars_cons, Nat.mul_comm 10 value]
    by_cases hc : '0' ≤ c ∧ c ≤ '9'
    · rw [if_pos hc, ih]
      simp [hc]
    · simp [hc]

/-- Digits without a sign denote a port if there are some and their value is small enough. -/
lemma port?_digits {digits : List Char} {n : Nat} :
    (if digits.isEmpty then none else (decimal? 0 digits).filter (· < 65536)) = some n ↔
      digits ≠ [] ∧ (∀ c ∈ digits, c.isDigit = true) ∧ Nat.ofDigitChars 10 digits 0 = n ∧ n ≤ 65535 := by
  cases digits with
  | nil => simp
  | cons c rest =>
    have hport : n < 65536 ↔ n ≤ 65535 := Nat.lt_succ_iff
    simp [Option.filter_eq_some_iff, decimal?_eq_some, hport, and_assoc]

lemma port?_eq_some {d : String} {n : Nat} : port? d.toList = some n ↔ DenotesPort d n := by
  unfold port? DenotesPort
  split
  · next rest hd =>
    rw [port?_digits]
    constructor
    · intro h
      exact ⟨rest, .inr hd, h⟩
    · rintro ⟨digits, hsign | hsign, h⟩
      · -- the sign is no digit
        have hplus := h.2.1 '+' (by simp [← hsign, hd])
        simp at hplus
      · obtain rfl : rest = digits := by simpa [hd] using hsign
        exact h
  · next hd =>
    rw [port?_digits]
    constructor
    · intro h
      exact ⟨d.toList, .inl rfl, h⟩
    · rintro ⟨digits, rfl | hsign, h⟩
      · exact h
      · exact absurd hsign (hd digits)

/-- The decimal notation of a port denotes it. -/
lemma denotesPort_toString {n : Nat} (h : n ≤ 65535) : DenotesPort (toString n) n := by
  have hdigits : (toString n).toList = Nat.toDigits 10 n := Nat.toList_repr
  refine ⟨Nat.toDigits 10 n, .inl hdigits, Nat.toDigits_ne_nil, fun c hc => ?_, Nat.ofDigitChars_ten_toDigits, h⟩
  exact Nat.isDigit_of_mem_toDigits (by decide) (by decide) hc

/-- A text that denotes a port holds nothing but digits and perhaps a plus sign. -/
lemma DenotesPort.isDigit {d : String} {n : Nat} (h : DenotesPort d n) {c : Char} (hc : c ∈ d.toList) :
    c.isDigit = true ∨ c = '+' := by
  obtain ⟨digits, hd | hd, -, hdigits, -⟩ := h
  · exact .inl (hdigits c (hd ▸ hc))
  · rw [hd, List.mem_cons] at hc
    exact hc.symm.imp (hdigits c) id

lemma DenotesPort.le {d : String} {n : Nat} (h : DenotesPort d n) : n ≤ 65535 := by
  obtain ⟨-, -, -, -, -, hn⟩ := h
  exact hn

lemma DenotesPort.not_mem {d : String} {n : Nat} (h : DenotesPort d n) {c : Char} (hdigit : c.isDigit = false)
    (hplus : c ≠ '+') : c ∉ d.toList := by
  intro hc
  rcases h.isDigit hc with hc | hc
  · simp [hc] at hdigit
  · exact hplus hc

/-! ## Hosts and ports -/

/-- A text names a peer by a host and a port. -/
def Names (peer host : String) (n : Nat) : Prop :=
  ∃ d, peer = host ++ ":" ++ d ∧ host ≠ "" ∧ ':' ∉ d.toList ∧ DenotesPort d n

/-- The parts of a text around its last colon. -/
lemma cutLast?_colon {peer : String} {host port : List Char} : Text.cutLast? ':' peer.toList = some (host, port) ↔
    peer = String.ofList host ++ ":" ++ String.ofList port ∧ ':' ∉ port := by
  rw [Text.cutLast?_eq_some, String.ext_iff]
  simp

lemma parse_of_hasProtocol {peer : String} (h : hasProtocol peer = true) : parse peer = .ok peer := by
  rw [parse, if_pos h]

/-- A text that is no endpoint is taken for a peer just if it names one by a host and a port. -/
lemma parse_eq_ok {peer endpoint : String} (h : hasProtocol peer = false) : parse peer = .ok endpoint ↔
    ∃ host n, Names peer host n ∧ endpoint = Peer.endpoint host n := by
  rw [parse, if_neg (by simp [h])]
  constructor
  · intro hparse
    split at hparse
    · cases hparse
    · next host port hcut =>
      obtain ⟨hpeer, hcolon⟩ := cutLast?_colon.1 hcut
      split at hparse
      · cases hparse
      · next hhost =>
        split at hparse
        · cases hparse
        · next n hport =>
          cases hparse
          refine ⟨String.ofList host, n, ⟨String.ofList port, hpeer, ?_, by simpa using hcolon, ?_⟩, rfl⟩
          · simpa [String.ext_iff] using hhost
          · rw [← port?_eq_some, String.toList_ofList]
            exact hport
  · rintro ⟨host, n, ⟨d, rfl, hhost, hcolon, hport⟩, rfl⟩
    have hcut : Text.cutLast? ':' (host ++ ":" ++ d).toList = some (host.toList, d.toList) :=
      cutLast?_colon.2 ⟨by simp, hcolon⟩
    have hne : host.toList.isEmpty = false := by simpa using hhost
    simp only [hcut, hne, port?_eq_some.2 hport, String.ofList_toList, Bool.false_eq_true, if_false]

/-! ## Protocols -/

lemma hasProtocol_append {s : String} (h : hasProtocol s = true) (t : String) : hasProtocol (s ++ t) = true := by
  unfold hasProtocol at h ⊢
  rw [Bool.or_eq_true] at h ⊢
  exact h.imp (Text.startsWith_append · t) (Text.startsWith_append · t)

lemma hasProtocol_http (rest : String) : hasProtocol ("http://" ++ rest) = true :=
  hasProtocol_append (by decide) rest

lemma hasProtocol_endpoint (host : String) (n : Nat) : hasProtocol (endpoint host n) = true := by
  rw [endpoint, String.append_assoc, String.append_assoc]
  exact hasProtocol_http _

/-- The colon in front of a port is not the one of a protocol: no slash follows it. -/
lemma hasProtocol_host_port {host d : String} {n : Nat} (hd : DenotesPort d n) :
    hasProtocol (host ++ ":" ++ d) = hasProtocol host := by
  have hslash : '/' ∉ (":" ++ d).toList := by
    rw [String.toList_append, List.mem_append, not_or]
    exact ⟨by decide, hd.not_mem (by decide) (by decide)⟩
  unfold hasProtocol
  rw [String.append_assoc, Text.startsWith_append_of_not_mem (by decide) hslash,
    Text.startsWith_append_of_not_mem (by decide) hslash]

/-! ## Peers and endpoints -/

/-- A host and a port name the endpoint that is made of them. -/
lemma parse_host_port {host : String} {n : Nat} (hhost : host ≠ "") (hprotocol : hasProtocol host = false)
    (hn : n ≤ 65535) : parse (host ++ ":" ++ toString n) = .ok (endpoint host n) := by
  have hport := denotesPort_toString hn
  rw [parse_eq_ok (by rw [hasProtocol_host_port hport, hprotocol])]
  exact ⟨host, n, ⟨toString n, rfl, hhost, hport.not_mem (by decide) (by decide), hport⟩, rfl⟩

lemma endpoint_eq_http (host : String) (n : Nat) : endpoint host n = "http://" ++ (host ++ ":" ++ toString n) := by
  simp only [endpoint, String.append_assoc]

/-- What stands behind the protocol of an endpoint names the same peer just if it is a host and a port, in the notation
in which endpoints are written. -/
lemma parse_eq_http {rest : String} : parse rest = .ok ("http://" ++ rest) ↔
    ∃ host n, rest = host ++ ":" ++ toString n ∧ host ≠ "" ∧ hasProtocol host = false ∧ n ≤ 65535 := by
  constructor
  · intro h
    cases hrest : hasProtocol rest with
    | true =>
      -- a text is not longer than itself
      rw [parse_of_hasProtocol hrest, Except.ok.injEq] at h
      have hlength := congrArg String.length h
      simp at hlength
    | false =>
      obtain ⟨host, n, ⟨d, hpeer, hhost, -, hport⟩, hendpoint⟩ := (parse_eq_ok hrest).1 h
      rw [endpoint_eq_http, String.append_right_inj] at hendpoint
      refine ⟨host, n, hendpoint, hhost, ?_, ?_⟩
      · rwa [hpeer, hasProtocol_host_port hport] at hrest
      · exact hport.le
  · rintro ⟨host, n, rfl, hhost, hprotocol, hn⟩
    rw [parse_host_port hhost hprotocol hn, endpoint_eq_http]

/-- **Peers are named by a host and a port.**  A text that does not begin with a protocol names a peer just if it is
`host:d`, where the host is not empty and `d` denotes a port.  It then names the endpoint of that host and that port,
and so does what stands behind the protocol of this endpoint.  A text that begins with a protocol names itself, so that
whatever is named names itself, too; but without its protocol it does so only if a host and a port are left, in the
notation in which endpoints are written.  Every host without a protocol has an endpoint at every port, and `host:port`
names it. -/
theorem peers_are_normalised :
    (∀ peer, hasProtocol peer = false → ∀ named, parse peer = .ok named ↔
      ∃ host n, Names peer host n ∧ named = "http://" ++ host ++ ":" ++ toString n) ∧
    (∀ peer, hasProtocol peer = true → parse peer = .ok peer) ∧
    (∀ peer named, parse peer = .ok named → parse named = .ok named) ∧
    (∀ peer named, hasProtocol peer = false → parse peer = .ok named →
      ∃ rest, named = "http://" ++ rest ∧ parse rest = .ok named) ∧
    (∀ rest, parse rest = .ok ("http://" ++ rest) ↔
      ∃ host n, rest = host ++ ":" ++ toString n ∧ host ≠ "" ∧ hasProtocol host = false ∧ n ≤ 65535) ∧
    ∀ (host : String) (port : UInt16), host ≠ "" → hasProtocol host = false →
      parse (host ++ ":" ++ toString port.toNat) = .ok (endpoint host port.toNat) := by
  refine ⟨fun peer hpeer named => parse_eq_ok hpeer, fun peer => parse_of_hasProtocol, fun peer named h => ?_,
    fun peer named hpeer h => ?_, fun rest => parse_eq_http, fun host port hhost hprotocol => ?_⟩
  · cases hpeer : hasProtocol peer with
    | true =>
      obtain rfl : peer = named := by simpa [parse_of_hasProtocol hpeer] using h
      exact h
    | false =>
      obtain ⟨host, n, -, rfl⟩ := (parse_eq_ok hpeer).1 h
      exact parse_of_hasProtocol (hasProtocol_endpoint host n)
  · obtain ⟨host, n, ⟨d, rfl, hhost, -, hport⟩, rfl⟩ := (parse_eq_ok hpeer).1 h
    rw [hasProtocol_host_port hport] at hpeer
    rw [endpoint_eq_http]
    exact ⟨_, rfl, parse_eq_http.2 ⟨host, n, rfl, hhost, hpeer, hport.le⟩⟩
  · exact parse_host_port hhost hprotocol (Nat.le_of_lt_succ port.toNat_lt)

/-- A host with colons, and a port with a sign and zeros in front. -/
theorem peers_are_normalised_colons :
    let named := "http://" ++ "::1" ++ ":" ++ toString 80
    parse "::1:+0080" = .ok named ∧ parse named = .ok named ∧
      (∃ rest, named = "http://" ++ rest ∧ parse rest = .ok named) ∧
      parse ("::1" ++ ":" ++ toString (UInt16.toNat 80)) = .ok (endpoint "::1" (UInt16.toNat 80)) := by
  obtain ⟨hparse, -, hagain, hrest, -, hport⟩ := peers_are_normalised
  intro named
  have hprotocol : hasProtocol "::1:+0080" = false := by decide
  have hdenotes : DenotesPort "+0080" 80 := port?_eq_some.1 (by decide)
  have hnamed : parse "::1:+0080" = .ok named :=
    (hparse _ hprotocol named).2 ⟨"::1", 80, ⟨"+0080", by decide, by decide, by decide, hdenotes⟩, rfl⟩
  exact ⟨hnamed, hagain _ _ hnamed, hrest _ _ hprotocol hnamed, hport "::1" 80 (by decide) (by decide)⟩

/-- An endpoint without a port names a peer, but without its protocol it names none. -/
theorem endpoint_without_protocol :
    parse ("http://" ++ "peer.local") = .ok ("http://" ++ "peer.local") ∧
      parse "peer.local" ≠ .ok ("http://" ++ "peer.local") := by
  decide

end Peer

end MessageRelay
