import SocketRelay.Proofs.Net.Literal
import SocketRelay.Proofs.Udp.SessionTable

/-!
# Addresses as texts

Addresses travel through a relay as texts: the listener of a route, its target, and
the keys under which the sessions of clients are kept. Nothing is lost on the way
(`Route.addressTexts_exact`). The listener's text reads back as the listener; a
remote host that is the text of an IP address stands for that address and no other,
with or without the brackets that a colon needs; and a session is found for the
address and the port of its own client only.
-/

namespace SocketRelay

open Net Text

namespace Net.Endpoint

theorem text_of_inj {ip ip' : IpAddress} {p p' : UInt16} :
    (of ip p).text = (of ip' p').text ↔ ip = ip' ∧ p = p' := by
  have plain (ip : IpAddress) (p : UInt16) : (of ip p).withoutFlow = of ip p := by
    cases ip <;> rfl
  rw [text_eq_text_iff, plain, plain]
  constructor
  · intro same
    have ips := congrArg Endpoint.ip same
    have ports := congrArg Endpoint.port same
    rw [ip_of, ip_of] at ips
    rw [port_of, port_of] at ports
    exact ⟨ips, ports⟩
  · rintro ⟨rfl, rfl⟩
    rfl

/-- An endpoint with the text of an address and a port has this address and this port. -/
theorem eq_of_text_eq {e : Endpoint} {ip : IpAddress} {p : UInt16}
    (same : e.text = (of ip p).text) :
    e.ip = ip ∧ e.port = p := by
  have same := text_eq_text_iff.mp same
  cases e <;> cases ip <;> cases same <;> exact ⟨rfl, rfl⟩

end Net.Endpoint

namespace Route

variable {r : Route} {ip : IpAddress}

/-- The remote host is the text of an IP address, in brackets or not if it is one of IPv6. -/
def IsLiteral (r : Route) (ip : IpAddress) : Prop :=
  ∃ host, IpAddress.parse? host = some ip ∧
    (r.remoteHost = host ∨ ip.isV4 = false ∧ r.remoteHost = "[" ++ host ++ "]")

theorem hostChars_of_v4 {host : List Char} {ip : IPv4} (whole : IPv4.read host = some (ip, [])) :
    hostChars host = host := by
  have noColon : ':' ∉ host := (IPv4.read_endsAt (by decide) (by decide)).notMem whole
  rw [hostChars, if_neg fun h => noColon h.1]

theorem hostChars_of_v6 {host : List Char} {ip : IPv6} (whole : IPv6.read host = some (ip, [])) :
    hostChars host = '[' :: host ++ [']'] := by
  have noBracket : '[' ∉ host :=
    (IPv6.read_endsAt ⟨by decide, by decide, by decide⟩).notMem whole
  have bare : host.head? ≠ some '[' := fun h => noBracket (List.mem_of_mem_head? h)
  rw [hostChars, if_pos ⟨IPv6.colon_mem_of_read whole, bare⟩]

theorem hostChars_of_bracket (host : List Char) : hostChars ('[' :: host) = '[' :: host := by
  rw [hostChars, if_neg fun h => h.2 rfl]

theorem parse?_targetAddress (literal : r.IsLiteral ip) :
    Endpoint.parse? r.targetAddress = some (.of ip r.remotePort) := by
  obtain ⟨host, parsed, written⟩ := literal
  obtain ⟨v4, rfl, whole⟩ | ⟨v6, rfl, whole⟩ := IpAddress.parse?_eq_some parsed
  · obtain rfl : r.remoteHost = host := written.resolve_right fun h => by cases h.1
    rw [targetAddress, targetChars, hostChars_of_v4 whole]
    exact Endpoint.parse?_v4 whole r.remotePort
  · have bracketed : hostChars r.remoteHost.toList = '[' :: host.toList ++ [']'] := by
      rcases written with rfl | ⟨-, same⟩
      · exact hostChars_of_v6 whole
      · have chars : r.remoteHost.toList = '[' :: (host.toList ++ [']']) := by
          rw [same]
          simp
        rw [chars]
        exact hostChars_of_bracket _
    rw [targetAddress, targetChars, bracketed, List.append_assoc]
    exact Endpoint.parse?_v6 whole r.remotePort

theorem parse?_listenAddress (r : Route) :
    Endpoint.parse? r.listenAddress = some (.of r.bindAddress r.localPort) := by
  rw [listenAddress, listener, Endpoint.parse?_text]
  cases r.bindAddress <;> rfl

/-- What the addresses of a route stand for, whatever else can be looked up. -/
structure AddressTextsExact (r : Route) : Prop where
  listen : Endpoint.parse? r.listenAddress = some (.of r.bindAddress r.localPort)
  binds : ∀ d, resolve d r.listenAddress = .ok [.of r.bindAddress r.localPort]
  target : ∀ ip, r.IsLiteral ip → Endpoint.parse? r.targetAddress = some (.of ip r.remotePort)
  dials : ∀ ip, r.IsLiteral ip → ∀ d, resolve d r.targetAddress = .ok [.of ip r.remotePort]

theorem addressTexts_exact :
    (∀ r : Route, AddressTextsExact r) ∧
    (∀ ip : IpAddress, IpAddress.parse? ip.text = some ip) ∧
    (∀ (ip ip' : IpAddress) (p p' : UInt16),
      (Endpoint.of ip p).text = (Endpoint.of ip' p').text ↔ ip = ip' ∧ p = p') ∧
    ∀ (target : String) (settings : Udp.Settings) (began : Instant) (inputs : List Udp.Engine.Input)
      (ip : IpAddress) (p : UInt16) (s : Udp.Session),
      ((Udp.Engine.start target settings began).run inputs).session? (Endpoint.of ip p).text =
        some s → s.client.ip = ip ∧ s.client.port = p := by
  refine ⟨fun r => ⟨?_, ?_, ?_, ?_⟩, IpAddress.parse?_text, fun _ _ _ _ => Endpoint.text_of_inj, ?_⟩
  · exact parse?_listenAddress r
  · exact resolve_of_parse? (parse?_listenAddress r)
  · exact fun ip literal => parse?_targetAddress literal
  · exact fun ip literal => resolve_of_parse? (parse?_targetAddress literal)
  · intro target settings began inputs ip p s found
    have table := Udp.Engine.run_registered target settings began inputs
    exact Endpoint.eq_of_text_eq (table.text_of_session? found)

/-- The remote host is written in capital letters, with zeros in front and in brackets. -/
def spelledRoute : Route :=
  { protocol := .udp, localPort := 53, remoteHost := "[2001:DB8:0::0001]", remotePort := 53 }

def spelledAddress : IpAddress := .v6 ⟨[0x2001, 0xdb8, 0, 0, 0, 0, 0, 1], rfl⟩

def mappedClient : Endpoint := .of (.v6 ⟨[0, 0, 0, 0, 0, 0xffff, 0x0a00, 1], rfl⟩) 4001

def mappedInputs : List Udp.Engine.Input :=
  [.datagram (.ofMillis 1) ⟨.ok [.v4 ⟨192, 0, 2, 1⟩ 53], .ok ()⟩ ⟨mappedClient, [1]⟩]

theorem addressTexts_exact_spelled :
    (spelledAddress.text = "2001:db8::1" ∧ spelledRoute.IsLiteral spelledAddress ∧
      Endpoint.parse? spelledRoute.targetAddress = some (.of spelledAddress 53)) ∧
    mappedClient.text = "[::ffff:10.0.0.1]:4001" ∧
    ∃ s, ((Udp.Engine.start "example.net:53" {} .zero).run mappedInputs).session?
      mappedClient.text = some s ∧ s.client.ip = mappedClient.ip ∧ s.client.port = 4001 := by
  obtain ⟨routes, -, -, sessions⟩ := addressTexts_exact
  have literal : spelledRoute.IsLiteral spelledAddress :=
    ⟨"2001:DB8:0::0001", by decide +kernel, .inr ⟨rfl, by decide +kernel⟩⟩
  refine ⟨⟨by decide +kernel, literal, (routes spelledRoute).target _ literal⟩,
    by decide +kernel, ?_⟩
  have found : (((Udp.Engine.start "example.net:53" {} .zero).run mappedInputs).session?
      mappedClient.text).isSome = true := by decide +kernel
  obtain ⟨s, found⟩ := Option.isSome_iff_exists.mp found
  exact ⟨s, found, sessions _ _ _ _ _ _ s found⟩

end Route

end SocketRelay
