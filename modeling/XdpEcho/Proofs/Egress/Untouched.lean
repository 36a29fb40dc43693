import XdpEcho.Proofs.Egress.Outcomes
import XdpEcho.Proofs.Packet.InPlace

/-!
# What is left of a packet whose frame is given back

A processor may change a packet in its frame and then give the frame back. That does no harm when a copy of the packet has
gone out by then. When none has, the packet is meant to be as it was.

* `EchoReply.ne_of_ipv4_eq_ok` — a packet that is answered is changed.
* `Processor.Spares` — what a processor owes to a packet.
* `Processor.spares_responder`, `Processor.spares_iff` — answering in place always pays it, and answering out of a link
  does except for the requests whose reply the link refuses.
-/

namespace XdpEcho

variable {σ ω κ : Type} {packet reply : Bytes}

/-- A reply is never its own request: it is of another type. -/
theorem EchoReply.ne_of_ipv4_eq_ok (answered : ipv4 packet = .ok reply) : reply ≠ packet := by
  obtain ⟨ethernet, ip, icmp, payload, request, rfl⟩ := ipv4_eq_ok_iff.mp answered
  intro same
  rw [request.packet_eq, List.append_assoc, List.append_assoc] at same
  obtain ⟨-, same⟩ := List.append_inj same (by rw [Ethernet.length_encode, Ethernet.length_encode])
  obtain ⟨-, same⟩ := List.append_inj same (by rw [Ipv4.length_encode, Ipv4.length_encode, Ipv4.swapAddresses])
  have kind : Icmp.echoReply = icmp.kind := (List.cons.inj same).1
  rw [request.kind] at kind
  cases kind

namespace Processor

/-- What a processor owes to a packet: when its frame is given back and no frame has gone out of the link meanwhile, the
packet is as it was. -/
def Spares (p : Processor σ (Tapped κ)) (packet : Bytes) (state : σ) (env : Env (Tapped κ)) : Prop :=
  (p.process packet state env).1 = .drop →
    copies (p.process packet state env).2.2.2.world.calls = copies env.world.calls →
      (p.process packet state env).2.1 = packet

/-- A processor that answers in place gives a frame back only when it has not changed the packet. -/
theorem spares_responder (name : String) (reply : Bytes → Except DropReason Bytes) (packet : Bytes) (state : σ)
    (env : Env (Tapped κ)) : (responder name reply).Spares packet state env := by
  simp only [Spares, responder, respond]
  cases reply packet with
  | ok answer =>
    intro dropped
    cases dropped
  | error reason => exact fun _ _ => rfl

theorem spares_egress_of_error (link : Link κ) {reason : DropReason} (refused : EchoReply.ipv4 packet = .error reason)
    (failures : UInt64) (env : Env (Tapped κ)) : (egress link.send).Spares packet failures env := by
  rw [Spares, egress_of_error refused]
  exact fun _ _ => rfl

/-- A packet that is answered is changed, so what it is owed is that its reply goes out. -/
theorem spares_egress_iff_of_ok (link : Link κ) (answered : EchoReply.ipv4 packet = .ok reply) (failures : UInt64)
    (env : Env (Tapped κ)) :
    (egress link.send).Spares packet failures env ↔ ∀ error, (link reply env.world.link).1 ≠ .error error := by
  have changed := EchoReply.ne_of_ipv4_eq_ok answered
  obtain ⟨env', processed, world, -⟩ := egress_of_ok link answered failures env
  rw [Spares, processed, world]
  dsimp only
  rw [copies_append]
  cases result : (link reply env.world.link).1 with
  | ok sent =>
    -- The record has grown, so there is nothing to show.
    refine ⟨fun _ _ => nofun, fun _ _ same => ?_⟩
    have length := congrArg List.length same
    rw [List.length_append] at length
    exact absurd length (by simp [copies, Except.isOk, Except.toBool])
  | error error =>
    refine ⟨fun spares => absurd (spares rfl (List.append_nil _)) changed, fun sends => ?_⟩
    exact absurd rfl (sends error)

open EchoReply in
/-- Who leaves alone a packet that is not sent. The processor that answers out of a link gives every frame back. Whatever
the link, its state and what it returns, the packet is then as it was, or a copy of it has gone out, with one exception:
when the packet is an echo request and the link refuses the reply to it. In that case the packet has been turned around
for nothing, and the reply is left in its place. -/
theorem spares_iff (link : Link κ) (packet : Bytes) (failures : UInt64) (env : Env (Tapped κ)) :
    ((egress link.send).process packet failures env).1 = .drop ∧
      ((egress link.send).Spares packet failures env ↔
        ¬ (AsksOverIpv4 packet ∧
          ∃ error, (link (turned 26 4 (ipv4MessageStart packet) 0 packet) env.world.link).1 = .error error)) ∧
      (AsksOverIpv4 packet →
        ((egress link.send).process packet failures env).2.1 = turned 26 4 (ipv4MessageStart packet) 0 packet ∧
          turned 26 4 (ipv4MessageStart packet) 0 packet ≠ packet) := by
  refine ⟨drops_egress packet failures env, ?_, fun asks => ?_⟩
  · by_cases asks : AsksOverIpv4 packet
    · rw [spares_egress_iff_of_ok link (ipv4_eq_ok_iff_asks.mpr ⟨asks, rfl⟩), ← not_exists]
      exact not_congr (and_iff_right asks).symm
    · refine iff_of_true ?_ fun both => asks both.1
      cases refused : ipv4 packet with
      | error reason => exact spares_egress_of_error link refused failures env
      | ok reply => exact absurd (ipv4_eq_ok_iff_asks.mp refused).1 asks
  · have answered := ipv4_eq_ok_iff_asks.mpr ⟨asks, rfl⟩
    obtain ⟨env', processed, -⟩ := egress_of_ok link answered failures env
    rw [processed]
    exact ⟨rfl, ne_of_ipv4_eq_ok answered⟩

open EchoReply in
/-- An echo request whose reply is refused by a link that is down: its frame is given back, nothing has gone out, and the
packet is not what it was. -/
theorem spares_no_refused_request :
    let request : Bytes := [2, 0, 0, 0, 0, 1, 2, 0, 0, 0, 0, 2, 8, 0,
      0x45, 0, 0, 28, 0, 0, 0, 0, 64, 1, 0, 0, 10, 0, 0, 1, 10, 0, 0, 2, 8, 0, 0xf7, 0xfe, 0, 0, 0, 1]
    let down : Link Unit := fun _ link => (.error (.custom "link down"), link)
    let env : Env (Tapped Unit) := Env.blank ⟨(), []⟩
    let result := (egress down.send).process request 0 env
    result.1 = .drop ∧ copies result.2.2.2.world.calls = [] ∧ result.2.1 ≠ request ∧
      ¬ (egress down.send).Spares request 0 env := by
  intro request down env result
  have asks : AsksOverIpv4 request :=
    ⟨by decide, by decide, by decide, by decide, by decide, by decide⟩
  obtain ⟨dropped, spares, turnedAround⟩ := spares_iff down request 0 env
  obtain ⟨left, changed⟩ := turnedAround asks
  refine ⟨dropped, by decide +kernel, ?_, fun spared => spares.mp spared ⟨asks, .custom "link down", rfl⟩⟩
  exact fun same => changed (left.symm.trans same)

end Processor

end XdpEcho
