import EchoInjector.Program
import EchoInjector.Proofs.Run.Exactness
import EchoInjector.Proofs.Run.Failures

/-!
# What is shown and what is sent

A plan can be shown instead of carried out, and then the host is not asked for anything. What is
shown is the packet that would be sent, with one reservation: the sender of a frame that the probe
leaves open is known to the interface only, and zero is shown for it. `Plan.Matches` says how far a
packet that was sent, and its summary, may differ from what is shown: in the six octets of the
sender, and only if the sender is not **settled** without the host. The sender's address is in no
checksum, so these are the same.

The two also fail alike. The only thing that can be wrong with a packet is that its payload is too
long, and a run that gets as far as crafting then fails for the same reason.
-/

namespace EchoInjector

open Wire

/-! ### Frames with different senders -/

namespace Probe

variable {p : Probe} {m m' : Mac}

/-- The supplied address is in the frame only as the sender. -/
theorem frameOctets_congr (h : p.srcMac.getD m = p.srcMac.getD m') :
    p.frameOctets m = p.frameOctets m' := by
  rw [frameOctets, frameOctets, linkHeader, linkHeader, h]

/-- Two frames of a probe agree outside the place of the sender. -/
theorem getElem?_frameOctets_congr {i : Nat} (h : i < 6 ∨ 12 ≤ i) :
    (p.frameOctets m)[i]? = (p.frameOctets m')[i]? := by
  have hframe : ∀ m, p.frameOctets m = p.dstMac.octets ++ (p.srcMac.getD m).octets
      ++ (wordOctets Packet.Ethernet.ipv4Type ++ p.datagramOctets) := by
    intro m
    simp only [frameOctets, linkHeader, List.append_assoc]
  have hlength : ∀ m, (p.dstMac.octets ++ (p.srcMac.getD m).octets).length = 12 := fun _ => rfl
  rw [hframe m, hframe m']
  rcases h with hbefore | hbehind
  · rw [List.append_assoc, List.append_assoc, List.getElem?_append_left hbefore,
      List.getElem?_append_left hbefore]
  · rw [List.getElem?_append_right ((hlength m).trans_le hbehind),
      List.getElem?_append_right ((hlength m').trans_le hbehind), hlength, hlength]

/-- The summaries of two frames of a probe agree but for the sender. -/
theorem framed_frameOctets_congr (s : Summary) :
    s.framed (p.frameOctets m)
      = { s.framed (p.frameOctets m') with ethSrc := (s.framed (p.frameOctets m)).ethSrc } := by
  have hlength : (p.frameOctets m).length = (p.frameOctets m').length := by
    rw [length_frameOctets, length_frameOctets]
  simp only [Summary.framed, hlength]
  rfl

end Probe

namespace Plan

/-! ### Shown and sent -/

/-- The sender of a plan's packets is **settled** without the host: a datagram has none, the probe
names it, or the interface has no address of its own to fill in. -/
def SenderSettled (p : Plan) (h : Host) : Prop :=
  p.mode = .layer3 ∨ (∃ m, p.probe.srcMac = some m) ∨
    ∀ i, p.chosen? h = some i → i.mac = none ∨ i.mac = some .zero

/-- A packet that a plan sends on a host, with its summary, **matches** the one that is shown. -/
structure Matches (p : Plan) (h : Host) (sent : Octets) (s : Summary) (shown : Octets)
    (t : Summary) : Prop where
  /-- They have the same length. -/
  length : sent.length = shown.length
  /-- They agree outside the place of the sender's link-layer address. -/
  octets : ∀ i, i < 6 ∨ 12 ≤ i → sent[i]? = shown[i]?
  /-- The summaries agree but for that address. -/
  summary : s = { t with ethSrc := s.ethSrc }
  /-- There is no difference at all if the sender is settled. -/
  settled : p.SenderSettled h → sent = shown ∧ s = t

/-- The packet that is shown, with its summary. -/
def shown (p : Plan) : Except Failure (Octets × Summary) := p.craft (p.probe.srcMac.getD .zero)

/-- How a plan's packet that is **shown** goes together with carrying out the plan on a host, with
some effect. -/
structure Preview (p : Plan) (h : Host) (effect : Effect Host Report) : Prop where
  /-- There is no packet to show exactly if the payload is beyond the limit. -/
  fails : ∀ e, p.shown = .error e ↔
    65507 < p.probe.payload.length ∧ e = .payloadTooLarge p.probe.payload.length
  /-- A run that gets as far as crafting then fails for the same reason. -/
  alike : ∀ e, p.shown = .error e → p.mode = .layer3 ∨ p.unknownInterface? h = none →
    effect.result = .error e
  /-- Whatever the run sends matches what is shown. -/
  packets : ∃ sent, effect.state.accepted.toList = h.accepted.toList ++ sent ∧
    ∀ packet ∈ sent, ∃ s g t, p.Sends h packet.route packet.octets s ∧ p.shown = .ok (g, t) ∧
      p.Matches h packet.octets s g t
  /-- The summary that the run reports matches what is shown. -/
  report : ∀ r, effect.result = .ok r → ∃ route wire g t, p.Sends h route wire r.frame ∧
    p.shown = .ok (g, t) ∧ p.Matches h wire r.frame g t

theorem shown_eq_error_iff {p : Plan} {e : Failure} :
    p.shown = .error e ↔
      65507 < p.probe.payload.length ∧ e = .payloadTooLarge p.probe.payload.length := by
  rw [shown]
  rcases Nat.lt_or_ge 65507 p.probe.payload.length with hlong | hp
  · rw [craft_of_lt hlong]
    simp [hlong, eq_comm]
  · obtain ⟨crafted, hcraft⟩ := exists_craft hp (p.probe.srcMac.getD .zero)
    rw [hcraft]
    simp [Nat.not_lt.mpr hp]

/-- A payload beyond the limit is the hurdle of a run that gets as far as crafting. -/
theorem firstHurdle?_of_lt {p : Plan} {h : Host} (hlong : 65507 < p.probe.payload.length)
    (hreached : p.mode = .layer3 ∨ p.unknownInterface? h = none) :
    p.firstHurdle? h = some (.payloadTooLarge p.probe.payload.length) := by
  have hoversized : p.oversized? = some (.payloadTooLarge p.probe.payload.length) :=
    if_neg (Nat.not_le.mpr hlong)
  cases hmode : p.mode with
  | layer3 => rw [firstHurdle?_layer3 hmode, hoversized, Option.some_or]
  | layer2 =>
    have hknown := hreached.resolve_left (by rw [hmode]; exact Mode.noConfusion)
    rw [firstHurdle?_layer2 hmode, hknown, hoversized, Option.none_or, Option.some_or]

/-- **What a plan sends matches what is shown.** -/
theorem Sends.matches_shown {p : Plan} {h : Host} {route : Route} {wire : Octets} {s : Summary}
    (hsends : p.Sends h route wire s) :
    ∃ g t, p.shown = .ok (g, t) ∧ p.Matches h wire s g t := by
  cases hsends with
  | @frame i wire s mode chosen built _ read =>
    obtain ⟨hp, rfl⟩ := Probe.frame_eq_ok_iff.mp built
    cases (Probe.ofFrame_frameOctets hp _).symm.trans read
    refine ⟨_, _, craft_layer2 mode hp _, ⟨?_, ?_, ?_, ?_⟩⟩
    case refine_1 => rw [Probe.length_frameOctets, Probe.length_frameOctets]
    case refine_2 => exact fun i hi => Probe.getElem?_frameOctets_congr hi
    case refine_3 => exact Probe.framed_frameOctets_congr _
    case refine_4 =>
      intro hsettled
      have hsender : p.probe.srcMac.getD (i.mac.getD .zero)
          = p.probe.srcMac.getD (p.probe.srcMac.getD .zero) := by
        rcases hsettled with hlayer3 | ⟨m, hm⟩ | hzero
        · cases mode.symm.trans hlayer3
        · rw [hm]
          rfl
        · obtain hmac | hmac := hzero i chosen <;> rw [hmac] <;> cases p.probe.srcMac <;> rfl
      rw [Probe.frameOctets_congr hsender]
      exact ⟨rfl, rfl⟩
  | datagram mode built _ read =>
    obtain ⟨hp, rfl⟩ := Probe.datagram_eq_ok_iff.mp built
    cases (Probe.ofDatagram_datagramOctets hp).symm.trans read
    exact ⟨_, _, craft_layer3 mode hp _, ⟨rfl, fun _ _ => rfl, rfl, fun _ => ⟨rfl, rfl⟩⟩⟩

/-- A run that succeeds reports the summary of the plan's packet, and how often the host has accepted
it. -/
theorem accepted_of_run_ok {p : Plan} {quiet : Nat} {h : Host} {r : Report}
    (hr : ((p.run quiet).run h).result = .ok r) :
    ∃ route wire, p.Sends h route wire r.frame ∧
      ((p.run quiet).run h).state.accepted.toList
        = h.accepted.toList ++ List.replicate r.sent ⟨route, wire⟩ := by
  cases hfirst : p.firstHurdle? h with
  | some e => cases hr.symm.trans (run_of_hurdle hfirst quiet).1
  | none =>
    obtain ⟨l, wire, s, hsends, hresult, hstate⟩ := run_of_clear hfirst quiet
    cases hsent : ((Transmission.send l.describe (deliver l) wire p.count.toNat p.interval.toNat
        quiet).run h).result with
    | error e =>
      rw [hr, hsent] at hresult
      cases hresult
    | ok t =>
      rw [hr, hsent] at hresult
      cases hresult
      obtain ⟨haccepted, -⟩ := send_eq_ok (Action.run_of_result hsent)
      exact ⟨l.route, wire, hsends, by rw [hstate]; exact haccepted⟩

theorem sends_of_run_ok {p : Plan} {quiet : Nat} {h : Host} {r : Report}
    (hr : ((p.run quiet).run h).result = .ok r) :
    ∃ route wire, p.Sends h route wire r.frame := by
  obtain ⟨route, wire, hsends, -⟩ := accepted_of_run_ok hr
  exact ⟨route, wire, hsends⟩

/-- Everything that a run sends is the plan's packet. -/
theorem exists_sent (p : Plan) (quiet : Nat) (h : Host) :
    ∃ sent, ((p.run quiet).run h).state.accepted.toList = h.accepted.toList ++ sent ∧
      ∀ packet ∈ sent, ∃ s, p.Sends h packet.route packet.octets s := by
  cases hfirst : p.firstHurdle? h with
  | some e =>
    refine ⟨[], ?_, by simp⟩
    rw [(run_of_hurdle hfirst quiet).2, List.append_nil]
  | none =>
    obtain ⟨l, wire, s, hsends, -, hstate⟩ := run_of_clear hfirst quiet
    obtain ⟨n, haccepted⟩ := exists_accepted l wire p.count.toNat p.interval.toNat quiet h
    refine ⟨_, by rw [hstate]; exact haccepted, fun packet hpacket => ?_⟩
    obtain rfl := List.eq_of_mem_replicate hpacket
    exact ⟨s, hsends⟩

end Plan

/-! ### The program -/

namespace Program

open CommandLine

/-- **To show a packet is to leave the host alone**: on all hosts the same is printed, with the same
exit status. -/
theorem run_dryRun {i : Invocation} {a : Arguments} (hparse : parse i.arguments i.env = .ok a)
    (hdry : a.plan.dryRun = true) :
    ∃ logged, ∀ h, run i h = match a.plan.shown with
      | .ok (wire, s) => ⟨0, showText a.plan wire s, logged, h⟩
      | .error e => ⟨1, "", logged ++ failureText showContext e, h⟩ := by
  have hrun : ∀ h, run i h = carryOut (quiet i a.plan h) i a h := fun h => by
    rw [run, runUnder, hparse]
  have hperform : ∀ q h, perform q a.plan h
      = ⟨a.plan.shown.map fun crafted => showText a.plan crafted.1 crafted.2, h, []⟩ := by
    intro q h
    rw [perform, hdry]
    rfl
  have hcontext : context a.plan = showContext := by rw [context, hdry]; rfl
  simp only [hrun, carryOut, hperform, hcontext]
  cases a.plan.shown with
  | error e => exact ⟨_, fun h => rfl⟩
  | ok crafted => exact ⟨_, fun h => rfl⟩

end Program

namespace Plan

open CommandLine

/-- **What is shown is what is sent.** For every plan, every schedule of the stop flag and every
host: the packet that is shown goes together with the run. And an invocation whose arguments ask for
the packet to be shown prints the same and ends with the same status on every host, which it leaves
alone; it ends with success exactly if there is a packet. -/
theorem shown_is_sent (p : Plan) (quiet : Nat) (h : Host) :
    p.Preview h ((p.run quiet).run h) ∧
      ∀ (i : Program.Invocation) (a : Arguments), parse i.arguments i.env = .ok a → a.plan = p →
        p.dryRun = true → ∃ logged, ∀ host, Program.run i host = match p.shown with
          | .ok (wire, s) => ⟨0, Program.showText p wire s, logged, host⟩
          | .error e => ⟨1, "", logged ++ Program.failureText Program.showContext e, host⟩ := by
  constructor
  · constructor
    case fails =>
      intro e
      exact shown_eq_error_iff
    case alike =>
      intro e hshown hreached
      obtain ⟨hlong, rfl⟩ := shown_eq_error_iff.mp hshown
      exact (run_of_hurdle (firstHurdle?_of_lt hlong hreached) quiet).1
    case packets =>
      obtain ⟨sent, haccepted, hsent⟩ := exists_sent p quiet h
      refine ⟨sent, haccepted, fun packet hpacket => ?_⟩
      obtain ⟨s, hsends⟩ := hsent packet hpacket
      obtain ⟨g, t, hshown, hmatches⟩ := hsends.matches_shown
      exact ⟨s, g, t, hsends, hshown, hmatches⟩
    case report =>
      intro r hr
      obtain ⟨route, wire, hsends⟩ := sends_of_run_ok hr
      obtain ⟨g, t, hshown, hmatches⟩ := hsends.matches_shown
      exact ⟨route, wire, g, t, hsends, hshown, hmatches⟩
  · rintro i a hparse rfl hdry
    exact Program.run_dryRun hparse hdry

/-- The probe leaves the sender open, and the interface has an address: the frame that is sent is
not the one that is shown, and yet it matches. -/
theorem shown_is_sent_of_open_sender :
    let p : Plan := {}
    let h : Host :=
      { entries := [{ name := "tun0", index := 7, mac := some ⟨2, 0, 0, 0, 0, 1⟩, flags := 1 }] }
    ∃ packet s g t, ((p.run 25).run h).state.accepted.toList = [packet] ∧
      p.Sends h packet.route packet.octets s ∧ p.shown = .ok (g, t) ∧
      p.Matches h packet.octets s g t ∧ packet.octets ≠ g := by
  intro p h
  obtain ⟨⟨-, -, ⟨sent, haccepted, hsent⟩, -⟩, -⟩ := shown_is_sent p 25 h
  have hlast : ((p.run 25).run h).state.accepted.toList.map (·.octets[11]?) = [some 1] := by
    decide +kernel
  have hzero : p.shown.toOption.map (·.1[11]?) = some (some 0) := by decide +kernel
  rw [haccepted] at hlast
  obtain ⟨packet, rfl, hone⟩ := List.map_eq_singleton_iff.mp hlast
  obtain ⟨s, g, t, hsends, hshown, hmatches⟩ := hsent packet (List.mem_singleton_self packet)
  refine ⟨packet, s, g, t, haccepted, hsends, hshown, hmatches, ?_⟩
  rintro rfl
  rw [hshown] at hzero
  cases hone.symm.trans (Option.some.inj hzero)

end Plan

end EchoInjector
