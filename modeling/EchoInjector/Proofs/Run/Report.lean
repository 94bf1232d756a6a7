import EchoInjector.Proofs.Run.Crafting
import EchoInjector.Proofs.Run.Delivery

/-!
# What a report is worth

A run that succeeds ends with a report, and the report is true: it gives the number of packets
that the host has accepted, and the summary of the one packet that all of them are.

* **Preparation** decides what is sent. `Plan.Sends` lists for both modes which octets go out on
  which route, and what their summary says. The destination of a datagram stands in two places,
  in the link and in the packet; both are the probe's.
* **The loop** decides how often. It is known from `Plan.send_eq_ok`.

Only the loop has an effect on the host, so what was prepared for the host in the beginning is
what the host is given.
-/

namespace EchoInjector

open Wire Packet

/-! ### Steps without an effect on the host -/

/-- The chosen interface is the first one of the name. -/
theorem Interface.choose_eq_ok {σ : Type} {name : String} {interfaces : List Interface}
    {i : Interface} {s s' : σ} {log : List Log.Record}
    (hchoose : (choose name interfaces).run s = ⟨.ok i, s', log⟩) :
    interfaces.find? (·.name = name) = some i ∧ s' = s := by
  rw [choose] at hchoose
  split at hchoose
  case h_1 found hfound =>
    obtain ⟨_, hdone, -⟩ := Action.run_say_bind_eq_ok_iff.mp hchoose
    cases hdone
    exact ⟨hfound, rfl⟩
  case h_2 => cases hchoose

/-- A link through an interface has the interface's index. -/
theorem Link.openEthernet_eq_ok {i : Interface} {l : Link} {h h' : Host} {log : List Log.Record}
    (hopen : (openEthernet i).run h = ⟨.ok l, h', log⟩) :
    l = .ethernet i.name i.index ∧ h' = h := by
  rw [openEthernet] at hopen
  split at hopen
  case isTrue =>
    rw [Action.run_get_bind] at hopen
    split at hopen
    · cases hopen
    · obtain ⟨_, hdone, -⟩ := Action.run_say_bind_eq_ok_iff.mp hopen
      cases hdone
      exact ⟨rfl, rfl⟩
  case isFalse => cases hopen

/-- A link to an address leads to that address. -/
theorem Link.openIPv4_eq_ok {dst : IPv4} {l : Link} {h h' : Host} {log : List Log.Record}
    (hopen : (openIPv4 dst).run h = ⟨.ok l, h', log⟩) : l = .ipv4 dst ∧ h' = h := by
  rw [openIPv4, Action.run_get_bind] at hopen
  split at hopen
  · cases hopen
  · obtain ⟨_, hdone, -⟩ := Action.run_say_bind_eq_ok_iff.mp hopen
    cases hdone
    exact ⟨rfl, rfl⟩

namespace Plan

/-- A warning is only a record. -/
theorem warnUnprivileged_eq_ok {h h' : Host} {u : Unit} {log : List Log.Record}
    (hwarn : warnUnprivileged.run h = ⟨.ok u, h', log⟩) : h' = h := by
  rw [warnUnprivileged, Action.run_get_bind] at hwarn
  split at hwarn
  · cases hwarn
    rfl
  · cases hwarn
    rfl

/-! ### What is sent -/

/-- What a plan **sends** on a host: the octets, the route they take, and their summary. -/
inductive Sends (p : Plan) (h : Host) : Route → Octets → Summary → Prop
  /-- A frame goes out through the first interface of the plan's name. Its sender is the probe's,
  or else the interface's, or else zero. -/
  | frame {i : Interface} {wire : Octets} {s : Summary} (mode : p.mode = .layer2)
      (chosen : h.interfaces.find? (·.name = p.iface) = some i)
      (built : p.probe.frame (i.mac.getD .zero) = .ok wire)
      (source : Ethernet.source wire = p.probe.srcMac.getD (i.mac.getD .zero))
      (read : Summary.ofFrame wire = .ok s) (tells : s.Tells p.probe)
      (link : s.TellsLink p.probe.dstMac (p.probe.srcMac.getD (i.mac.getD .zero))) :
      Sends p h (.interface i.index) wire s
  /-- A datagram goes to the probe's destination, and that is also the destination in it. -/
  | datagram {wire : Octets} {s : Summary} (mode : p.mode = .layer3)
      (built : p.probe.datagram = .ok wire)
      (destination : slice wire 16 20 = p.probe.dst.octets)
      (read : Summary.ofDatagram wire = .ok s) (tells : s.Tells p.probe)
      (link : s.TellsNoLink) :
      Sends p h (.address p.probe.dst) wire s

/-- A frame is crafted from the probe and read back. -/
theorem sends_of_craft_layer2 {p : Plan} {h : Host} {i : Interface} {wire : Octets} {s : Summary}
    (hmode : p.mode = .layer2) (hchosen : h.interfaces.find? (·.name = p.iface) = some i)
    (hcraft : p.craft i.sourceMac = .ok (wire, s)) : p.Sends h (.interface i.index) wire s := by
  have hp := le_of_craft hcraft
  rw [craft_layer2 hmode hp] at hcraft
  cases hcraft
  exact .frame hmode hchosen (Probe.frame_eq_ok hp _) (Probe.source_linkHeader _ _ _)
    (Probe.ofFrame_frameOctets hp _) ((Probe.tells_datagramOctets hp).framed _)
    (Probe.tellsLink_framed _ _ _ _)

/-- A datagram is crafted from the probe and read back. -/
theorem sends_of_craft_layer3 {p : Plan} {h : Host} {m : Mac} {wire : Octets} {s : Summary}
    (hmode : p.mode = .layer3) (hcraft : p.craft m = .ok (wire, s)) :
    p.Sends h (.address p.probe.dst) wire s := by
  have hp := le_of_craft hcraft
  rw [craft_layer3 hmode hp] at hcraft
  cases hcraft
  exact .datagram hmode (Probe.datagram_eq_ok hp) rfl (Probe.ofDatagram_datagramOctets hp)
    (Probe.tells_datagramOctets hp) ⟨rfl, rfl, rfl⟩

/-- **Preparation settles what is sent**, and leaves the host as it is. -/
theorem prepare_eq_ok {p : Plan} {h h' : Host} {l : Link} {wire : Octets} {s : Summary}
    {log : List Log.Record} (hprepare : p.prepare.run h = ⟨.ok (l, wire, s), h', log⟩) :
    p.Sends h l.route wire s ∧ h' = h := by
  cases hmode : p.mode with
  | layer2 =>
    simp only [prepare, hmode] at hprepare
    rw [Action.run_get_bind] at hprepare
    obtain ⟨i, _, _, _, hchoose, hbuild, -⟩ := Action.run_bind_eq_ok_iff.mp hprepare
    obtain ⟨hchosen, rfl⟩ := Interface.choose_eq_ok hchoose
    obtain ⟨_, _, _, _, hcraft, hlink, -⟩ := Action.run_bind_eq_ok_iff.mp hbuild
    obtain ⟨_, _, _, _, hopen, hdone, -⟩ := Action.run_bind_eq_ok_iff.mp hlink
    obtain ⟨rfl, rfl⟩ := Link.openEthernet_eq_ok hopen
    cases hdone
    rw [Action.run_ofExcept] at hcraft
    injection hcraft with hcraft hstate
    exact ⟨sends_of_craft_layer2 hmode hchosen hcraft, hstate.symm⟩
  | layer3 =>
    simp only [prepare, hmode] at hprepare
    obtain ⟨_, _, _, _, hcraft, hlink, -⟩ := Action.run_bind_eq_ok_iff.mp hprepare
    obtain ⟨_, _, _, _, hopen, hdone, -⟩ := Action.run_bind_eq_ok_iff.mp hlink
    obtain ⟨rfl, rfl⟩ := Link.openIPv4_eq_ok hopen
    cases hdone
    rw [Action.run_ofExcept] at hcraft
    injection hcraft with hcraft hstate
    exact ⟨sends_of_craft_layer3 hmode hcraft, hstate.symm⟩

/-! ### The report -/

/-- **A report is true.** What the host has accepted in the run is one packet as often as the
report says; it is the packet that the plan sends on this host, and the reported summary is its
summary. The number is within the limit, and it is the limit unless the stop flag was found
raised. -/
theorem report_true {p : Plan} {quiet : Nat} {h : Host} {r : Report}
    (hr : ((p.run quiet).run h).result = .ok r) :
    ∃ route wire, p.Sends h route wire r.frame ∧
      ((p.run quiet).run h).state.accepted.toList
        = h.accepted.toList ++ List.replicate r.sent ⟨route, wire⟩ ∧
      (p.count ≠ 0 → r.sent ≤ p.count.toNat) ∧
      ((p.count ≠ 0 ∧ r.sent = p.count.toNat) ∨
        Transmission.FoundRaised quiet r.sent p.interval.toNat ((p.run quiet).run h).log) := by
  have hrun := Action.run_of_result hr
  generalize ((p.run quiet).run h).state = h', ((p.run quiet).run h).log = log at hrun ⊢
  -- up to the loop each step leaves the host as it was, so the loop starts with `h`
  obtain ⟨⟨⟩, _, _, _, hwarn, hwarned, rfl⟩ := Action.run_bind_eq_ok_iff.mp hrun
  obtain rfl := warnUnprivileged_eq_ok hwarn
  obtain ⟨⟨l, wire, s⟩, _, _, _, hprepare, hprepared, rfl⟩ :=
    Action.run_bind_eq_ok_iff.mp hwarned
  obtain ⟨hsends, rfl⟩ := prepare_eq_ok hprepare
  obtain ⟨_, hsaid, rfl⟩ := Action.run_say_bind_eq_ok_iff.mp hprepared
  obtain ⟨t, _, _, _, hsend, hdone, rfl⟩ := Action.run_bind_eq_ok_iff.mp hsaid
  cases hdone
  obtain ⟨haccepted, hlimited, hend⟩ := send_eq_ok hsend
  have hlimit : p.count ≠ 0 ↔ p.count.toNat ≠ 0 := UInt64.toNat_inj.not.symm
  refine ⟨l.route, wire, hsends, haccepted, fun hne => ?_, ?_⟩
  · exact hlimited.resolve_left (hlimit.mp hne)
  · refine hend.imp (fun hreached => ⟨hlimit.mpr hreached.1, hreached.2⟩) fun hfound => ?_
    rw [List.append_nil, ← List.singleton_append]
    exact ((hfound.append_left _).append_left _).append_left _

/-- Three frames are asked for, and the flag is raised in the pause behind the second. One send is
interrupted and repeated, and the host reports nonsense about another. -/
theorem report_true_of_two_frames :
    let p : Plan := { count := 3 }
    let h : Host :=
      { entries := [{ name := "tun0", index := 7, flags := 1 }]
        answers := [.refuse Host.interrupted, .accept 0] }
    ∃ r route wire, ((p.run 25).run h).result = .ok r ∧ p.Sends h route wire r.frame ∧
      ((p.run 25).run h).state.accepted.toList = [⟨route, wire⟩, ⟨route, wire⟩] ∧
      Transmission.FoundRaised 25 2 1000 ((p.run 25).run h).log := by
  intro p h
  have hsent : ((p.run 25).run h).result.toOption.map Report.sent = some 2 := by decide +kernel
  cases hr : ((p.run 25).run h).result with
  | error e =>
    rw [hr] at hsent
    cases hsent
  | ok r =>
    rw [hr] at hsent
    have htwo : r.sent = 2 := Option.some.inj hsent
    obtain ⟨route, wire, hsends, haccepted, -, hend⟩ := report_true hr
    rw [htwo] at haccepted hend
    have hfound := hend.resolve_left fun hreached => absurd hreached.2 (by decide)
    exact ⟨r, route, wire, rfl, hsends, haccepted, hfound⟩

end Plan

end EchoInjector
