import EchoInjector.Plan
import EchoInjector.Proofs.Summary.Line
import EchoInjector.Proofs.Summary.RoundTrip

/-!
# What is crafted

Crafting is building and reading back, and reading back never fails on what was built. So a plan's
packet is known in advance together with its summary, and a payload beyond the limit is the only
thing that can be wrong.
-/

namespace EchoInjector.Plan

open Wire

/-- The frame of a plan, and its summary. -/
theorem craft_layer2 {p : Plan} (hmode : p.mode = .layer2) (hp : p.probe.payload.length ≤ 65507)
    (m : Mac) :
    p.craft m = .ok (p.probe.frameOctets m,
      (Summary.fields p.probe.datagramOctets).framed (p.probe.frameOctets m)) := by
  simp only [craft, hmode, Probe.frame_eq_ok hp, bind, Except.bind, Probe.ofFrame_frameOctets hp]
  rfl

/-- The datagram of a plan, and its summary. -/
theorem craft_layer3 {p : Plan} (hmode : p.mode = .layer3) (hp : p.probe.payload.length ≤ 65507)
    (m : Mac) :
    p.craft m = .ok (p.probe.datagramOctets, Summary.fields p.probe.datagramOctets) := by
  simp only [craft, hmode, Probe.datagram_eq_ok hp, bind, Except.bind,
    Probe.ofDatagram_datagramOctets hp]
  rfl

/-- A payload beyond the limit is refused, with its length. -/
theorem craft_of_lt {p : Plan} (hp : 65507 < p.probe.payload.length) (m : Mac) :
    p.craft m = .error (.payloadTooLarge p.probe.payload.length) := by
  cases hmode : p.mode with
  | layer2 => simp only [craft, hmode, Probe.frame_eq_error hp, bind, Except.bind]
  | layer3 => simp only [craft, hmode, Probe.datagram_eq_error hp, bind, Except.bind]

/-- What is crafted is within the limit. -/
theorem le_of_craft {p : Plan} {m : Mac} {crafted : Octets × Summary}
    (hcraft : p.craft m = .ok crafted) : p.probe.payload.length ≤ 65507 := by
  refine Nat.le_of_not_lt fun hlong => ?_
  cases hcraft.symm.trans (craft_of_lt hlong m)

/-- Within the limit there is a packet. -/
theorem exists_craft {p : Plan} (hp : p.probe.payload.length ≤ 65507) (m : Mac) :
    ∃ crafted, p.craft m = .ok crafted := by
  cases hmode : p.mode with
  | layer2 => exact ⟨_, craft_layer2 hmode hp m⟩
  | layer3 => exact ⟨_, craft_layer3 hmode hp m⟩

/-- **Crafting fails exactly beyond the limit.** -/
theorem craft_eq_error_iff {p : Plan} {m : Mac} {e : Failure} :
    p.craft m = .error e ↔
      65507 < p.probe.payload.length ∧ e = .payloadTooLarge p.probe.payload.length := by
  constructor
  · intro hfailed
    have hlong : 65507 < p.probe.payload.length := by
      refine Nat.lt_of_not_le fun hp => ?_
      obtain ⟨crafted, hcraft⟩ := exists_craft hp m
      cases hfailed.symm.trans hcraft
    exact ⟨hlong, Except.error.inj (hfailed.symm.trans (craft_of_lt hlong m))⟩
  · rintro ⟨hlong, rfl⟩
    exact craft_of_lt hlong m

/-! ### Reading back -/

/-- Summarises a packet of the form that a plan's packets have. -/
def summarise (p : Plan) (wire : Octets) : Except Failure Summary :=
  match p.mode with
  | .layer2 => Summary.ofFrame wire
  | .layer3 => Summary.ofDatagram wire

/-- The summary of what is crafted is read from it. -/
theorem summarise_of_craft {p : Plan} {m : Mac} {wire : Octets} {s : Summary}
    (hcraft : p.craft m = .ok (wire, s)) : p.summarise wire = .ok s := by
  have hp := le_of_craft hcraft
  rw [summarise]
  cases hmode : p.mode with
  | layer2 =>
    cases hcraft.symm.trans (craft_layer2 hmode hp m)
    exact Probe.ofFrame_frameOctets hp m
  | layer3 =>
    cases hcraft.symm.trans (craft_layer3 hmode hp m)
    exact Probe.ofDatagram_datagramOctets hp

/-- The summary of a packet has one line. -/
theorem newline_notMem_line_of_summarise {p : Plan} {wire : Octets} {s : Summary}
    (h : p.summarise wire = .ok s) : '\n' ∉ s.line.toList := by
  rw [summarise] at h
  split at h
  · exact Summary.newline_notMem_line_of_ofFrame h
  · exact Summary.newline_notMem_line_of_ofDatagram h

/-- What is crafted stores its whole length. -/
theorem ipTotalLength_of_craft {p : Plan} {m : Mac} {wire : Octets} {s : Summary}
    (hcraft : p.craft m = .ok (wire, s)) : s.ipTotalLength.toNat = p.probe.datagramLength := by
  have hp := le_of_craft hcraft
  have htells := Probe.tells_datagramOctets hp
  rw [p.probe.datagramLength_eq, ← htells.ipTotalLength]
  cases hmode : p.mode with
  | layer2 =>
    cases hcraft.symm.trans (craft_layer2 hmode hp m)
    rfl
  | layer3 =>
    cases hcraft.symm.trans (craft_layer3 hmode hp m)
    rfl

end EchoInjector.Plan
