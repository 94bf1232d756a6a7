import EchoInjector.Proofs.Summary.Padding
import EchoInjector.Proofs.Summary.RoundTrip

/-!
# Cut packets

Let a packet be cut somewhere before its end. If what is lost reaches into the total length that
the packet claims, the rest is refused **because it is cut**, and for no other reason. A check that
comes before the one of the total length passes for the rest as it does for the whole, provided that
the octets it looks at are left; and if they are not, there is no header left.

`cut_noticed` says so for all datagrams and frames that are summarised, however odd their headers,
and names the part that is cut. Since a built packet is as long as it claims to be, it cannot be cut
anywhere without this being noticed.
-/

namespace EchoInjector

open Wire Packet

namespace Summary

/-- The part in which a datagram is cut of which so many octets are left. -/
def datagramCut (left : Nat) : String := if left < 20 then "ipv4 header" else "ipv4 payload"

/-- The part in which a frame is cut of which so many octets are left. -/
def frameCut (left : Nat) : String :=
  if left < 14 then "ethernet header" else datagramCut (left - 14)

/-- Without a header, a datagram is refused. -/
theorem ofDatagram_of_headless {d : Octets} (h : d.length < 20) :
    ofDatagram d = .error (.truncated "ipv4 header") :=
  if_pos h

/-- Without the octets that its total length claims, a datagram is refused. -/
theorem ofDatagram_of_short {d : Octets} (hheader : 20 ≤ d.length)
    (hversion : Datagram.version d = 4) (hshort : d.length < (Datagram.totalLength d).toNat) :
    ofDatagram d = .error (.truncated "ipv4 payload") := by
  have hheader' : ¬ d.length < Datagram.headerLength := Nat.not_lt.mpr hheader
  rw [ofDatagram, if_neg hheader', if_neg (not_not.mpr hversion), if_pos hshort]

/-- **A datagram that is cut before its total length is refused as cut.** -/
theorem ofDatagram_of_cut {d rest : Octets} {s : Summary} (hs : ofDatagram d = .ok s)
    (hrest : rest <+: d) (hcut : rest.length < s.ipTotalLength.toNat) :
    ofDatagram rest = .error (.truncated (datagramCut rest.length)) := by
  obtain ⟨hread, rfl⟩ := ofDatagram_eq_ok_iff.mp hs
  obtain ⟨t, rfl⟩ := hrest
  rw [datagramCut]
  split
  case isTrue hheadless => exact ofDatagram_of_headless hheadless
  case isFalse hleft =>
    -- the version and the total length are still there
    have hheader : 20 ≤ rest.length := Nat.not_lt.mp hleft
    have hversion : Datagram.version rest = Datagram.version (rest ++ t) := by
      rw [Datagram.version, Datagram.version, octetAt_append (by omega)]
    have htotal : Datagram.totalLength rest = Datagram.totalLength (rest ++ t) :=
      (Datagram.totalLength_append hheader t).symm
    exact ofDatagram_of_short hheader (hversion.trans hread.version) (htotal ▸ hcut)

/-- **A frame that is cut before the total length of its datagram is refused as cut.** -/
theorem ofFrame_of_cut {f rest : Octets} {s : Summary} (hs : ofFrame f = .ok s)
    (hrest : rest <+: f) (hcut : rest.length < 14 + s.ipTotalLength.toNat) :
    ofFrame rest = .error (.truncated (frameCut rest.length)) := by
  obtain ⟨-, htype, hread, rfl⟩ := ofFrame_eq_ok_iff.mp hs
  obtain ⟨t, rfl⟩ := hrest
  rw [frameCut]
  split
  case isTrue hheadless => exact if_pos hheadless
  case isFalse hleft =>
    -- the type is still there, and the datagram is cut where the frame is
    have hheader : 14 ≤ rest.length := Nat.not_lt.mp hleft
    have htype' : Ethernet.etherType rest = Ethernet.etherType (rest ++ t) :=
      (wordAt_append (by omega) t).symm
    have hpayload : Ethernet.payload (rest ++ t) = Ethernet.payload rest ++ t :=
      List.drop_append_of_le_length hheader
    have hlength : (Ethernet.payload rest).length = rest.length - 14 := List.length_drop
    have hcut' : (Ethernet.payload rest).length
        < (fields (Ethernet.payload (rest ++ t))).ipTotalLength.toNat := by
      rw [hlength]
      exact Nat.sub_lt_left_of_lt_add hheader hcut
    have hinner := ofDatagram_of_cut (ofDatagram_eq_ok_iff.mpr ⟨hread, rfl⟩)
      (hpayload ▸ List.prefix_append _ _) hcut'
    rw [ofFrame_eq_map hheader (htype'.trans htype), hinner, hlength]
    rfl

end Summary

namespace Probe

/-- What is left of a packet that is cut is shorter. -/
theorem length_lt_of_cut {d rest : Octets} (hrest : rest <+: d) (hne : rest ≠ d) :
    rest.length < d.length :=
  Nat.lt_of_le_of_ne hrest.length_le fun h => hne (hrest.eq_of_length h)

/-- A built datagram that is cut is refused as cut. -/
theorem ofDatagram_of_cut {p : Probe} {d rest : Octets} (hd : p.datagram = .ok d)
    (hrest : rest <+: d) (hne : rest ≠ d) :
    Summary.ofDatagram rest = .error (.truncated (Summary.datagramCut rest.length)) := by
  obtain ⟨hlimit, rfl⟩ := datagram_eq_ok_iff.mp hd
  refine Summary.ofDatagram_of_cut (ofDatagram_datagramOctets hlimit) hrest ?_
  have hshorter := length_lt_of_cut hrest hne
  rwa [length_datagramOctets, ← (tells_datagramOctets hlimit).ipTotalLength] at hshorter

/-- A built frame that is cut is refused as cut. -/
theorem ofFrame_of_cut {p : Probe} {m : Mac} {f rest : Octets} (hf : p.frame m = .ok f)
    (hrest : rest <+: f) (hne : rest ≠ f) :
    Summary.ofFrame rest = .error (.truncated (Summary.frameCut rest.length)) := by
  obtain ⟨hlimit, rfl⟩ := frame_eq_ok_iff.mp hf
  refine Summary.ofFrame_of_cut (ofFrame_frameOctets hlimit m) hrest ?_
  have hshorter := length_lt_of_cut hrest hne
  have htotal := ((tells_datagramOctets hlimit).framed (p.frameOctets m)).ipTotalLength
  rw [length_frameOctets] at hshorter
  omega

end Probe

namespace Summary

/-- **A cut is always noticed.** What is left of a packet that was summarised is refused as cut if
it is shorter than the total length that the packet claims, be the packet a datagram or a frame. So
is what is left of a built packet that was cut anywhere. -/
theorem cut_noticed :
    (∀ d s, ofDatagram d = .ok s → ∀ rest, rest <+: d → rest.length < s.ipTotalLength.toNat →
      ofDatagram rest = .error (.truncated (datagramCut rest.length))) ∧
    (∀ f s, ofFrame f = .ok s → ∀ rest, rest <+: f → rest.length < 14 + s.ipTotalLength.toNat →
      ofFrame rest = .error (.truncated (frameCut rest.length))) ∧
    ∀ p : Probe,
      (∀ d, p.datagram = .ok d → ∀ rest, rest <+: d → rest ≠ d →
        ofDatagram rest = .error (.truncated (datagramCut rest.length))) ∧
      ∀ m f, p.frame m = .ok f → ∀ rest, rest <+: f → rest ≠ f →
        ofFrame rest = .error (.truncated (frameCut rest.length)) :=
  ⟨fun _ _ hs _ => ofDatagram_of_cut hs, fun _ _ hs _ => ofFrame_of_cut hs, fun _ =>
    ⟨fun _ hd _ => Probe.ofDatagram_of_cut hd, fun _ _ hf _ => Probe.ofFrame_of_cut hf⟩⟩

/-- A datagram whose header claims too little, without its last octet, and a frame that is cut in
three places. -/
theorem cut_noticed_everywhere :
    let d : Octets :=
      [0x44, 0, 0, 0x1c, 0, 1, 0, 0, 0x40, 1, 0x67, 0xde, 10, 0, 0, 1, 10, 0, 0, 2,
        8, 0, 0xf7, 0xff, 0, 0, 0, 0]
    let p : Probe := { payload := [1] }
    (∃ s, ofDatagram d = .ok s ∧ s.ipTotalLength = 28 ∧
      ofDatagram (d.take 27) = .error (.truncated "ipv4 payload")) ∧
    ∃ f s, p.frame .zero = .ok f ∧ ofFrame f = .ok s ∧ s.ipTotalLength = 29 ∧
      ofFrame (f.take 42) = .error (.truncated "ipv4 payload") ∧
      ofFrame (f.take 33) = .error (.truncated "ipv4 header") ∧
      ofFrame (f.take 13) = .error (.truncated "ethernet header") := by
  intro d p
  obtain ⟨hdatagram, hframe, hbuilt⟩ := cut_noticed
  have hd : ofDatagram d = .ok (fields d) := by decide +kernel
  have hp : p.payload.length ≤ 65507 := by decide
  have hf : p.frame .zero = .ok (p.frameOctets .zero) := Probe.frame_eq_ok hp .zero
  have hs := Probe.ofFrame_frameOctets hp .zero
  exact ⟨⟨_, hd, by decide, hdatagram _ _ hd _ (List.take_prefix 27 d) (by decide)⟩,
    _, _, hf, hs, by decide +kernel,
    (hbuilt p).2 _ _ hf _ (List.take_prefix 42 _) (by decide +kernel),
    hframe _ _ hs _ (List.take_prefix 33 _) (by decide +kernel),
    hframe _ _ hs _ (List.take_prefix 13 _) (by decide +kernel)⟩

end Summary

end EchoInjector
