import EchoInjector.Proofs.Probe.Receiver
import EchoInjector.Proofs.Summary.Verdicts

/-!
# A changed octet is noticed

Let one octet of a built packet change on the way, anywhere behind the link header. Reading the
packet then fails, or the summary finds a wrong checksum. The parts of a built datagram are
balanced, and so is the datagram as a whole; a change of one octet unbalances whatever it is in.

* In the **message**, the header stays as it was and delimits the same message, which is not
  balanced any more. The packet is still readable, and the verdicts say which part is wrong.
* In the **header**, a favourable verdict would balance the first twenty octets, as long as these
  are what is checked.
* Only a change of the first octet can make the header claim to be longer. Then both checksums
  are taken over other runs than before, and each of them may come out right. But the two runs
  are still the datagram cut in two, so they do not both come out right.
-/

namespace EchoInjector

open Wire Packet

namespace Summary

/-- A change is **noticed** when reading fails or a checksum is wrong. -/
def Noticed (r : Except Failure Summary) : Prop :=
  ∀ s, r = .ok s → ¬ (s.ipChecksumOk = true ∧ s.icmpChecksumOk = true)

/-- A change is **located** in the message when reading succeeds and just the message's checksum
is wrong. -/
def LocatedInMessage (r : Except Failure Summary) : Prop :=
  ∃ s, r = .ok s ∧ s.ipChecksumOk = true ∧ s.icmpChecksumOk = false

theorem LocatedInMessage.noticed {r : Except Failure Summary} (h : LocatedInMessage r) :
    Noticed r := by
  obtain ⟨s, rfl, -, hbad⟩ := h
  rintro _ ⟨rfl⟩ ⟨-, hgood⟩
  rw [hbad] at hgood
  cases hgood

/-- The frame around a datagram has no part in the verdicts. -/
theorem Noticed.framed {r : Except Failure Summary} (h : Noticed r) (f : Octets) :
    Noticed (r.map (Summary.framed · f)) := by
  cases r with
  | error e =>
    intro s hs
    cases hs
  | ok s =>
    rintro _ ⟨rfl⟩
    exact h s rfl

theorem LocatedInMessage.framed {r : Except Failure Summary} (h : LocatedInMessage r)
    (f : Octets) : LocatedInMessage (r.map (Summary.framed · f)) := by
  obtain ⟨s, rfl, hip, hicmp⟩ := h
  exact ⟨s.framed f, rfl, hip, hicmp⟩

end Summary

namespace Probe

/-! ### The parts of a built datagram are balanced -/

theorem balanced_header (p : Probe) : Wire.Balanced (p.header p.headerChecksum) :=
  (Checksum.onesSum_eq_iff.mp (onesSum_header p)).1

theorem balanced_message {p : Probe} (hp : p.payload.length ≤ 65507) :
    Wire.Balanced (p.message p.messageChecksum) :=
  (Checksum.onesSum_eq_iff.mp (onesSum_message hp)).1

theorem balanced_datagramOctets {p : Probe} (hp : p.payload.length ≤ 65507) :
    Wire.Balanced p.datagramOctets := by
  rw [Wire.Balanced, datagramOctets, wordSum_append (by rw [length_header])]
  exact Nat.dvd_add (balanced_header p) (balanced_message hp)

/-! ### A change in the message -/

/-- **A change of the message is located there.** -/
theorem locatedInMessage_set {p : Probe} (hp : p.payload.length ≤ 65507) {j : Nat} (hj : 20 ≤ j)
    (hlt : j < p.datagramOctets.length) {b : UInt8} (hb : b ≠ p.datagramOctets[j]) :
    Summary.LocatedInMessage (Summary.ofDatagram (p.datagramOctets.set j b)) := by
  have hjm : j - 20 < (p.message p.messageChecksum).length := by
    rw [length_datagramOctets] at hlt
    rw [length_message]
    omega
  have hold : p.datagramOctets[j] = (p.message p.messageChecksum)[j - 20] :=
    List.getElem_append_right (by rw [length_header]; exact hj)
  rw [hold] at hb
  have hset : p.datagramOctets.set j b
      = p.header p.headerChecksum ++ (p.message p.messageChecksum).set (j - 20) b := by
    rw [datagramOctets, List.set_append_right j b (by rw [length_header]; exact hj), length_header]
  have hlength : ((p.message p.messageChecksum).set (j - 20) b).length = 8 + p.payload.length := by
    rw [List.length_set, length_message]
  have hread := readable_header hp p.headerChecksum hlength
  rw [hset]
  refine ⟨_, Summary.ofDatagram_eq_ok_iff.mpr ⟨hread, rfl⟩, ?_, ?_⟩
  · simp only [Summary.fields]
    rw [checksum_header, storedChecksum_header, beq_self_eq_true]
  · by_contra hgood
    have hbalanced := Summary.balanced_payload hread (by simp; omega) (by simpa using hgood)
    rw [payload_header hp p.headerChecksum hlength] at hbalanced
    exact not_balanced_set (balanced_message hp) hjm hb hbalanced

/-! ### A change in the header -/

/-- **A change of the header is noticed.** -/
theorem noticed_set_header {p : Probe} (hp : p.payload.length ≤ 65507) {j : Nat} (hj : j < 20)
    (hlt : j < p.datagramOctets.length) {b : UInt8} (hb : b ≠ p.datagramOctets[j]) :
    Summary.Noticed (Summary.ofDatagram (p.datagramOctets.set j b)) := by
  rintro s hs ⟨hip, hicmp⟩
  obtain ⟨hread, rfl⟩ := Summary.ofDatagram_eq_ok_iff.mp hs
  have hlength : (p.datagramOctets.set j b).length = 28 + p.payload.length := by
    rw [List.length_set, length_datagramOctets]
  by_cases hclaim : Datagram.claimedHeader (p.datagramOctets.set j b) ≤ 20
  · -- the checked header is the built one with the change in it
    have hhead := Summary.balanced_checkedHeader hread.header (by omega) hip
    have hjh : j < (p.header p.headerChecksum).length := by rwa [length_header]
    have hset : p.datagramOctets.set j b
        = (p.header p.headerChecksum).set j b ++ p.message p.messageChecksum := by
      rw [datagramOctets, List.set_append_left j b hjh]
    have hold : p.datagramOctets[j] = (p.header p.headerChecksum)[j] :=
      List.getElem_append_left hjh
    rw [Datagram.checkedHeader_eq_take_least hclaim (by omega), hset,
      List.take_left' (by rw [List.length_set, length_header])] at hhead
    exact not_balanced_set (balanced_header p) hjh (hold ▸ hb) hhead
  · -- only the first octet has a say in where the header ends
    have hj0 : j = 0 := by
      by_contra hne
      apply hclaim
      rw [Datagram.claimedHeader, octetAt_set_of_ne (Ne.symm hne)]
      exact (claimedHeader_header p p.headerChecksum _).le
    subst hj0
    have htotal : (Datagram.totalLength (p.datagramOctets.set 0 b)).toNat
        = (p.datagramOctets.set 0 b).length := by
      rw [Datagram.totalLength, wordAt_set_of_ne (by decide) (by decide), hlength]
      exact toNat_totalLength_header hp p.headerChecksum _
    exact not_balanced_set (balanced_datagramOctets hp) hlt hb
      (Summary.balanced_of_verdicts hread (by omega) (by omega) htotal hip hicmp)

/-! ### A change anywhere -/

/-- **A change of one octet never goes unnoticed**, in a frame behind its link header and in a
datagram anywhere; and a change of the message is located there. -/
theorem change_noticed {p : Probe} (hp : p.payload.length ≤ 65507) (m : Mac) :
    (∃ f, p.frame m = .ok f ∧
      ∀ (i : Nat) (hi : i < f.length) (b : UInt8), 14 ≤ i → b ≠ f[i] →
        Summary.Noticed (Summary.ofFrame (f.set i b)) ∧
          (34 ≤ i → Summary.LocatedInMessage (Summary.ofFrame (f.set i b)))) ∧
      ∃ d, p.datagram = .ok d ∧
        ∀ (i : Nat) (hi : i < d.length) (b : UInt8), b ≠ d[i] →
          Summary.Noticed (Summary.ofDatagram (d.set i b)) ∧
            (20 ≤ i → Summary.LocatedInMessage (Summary.ofDatagram (d.set i b))) := by
  have hdatagram : ∀ (i : Nat) (hi : i < p.datagramOctets.length) (b : UInt8),
      b ≠ p.datagramOctets[i] →
        Summary.Noticed (Summary.ofDatagram (p.datagramOctets.set i b)) ∧
          (20 ≤ i → Summary.LocatedInMessage (Summary.ofDatagram (p.datagramOctets.set i b))) := by
    intro i hi b hb
    refine ⟨?_, fun hmessage => locatedInMessage_set hp hmessage hi hb⟩
    rcases Nat.lt_or_ge i 20 with hheader | hmessage
    · exact noticed_set_header hp hheader hi hb
    · exact (locatedInMessage_set hp hmessage hi hb).noticed
  refine ⟨⟨p.frameOctets m, frame_eq_ok hp m, fun i hi b hlink hb => ?_⟩,
    p.datagramOctets, datagram_eq_ok hp, hdatagram⟩
  -- behind the link header, a frame changes as its datagram does
  have hid : i - 14 < p.datagramOctets.length := by
    rw [length_frameOctets] at hi
    rw [length_datagramOctets]
    omega
  have hold : (p.frameOctets m)[i] = p.datagramOctets[i - 14] :=
    List.getElem_append_right (by rwa [length_linkHeader])
  have hset : (p.frameOctets m).set i b
      = p.linkHeader m ++ p.datagramOctets.set (i - 14) b := by
    rw [frameOctets, List.set_append_right i b (by rwa [length_linkHeader]), length_linkHeader]
  obtain ⟨hnoticed, hlocated⟩ := hdatagram (i - 14) hid b (hold ▸ hb)
  rw [hset, ofFrame_linkHeader]
  exact ⟨hnoticed.framed _, fun hmessage => (hlocated (by omega)).framed _⟩

/-- A header that claims four octets more than it has, and a change of the payload. -/
theorem change_noticed_in_zeros :
    let p : Probe := { payload := List.replicate 12 0 }
    p.payload.length ≤ 65507 ∧
      ∃ d, p.datagram = .ok d ∧ Summary.Noticed (Summary.ofDatagram (d.set 0 0x46)) ∧
        Summary.LocatedInMessage (Summary.ofDatagram (d.set 39 1)) := by
  intro p
  have hp : p.payload.length ≤ 65507 := by decide
  obtain ⟨-, d, hd, hchange⟩ := change_noticed hp .zero
  obtain ⟨-, rfl⟩ := datagram_eq_ok_iff.mp hd
  have hlength : p.datagramOctets.length = 40 := length_datagramOctets p
  have hfirst : p.datagramOctets[0] = 0x45 := rfl
  have hlast : p.datagramOctets[39] = 0 := rfl
  refine ⟨hp, _, hd, (hchange 0 (by omega) 0x46 ?_).1,
    (hchange 39 (by omega) 1 ?_).2 (by decide)⟩
  · rw [hfirst]
    decide
  · rw [hlast]
    decide

end Probe

end EchoInjector
