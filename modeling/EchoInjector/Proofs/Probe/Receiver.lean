import EchoInjector.Proofs.Summary.RoundTrip
import EchoInjector.Proofs.Wire.Balance

/-!
# The checksums at the receiver

A receiver need not know where a checksum is stored. It adds up all words of a header or of a
message in one's complement arithmetic and accepts when the sum has all bits set. Whether that
agrees with a checksum that was computed without its own place is a matter of **zero**, which has
two representations in that arithmetic: a message of zeros has the checksum `0xffff`, and the
checksum `0x0000` occurs as well. Neither is an exception here. Both parts of a built packet
verify, and a run that verifies is balanced and has a word that is not zero.
-/

namespace EchoInjector.Probe

open Wire Packet

/-- The header of a built datagram verifies. -/
theorem verifies_header (p : Probe) : Checksum.Verifies 5 (p.header p.headerChecksum) := by
  have hsum := checksum_header p p.headerChecksum []
  rw [Datagram.checksum, checkedHeader_header] at hsum
  exact hsum.trans (word_high_low _).symm

/-- The message of a built datagram verifies. -/
theorem verifies_message (p : Probe) : Checksum.Verifies 1 (p.message p.messageChecksum) :=
  (checksum_message p p.messageChecksum).trans (word_high_low _).symm

theorem onesSum_header (p : Probe) :
    Checksum.onesSum (p.header p.headerChecksum) = 0xffff :=
  Checksum.onesSum_of_verifies (by rw [length_header]; decide) (by rw [length_header]; decide)
    (verifies_header p)

theorem onesSum_message {p : Probe} (hp : p.payload.length ≤ 65507) :
    Checksum.onesSum (p.message p.messageChecksum) = 0xffff :=
  Checksum.onesSum_of_verifies (by rw [length_message]; omega) (by rw [length_message]; omega)
    (verifies_message p)

theorem slice_datagramOctets (p : Probe) :
    slice p.datagramOctets 0 20 = p.header p.headerChecksum := rfl

theorem drop_datagramOctets (p : Probe) :
    p.datagramOctets.drop 20 = p.message p.messageChecksum := rfl

theorem slice_frameOctets (p : Probe) (m : Mac) :
    slice (p.frameOctets m) 14 34 = p.header p.headerChecksum := rfl

theorem drop_frameOctets (p : Probe) (m : Mac) :
    (p.frameOctets m).drop 34 = p.message p.messageChecksum := rfl

/-- **Every built packet is accepted by a receiver**: the ten words of its header add up to
`0xffff`, and so do the words of its message, in frames and in datagrams. -/
theorem receiver_accepts {p : Probe} (hp : p.payload.length ≤ 65507) (m : Mac) :
    (∃ f, p.frame m = .ok f ∧ (words (slice f 14 34)).length = 10 ∧
        Checksum.onesSum (slice f 14 34) = 0xffff ∧ Checksum.onesSum (f.drop 34) = 0xffff) ∧
      ∃ d, p.datagram = .ok d ∧ (words (slice d 0 20)).length = 10 ∧
        Checksum.onesSum (slice d 0 20) = 0xffff ∧ Checksum.onesSum (d.drop 20) = 0xffff := by
  have hwords : (words (p.header p.headerChecksum)).length = 10 := by
    rw [length_words, length_header]
  constructor
  · refine ⟨p.frameOctets m, frame_eq_ok hp m, ?_⟩
    rw [slice_frameOctets, drop_frameOctets]
    exact ⟨hwords, onesSum_header p, onesSum_message hp⟩
  · refine ⟨p.datagramOctets, datagram_eq_ok hp, ?_⟩
    rw [slice_datagramOctets, drop_datagramOctets]
    exact ⟨hwords, onesSum_header p, onesSum_message hp⟩

/-- The two representations of zero: a message of zeros, whose checksum has all bits set, and one
whose other words add up to `0xffff`, so that its checksum is zero. -/
theorem receiver_accepts_both_zeros :
    let p : Probe := { icmpType := 0 }
    let q : Probe := { icmpType := 0xff, icmpCode := 0xff }
    (p.payload.length ≤ 65507 ∧ ∃ d, p.datagram = .ok d ∧
        d.drop 20 = [0, 0, 0xff, 0xff, 0, 0, 0, 0] ∧ Checksum.onesSum (d.drop 20) = 0xffff) ∧
      q.payload.length ≤ 65507 ∧ ∃ d, q.datagram = .ok d ∧
        d.drop 20 = [0xff, 0xff, 0, 0, 0, 0, 0, 0] ∧ Checksum.onesSum (d.drop 20) = 0xffff := by
  intro p q
  have hp : p.payload.length ≤ 65507 := by decide
  have hq : q.payload.length ≤ 65507 := by decide
  obtain ⟨-, d, hd, -, -, hzeros⟩ := receiver_accepts hp .zero
  obtain ⟨-, e, he, -, -, hones⟩ := receiver_accepts hq .zero
  obtain ⟨-, rfl⟩ := datagram_eq_ok_iff.mp hd
  obtain ⟨-, rfl⟩ := datagram_eq_ok_iff.mp he
  exact ⟨⟨hp, _, hd, by decide +kernel, hzeros⟩, hq, _, he, by decide +kernel, hones⟩

end EchoInjector.Probe
