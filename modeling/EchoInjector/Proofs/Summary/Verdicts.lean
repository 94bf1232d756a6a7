import EchoInjector.Proofs.Summary.Acceptance
import EchoInjector.Proofs.Wire.Balance

/-!
# What the verdicts mean

A summary has a verdict on each of the two checksums. Each verdict says that a certain run of the
datagram verifies, the checked header or the payload, and hence that the sum of its words is
balanced. The two runs are adjacent as soon as the header claims at least its least length, so two
favourable verdicts balance the datagram as a whole, **wherever the header claims to end**.
-/

namespace EchoInjector

open Wire Packet

namespace Packet.Datagram

/-- The checked header is a beginning of the datagram that contains the least header. -/
theorem exists_checkedHeader_eq_take {d : Octets} (hd : 20 ≤ d.length) :
    ∃ n, 20 ≤ n ∧ checkedHeader d = d.take n := by
  by_cases hclaim : claimedHeader d < headerLength
  · exact ⟨20, le_refl 20, by rw [checkedHeader, if_pos hclaim]; rfl⟩
  · have hlong : 20 ≤ claimedHeader d := Nat.not_lt.mp hclaim
    exact ⟨min (claimedHeader d) d.length, by omega, by rw [checkedHeader, if_neg hclaim]⟩

/-- A header that claims no more than its least length is checked up to that length. -/
theorem checkedHeader_eq_take_least {d : Octets} (hclaim : claimedHeader d ≤ 20)
    (hd : 20 ≤ d.length) : checkedHeader d = d.take 20 := by
  by_cases hless : claimedHeader d < headerLength
  · rw [checkedHeader, if_pos hless]
    rfl
  · have hequal : claimedHeader d = 20 := Nat.le_antisymm hclaim (Nat.not_lt.mp hless)
    rw [checkedHeader, if_neg hless, hequal, Nat.min_eq_left hd]

/-- A header that claims at least its least length is checked as far as it reaches. -/
theorem checkedHeader_eq_take {d : Octets} (hclaim : 20 ≤ claimedHeader d)
    (hd : claimedHeader d ≤ d.length) : checkedHeader d = d.take (claimedHeader d) := by
  rw [checkedHeader, if_neg (by simp only [headerLength]; omega), Nat.min_eq_left hd]

/-- Behind such a header, the payload is the rest of a datagram of the right total length. -/
theorem payload_eq_drop {d : Octets} (hclaim : 20 ≤ claimedHeader d)
    (hd : claimedHeader d < d.length) (htotal : (totalLength d).toNat = d.length) :
    payload d = d.drop (claimedHeader d) := by
  have hstart : payloadStart d = claimedHeader d := by
    rw [payloadStart, headerLength]
    omega
  have hstop : payloadStop d = d.length := by
    rw [payloadStop, hstart, htotal]
    omega
  rw [payload, hstart, hstop, if_neg (by omega), slice, List.take_length]

/-- The payload is part of the datagram. -/
theorem length_payload_le (d : Octets) : (payload d).length ≤ d.length := by
  rw [payload]
  split_ifs
  · exact Nat.zero_le _
  · rw [slice, List.length_drop, List.length_take]
    omega

end Packet.Datagram

namespace Summary

/-- The verdict on the header. -/
theorem ipChecksumOk_fields_iff {d : Octets} (hd : 20 ≤ d.length) :
    (fields d).ipChecksumOk = true ↔ Checksum.Verifies 5 (Datagram.checkedHeader d) := by
  obtain ⟨n, hn, htake⟩ := Datagram.exists_checkedHeader_eq_take hd
  have hstored : Datagram.storedChecksum d = wordAt (Datagram.checkedHeader d) (2 * 5) := by
    rw [htake, wordAt_take (by omega)]
    rfl
  simp only [fields, beq_iff_eq, hstored]
  rfl

/-- The verdict on the message. -/
theorem icmpChecksumOk_fields_iff {d : Octets} :
    (fields d).icmpChecksumOk = true ↔ Checksum.Verifies 1 (Datagram.payload d) :=
  beq_iff_eq

/-- A favourable verdict on the header balances the checked header. -/
theorem balanced_checkedHeader {d : Octets} (hd : 20 ≤ d.length) (hmax : d.length ≤ 65535)
    (h : (fields d).ipChecksumOk = true) : Wire.Balanced (Datagram.checkedHeader d) := by
  have hverifies := (ipChecksumOk_fields_iff hd).mp h
  obtain ⟨n, hn, htake⟩ := Datagram.exists_checkedHeader_eq_take hd
  have hlength : (Datagram.checkedHeader d).length = min n d.length := by
    rw [htake, List.length_take]
  exact Checksum.balanced_of_verifies (by omega) (by omega) hverifies

/-- A favourable verdict on the message balances it. -/
theorem balanced_payload {d : Octets} (hd : Readable d) (hmax : d.length ≤ 65535)
    (h : (fields d).icmpChecksumOk = true) : Wire.Balanced (Datagram.payload d) := by
  have hmessage := hd.message
  have hle := Datagram.length_payload_le d
  exact Checksum.balanced_of_verifies (by omega) (by omega) (icmpChecksumOk_fields_iff.mp h)

/-- The payload of a readable datagram starts before the end. -/
theorem Readable.payloadStart_lt {d : Octets} (hd : Readable d) :
    Datagram.payloadStart d < d.length := by
  by_contra hshort
  have hempty : Datagram.payload d = [] := by
    rw [Datagram.payload, if_pos (Nat.not_lt.mp hshort)]
  have hmessage := hd.message
  rw [hempty] at hmessage
  simp at hmessage

/-- **Two favourable verdicts balance the datagram**, however long its header claims to be, as
long as the claim is not too short and the total length is the length. -/
theorem balanced_of_verdicts {d : Octets} (hd : Readable d) (hmax : d.length ≤ 65535)
    (hclaim : 20 ≤ Datagram.claimedHeader d)
    (htotal : (Datagram.totalLength d).toNat = d.length)
    (hip : (fields d).ipChecksumOk = true) (hicmp : (fields d).icmpChecksumOk = true) :
    Wire.Balanced d := by
  have hhead := balanced_checkedHeader hd.header hmax hip
  have hmessage := balanced_payload hd hmax hicmp
  have hlength : Datagram.claimedHeader d < d.length := by
    have hstart := hd.payloadStart_lt
    rw [Datagram.payloadStart] at hstart
    omega
  rw [Datagram.checkedHeader_eq_take hclaim hlength.le] at hhead
  rw [Datagram.payload_eq_drop hclaim hlength htotal] at hmessage
  -- the claimed length is counted in fours, so the cut is between two words
  have heven : (d.take (Datagram.claimedHeader d)).length % 2 = 0 := by
    rw [List.length_take, Nat.min_eq_left hlength.le, Datagram.claimedHeader]
    omega
  have hsum := wordSum_append heven (d.drop (Datagram.claimedHeader d))
  rw [List.take_append_drop] at hsum
  rw [Wire.Balanced, hsum]
  exact Nat.dvd_add hhead hmessage

end Summary

end EchoInjector
