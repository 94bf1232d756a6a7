import EchoInjector.Proofs.Summary.Acceptance
import EchoInjector.Proofs.Address.MacText
import EchoInjector.Proofs.Address.IPv4Text

/-!
# The line of a summary

The line of a summary is made of numbers, addresses and fixed words, so it is one line indeed: there
is no line end in it, provided that there is none in its link-layer addresses, which are texts of
their own in a summary. Where a summary was read from a packet they are written addresses.
-/

namespace EchoInjector.Summary

open Wire Text

theorem newline_notMem_line {s : Summary} (hsrc : ∀ t, s.ethSrc = some t → '\n' ∉ t.toList)
    (hdst : ∀ t, s.ethDst = some t → '\n' ∉ t.toList) : '\n' ∉ s.line.toList := by
  have hlink : '\n' ∉ s.linkPart.toList := by
    rw [linkPart]
    split
    case h_1 src dst heqSrc heqDst => simp [hsrc src heqSrc, hdst dst heqDst]
    case h_2 => simp
  have hmark : '\n' ∉ s.checksumPart.toList := by
    rw [checksumPart]
    split <;> simp
  have haddress : ∀ x : IPv4, '\n' ∉ x.text.toList := IPv4.notMem_text (by decide) (by decide)
  have hnumber : ∀ n, '\n' ∉ (decimal n).toList := notMem_decimal (by decide)
  unfold line
  simp [hlink, hmark, haddress, hnumber]

/-- **The line of a datagram's summary is one line.** -/
theorem newline_notMem_line_of_ofDatagram {d : Octets} {s : Summary} (h : ofDatagram d = .ok s) :
    '\n' ∉ s.line.toList := by
  obtain ⟨-, rfl⟩ := ofDatagram_eq_ok_iff.mp h
  refine newline_notMem_line ?_ ?_ <;> rintro t ⟨⟩

/-- **The line of a frame's summary is one line.** -/
theorem newline_notMem_line_of_ofFrame {f : Octets} {s : Summary} (h : ofFrame f = .ok s) :
    '\n' ∉ s.line.toList := by
  obtain ⟨-, -, -, rfl⟩ := ofFrame_eq_ok_iff.mp h
  refine newline_notMem_line ?_ ?_ <;> rintro t ⟨⟩ <;> exact Mac.notMem_text (by decide) (by decide) _

end EchoInjector.Summary
