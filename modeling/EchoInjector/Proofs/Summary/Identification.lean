import EchoInjector.Proofs.Summary.Line
import EchoInjector.Proofs.Text.Denotation
import EchoInjector.Proofs.Text.Lines

/-!
# What the line of a summary tells

The line of a summary consists of **words** with blanks between them. No number and no address has a
blank in it, so the words are found again (`splitOn_line`), and since each of them stands for its
field, the whole line does. It begins with another word if there is a link layer, and it has two more
words if a checksum is wrong, so neither of these can be mistaken for something else, and the two
fields with the same name are told apart by their places.

`line_identifies` says what two summaries have in common that were read from packets and have the
same line, and that nothing more is needed for it. The rest is not on the line: the type of the
frame, the stored checksum of the message, which one of the checksums is wrong, and how many octets
there were.
-/

namespace EchoInjector.Summary

open Wire Text

/-- A summary **is read** if it is that of a datagram or of a frame. -/
def IsRead (s : Summary) : Prop := ∃ x : Octets, ofDatagram x = .ok s ∨ ofFrame x = .ok s

/-- Both checksums are right. -/
def Intact (s : Summary) : Prop := s.ipChecksumOk = true ∧ s.icmpChecksumOk = true

instance (s : Summary) : Decidable s.Intact := inferInstanceAs (Decidable (_ ∧ _))

/-- The two summaries **tell the same**, as far as one line goes. -/
@[mk_iff]
structure TellsSame (s t : Summary) : Prop where
  ethSrc : s.ethSrc = t.ethSrc
  ethDst : s.ethDst = t.ethDst
  ipSrc : s.ipSrc = t.ipSrc
  ipDst : s.ipDst = t.ipDst
  ipTtl : s.ipTtl = t.ipTtl
  ipIdent : s.ipIdent = t.ipIdent
  ipTotalLength : s.ipTotalLength = t.ipTotalLength
  icmpType : s.icmpType = t.icmpType
  icmpCode : s.icmpCode = t.icmpCode
  icmpIdent : s.icmpIdent = t.icmpIdent
  icmpSeq : s.icmpSeq = t.icmpSeq
  payloadLength : s.payloadLength = t.payloadLength
  intact : s.Intact ↔ t.Intact

/-! ### Words -/

/-- The words about the link layer. -/
def linkWords : Option (Mac × Mac) → List (List Char)
  | some (src, dst) => ["Ether".toList, src.text.toList, ">".toList, dst.text.toList, "/".toList]
  | none => []

/-- The words about the datagram and its message. -/
def innerWords (s : Summary) : List (List Char) :=
  ["IP".toList, s.ipSrc.text.toList, ">".toList, s.ipDst.text.toList,
    "ttl=".toList ++ (decimal s.ipTtl.toNat).toList,
    "id=".toList ++ (decimal s.ipIdent.toNat).toList,
    "len=".toList ++ (decimal s.ipTotalLength.toNat).toList,
    "/".toList, "ICMP".toList,
    "type=".toList ++ (decimal s.icmpType.toNat).toList,
    "code=".toList ++ (decimal s.icmpCode.toNat).toList,
    "id=".toList ++ (decimal s.icmpIdent.toNat).toList,
    "seq=".toList ++ (decimal s.icmpSeq.toNat).toList,
    "payload=".toList ++ (decimal s.payloadLength).toList]

theorem length_innerWords (s : Summary) : s.innerWords.length = 14 := rfl

/-- The words about wrong checksums. -/
def checksumWords (s : Summary) : List (List Char) :=
  if s.ipChecksumOk && s.icmpChecksumOk then [] else ["[bad".toList, "checksum]".toList]

/-- The words of a line. -/
def lineWords (s : Summary) (link : Option (Mac × Mac)) : List (List Char) :=
  linkWords link ++ (s.innerWords ++ s.checksumWords)

/-- A summary **shows** two link-layer addresses, or has none. -/
def Shows (s : Summary) (link : Option (Mac × Mac)) : Prop :=
  s.ethSrc = link.map (·.1.text) ∧ s.ethDst = link.map (·.2.text)

/-- What is read shows the addresses of the frame, if there is one. -/
theorem IsRead.exists_shows {s : Summary} (h : s.IsRead) : ∃ link, s.Shows link := by
  obtain ⟨x, hdatagram | hframe⟩ := h
  · obtain ⟨-, rfl⟩ := ofDatagram_eq_ok_iff.mp hdatagram
    exact ⟨none, rfl, rfl⟩
  · obtain ⟨-, -, -, rfl⟩ := ofFrame_eq_ok_iff.mp hframe
    exact ⟨some (_, _), rfl, rfl⟩

/-- **A line consists of its words**, with a blank behind each but the last. -/
theorem toList_line {s : Summary} {link : Option (Mac × Mac)} (h : s.Shows link) :
    s.line.toList ++ [' '] = (s.lineWords link).flatMap (· ++ [' ']) := by
  obtain ⟨hsrc, hdst⟩ := h
  have hlink : s.linkPart.toList = (linkWords link).flatMap (· ++ [' ']) := by
    rw [linkPart, hsrc, hdst]
    cases link <;> simp [linkWords]
  have hmark : s.checksumPart.toList ++ [' '] = ' ' :: s.checksumWords.flatMap (· ++ [' ']) := by
    rw [checksumPart, checksumWords]
    split <;> simp
  unfold line lineWords innerWords
  simp only [String.toList_append, List.append_assoc, List.flatMap_append, List.flatMap_cons,
    List.flatMap_nil, hlink, hmark]
  simp

/-- There is no blank in a word. -/
theorem blank_notMem_word (s : Summary) (link : Option (Mac × Mac)) :
    ∀ w ∈ s.lineWords link, ' ' ∉ w := by
  have hmac : ∀ m : Mac, ' ' ∉ m.text.toList := Mac.notMem_text (by decide) (by decide)
  have haddress : ∀ x : IPv4, ' ' ∉ x.text.toList := IPv4.notMem_text (by decide) (by decide)
  have hnumber : ∀ n, ' ' ∉ (decimal n).toList := notMem_decimal (by decide)
  have hlink : ∀ w ∈ linkWords link, ' ' ∉ w := by
    cases link <;> simp [linkWords, hmac]
  have hinner : ∀ w ∈ s.innerWords, ' ' ∉ w := by
    simp [innerWords, haddress, hnumber]
  have hmark : ∀ w ∈ s.checksumWords, ' ' ∉ w := by
    rw [checksumWords]
    split <;> simp
  exact List.forall_mem_append.mpr ⟨hlink, List.forall_mem_append.mpr ⟨hinner, hmark⟩⟩

/-- **The words of a line are found again.** -/
theorem splitOn_line {s : Summary} {link : Option (Mac × Mac)} (h : s.Shows link) :
    (s.line.toList ++ [' ']).splitOn ' ' = s.lineWords link ++ [[]] := by
  rw [toList_line h, splitOn_flatMap (s.blank_notMem_word link)]

/-- Lines are the same if their words are. -/
theorem line_eq_iff_lineWords {s t : Summary} {link link' : Option (Mac × Mac)} (hs : s.Shows link)
    (ht : t.Shows link') : s.line = t.line ↔ s.lineWords link = t.lineWords link' := by
  constructor
  · intro h
    have hsplit := splitOn_line hs
    rw [h, splitOn_line ht] at hsplit
    exact (List.append_cancel_right hsplit).symm
  · intro h
    have hline := toList_line hs
    rw [h, ← toList_line ht] at hline
    exact String.toList_injective (List.append_cancel_right hline)

/-! ### What the words stand for -/

theorem innerWords_eq_iff {s t : Summary} :
    s.innerWords = t.innerWords ↔
      s.ipSrc = t.ipSrc ∧ s.ipDst = t.ipDst ∧ s.ipTtl = t.ipTtl ∧ s.ipIdent = t.ipIdent ∧
        s.ipTotalLength = t.ipTotalLength ∧ s.icmpType = t.icmpType ∧ s.icmpCode = t.icmpCode ∧
          s.icmpIdent = t.icmpIdent ∧ s.icmpSeq = t.icmpSeq ∧
            s.payloadLength = t.payloadLength := by
  simp only [innerWords, List.cons.injEq, List.append_cancel_left_eq, String.toList_inj,
    IPv4.text_injective.eq_iff, decimal_injective.eq_iff, UInt8.toNat_inj, UInt16.toNat_inj,
    true_and, and_true]

theorem checksumWords_eq_iff {s t : Summary} :
    s.checksumWords = t.checksumWords ↔ (s.Intact ↔ t.Intact) := by
  simp only [checksumWords, Intact, ← Bool.and_eq_true]
  cases (s.ipChecksumOk && s.icmpChecksumOk) <;> cases (t.ipChecksumOk && t.icmpChecksumOk) <;> simp

/-- A line tells whether there is a link layer by its first word, and its parts have the same number
of words in all lines, so that each is found in its place. -/
theorem lineWords_eq_iff {s t : Summary} {link link' : Option (Mac × Mac)} :
    s.lineWords link = t.lineWords link' ↔
      link = link' ∧ s.innerWords = t.innerWords ∧ s.checksumWords = t.checksumWords := by
  have hinner : s.innerWords ++ s.checksumWords = t.innerWords ++ t.checksumWords ↔
      s.innerWords = t.innerWords ∧ s.checksumWords = t.checksumWords :=
    ⟨fun h => List.append_inj h (s.length_innerWords.trans t.length_innerWords.symm),
      fun h => congrArg₂ (· ++ ·) h.1 h.2⟩
  cases link with
  | none =>
    cases link' with
    | none => simp [lineWords, linkWords, hinner]
    | some pair' => simp [lineWords, linkWords, innerWords]
  | some pair =>
    cases link' with
    | none => simp [lineWords, linkWords, innerWords]
    | some pair' =>
      simp only [lineWords, linkWords, List.cons_append, List.nil_append, List.cons.injEq, hinner,
        String.toList_inj, Mac.text_injective.eq_iff, Option.some.injEq, Prod.ext_iff, true_and,
        and_assoc]

theorem Shows.eq_iff {s t : Summary} {link link' : Option (Mac × Mac)} (hs : s.Shows link)
    (ht : t.Shows link') : link = link' ↔ s.ethSrc = t.ethSrc ∧ s.ethDst = t.ethDst := by
  rw [hs.1, hs.2, ht.1, ht.2]
  cases link <;> cases link' <;> simp [Mac.text_injective.eq_iff, Prod.ext_iff]

/-! ### The mark of a wrong checksum -/

/-- A line ends in the mark exactly if a checksum is wrong: without the mark it ends in a digit. -/
theorem exists_line_eq_append_mark_iff (s : Summary) :
    (∃ front, s.line = front ++ " [bad checksum]") ↔ ¬ s.Intact := by
  obtain ⟨before, hline⟩ : ∃ before, s.line = before ++ decimal s.payloadLength ++ s.checksumPart :=
    ⟨_, rfl⟩
  constructor
  · rintro ⟨front, hmark⟩ hintact
    have hnone : s.checksumPart = "" := by
      rw [checksumPart, hintact.1, hintact.2]
      rfl
    have hdigit : ']' ∉ (decimal s.payloadLength).toList := notMem_decimal (by decide) _
    have hne : (decimal s.payloadLength).toList ≠ [] := by
      rw [decimal, String.toList_ofList]
      exact digits_ten_ne_nil _
    have hlast : (decimal s.payloadLength).toList.getLast? = some ']' := by
      have hends := congrArg (fun text => text.toList.getLast?) (hline.symm.trans hmark)
      simpa [hnone, List.getLast?_append, List.getLast?_eq_some_getLast hne] using hends
    exact hdigit (List.mem_of_getLast? hlast)
  · intro hbad
    have hpart : s.checksumPart = " [bad checksum]" := by
      rw [checksumPart, if_neg]
      rwa [Bool.and_eq_true]
    exact ⟨before ++ decimal s.payloadLength, by rw [hline, hpart]⟩

/-! ### The line -/

/-- **The line of what was read tells everything that is on it**, and nothing else. It ends in the
mark exactly if a checksum is wrong. -/
theorem line_identifies {s t : Summary} (hs : s.IsRead) (ht : t.IsRead) :
    (s.line = t.line ↔ s.TellsSame t) ∧
      ((∃ front, s.line = front ++ " [bad checksum]") ↔ ¬ s.Intact) := by
  obtain ⟨link, hlink⟩ := hs.exists_shows
  obtain ⟨link', hlink'⟩ := ht.exists_shows
  refine ⟨?_, s.exists_line_eq_append_mark_iff⟩
  rw [line_eq_iff_lineWords hlink hlink', lineWords_eq_iff, hlink.eq_iff hlink', innerWords_eq_iff,
    checksumWords_eq_iff, tellsSame_iff]
  simp only [and_assoc]

/-- An octet of padding is not on the line of a datagram, though it is in its summary. -/
theorem line_identifies_padded :
    let d : Octets :=
      [0x45, 0, 0, 0x1c, 0, 1, 0, 0, 0x40, 1, 0x66, 0xde, 10, 0, 0, 1, 10, 0, 0, 2,
        8, 0, 0xf7, 0xff, 0, 0, 0, 0]
    ∃ s t, ofDatagram d = .ok s ∧ ofDatagram (d ++ [0xff]) = .ok t ∧
      s ≠ t ∧ s.line = t.line ∧ ¬ ∃ front, s.line = front ++ " [bad checksum]" := by
  intro d
  have hs : ofDatagram d = .ok (fields d) := by decide +kernel
  have ht : ofDatagram (d ++ [0xff]) = .ok (fields (d ++ [0xff])) := by decide +kernel
  have hintact : (fields d).Intact := ⟨by decide +kernel, by decide +kernel⟩
  have hsame : (fields d).TellsSame (fields (d ++ [0xff])) := by
    constructor <;> decide +kernel
  have hline := line_identifies ⟨d, .inl hs⟩ ⟨d ++ [0xff], .inl ht⟩
  exact ⟨_, _, hs, ht, by decide +kernel, hline.1.mpr hsame, fun h => hline.2.mp h hintact⟩

end EchoInjector.Summary
