import EchoInjector.Proofs.HexDump.Rereading

/-!
# The columns of a hex dump

What stands behind the offset of a row has a fixed width, so a row is in its columns as long as its
offset is. Four digits suffice for offsets below `0x10000`, and an offset with more moves everything
behind it to the right.

The longest frames get there: with the header of the link in front, a frame may be longer than
the total length of a datagram can say. `columns_of_frame` is the exact account. All rows but one
are in their columns; the one at `0x10000` is the last row there can be, has five digits and stands
one character to the right, and it is there if the payload has more than 65494 octets.
-/

namespace EchoInjector.HexDump

open Wire Text

/-- A line **has its columns** behind an offset of some width: the offset, two blanks, the digits of
the first octet, and the characters in the end, which begin 51 characters behind the offset. Behind
four digits these are the places 6 and 55, counted from zero. -/
structure HasColumns (width start : Nat) (octets : Octets) (text : List Char) : Prop where
  offset : IsOffset start (text.take width) ∧ (text.take width).length = width
  blanks : (text.drop width).take 2 = [' ', ' ']
  digits : ∀ b, octets.head? = some b → (text.drop (width + 2)).take 2 = hexOctet b
  glyphs : List.Forall₂ IsGlyph octets (text.drop (width + 51))

/-- The dump of octets is **in columns**: every line has its columns behind four digits. -/
def InColumns (d : Octets) : Prop :=
  ∀ r text, (linesOf (render d).toList)[r]? = some text →
    HasColumns 4 (16 * r) ((d.drop (16 * r)).take 16) text

/-! ### The width of an offset -/

theorem length_offset_of_lt {n : Nat} (h : n < 65536) : (offset n).length = 4 := by
  have hdigits : (digits 16 n).length ≤ 4 := length_digits_le (k := 3) (by decide) (by omega)
  rw [offset, List.length_append, List.length_replicate]
  omega

theorem offset_65536 : offset 65536 = "10000".toList := by
  decide +kernel

/-- Four digits denote no more than `0xffff`. -/
theorem IsOffset.lt_of_length {n : Nat} {text : List Char} (h : IsOffset n text)
    (hlength : text.length = 4) : n < 65536 := by
  have hlt := valueFrom_lt (by decide : 0 < 16) 0 text
  rwa [h.denotes, hlength] at hlt

/-! ### Lines -/

theorem length_line {octets : Octets} (h : octets.length ≤ 16) (start : Nat) :
    (line start octets).length = (offset start).length + 51 + octets.length := by
  simp only [line, List.length_append, List.length_cons, List.length_map, length_groups h]
  omega

/-- What stands behind the offset stands at fixed places from there. -/
theorem drop_line (start k : Nat) (octets : Octets) :
    (line start octets).drop ((offset start).length + k)
      = (' ' :: (groups octets ++ ' ' :: ' ' :: octets.map glyph)).drop k := by
  rw [line, List.drop_append, List.drop_eq_nil_of_le (by omega), List.nil_append,
    Nat.add_sub_cancel_left]

/-- The groups begin with a blank, and the digits of the first octet stand behind it. -/
theorem exists_groups_eq_cons (octets : Octets) :
    ∃ others, groups octets = ' ' :: others ∧ ∀ b, octets.head? = some b →
      others.take 2 = hexOctet b := by
  cases octets with
  | nil => exact ⟨_, rfl, by rintro b ⟨⟩⟩
  | cons c rest =>
    refine ⟨_, rfl, ?_⟩
    rintro b ⟨⟩
    rfl

/-- **Every line has its columns behind its own offset.** -/
theorem hasColumns_line {octets : Octets} (h : octets.length ≤ 16) (start : Nat) :
    HasColumns (offset start).length start octets (line start octets) := by
  obtain ⟨others, hothers, hfirst⟩ := exists_groups_eq_cons octets
  have hlength := length_groups h
  rw [hothers, List.length_cons] at hlength
  constructor
  case offset =>
    rw [line, List.take_left]
    exact ⟨isOffset_offset start, rfl⟩
  case blanks =>
    have hdrop := drop_line start 0 octets
    rw [Nat.add_zero] at hdrop
    rw [hdrop, hothers]
    rfl
  case digits =>
    intro b hb
    rw [drop_line, hothers, ← hfirst b hb]
    exact List.take_append_of_le_length (by omega)
  case glyphs =>
    have hbefore : (' ' :: (groups octets ++ [' ', ' '])).length = 51 := by
      rw [List.length_cons, List.length_append, length_groups h]
      rfl
    have hparts : ' ' :: (groups octets ++ ' ' :: ' ' :: octets.map glyph)
        = ' ' :: (groups octets ++ [' ', ' ']) ++ octets.map glyph := by simp
    rw [drop_line, hparts, List.drop_left' hbefore]
    exact forall₂_glyph octets

/-! ### Dumps -/

/-- **A dump is in columns exactly if four digits suffice for its offsets.** -/
theorem inColumns_iff {d : Octets} : InColumns d ↔ d.length ≤ 65536 := by
  simp only [InColumns, linesOf_render, getElem?_lines]
  constructor
  · intro hcolumns
    refine Nat.le_of_not_lt fun hlong => ?_
    have hrow : 4096 < rowCount d := by
      rw [rowCount]
      omega
    obtain ⟨hoffset, hfour⟩ := (hcolumns 4096 _ ⟨hrow, rfl⟩).offset
    exact absurd (hoffset.lt_of_length hfour) (by decide)
  · rintro hshort r text ⟨hr, rfl⟩
    rw [rowCount] at hr
    have hfour : (offset (16 * r)).length = 4 := length_offset_of_lt (by omega)
    rw [← hfour]
    exact hasColumns_line (length_part_le d r) _

/-- **The columns of the dump of a frame.** The dump is in columns exactly if the payload has at most
65494 octets. With more, this fails in one row: every row in front of it has its columns behind four
digits, while it itself is the last row, at `0x10000`, and has its columns behind five. The rows
before the last one always have the same length. -/
theorem columns_of_frame {p : Probe} {m : Mac} {f : Octets} (h : p.frame m = .ok f) :
    (InColumns f ↔ p.payload.length ≤ 65494) ∧
      (∀ r text, (linesOf (render f).toList)[r]? = some text →
        (r < 4096 → HasColumns 4 (16 * r) ((f.drop (16 * r)).take 16) text) ∧
        (4096 ≤ r → r = 4096 ∧ (linesOf (render f).toList).length = 4097 ∧
          HasColumns 5 65536 ((f.drop 65536).take 16) text)) ∧
      ∀ r text, (linesOf (render f).toList)[r]? = some text →
        r + 1 < (linesOf (render f).toList).length → text.length = 71 := by
  obtain ⟨hp, rfl⟩ := Probe.frame_eq_ok_iff.mp h
  have hlength : (p.frameOctets m).length = 42 + p.payload.length := Probe.length_frameOctets p m
  generalize p.frameOctets m = f at hlength ⊢
  rw [linesOf_render, length_lines]
  simp only [getElem?_lines]
  have hcount : rowCount f ≤ 4097 := by
    rw [rowCount]
    omega
  refine ⟨by rw [inColumns_iff]; omega, ?_, ?_⟩
  · rintro r text ⟨hr, rfl⟩
    refine ⟨fun hshort => ?_, fun hlong => ?_⟩
    · have hfour : (offset (16 * r)).length = 4 := length_offset_of_lt (by omega)
      rw [← hfour]
      exact hasColumns_line (length_part_le f r) _
    · obtain rfl : r = 4096 := by omega
      have hfive := hasColumns_line (length_part_le f 4096) 65536
      rw [offset_65536] at hfive
      exact ⟨rfl, by omega, hfive⟩
  · rintro r text ⟨hr, rfl⟩ hlast
    have hfour : (offset (16 * r)).length = 4 := length_offset_of_lt (by omega)
    -- a row in front of another one is full
    have hfull : (part f r).length = 16 := by
      rw [part, List.length_take, List.length_drop]
      rw [rowCount] at hlast
      omega
    rw [length_line (length_part_le f r), hfour, hfull]

/-- The longest payload whose frame has a dump in columns. -/
theorem columns_of_frame_at_limit :
    let p : Probe := { payload := List.replicate 65494 0 }
    ∃ f, p.frame .zero = .ok f ∧ InColumns f ∧
      ∀ text, (linesOf (render f).toList)[4095]? = some text →
        HasColumns 4 65520 ((f.drop 65520).take 16) text := by
  intro p
  have hlength : p.payload.length = 65494 := List.length_replicate
  have hframe : p.frame .zero = .ok (p.frameOctets .zero) := Probe.frame_eq_ok (by omega) _
  obtain ⟨hcolumns, hrows, -⟩ := columns_of_frame hframe
  exact ⟨_, hframe, hcolumns.mpr hlength.le, fun text htext => (hrows _ text htext).1 (by decide)⟩

/-- **One octet more, and the dump is not in columns**: the last row has five digits. -/
theorem not_inColumns_of_long_frame :
    let p : Probe := { payload := List.replicate 65495 0 }
    ∃ f text, p.frame .zero = .ok f ∧ (linesOf (render f).toList)[4096]? = some text ∧
      text.take 7 = "10000  ".toList ∧ ¬ InColumns f := by
  intro p
  have hpayload : p.payload.length = 65495 := List.length_replicate
  have hframe : p.frame .zero = .ok (p.frameOctets .zero) := Probe.frame_eq_ok (by omega) _
  have hlength := Probe.length_frameOctets p .zero
  rw [hpayload] at hlength
  refine ⟨_, line (16 * 4096) (part (p.frameOctets .zero) 4096), hframe, ?_, ?_, ?_⟩
  · rw [linesOf_render, getElem?_lines, rowCount, hlength]
    exact ⟨by decide, rfl⟩
  · have hfive : offset (16 * 4096) = "10000".toList := offset_65536
    obtain ⟨others, hothers, -⟩ := exists_groups_eq_cons (part (p.frameOctets .zero) 4096)
    rw [line, hfive, hothers]
    rfl
  · rw [inColumns_iff, hlength]
    decide

end EchoInjector.HexDump
