import Mathlib.Data.List.Forall2
import Mathlib.Data.List.TakeWhile
import EchoInjector.Proofs.HexDump.Layout
import EchoInjector.Proofs.Run.Preview
import EchoInjector.Proofs.Text.Denotation

/-!
# Hex dumps can be read again

A hex dump is for people, but nothing gets lost in it. A reader that knows only where the digits
stand finds all octets again: in each line it skips the offset and one blank, and then reads sixteen
groups of three characters, each of them either a blank and two digits or just blanks (`read?`). It
never looks at the characters behind the groups, which may well look like digits or blanks
themselves.

`Shows` says what a line is, in terms of its parts: an offset in hexadecimal digits, no fewer than
four of them and no more than needed, the groups, and one character for each octet. The offset is
described by what it denotes, so that it has no part in how offsets are written.

`reread_render` puts this together: a dump consists of such lines, one for every sixteen octets, it
is read again as the octets that it was made of, and no two runs of octets have the same dump. In the
answer to a plan that only shows its packet, the dump that is read again and summarised gives the
line above it.
-/

namespace EchoInjector.HexDump

open Wire Text

/-! ### A reader -/

/-- The octet of a group of three characters; three blanks stand for none. -/
def readGroup? : List Char → Option Octets
  | [' ', ' ', ' '] => some []
  | [' ', c, d] => do
    let high ← digitValue? 16 c
    let low ← digitValue? 16 d
    return [UInt8.ofNat (16 * high + low)]
  | _ => none

/-- The octets of some number of groups. What stands behind these is not looked at. -/
def readGroups? : Nat → List Char → Option Octets
  | 0, _ => some []
  | n + 1, text => do
    let first ← readGroup? (text.take 3)
    let rest ← readGroups? n (text.drop 3)
    return first ++ rest

/-- The octets of a line: those of the sixteen groups behind the offset and one blank. -/
def readLine? (text : List Char) : Option Octets :=
  readGroups? 16 ((text.dropWhile (· ≠ ' ')).drop 1)

/-- The octets of all lines of a text. -/
def read? (text : List Char) : Option Octets :=
  ((linesOf text).mapM readLine?).map List.flatten

/-! ### What a line shows -/

/-- A text is the **offset** of a row: lower-case hexadecimal digits that denote it, at least four of
them, and more only if they are needed. -/
structure IsOffset (n : Nat) (text : List Char) : Prop where
  digits : ∀ c ∈ text, c ∈ "0123456789abcdef".toList
  denotes : valueFrom 16 0 text = n
  atLeastFour : 4 ≤ text.length
  noMore : 4 < text.length → text.head? ≠ some '0'

/-- How an octet is shown as a character: by itself if it is visible or the blank, otherwise by a
point. -/
def IsGlyph (b : UInt8) (c : Char) : Prop :=
  if 0x20 ≤ b.toNat ∧ b.toNat ≤ 0x7e then c.toNat = b.toNat else c = '.'

/-- A line **shows** octets from an offset on. -/
inductive Shows (start : Nat) (octets : Octets) : List Char → Prop
  /-- It has the offset, a blank, sixteen groups for the octets, two blanks, and one character for
  each of them. -/
  | line {offset groups glyphs : List Char} (isOffset : IsOffset start offset)
      (length : groups.length = 3 * 16) (hex : readGroups? 16 groups = some octets)
      (areGlyphs : List.Forall₂ IsGlyph octets glyphs) :
      Shows start octets (offset ++ ' ' :: (groups ++ ' ' :: ' ' :: glyphs))

/-- A text **is a dump** of octets, and is read as such. -/
structure IsDump (d : Octets) (text : List Char) : Prop where
  /-- It consists of lines with a line end each. -/
  ended : text = (linesOf text).flatMap (· ++ ['\n'])
  /-- There are as many as it takes to have no more than sixteen octets in each. -/
  count : (linesOf text).length = (d.length + 15) / 16
  /-- Each line shows its sixteen octets, or what is left of them. -/
  shows : ∀ r line, (linesOf text)[r]? = some line →
    Shows (16 * r) ((d.drop (16 * r)).take 16) line
  /-- All octets are found again. -/
  reread : read? text = some d

/-! ### Offsets -/

theorem digitChar_mem : ∀ d < 16, digitChar d ∈ "0123456789abcdef".toList := by
  decide

theorem valueFrom_digits (n : Nat) : valueFrom 16 0 (digits 16 n) = n := by
  have hread := readDigits_digits (by decide : 2 ≤ 16) (by decide) (Nat.le_refl n) .tooLarge
  exact ((readDigits_eq_ok_iff (by decide) (Nat.zero_le n)).mp hread).2.1.symm

/-- Zeros in front do not change what digits denote. -/
theorem valueFrom_zeros (k : Nat) (cs : List Char) :
    valueFrom 16 0 (List.replicate k '0' ++ cs) = valueFrom 16 0 cs := by
  induction k with
  | zero => rfl
  | succ k ih => exact ih

theorem isOffset_offset (n : Nat) : IsOffset n (offset n) where
  digits := by
    intro c hc
    rcases List.mem_append.mp hc with hzero | hdigit
    · rw [List.eq_of_mem_replicate hzero]
      decide
    · obtain ⟨d, hd, rfl⟩ := exists_digit_of_mem_digits (by decide) hdigit
      exact digitChar_mem d hd
  denotes := by rw [offset, valueFrom_zeros, valueFrom_digits]
  atLeastFour := by
    rw [offset, List.length_append, List.length_replicate]
    omega
  noMore := by
    intro hlong hzero
    rw [offset, List.length_append, List.length_replicate] at hlong
    have hwide : 4 - (digits 16 n).length = 0 := by omega
    obtain ⟨d, rest, hdigits, hd, hnone⟩ := exists_digits_eq_cons (by decide : 2 ≤ 16) n
    rw [offset, hwide, List.replicate_zero, List.nil_append, hdigits, List.head?_cons,
      Option.some_inj, digitChar_eq_zero_iff d hd] at hzero
    -- a number that begins with a zero is zero, and that has one digit
    rw [hnone hzero, digits_of_lt (by decide), List.length_singleton] at hlong
    omega

/-! ### Groups -/

theorem readGroup?_hexOctet (o : UInt8) : readGroup? (' ' :: hexOctet o) = some [o] := by
  have ho := o.toNat_lt
  have hhigh := digitValue?_digitChar 16 (by decide) (o.toNat / 16) (by omega)
  have hlow := digitValue?_digitChar 16 (by decide) (o.toNat % 16) (by omega)
  have hblank : digitChar (o.toNat / 16) ≠ ' ' := digitChar_ne (by omega) (by decide)
  have hvalue : 16 * (o.toNat / 16) + o.toNat % 16 = o.toNat := Nat.div_add_mod _ _
  rw [hexOctet, readGroup?.eq_2 _ _ fun hfirst _ => hblank hfirst]
  simp only [hhigh, hlow, Option.bind_eq_bind, Option.bind_some, hvalue, UInt8.ofNat_toNat]
  rfl

/-- One group is read, and then the others. -/
theorem readGroups?_succ {group rest : List Char} {first octets : Octets} {n : Nat}
    (hlength : group.length = 3) (hgroup : readGroup? group = some first)
    (hrest : readGroups? n rest = some octets) :
    readGroups? (n + 1) (group ++ rest) = some (first ++ octets) := by
  rw [readGroups?, ← hlength, List.take_left, List.drop_left, hgroup, hrest]
  rfl

theorem readGroups?_blanks (n : Nat) (rest : List Char) :
    readGroups? n (List.replicate (3 * n) ' ' ++ rest) = some [] := by
  induction n with
  | zero => rfl
  | succ n ih => exact @readGroups?_succ [' ', ' ', ' '] _ [] [] n rfl rfl ih

/-- **Groups are read as the octets that they show**, whatever stands behind them. -/
theorem readGroups?_groups {octets : Octets} (h : octets.length ≤ 16) (rest : List Char) :
    readGroups? 16 (groups octets ++ rest) = some octets := by
  have hall : ∀ (octets : Octets) (n : Nat), readGroups? (octets.length + n)
      (octets.flatMap (fun b => ' ' :: hexOctet b) ++ (List.replicate (3 * n) ' ' ++ rest))
        = some octets := by
    intro octets n
    induction octets with
    | nil =>
      rw [List.length_nil, Nat.zero_add]
      exact readGroups?_blanks n rest
    | cons b octets ih =>
      rw [List.length_cons, Nat.succ_add, List.flatMap_cons, List.append_assoc]
      exact readGroups?_succ rfl (readGroup?_hexOctet b) ih
  have hcount : octets.length + (rowWidth - octets.length) = 16 := by
    rw [rowWidth]
    omega
  have hread := hall octets (rowWidth - octets.length)
  rwa [hcount, ← List.append_assoc] at hread

theorem length_groups {octets : Octets} (h : octets.length ≤ 16) :
    (groups octets).length = 3 * 16 := by
  have hgroup : ∀ b : UInt8, (' ' :: hexOctet b).length = 3 := fun _ => rfl
  rw [groups, List.length_append, List.length_replicate, List.length_flatMap]
  simp only [hgroup, List.map_const', List.sum_replicate_nat, rowWidth]
  omega

/-! ### Lines -/

/-- **A line is read as the octets that it shows.** -/
theorem readLine?_line {octets : Octets} (h : octets.length ≤ 16) (start : Nat) :
    readLine? (line start octets) = some octets := by
  have hblank : ∀ c ∈ offset start, decide (c ≠ ' ') = true := by
    intro c hc
    refine decide_eq_true ?_
    rintro rfl
    exact absurd ((isOffset_offset start).digits _ hc) (by decide)
  rw [readLine?, line, List.dropWhile_append_of_pos hblank]
  exact readGroups?_groups h _

theorem isGlyph_glyph (b : UInt8) : IsGlyph b (glyph b) := by
  rw [IsGlyph]
  split
  case isTrue hvisible => exact toNat_glyph hvisible
  case isFalse hother => exact if_neg hother

/-- The characters in the end show the octets. -/
theorem forall₂_glyph (octets : Octets) : List.Forall₂ IsGlyph octets (octets.map glyph) := by
  rw [List.forall₂_map_right_iff, List.forall₂_same]
  exact fun b _ => isGlyph_glyph b

theorem shows_line {octets : Octets} (h : octets.length ≤ 16) (start : Nat) :
    Shows start octets (line start octets) := by
  have hread := readGroups?_groups h []
  rw [List.append_nil] at hread
  exact .line (isOffset_offset start) (length_groups h) hread (forall₂_glyph octets)

/-! ### Dumps -/

/-- **A dump is read again.** -/
theorem read?_render (d : Octets) : read? (render d).toList = some d := by
  have hlines : ∀ rs : List Nat, (rs.map fun r => line (16 * r) (part d r)).mapM readLine?
      = some (rs.map (part d)) := by
    intro rs
    induction rs with
    | nil => rfl
    | cons r rs ih =>
      rw [List.map_cons, List.mapM_cons, readLine?_line (length_part_le d r), ih]
      rfl
  rw [read?, linesOf_render, lines, hlines, Option.map_some, flatten_parts]

theorem isDump_render (d : Octets) : IsDump d (render d).toList where
  ended := by rw [linesOf_render, toList_render]
  count := by rw [linesOf_render, length_lines, rowCount]
  shows := by
    intro r text htext
    rw [linesOf_render, getElem?_lines] at htext
    obtain ⟨-, rfl⟩ := htext
    exact shows_line (length_part_le d r) _
  reread := read?_render d

/-- **Nothing gets lost in a hex dump.** It consists of lines that show sixteen octets each, and it is
read again as the octets that it was made of; so no other octets have the same dump. In the text that
answers to a plan whose packet is only shown, the dump stands below one line; it is read again as the
plan's packet, and summarising that gives the summary that has this line. -/
theorem reread_render (d : Octets) :
    IsDump d (render d).toList ∧ (∀ other, render other = render d → other = d) ∧
      ∀ (i : Program.Invocation) (a : CommandLine.Arguments) (h : Host),
        CommandLine.parse i.arguments i.env = .ok a → a.plan.dryRun = true → a.plan.json = false →
        (Program.run i h).status = 0 →
          ∃ above below wire s, (Program.run i h).stdout.toList = above ++ '\n' :: below ∧
            '\n' ∉ above ∧ read? below = some wire ∧ a.plan.summarise wire = .ok s ∧
            s.line.toList = above ∧ a.plan.shown = .ok (wire, s) := by
  refine ⟨isDump_render d, fun other heq => ?_, ?_⟩
  · have hread := read?_render other
    rw [heq, read?_render d] at hread
    exact (Option.some.inj hread).symm
  · intro i a h hparse hdry hjson hstatus
    obtain ⟨logged, hrun⟩ := Program.run_dryRun hparse hdry
    rw [hrun] at hstatus ⊢
    cases hshown : a.plan.shown with
    | error e =>
      rw [hshown] at hstatus
      cases hstatus
    | ok crafted =>
      obtain ⟨wire, s⟩ := crafted
      have hread : a.plan.summarise wire = .ok s := Plan.summarise_of_craft hshown
      refine ⟨s.line.toList, (render wire).toList, wire, s, ?_,
        Plan.newline_notMem_line_of_summarise hread, read?_render wire, hread, rfl, rfl⟩
      simp [Program.showText, hjson]

/-- A packet whose payload looks like the groups of a line. -/
theorem reread_render_of_digits :
    let i : Program.Invocation :=
      { arguments := ["-n", "--payload", " 30 31  32"], env := fun _ => none, time := "" }
    ∃ a above below wire s, CommandLine.parse i.arguments i.env = .ok a ∧ a.plan.dryRun = true ∧
      a.plan.json = false ∧ (Program.run i {}).status = 0 ∧
      (Program.run i {}).stdout.toList = above ++ '\n' :: below ∧ read? below = some wire ∧
      a.plan.summarise wire = .ok s ∧ s.line.toList = above := by
  intro i
  have hasked : (CommandLine.parse i.arguments i.env).toOption.map
      (fun a => (a.plan.dryRun, a.plan.json)) = some (true, false) := by decide +kernel
  have hstatus : (Program.run i {}).status = 0 := by decide +kernel
  cases hparse : CommandLine.parse i.arguments i.env with
  | error ending =>
    rw [hparse] at hasked
    cases hasked
  | ok a =>
    rw [hparse] at hasked
    obtain ⟨hdry, hjson⟩ := Prod.mk.inj (Option.some.inj hasked)
    obtain ⟨above, below, wire, s, hstdout, -, hread, hsummary, hline, -⟩ :=
      (reread_render []).2.2 i a {} hparse hdry hjson hstatus
    exact ⟨a, above, below, wire, s, rfl, hdry, hjson, hstatus, hstdout, hread, hsummary, hline⟩

end EchoInjector.HexDump
