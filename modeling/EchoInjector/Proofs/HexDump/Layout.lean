import EchoInjector.HexDump
import EchoInjector.Proofs.Text.Lines

/-!
# The layout of a hex dump

`HexDump.rows` writes one row after the other until nothing is left. Which row is where can be said
at once: row `r` shows the octets from `16 * r` on, as many as there are up to sixteen, and there are
as many rows as it takes (`toList_render`). No row has a line end in it, so they are the lines of
the dump (`linesOf_render`).
-/

namespace EchoInjector.HexDump

open Wire Text

/-! ### Parts of sixteen octets -/

/-- The octets of row `r`. -/
def part (d : Octets) (r : Nat) : Octets := (d.drop (16 * r)).take 16

/-- The number of rows. -/
def rowCount (d : Octets) : Nat := (d.length + 15) / 16

theorem length_part_le (d : Octets) (r : Nat) : (part d r).length ≤ 16 := List.length_take_le _ _

/-- Behind the first row come the rows of the other octets. -/
theorem part_succ (d : Octets) (r : Nat) : part d (r + 1) = part (d.drop 16) r := by
  rw [part, part, List.drop_drop]
  congr 2
  omega

theorem rowCount_of_ne_nil {d : Octets} (h : d ≠ []) : rowCount d = rowCount (d.drop 16) + 1 := by
  have hlength := List.length_pos_iff.mpr h
  rw [rowCount, rowCount, List.length_drop]
  omega

/-- What is made of each row in turn is made of the first one, and then of the others. -/
theorem map_part {α : Type} {d : Octets} (h : d ≠ []) (f : Nat → Octets → α) :
    (List.range (rowCount d)).map (fun r => f r (part d r)) = f 0 (d.take 16)
      :: (List.range (rowCount (d.drop 16))).map fun r => f (r + 1) (part (d.drop 16) r) := by
  rw [rowCount_of_ne_nil h, List.range_succ_eq_map, List.map_cons, List.map_map]
  simp only [Function.comp_def, Nat.succ_eq_add_one, part_succ]
  rfl

/-- **The rows show all octets, each one once.** -/
theorem flatten_parts (d : Octets) : ((List.range (rowCount d)).map (part d)).flatten = d := by
  induction hlength : d.length using Nat.strongRecOn generalizing d with
  | ind n ih =>
    by_cases hd : d = []
    · subst hd
      rfl
    · have hpos := List.length_pos_iff.mpr hd
      have hrest := ih (d.drop 16).length (by rw [List.length_drop]; omega) _ rfl
      rw [map_part hd fun _ octets => octets, List.flatten_cons, hrest, List.take_append_drop]

/-! ### Lines -/

/-- A row without its line end. -/
def line (start : Nat) (octets : Octets) : List Char :=
  offset start ++ ' ' :: (groups octets ++ ' ' :: ' ' :: octets.map glyph)

theorem row_eq (start : Nat) (octets : Octets) : row start octets = line start octets ++ ['\n'] := by
  simp [row, line]

/-- The lines of a dump. -/
def lines (d : Octets) : List (List Char) :=
  (List.range (rowCount d)).map fun r => line (16 * r) (part d r)

theorem length_lines (d : Octets) : (lines d).length = rowCount d := by
  rw [lines, List.length_map, List.length_range]

theorem getElem?_lines {d : Octets} {r : Nat} {text : List Char} :
    (lines d)[r]? = some text ↔ r < rowCount d ∧ text = line (16 * r) (part d r) := by
  rw [lines, List.getElem?_map, Option.map_eq_some_iff]
  constructor
  · rintro ⟨k, hk, rfl⟩
    obtain ⟨hr, rfl⟩ := List.getElem?_eq_some_iff.mp hk
    rw [List.length_range] at hr
    exact ⟨hr, by rw [List.getElem_range]⟩
  · rintro ⟨hr, rfl⟩
    exact ⟨r, List.getElem?_range hr, rfl⟩

theorem rows_eq (start : Nat) (d : Octets) :
    rows start d = ((List.range (rowCount d)).map
      fun r => line (start + 16 * r) (part d r) ++ ['\n']).flatten := by
  induction hlength : d.length using Nat.strongRecOn generalizing start d with
  | ind n ih =>
    cases d with
    | nil =>
      rw [rows]
      rfl
    | cons b rest =>
      have hrest := ih ((b :: rest).drop 16).length
        (by rw [← hlength, List.length_drop, List.length_cons]; omega) (start + 16) _ rfl
      have hstart : ∀ r, start + 16 + 16 * r = start + 16 * (r + 1) := fun r => by omega
      simp only [hstart] at hrest
      rw [rows, row_eq, rowWidth, hrest, map_part (List.cons_ne_nil b rest)
        fun r octets => line (start + 16 * r) octets ++ ['\n'], List.flatten_cons]
      rfl

/-- **A dump consists of its lines**, each with a line end behind it. -/
theorem toList_render (d : Octets) : (render d).toList = (lines d).flatMap (· ++ ['\n']) := by
  rw [render, String.toList_ofList, rows_eq, lines, List.flatMap_map, List.flatMap_def]
  simp only [Nat.zero_add]

/-! ### The parts of a line -/

theorem newline_notMem_offset (n : Nat) : '\n' ∉ offset n := by
  have hdigits : '\n' ∉ digits 16 n := notMem_digits (by decide) (by decide) (by decide) n
  simp [offset, hdigits]

theorem newline_notMem_groups (octets : Octets) : '\n' ∉ groups octets := by
  have hoctet : ∀ o, '\n' ∉ hexOctet o := notMem_hexOctet (by decide)
  simp [groups, hoctet]

/-- A visible character stands for itself. -/
theorem toNat_glyph {b : UInt8} (h : 32 ≤ b.toNat ∧ b.toNat ≤ 126) :
    (glyph b).toNat = b.toNat := by
  have hchar : ∀ n ≤ 126, (Char.ofNat n).toNat = n := by decide
  rw [glyph, if_pos h, hchar _ h.2]

theorem glyph_ne_newline (b : UInt8) : glyph b ≠ '\n' := by
  by_cases h : 32 ≤ b.toNat ∧ b.toNat ≤ 126
  · intro heq
    have hcode : (glyph b).toNat = 10 := by rw [heq]; rfl
    rw [toNat_glyph h] at hcode
    omega
  · rw [glyph, if_neg h]
    decide

theorem newline_notMem_line (start : Nat) (octets : Octets) : '\n' ∉ line start octets := by
  simp [line, newline_notMem_offset, newline_notMem_groups, glyph_ne_newline]

/-- **The lines of a dump are found again.** -/
theorem linesOf_render (d : Octets) : linesOf (render d).toList = lines d := by
  rw [toList_render]
  refine linesOf_flatMap fun text htext => ?_
  obtain ⟨r, -, rfl⟩ := List.mem_map.mp htext
  exact newline_notMem_line _ _

end EchoInjector.HexDump
