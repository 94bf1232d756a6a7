import EchoInjector.Proofs.Text.Numerals

/-!
# Lines and words

Much of what is written here is written in **lines**, each with a line end behind it, and a line in
words with blanks between them. Pieces that each have a mark behind them can be told apart again as
long as the mark does not stand in one of them (`splitOn_flatMap`). `linesOf` cuts a text behind each
of its line ends, and `linesOf_flatMap` says that it finds the lines that were written.
-/

namespace EchoInjector.Text

/-- **Pieces with a mark behind each are found again**, with nothing behind the last mark. -/
theorem splitOn_flatMap {c : Char} {pieces : List (List Char)} (h : ∀ piece ∈ pieces, c ∉ piece) :
    (pieces.flatMap (· ++ [c])).splitOn c = pieces ++ [[]] := by
  have hjoin : pieces.flatMap (· ++ [c]) = [c].intercalate (pieces ++ [[]]) := by
    induction pieces with
    | nil => rfl
    | cons piece rest ih =>
      rw [List.flatMap_cons, ih fun p hp => h p (List.mem_cons_of_mem _ hp)]
      cases rest <;> simp [List.intercalate, List.intersperse]
  rw [hjoin]
  refine List.splitOn_intercalate c (fun piece hpiece => ?_) (by simp)
  rcases List.mem_append.mp hpiece with hpiece | hlast
  · exact h piece hpiece
  · rw [List.mem_singleton.mp hlast]
    exact List.not_mem_nil

/-- The **lines** of a text: what stands before each of its line ends. -/
def linesOf (text : List Char) : List (List Char) := (text.splitOn '\n').dropLast

/-- **Written lines are found again.** -/
theorem linesOf_flatMap {lines : List (List Char)} (hlines : ∀ line ∈ lines, '\n' ∉ line) :
    linesOf (lines.flatMap (· ++ ['\n'])) = lines := by
  rw [linesOf, splitOn_flatMap hlines, List.dropLast_concat]

end EchoInjector.Text
