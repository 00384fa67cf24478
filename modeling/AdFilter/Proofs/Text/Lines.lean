import AdFilter.Proofs.Text.Pieces
import AdFilter.Proofs.Text.Trimming

/-! # The lines of a text

A line ends with a line feed, which may have a carriage return in front of it. The line feed may be
missing behind the last line. If the lines are trimmed and the empty ones passed over, they are the
pieces between the line feeds.
-/

namespace AdFilter.Text

def dropReturn (line : List Char) : List Char :=
  if line.getLast? = some '\r' then line.dropLast else line

/-- The lines of a text, of whose first line the beginning has been read. -/
def linesFrom (begun : List Char) : List Char → List (List Char)
  | [] => if begun = [] then [] else [begun]
  | c :: cs => if c = '\n' then dropReturn begun :: linesFrom [] cs else linesFrom (begun ++ [c]) cs

def lines (cs : List Char) : List (List Char) :=
  linesFrom [] cs

example : lines "a\r\n\n\rb\r".toList = ["a".toList, [], "\rb\r".toList] := by decide +kernel

theorem trimList_dropReturn (line : List Char) : trimList (dropReturn line) = trimList line := by
  unfold dropReturn
  split
  · rename_i ends
    obtain ⟨front, split⟩ := List.getLast?_eq_some_iff.mp ends
    rw [split, List.dropLast_concat, trimList_append_of_blank]
    simp [isBlank]
  · rfl

section Trimmed

variable {keep : List Char → Bool} (empty : keep [] = false)

include empty in
theorem filter_linesFrom {begun : List Char} (oneLine : '\n' ∉ begun) (cs : List Char) :
    ((linesFrom begun cs).map trimList).filter keep =
      ((pieces '\n' (begun ++ cs)).map trimList).filter keep := by
  induction cs generalizing begun with
  | nil =>
      rw [List.append_nil, pieces_of_not_mem oneLine, linesFrom]
      split
      · rename_i nothing
        simp [nothing, trimList, dropEndWhile, empty]
      · rfl
  | cons c cs ih =>
      rw [linesFrom]
      split
      · rename_i feed
        have rest := ih (List.not_mem_nil)
        rw [feed, pieces_append, pieces_of_not_mem oneLine]
        simp only [List.map_cons, List.singleton_append, List.filter_cons, trimList_dropReturn, rest,
          List.nil_append]
      · rename_i other
        have inside : '\n' ∉ begun ++ [c] := by
          simp [oneLine, Ne.symm other]
        rw [ih inside, List.append_assoc, List.singleton_append]

include empty in
/-- It makes no difference to trimmed lines how the lines were told apart. -/
theorem filter_lines (cs : List Char) : ((lines cs).map trimList).filter keep =
    ((pieces '\n' cs).map trimList).filter keep :=
  filter_linesFrom empty List.not_mem_nil cs

end Trimmed

end AdFilter.Text
