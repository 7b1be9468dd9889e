import Mathlib.Data.List.Sort
import Mathlib.Data.String.Basic
import QueryTyping.Text.Sorted

namespace QueryTyping.Text

theorem ascending_insertSorted {s : String} {l : List String} (h : l.Pairwise (· < ·)) :
    (insertSorted s l).Pairwise (· < ·) := by
  induction l with
  | nil => simp [insertSorted]
  | cons t l ih =>
    obtain ⟨ht, hl⟩ := List.pairwise_cons.1 h
    unfold insertSorted
    split
    · exact h
    split
    · rename_i hlt
      refine List.pairwise_cons.2 ⟨?_, h⟩
      intro u hu
      rcases List.mem_cons.1 hu with rfl | hu
      · exact hlt
      · exact lt_trans hlt (ht u hu)
    · rename_i hne hnlt
      have hts : t < s := lt_of_le_of_ne (not_lt.1 hnlt) (Ne.symm hne)
      refine List.pairwise_cons.2 ⟨?_, ih hl⟩
      intro u hu
      rcases mem_insertSorted.1 hu with rfl | hu
      · exact hts
      · exact ht u hu

theorem ascending_sortedSet (l : List String) : (sortedSet l).Pairwise (· < ·) := by
  induction l with
  | nil => exact .nil
  | cons s l ih => exact ascending_insertSorted ih

end QueryTyping.Text
