import QueryTyping.Text.Romanization

namespace QueryTyping.Naming

def opensWord (before c : Char) (after : Option Char) : Bool :=
  c.isUpper && (before.isLower || before.isDigit || (before.isUpper && after.any Char.isLower))

def wordsOf : List Char → List (List Char)
  | [] => []
  | c :: s =>
    if c.isAlphanum then
      match s, wordsOf s with
      | d :: r, w :: ws =>
        if d.isAlphanum && !opensWord c d r.head? then (c :: w) :: ws else [c] :: w :: ws
      | _, ws => [c] :: ws
    else wordsOf s

theorem ne_nil_of_mem_wordsOf {s w : List Char} (h : w ∈ wordsOf s) : w ≠ [] := by
  induction s generalizing w with
  | nil => simp [wordsOf] at h
  | cons c s ih =>
    simp only [wordsOf] at h
    split at h
    · split at h
      · rename_i d r w' ws hs
        have hr : ∀ u ∈ ws, u ≠ [] := fun u hu => ih (by rw [hs]; simp [hu])
        split at h
        · rcases List.mem_cons.1 h with rfl | h
          · simp
          · exact hr w h
        · rcases List.mem_cons.1 h with rfl | h
          · simp
          · exact ih (by rw [hs]; exact h)
      · rename_i ws _
        rcases List.mem_cons.1 h with rfl | h
        · simp
        · exact ih h
    · exact ih h

theorem flatten_wordsOf (s : List Char) : (wordsOf s).flatten = s.filter Char.isAlphanum := by
  induction s with
  | nil => rfl
  | cons c s ih =>
    by_cases hc : c.isAlphanum = true
    · rw [List.filter_cons_of_pos hc, ← ih]
      simp only [wordsOf, hc, ↓reduceIte]
      split
      · rename_i hs
        rw [hs]
        split <;> simp
      · simp
    · rw [List.filter_cons_of_neg hc, ← ih]
      simp [wordsOf, hc]

def words (r : Text.Romanization) (name : String) : List (List Char) :=
  wordsOf (r.romanize name.toList)

end QueryTyping.Naming
