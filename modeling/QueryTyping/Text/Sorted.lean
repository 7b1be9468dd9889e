namespace QueryTyping.Text

def insertSorted (s : String) : List String → List String
  | [] => [s]
  | t :: r => if s = t then t :: r else if s < t then s :: t :: r else t :: insertSorted s r

theorem mem_insertSorted {a s : String} {l : List String} :
    a ∈ insertSorted s l ↔ a = s ∨ a ∈ l := by
  induction l with
  | nil => simp [insertSorted]
  | cons t r ih =>
    by_cases hs : s = t
    · simp [insertSorted, hs]
    · by_cases hl : s < t
      · simp [insertSorted, hs, hl]
      · simp [insertSorted, hs, hl, ih]; grind

def sortedSet (l : List String) : List String :=
  l.foldr insertSorted []

theorem mem_sortedSet {a : String} {l : List String} : a ∈ sortedSet l ↔ a ∈ l := by
  induction l with
  | nil => simp [sortedSet]
  | cons s l ih => simpa [sortedSet, mem_insertSorted] using or_congr_right ih

end QueryTyping.Text
