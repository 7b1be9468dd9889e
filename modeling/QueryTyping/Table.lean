namespace QueryTyping

structure Table where
  entries : List (String × String)
  deriving DecidableEq, Repr

namespace Table

def empty : Table := ⟨[]⟩

def get? (t : Table) (k : String) : Option String :=
  t.entries.lookup k

def insertEntry (k v : String) : List (String × String) → List (String × String)
  | [] => [(k, v)]
  | (k', v') :: r =>
    if k = k' then (k, v) :: r
    else if k < k' then (k, v) :: (k', v') :: r
    else (k', v') :: insertEntry k v r

def insert (t : Table) (k v : String) : Table :=
  ⟨insertEntry k v t.entries⟩

def ofList (l : List (String × String)) : Table :=
  l.foldl (fun t p => t.insert p.1 p.2) empty

theorem lookup_insertEntry (k v k' : String) (l : List (String × String)) :
    (insertEntry k v l).lookup k' = if k' = k then some v else l.lookup k' := by
  induction l with
  | nil => by_cases h : k' = k <;> simp [insertEntry, h]
  | cons p r ih =>
    obtain ⟨a, b⟩ := p
    by_cases hk : k = a
    · subst hk
      by_cases h : k' = k
      · simp [insertEntry, h]
      · simp [insertEntry, List.lookup_cons, h, beq_eq_false_iff_ne.2 h]
    · by_cases hl : k < a
      · by_cases h : k' = k
        · simp [insertEntry, hk, hl, h]
        · simp [insertEntry, List.lookup_cons, hk, hl, h, beq_eq_false_iff_ne.2 h]
      · simp only [insertEntry, hk, hl, ↓reduceIte, List.lookup_cons, ih]
        by_cases h : k' = a
        · subst h; simp [Ne.symm hk]
        · simp [beq_eq_false_iff_ne.2 h]

theorem get?_insert (t : Table) (k v k' : String) :
    (t.insert k v).get? k' = if k' = k then some v else t.get? k' :=
  lookup_insertEntry k v k' t.entries

end Table

end QueryTyping
