namespace QueryTyping.Text

def cutFirst (c : Char) : List Char → Option (List Char × List Char)
  | [] => none
  | x :: s => if x = c then some ([], s) else (cutFirst c s).map fun p => (x :: p.1, p.2)

theorem cutFirst_eq_some_iff {c : Char} {s a b : List Char} :
    cutFirst c s = some (a, b) ↔ s = a ++ c :: b ∧ c ∉ a := by
  induction s generalizing a with
  | nil => simp [cutFirst]
  | cons x s ih =>
    by_cases h : x = c
    · cases a with
      | nil => simp [cutFirst, h]
      | cons y a => simp [cutFirst, h]; grind
    · cases a with
      | nil => simp [cutFirst, h]
      | cons y a => simp [cutFirst, h]; grind

def cutLast (c : Char) : List Char → Option (List Char × List Char)
  | [] => none
  | x :: s =>
    match cutLast c s with
    | some (a, b) => some (x :: a, b)
    | none => if x = c then some ([], s) else none

theorem cutLast_eq_none_iff {c : Char} {s : List Char} : cutLast c s = none ↔ c ∉ s := by
  induction s with
  | nil => simp [cutLast]
  | cons x s ih =>
    cases hs : cutLast c s with
    | none => simp [cutLast, hs, ← ih, eq_comm]
    | some p => simp [cutLast, hs, ← ih]

theorem cutLast_eq_some_iff {c : Char} {s a b : List Char} :
    cutLast c s = some (a, b) ↔ s = a ++ c :: b ∧ c ∉ b := by
  induction s generalizing a with
  | nil => simp [cutLast]
  | cons x s ih =>
    cases hs : cutLast c s with
    | none =>
      have hc := cutLast_eq_none_iff.1 hs
      by_cases h : x = c
      · cases a with
        | nil => simp [cutLast, hs, h]; grind
        | cons y a => simp [cutLast, hs, h]; grind
      · cases a with
        | nil => simp [cutLast, hs, h]
        | cons y a => simp [cutLast, hs, h]; grind
    | some p =>
      obtain ⟨u, v⟩ := p
      rw [hs] at ih
      cases a with
      | nil =>
        have hc : c ∈ s := by
          have := cutLast_eq_none_iff (c := c) (s := s)
          simpa [hs] using this
        simp [cutLast, hs]; grind
      | cons y a => simp [cutLast, hs]; grind

theorem cutLast_append {c : Char} {a b : List Char} (h : c ∉ b) :
    cutLast c (a ++ c :: b) = some (a, b) :=
  cutLast_eq_some_iff.2 ⟨rfl, h⟩

theorem cutLast_inj {c : Char} {a b a' b' : List Char} (hb : c ∉ b) (hb' : c ∉ b')
    (h : a ++ c :: b = a' ++ c :: b') : a = a' ∧ b = b' := by
  have hcut := cutLast_append (a := a) hb
  rw [h, cutLast_append hb'] at hcut
  simpa [eq_comm] using hcut

def pieces (c : Char) : List Char → List (List Char)
  | [] => [[]]
  | x :: s =>
    if x = c then [] :: pieces c s
    else match pieces c s with
      | [] => [[x]]
      | p :: ps => (x :: p) :: ps

end QueryTyping.Text
