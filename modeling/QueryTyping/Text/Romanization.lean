namespace QueryTyping.Text

structure Romanization where
  spell : Char → List Char
  spell_of_ascii : ∀ c, c.toNat < 0x80 → spell c = [c]
  ascii_of_mem_spell : ∀ c, ∀ d ∈ spell c, d.toNat < 0x80

namespace Romanization

def romanize (r : Romanization) (s : List Char) : List Char :=
  s.flatMap r.spell

theorem romanize_of_ascii (r : Romanization) {s : List Char} (h : ∀ c ∈ s, c.toNat < 0x80) :
    r.romanize s = s := by
  induction s with
  | nil => rfl
  | cons c s ih =>
    have hc : r.spell c = [c] := r.spell_of_ascii c (h c List.mem_cons_self)
    have hs : r.romanize s = s := ih fun d hd => h d (List.mem_cons_of_mem c hd)
    rw [romanize, List.flatMap_cons, hc, ← romanize, hs]
    rfl

theorem toNat_lt_of_mem_romanize (r : Romanization) {s : List Char} {c : Char}
    (h : c ∈ r.romanize s) : c.toNat < 0x80 := by
  obtain ⟨d, -, hc⟩ := List.mem_flatMap.1 h
  exact r.ascii_of_mem_spell d c hc

/-- The spellings of characters beyond ASCII by code point; a character without one leaves
nothing. -/
def ofTable (table : List (Nat × String))
    (h : (table.all fun p => p.2.toList.all fun c => c.toNat < 0x80) = true) : Romanization where
  spell c := if c.toNat < 0x80 then [c] else ((table.lookup c.toNat).getD "").toList
  spell_of_ascii c hc := if_pos hc
  ascii_of_mem_spell c d hd := by
    split at hd
    · rename_i hc
      rwa [List.mem_singleton.1 hd]
    · cases hspelling : table.lookup c.toNat with
      | none => simp [hspelling] at hd
      | some spelling =>
        obtain ⟨before, after, htable, -⟩ := List.lookup_eq_some_iff.1 hspelling
        have hmem : (c.toNat, spelling) ∈ table := by simp [htable]
        rw [hspelling] at hd
        exact of_decide_eq_true (List.all_eq_true.1 (List.all_eq_true.1 h _ hmem) d hd)

def shenzhen : Romanization :=
  .ofTable [(0x6DF1, "Shen"), (0x5733, "Zhen")] rfl

end Romanization

end QueryTyping.Text
