import Mathlib.Data.List.Nodup
import Mathlib.Data.List.Perm.Subperm
import QueryTyping.Naming.Identifier
import QueryTyping.Proofs.Claimant

namespace QueryTyping.Naming

theorem repr_injective : Function.Injective Nat.repr := by
  intro m n h
  have hd : Nat.toDigits 10 m = Nat.toDigits 10 n := by
    simpa using congrArg String.toList h
  exact Text.toDigits_injective (by decide) (by decide) hd

theorem length_repr_pos (n : Nat) : 0 < n.repr.length := by
  have := Nat.length_toDigits_pos (b := 10) (n := n)
  simpa [← String.length_toList] using this

section Candidates

variable {base separator : String} {position : Nat} {used : List String}

theorem candidate_ne_of_lt {m n : Nat} (h : m < n) :
    candidate base separator position m ≠ candidate base separator position n := by
  intro he
  have hl := congrArg String.length he
  have hp := length_repr_pos position
  have hn := length_repr_pos n
  -- The first three candidates grow in length; after that only the number at the end differs.
  match m, n with
  | 0, 1 =>
    simp only [candidate, String.length_append] at hl
    omega
  | 0, n + 2 =>
    simp only [candidate, String.length_append] at hl
    omega
  | 1, n + 2 =>
    simp only [candidate, String.length_append] at hl
    omega
  | m + 2, n + 2 =>
    have hr : (m + 2).repr = (n + 2).repr := by simpa [candidate] using he
    exact Nat.ne_of_lt h (repr_injective hr)

theorem candidate_injective : Function.Injective (candidate base separator position) := by
  intro m n h
  rcases Nat.lt_trichotomy m n with hlt | heq | hlt
  · exact absurd h (candidate_ne_of_lt hlt)
  · exact heq
  · exact absurd h.symm (candidate_ne_of_lt hlt)

theorem exists_unused (base separator : String) (position : Nat) (used : List String) :
    ∃ n ≤ used.length, candidate base separator position n ∉ used := by
  -- More candidates than there are used names cannot all be among them.
  by_contra hall
  have hsub : (List.range (used.length + 1)).map (candidate base separator position) ⊆ used := by
    intro name hname
    obtain ⟨n, hn, rfl⟩ := List.mem_map.1 hname
    by_contra hu
    exact hall ⟨n, Nat.le_of_lt_succ (List.mem_range.1 hn), hu⟩
  have hnodup : ((List.range (used.length + 1)).map (candidate base separator position)).Nodup :=
    List.nodup_range.map candidate_injective
  have hle := (hnodup.subperm hsub).length_le
  rw [List.length_map, List.length_range] at hle
  omega

theorem exists_fresh_eq (base separator : String) (position : Nat) (used : List String) :
    ∃ n, fresh base separator position used = candidate base separator position n ∧
      candidate base separator position n ∉ used ∧
        ∀ m < n, candidate base separator position m ∈ used := by
  unfold fresh
  cases hf : (List.range (used.length + 1)).find? fun n =>
      !used.contains (candidate base separator position n) with
  | none =>
    obtain ⟨n, hn, hu⟩ := exists_unused base separator position used
    have hnone := List.find?_eq_none.1 hf n (List.mem_range.2 (Nat.lt_succ_of_le hn))
    simp [hu] at hnone
  | some n =>
    obtain ⟨hn, -, hbefore⟩ := List.find?_range_eq_some.1 hf
    refine ⟨n, rfl, by simpa using hn, fun m hm => ?_⟩
    simpa using hbefore m hm

theorem fresh_not_mem : fresh base separator position used ∉ used := by
  obtain ⟨n, hn, hu, -⟩ := exists_fresh_eq base separator position used
  rw [hn]
  exact hu

theorem fresh_eq_base_iff : fresh base separator position used = base ↔ base ∉ used := by
  constructor
  · intro h
    rw [← h]
    exact fresh_not_mem
  · exact fresh_of_not_mem

theorem base_isPrefix_candidate (n : Nat) :
    base.toList <+: (candidate base separator position n).toList := by
  match n with
  | 0 => exact List.prefix_refl _
  | 1 => simp [candidate, List.append_assoc]
  | n + 2 => simp [candidate, List.append_assoc]

theorem base_isPrefix_fresh : base.toList <+: (fresh base separator position used).toList := by
  obtain ⟨n, hn, -⟩ := exists_fresh_eq base separator position used
  rw [hn]
  exact base_isPrefix_candidate n

end Candidates

section Rows

variable {α β : Type}

def inTurn (f : Nat → List β → α → β) (i : Nat) (earlier : List β) : List α → List β
  | [] => []
  | a :: l => f i earlier a :: inTurn f (i + 1) (f i earlier a :: earlier) l

theorem length_inTurn (f : Nat → List β → α → β) (i : Nat) (earlier : List β) (l : List α) :
    (inTurn f i earlier l).length = l.length := by
  induction l generalizing i earlier with
  | nil => rfl
  | cons a l ih => rw [inTurn, List.length_cons, List.length_cons, ih]

theorem map_inTurn {γ : Type} {f : Nat → List β → α → β} {f' : Nat → List γ → α → γ} {g : β → γ}
    (h : ∀ i earlier a, g (f i earlier a) = f' i (earlier.map g) a) (i : Nat) (earlier : List β)
    (l : List α) : (inTurn f i earlier l).map g = inTurn f' i (earlier.map g) l := by
  induction l generalizing i earlier with
  | nil => rfl
  | cons a l ih => rw [inTurn, inTurn, List.map_cons, ih, List.map_cons, h]

theorem getElem?_inTurn (f : Nat → List β → α → β) (i : Nat) (earlier : List β) (l : List α)
    (j : Nat) :
    (inTurn f i earlier l)[j]? =
      l[j]?.map (f (i + j) (((inTurn f i earlier l).take j).reverse ++ earlier)) := by
  induction l generalizing i earlier j with
  | nil => rfl
  | cons a l ih =>
    cases j with
    | zero => rfl
    | succ j =>
      rw [inTurn, List.getElem?_cons_succ, ih]
      simp [Nat.add_assoc, Nat.add_comm 1 j]

theorem mem_take_of_getElem? {l : List α} {a : α} {j k : Nat} (hjk : j < k) (ha : l[j]? = some a) :
    a ∈ l.take k := by
  have htake : (l.take k)[j]? = some a := by rw [List.getElem?_take, if_pos hjk, ha]
  exact List.mem_of_getElem? htake

structure ToldApart (bases names : List String) : Prop where
  length_eq : names.length = bases.length
  nodup : names.Nodup
  stem : ∀ (j : Nat) (base name : String), bases[j]? = some base → names[j]? = some name →
    base.toList <+: name.toList
  eq_base_iff : ∀ (j : Nat) (base name : String), bases[j]? = some base → names[j]? = some name →
    (name = base ↔ base ∉ names.take j)

variable {base : Nat → String → String} {names : List String}

def freshRow (base : Nat → String → String) : List String → List String :=
  inTurn (fun i used name => fresh (base i name) "" i used) 0 []

theorem getElem?_freshRow (j : Nat) : (freshRow base names)[j]? =
    names[j]?.map fun name => fresh (base j name) "" j ((freshRow base names).take j).reverse := by
  unfold freshRow
  rw [getElem?_inTurn, Nat.zero_add, List.append_nil]

theorem exists_of_mem_freshRow {name : String} (h : name ∈ freshRow base names) :
    ∃ j stem used, name = fresh (base j stem) "" j used := by
  obtain ⟨j, hj⟩ := List.mem_iff_getElem?.1 h
  rw [getElem?_freshRow] at hj
  obtain ⟨stem, -, rfl⟩ := Option.map_eq_some_iff.1 hj
  exact ⟨j, stem, _, rfl⟩

theorem toldApart_freshRow : ToldApart (names.mapIdx base) (freshRow base names) := by
  have hfresh {j : Nat} {name : String} (hn : (freshRow base names)[j]? = some name) :
      ∃ b, (names.mapIdx base)[j]? = some b ∧
        name = fresh b "" j ((freshRow base names).take j).reverse := by
    rw [getElem?_freshRow] at hn
    obtain ⟨stem, hs, rfl⟩ := Option.map_eq_some_iff.1 hn
    exact ⟨base j stem, by rw [List.getElem?_mapIdx, hs, Option.map_some], rfl⟩
  constructor
  · rw [freshRow, length_inTurn, List.length_mapIdx]
  · refine List.nodup_iff_getElem?_ne_getElem?.2 fun i j hij hj he => ?_
    obtain ⟨b, -, hb⟩ := hfresh (List.getElem?_eq_getElem hj)
    rw [List.getElem?_eq_getElem hj] at he
    have hmem := mem_take_of_getElem? hij he
    rw [hb] at hmem
    exact fresh_not_mem (List.mem_reverse.2 hmem)
  · intro j b name hb hn
    obtain ⟨b', hb', rfl⟩ := hfresh hn
    rw [Option.some.inj (hb.symm.trans hb')]
    exact base_isPrefix_fresh
  · intro j b name hb hn
    obtain ⟨b', hb', rfl⟩ := hfresh hn
    rw [Option.some.inj (hb.symm.trans hb'), fresh_eq_base_iff, List.mem_reverse]

end Rows

end QueryTyping.Naming
