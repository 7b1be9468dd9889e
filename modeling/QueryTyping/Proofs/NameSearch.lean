import Mathlib.Algebra.Group.Nat.Defs
import QueryTyping.Proofs.FreshName

namespace QueryTyping.Naming

variable {name : Nat → String} {base separator : String} {position limit steps m n : Nat}
  {used : List String}

def search (name : Nat → String) (used : List String) : Nat → Nat → Option Nat
  | 0, _ => none
  | steps + 1, n => if name n ∈ used then search name used steps (n + 1) else some n

theorem search_of_not_mem (h : name n ∉ used) : search name used (steps + 1) n = some n :=
  if_neg h

theorem search_of_mem (h : name n ∈ used) :
    search name used (steps + 1) n = search name used steps (n + 1) :=
  if_pos h

theorem search_eq_some_iff : search name used steps n = some m ↔
    (n ≤ m ∧ m < n + steps) ∧ name m ∉ used ∧ ∀ k, n ≤ k → k < m → name k ∈ used := by
  -- On the steps that are left, from every number at once: each step goes on from the next one.
  induction steps generalizing n with
  | zero =>
    simp only [search, reduceCtorEq, false_iff]
    rintro ⟨hm, -⟩
    omega
  | succ steps ih =>
    by_cases hn : name n ∈ used
    · rw [search_of_mem hn, ih]
      constructor
      · rintro ⟨hm, hfree, hbefore⟩
        refine ⟨by omega, hfree, fun k hnk hkm => ?_⟩
        rcases Nat.eq_or_lt_of_le hnk with rfl | hnk
        · exact hn
        · exact hbefore k hnk hkm
      · rintro ⟨hm, hfree, hbefore⟩
        have hne : n ≠ m := by
          rintro rfl
          exact hfree hn
        exact ⟨by omega, hfree, fun k hnk => hbefore k (by omega)⟩
    · rw [search_of_not_mem hn]
      constructor
      · rintro ⟨⟩
        exact ⟨by omega, hn, fun k hnk hkn => by omega⟩
      · rintro ⟨hm, -, hbefore⟩
        rcases Nat.eq_or_lt_of_le hm.1 with rfl | hnm
        · rfl
        · exact absurd (hbefore n (Nat.le_refl n) hnm) hn

theorem le_length_eraseDups (h : ∀ k < n, candidate base separator position k ∈ used) :
    n ≤ used.eraseDups.length := by
  obtain ⟨k, hk, hfree⟩ := exists_unused base separator position used.eraseDups
  rw [List.mem_eraseDups] at hfree
  by_contra hlt
  apply hfree
  apply h
  omega

theorem search_finds_fresh (h : used.eraseDups.length < limit) :
    ∃ n, search (candidate base separator position) used limit 0 = some n ∧
      fresh base separator position used = candidate base separator position n ∧
      candidate base separator position n ∉ used ∧
      ∀ m < n, candidate base separator position m ∈ used := by
  obtain ⟨n, hfresh, hfree, hbefore⟩ := exists_fresh_eq base separator position used
  have hn := le_length_eraseDups hbefore
  refine ⟨n, ?_, hfresh, hfree, hbefore⟩
  apply search_eq_some_iff.2
  exact ⟨by omega, hfree, fun k _ hk => hbefore k hk⟩

namespace Constants

def taken : List String :=
  ["A1", "A12", "A12_2", "B"]

end Constants

theorem search_finds_fresh_constants :
    Constants.taken.eraseDups.length < 2 ^ 31 - 2 ∧
      ∃ n, search (candidate "A1" "" 2) Constants.taken (2 ^ 31 - 2) 0 = some n ∧
        fresh "A1" "" 2 Constants.taken = candidate "A1" "" 2 n ∧
        candidate "A1" "" 2 n ∉ Constants.taken ∧
        ∀ m < n, candidate "A1" "" 2 m ∈ Constants.taken := by
  have h : Constants.taken.eraseDups.length < 2 ^ 31 - 2 := by decide
  exact ⟨h, search_finds_fresh h⟩

example : fresh "A1" "" 2 Constants.taken = "A12_3" := by
  decide +kernel

end QueryTyping.Naming
