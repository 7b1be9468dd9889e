import Mathlib.Logic.Function.Basic
import Mathlib.Tactic.SplitIfs
import QueryTyping.Failure
import QueryTyping.Text.Cut

namespace QueryTyping

namespace Text

theorem digitChar_inj {m n : Nat} (hm : m < 16) (hn : n < 16) (h : m.digitChar = n.digitChar) :
    m = n := by
  have table : ∀ i < 16, ∀ j < 16, Nat.digitChar i = Nat.digitChar j → i = j := by decide
  exact table m hm n hn h

theorem toDigits_injective {b : Nat} (hb : 1 < b) (hb' : b ≤ 16) :
    Function.Injective (Nat.toDigits b) := by
  intro m
  induction m using Nat.strongRecOn with
  | _ m ih =>
    intro n h
    rw [Nat.toDigits_eq_if hb, Nat.toDigits_eq_if hb (n := n)] at h
    by_cases hm : m < b <;> by_cases hn : n < b
    · simp only [hm, hn, ↓reduceIte, List.cons.injEq, and_true] at h
      exact digitChar_inj (by omega) (by omega) h
    · simp only [hm, hn, ↓reduceIte] at h
      have := congrArg List.length h
      have := Nat.length_toDigits_pos (b := b) (n := n / b)
      simp only [List.length_append, List.length_singleton] at *
      omega
    · simp only [hm, hn, ↓reduceIte] at h
      have := congrArg List.length h
      have := Nat.length_toDigits_pos (b := b) (n := m / b)
      simp only [List.length_append, List.length_singleton] at *
      omega
    · simp only [hm, hn, ↓reduceIte] at h
      obtain ⟨hd, hl⟩ := List.append_inj' h rfl
      have hdiv : m / b = n / b := ih (m / b) (Nat.div_lt_self (by omega) hb) hd
      have hmod : m % b = n % b := by
        have hpos : 0 < b := by omega
        have := Nat.mod_lt m hpos
        have := Nat.mod_lt n hpos
        exact digitChar_inj (by omega) (by omega) (by simpa using hl)
      rw [← Nat.div_add_mod m b, ← Nat.div_add_mod n b, hdiv, hmod]

theorem brace_not_mem_toDigits (n : Nat) : '}' ∉ Nat.toDigits 16 n := by
  induction n using Nat.strongRecOn with
  | _ n ih =>
    have hne (m : Nat) (hm : m < 16) : '}' ≠ m.digitChar := by
      have table : ∀ i < 16, '}' ≠ Nat.digitChar i := by decide
      exact table m hm
    rw [Nat.toDigits_eq_if (by decide)]
    split
    · exact fun h => hne n ‹_› (List.mem_singleton.1 h)
    · intro h
      rcases List.mem_append.1 h with h | h
      · exact ih (n / 16) (by omega) h
      · exact hne (n % 16) (by omega) (List.mem_singleton.1 h)

theorem cut_inj {c : Char} {a b a' b' : List Char} (ha : c ∉ a) (ha' : c ∉ a')
    (h : a ++ c :: b = a' ++ c :: b') : a = a' ∧ b = b' := by
  have h1 : cutFirst c (a ++ c :: b) = some (a, b) := cutFirst_eq_some_iff.2 ⟨rfl, ha⟩
  have h2 : cutFirst c (a ++ c :: b) = some (a', b') := cutFirst_eq_some_iff.2 ⟨h, ha'⟩
  simpa [h1] using h2

def shortEscapes : List (Char × Char) :=
  [('"', '"'), ('\\', '\\'), ('\t', 't'), ('\r', 'r'), ('\n', 'n'), ('\x00', '0')]

theorem escapeChar_cases (c : Char) :
    (∃ m, (c, m) ∈ shortEscapes ∧ escapeChar c = ['\\', m]) ∨
    escapeChar c = '\\' :: 'u' :: '\x7b' :: (Nat.toDigits 16 c.toNat ++ ['\x7d']) ∨
    c ≠ '\\' ∧ escapeChar c = [c] := by
  unfold escapeChar
  split_ifs with h1 h2 h3 h4 h5 h6 h7
  · exact .inl ⟨'"', by simp [shortEscapes, h1], rfl⟩
  · exact .inl ⟨'\\', by simp [shortEscapes, h2], rfl⟩
  · exact .inl ⟨'t', by simp [shortEscapes, h3], rfl⟩
  · exact .inl ⟨'r', by simp [shortEscapes, h4], rfl⟩
  · exact .inl ⟨'n', by simp [shortEscapes, h5], rfl⟩
  · exact .inl ⟨'0', by simp [shortEscapes, h6], rfl⟩
  · exact .inr (.inl (by simp))
  · exact .inr (.inr ⟨h2, rfl⟩)

theorem shortEscapes_inj {c d m : Char} (hc : (c, m) ∈ shortEscapes) (hd : (d, m) ∈ shortEscapes) :
    c = d := by
  have table : ∀ p ∈ shortEscapes, ∀ q ∈ shortEscapes, p.2 = q.2 → p.1 = q.1 := by decide
  exact table _ hc _ hd rfl

theorem u_not_mem_shortEscapes {c : Char} : (c, 'u') ∉ shortEscapes := by
  intro h
  have table : ∀ p ∈ shortEscapes, p.2 ≠ 'u' := by decide
  exact table _ h rfl

theorem escapeChar_append_inj {c d : Char} {s t : List Char}
    (h : escapeChar c ++ s = escapeChar d ++ t) : c = d ∧ s = t := by
  rcases escapeChar_cases c with ⟨m, hm, hc⟩ | hc | ⟨hm, hc⟩ <;>
    rcases escapeChar_cases d with ⟨n, hn, hd⟩ | hd | ⟨hn, hd⟩ <;> rw [hc, hd] at h
  · simp only [List.cons_append, List.nil_append, List.cons.injEq, true_and] at h
    obtain ⟨rfl, rfl⟩ := h
    exact ⟨shortEscapes_inj hm hn, rfl⟩
  · simp only [List.cons_append, List.nil_append, List.cons.injEq, true_and] at h
    exact absurd (h.1 ▸ hm) u_not_mem_shortEscapes
  · simp only [List.cons_append, List.nil_append, List.cons.injEq] at h
    exact absurd h.1.symm hn
  · simp only [List.cons_append, List.nil_append, List.cons.injEq, true_and] at h
    exact absurd (h.1.symm ▸ hn) u_not_mem_shortEscapes
  · simp only [List.cons_append, List.cons.injEq, true_and, List.append_assoc,
      List.nil_append] at h
    obtain ⟨hd, hr⟩ := cut_inj (brace_not_mem_toDigits _) (brace_not_mem_toDigits _) h
    exact ⟨Char.toNat_inj.1 (toDigits_injective (by decide) (by decide) hd), hr⟩
  · simp only [List.cons_append, List.nil_append, List.cons.injEq] at h
    exact absurd h.1.symm hn
  · simp only [List.cons_append, List.nil_append, List.cons.injEq] at h
    exact absurd h.1 hm
  · simp only [List.cons_append, List.nil_append, List.cons.injEq] at h
    exact absurd h.1 hm
  · simpa using h

theorem flatMap_escapeChar_injective :
    Function.Injective fun s : List Char => s.flatMap escapeChar := by
  have ne_nil (c : Char) : escapeChar c ≠ [] := by
    rcases escapeChar_cases c with ⟨m, _, hc⟩ | hc | ⟨_, hc⟩ <;> simp [hc]
  intro s
  induction s with
  | nil =>
    intro t h
    cases t with
    | nil => rfl
    | cons d t => simp [ne_nil] at h
  | cons c s ih =>
    intro t h
    cases t with
    | nil => simp [ne_nil] at h
    | cons d t =>
      obtain ⟨rfl, hs⟩ := escapeChar_append_inj (by simpa using h)
      rw [ih hs]

theorem quoted_injective : Function.Injective quoted := by
  intro s t h
  have h' := String.ofList_injective h
  simp only [List.cons_append, List.cons.injEq, true_and, List.append_cancel_right_eq] at h'
  exact String.toList_inj.1 (flatMap_escapeChar_injective h')

end Text

theorem Oid.repr_inj {a b : Oid} (h : a.repr = b.repr) : a = b := by
  have hd : Nat.toDigits 10 a.val.toNat = Nat.toDigits 10 b.val.toNat := by
    simpa [Oid.repr] using congrArg String.toList h
  have hv := UInt32.toNat_inj.1 (Text.toDigits_injective (by decide) (by decide) hd)
  cases a; cases b; simpa using hv

theorem Oid.blank_not_mem_repr (o : Oid) : ' ' ∉ o.repr.toList := by
  intro h
  have := Nat.isDigit_of_mem_toDigits (by decide) (by decide)
    (show ' ' ∈ Nat.toDigits 10 o.val.toNat by simpa [Oid.repr] using h)
  simp at this

namespace Claimant

def head : Claimant → Catalog.Head
  | type h => h
  | label _ h => h

def title : Claimant → String
  | type h => h.qualified
  | label l h => "label " ++ Text.quoted l ++ " of " ++ h.qualified

theorem describe_eq (c : Claimant) :
    c.describe = c.title ++ " (oid " ++ c.head.oid.repr ++ ")" := by
  cases c <;> rfl

theorem describe_inj {a b : Claimant} (h : a.describe = b.describe) :
    a.title = b.title ∧ a.head.oid = b.head.oid := by
  have h' := congrArg String.toList h
  simp only [describe_eq, String.toList_append] at h'
  have hs : ")".toList = [')'] := rfl
  have ho : " (oid ".toList = [' ', '(', 'o', 'i', 'd'] ++ [' '] := rfl
  rw [hs, ho, List.append_cancel_right_eq] at h'
  -- Read from the end, the number goes on to the first blank.
  have hr := congrArg List.reverse h'
  simp only [List.reverse_append, List.reverse_singleton, List.singleton_append] at hr
  obtain ⟨hd, ht⟩ := Text.cut_inj (by simpa using Oid.blank_not_mem_repr a.head.oid)
    (by simpa using Oid.blank_not_mem_repr b.head.oid) hr
  refine ⟨?_, Oid.repr_inj (String.toList_inj.1 (List.reverse_inj.1 hd))⟩
  have := List.append_cancel_left ht
  exact String.toList_inj.1 (List.reverse_inj.1 this)

theorem describe_inj_of_head {a b : Claimant} (hh : a.head = b.head)
    (h : a.describe = b.describe) : a = b := by
  have ht := (describe_inj h).1
  have hlen := congrArg String.length ht
  cases a with
  | type x =>
    obtain rfl : x = b.head := hh
    cases b with
    | type => rfl
    | label l y =>
      simp only [title, head, String.length_append] at hlen
      have : "label ".length = 6 := rfl
      omega
  | label l x =>
    obtain rfl : x = b.head := hh
    cases b with
    | type y =>
      simp only [title, head, String.length_append] at hlen
      have : "label ".length = 6 := rfl
      omega
    | label l' y =>
      have hq : Text.quoted l = Text.quoted l' := by
        have := congrArg String.toList ht
        simp only [title, head, String.toList_append, List.append_cancel_right_eq] at this
        exact String.toList_inj.1 (List.append_cancel_left this)
      rw [Text.quoted_injective hq]
      rfl

end Claimant

end QueryTyping
