import Mathlib.Data.List.Induction
import Mathlib.Data.List.Nodup

namespace QueryTyping

variable {α β γ : Type}

def Led (deps : α → List α) (l : List α) : Prop :=
  ∀ l₁ a l₂, l = l₁ ++ a :: l₂ → deps a ⊆ l₁

namespace Led

variable {deps : α → List α} {l l' : List α} {a : α}

theorem nil : Led deps [] := by
  intro l₁ a l₂ h
  simp at h

theorem append (h : Led deps l) (h' : Led deps l') : Led deps (l ++ l') := by
  intro l₁ a l₂ he
  rcases List.append_eq_append_iff.1 he with ⟨m, rfl, hm⟩ | ⟨m, rfl, hm⟩
  · exact List.Subset.trans (h' m a l₂ hm) (List.subset_append_right _ _)
  · cases m with
    | nil => exact List.Subset.trans (h' [] a l₂ (by simpa using hm.symm)) (List.nil_subset _)
    | cons b m =>
      obtain ⟨rfl, rfl⟩ : a = b ∧ l₂ = m ++ l' := by simpa using hm
      exact h l₁ a m rfl

theorem concat_iff : Led deps (l ++ [a]) ↔ Led deps l ∧ deps a ⊆ l := by
  constructor
  · intro h
    exact ⟨fun l₁ b l₂ he => h l₁ b (l₂ ++ [a]) (by simp [he]), h l a [] rfl⟩
  · rintro ⟨h, ha⟩ l₁ b l₂ he
    induction l₂ using List.reverseRecOn with
    | nil =>
      obtain ⟨rfl, rfl⟩ : l = l₁ ∧ a = b := by simpa using he
      exact ha
    | append_singleton m c _ =>
      have he' : l ++ [a] = (l₁ ++ b :: m) ++ [c] := by simpa using he
      obtain ⟨rfl, -⟩ := List.append_inj' he' rfl
      exact h l₁ b m rfl

theorem flatMap {f : γ → List α} {cs : List γ} (h : ∀ c ∈ cs, Led deps (f c)) :
    Led deps (cs.flatMap f) := by
  induction cs with
  | nil => exact nil
  | cons c cs ih =>
    rw [List.flatMap_cons]
    exact (h c (by simp)).append (ih fun d hd => h d (by simp [hd]))

end Led

theorem mem_of_lookup [BEq α] [LawfulBEq α] {k : α} {v : β} {l : List (α × β)}
    (h : l.lookup k = some v) : (k, v) ∈ l := by
  obtain ⟨l₁, l₂, rfl, -⟩ := List.lookup_eq_some_iff.1 h
  simp

variable [DecidableEq α]

theorem eraseDups_concat (l : List α) (a : α) :
    (l ++ [a]).eraseDups = if a ∈ l then l.eraseDups else l.eraseDups ++ [a] := by
  rw [List.eraseDups_append]
  by_cases h : a ∈ l <;> simp [List.removeAll, h, List.eraseDups_cons]

theorem nodup_eraseDups (l : List α) : l.eraseDups.Nodup := by
  induction l using List.reverseRecOn with
  | nil => simp
  | append_singleton l a ih =>
    rw [eraseDups_concat]
    split
    · exact ih
    · rename_i h
      rw [← List.concat_eq_append]
      exact ih.concat (by simpa using h)

theorem eraseDups_of_nodup {l : List α} (h : l.Nodup) : l.eraseDups = l := by
  induction l using List.reverseRecOn with
  | nil => simp
  | append_singleton l a ih =>
    obtain ⟨hl, -, ha⟩ := List.nodup_append.1 h
    rw [eraseDups_concat, if_neg fun hm => ha a hm a (by simp) rfl, ih hl]

theorem eraseDups_eraseDups_append (l l' : List α) :
    (l.eraseDups ++ l').eraseDups = (l ++ l').eraseDups := by
  induction l' using List.reverseRecOn with
  | nil => simpa using eraseDups_of_nodup (nodup_eraseDups l)
  | append_singleton l' a ih =>
    rw [← List.append_assoc, ← List.append_assoc, eraseDups_concat, eraseDups_concat, ih]
    simp

theorem eraseDups_append_of_subset {l l' : List α} (h : l' ⊆ l) :
    (l ++ l').eraseDups = l.eraseDups := by
  induction l' using List.reverseRecOn with
  | nil => simp
  | append_singleton l' a ih =>
    obtain ⟨hl, ha⟩ := List.append_subset.1 h
    rw [← List.append_assoc, eraseDups_concat, if_pos (by simp [ha (List.mem_singleton_self a)]),
      ih hl]

theorem eraseDups_filterMap [DecidableEq β] {f : α → Option β} {l : List α}
    (hf : ∀ a ∈ l, ∀ b ∈ l, ∀ c, f a = some c → f b = some c → a = b) :
    (l.filterMap f).eraseDups = l.eraseDups.filterMap f := by
  induction l using List.reverseRecOn with
  | nil => simp
  | append_singleton l a ih =>
    have hl := ih fun b hb c hc => hf b (by simp [hb]) c (by simp [hc])
    rw [List.filterMap_append, eraseDups_concat]
    cases ha : f a with
    | none => split <;> simp [ha, hl]
    | some c =>
      have hmem : c ∈ l.filterMap f ↔ a ∈ l := by
        rw [List.mem_filterMap]
        constructor
        · rintro ⟨b, hb, hc⟩
          rwa [hf a (by simp) b (by simp [hb]) c ha hc]
        · exact fun h => ⟨a, h, ha⟩
      rw [List.filterMap_cons_some ha, List.filterMap_nil, eraseDups_concat, hl]
      by_cases h : a ∈ l <;> simp [hmem, h, ha]

theorem Led.eraseDups {deps : α → List α} {l : List α} (h : Led deps l) :
    Led deps l.eraseDups := by
  induction l using List.reverseRecOn with
  | nil => simpa using h
  | append_singleton l a ih =>
    obtain ⟨hl, ha⟩ := concat_iff.1 h
    rw [eraseDups_concat]
    split
    · exact ih hl
    · exact concat_iff.2 ⟨ih hl, fun b hb => List.mem_eraseDups.2 (ha hb)⟩

def unmet (known l : List α) : List α :=
  (l.filter fun a => a ∉ known).eraseDups

section Unmet

variable {known known' l : List α} {a : α}

theorem unmet_nil_known (l : List α) : unmet [] l = l.eraseDups := by
  simp [unmet]

theorem unmet_of_subset (h : l ⊆ known) : unmet known l = [] := by
  have hnone : l.filter (fun a => a ∉ known) = [] := by
    simpa using fun a ha => h ha
  rw [unmet, hnone, List.eraseDups_nil]

theorem unmet_cons (ha : a ∉ known) (hl : a ∉ l) : unmet known (a :: l) = a :: unmet known l := by
  have hne : (l.filter fun b => b ∉ known).filter (fun b => !b == a) =
      l.filter fun b => b ∉ known := by
    refine List.filter_eq_self.2 fun b hb => ?_
    have hb' : b ≠ a := by
      rintro rfl
      exact hl (List.mem_of_mem_filter hb)
    simpa using hb'
  rw [unmet, List.filter_cons_of_pos (by simpa using ha), List.eraseDups_cons, hne, unmet]

theorem unmet_append (h : ∀ a, a ∈ known' ↔ a ∈ known ∨ a ∈ l) (l' : List α) :
    unmet known (l ++ l') = unmet known l ++ unmet known' l' := by
  have hrest : (l'.filter fun a => a ∉ known).removeAll (l.filter fun a => a ∉ known) =
      l'.filter fun a => a ∉ known' := by
    rw [List.removeAll, List.filter_filter]
    refine List.filter_congr fun a _ => ?_
    have ha := h a
    by_cases hk : a ∈ known <;> simp [hk, ha]
  rw [unmet, List.filter_append, List.eraseDups_append, hrest]
  rfl

end Unmet

end QueryTyping
