import Mathlib
import QueryTyping.Naming.Caser

namespace QueryTyping.Naming

theorem toNat_lt_of_isAlphanum {c : Char} (h : c.isAlphanum = true) : c.toNat < 128 := by
  simp only [Char.isAlphanum, Char.isAlpha, Char.isUpper, Char.isLower, Char.isDigit,
    Bool.or_eq_true, Bool.and_eq_true, decide_eq_true_eq] at h
  have hz : c.val ≤ 'z'.val := by
    rcases h with (h | h) | h
    · exact UInt32.le_trans h.2 (by decide)
    · exact h.2
    · exact UInt32.le_trans h.2 (by decide)
  have hz' : c.toNat ≤ 'z'.toNat := UInt32.le_iff_toNat_le.1 hz
  exact Nat.lt_of_le_of_lt hz' (by decide)

theorem forall_isAlphanum {P : Char → Prop}
    (table : ∀ n < 128, (Char.ofNat n).isAlphanum = true → P (Char.ofNat n)) {c : Char}
    (h : c.isAlphanum = true) : P c := by
  have hc := table c.toNat (toNat_lt_of_isAlphanum h)
  rw [Char.ofNat_toNat] at hc
  exact hc h

theorem isAlphanum_toUpper {c : Char} (h : c.isAlphanum = true) : c.toUpper.isAlphanum = true :=
  forall_isAlphanum (P := fun c => c.toUpper.isAlphanum = true) (by decide) h

theorem isAlphanum_toLower {c : Char} (h : c.isAlphanum = true) : c.toLower.isAlphanum = true :=
  forall_isAlphanum (P := fun c => c.toLower.isAlphanum = true) (by decide) h

theorem lower_lower (w : List Char) : lower (lower w) = lower w := by
  rw [lower, lower, List.map_map]
  exact List.map_congr_left fun c _ => Char.toLower_toLower_eq_toLower c

theorem lower_upper (w : List Char) : lower (upper w) = lower w := by
  rw [lower, upper, List.map_map]
  exact List.map_congr_left fun c _ => Char.toLower_toUpper_eq_toLower c

theorem lower_capitalize (w : List Char) : lower (capitalize w) = lower w := by
  cases w with
  | nil => rfl
  | cons c w =>
    have hlower := lower_lower w
    rw [lower] at hlower
    rw [capitalize, lower, List.map_cons, Char.toLower_toUpper_eq_toLower, hlower]
    rfl

theorem capitalize_lower (w : List Char) : capitalize (lower w) = capitalize w := by
  cases w with
  | nil => rfl
  | cons c w =>
    rw [lower, List.map_cons, capitalize, Char.toUpper_toLower_eq_toUpper, ← lower, lower_lower]
    rfl

def IsWord (w : List Char) : Prop :=
  ∀ c ∈ w, c.isAlphanum = true

theorem isWord_of_mem_words {r : Text.Romanization} {name : String} {w : List Char}
    (hw : w ∈ words r name) : IsWord w := by
  intro c hc
  have hm : c ∈ (words r name).flatten := List.mem_flatten.2 ⟨w, hw, hc⟩
  rw [words, flatten_wordsOf] at hm
  exact (List.mem_filter.1 hm).2

theorem IsWord.lower {w : List Char} (h : IsWord w) : IsWord (lower w) := by
  intro c hc
  obtain ⟨d, hd, rfl⟩ := List.mem_map.1 hc
  exact isAlphanum_toLower (h d hd)

theorem IsWord.capitalize {w : List Char} (h : IsWord w) : IsWord (capitalize w) := by
  cases w with
  | nil => exact h
  | cons c w =>
    obtain ⟨hc, hw⟩ := List.forall_mem_cons.1 h
    exact List.forall_mem_cons.2 ⟨isAlphanum_toUpper hc, IsWord.lower hw⟩

def IsIdentifierText (s : List Char) : Prop :=
  ∀ c ∈ s, isIdentifierChar c = true

theorem IsWord.isIdentifierText {w : List Char} (h : IsWord w) : IsIdentifierText w := by
  intro c hc
  simp [isIdentifierChar, h c hc]

theorem IsIdentifierText.markDigit {mark : Char} {s : List Char} (hm : isIdentifierChar mark = true)
    (h : IsIdentifierText s) : IsIdentifierText (markDigit mark s) := by
  cases s with
  | nil => exact h
  | cons c s =>
    rw [Naming.markDigit]
    split
    · exact List.forall_mem_cons.2 ⟨hm, h⟩
    · exact h

namespace Caser

theorem isIdentifierText_render (k : Caser) {w : List Char} (hw : IsWord w) :
    IsIdentifierText (k.render w) := by
  unfold render
  split
  · exact fun c hc => isIdentifierChar_of_mem_stripInvalid hc
  · exact hw.capitalize.isIdentifierText

theorem isIdentifierText_flatMap_render (k : Caser) (name : String) :
    IsIdentifierText ((k.words name).flatMap k.render) := by
  intro c hc
  obtain ⟨w, hw, hc⟩ := List.mem_flatMap.1 hc
  exact k.isIdentifierText_render (isWord_of_mem_words hw) c hc

theorem isIdentifierText_upperIdent (k : Caser) (name : String) :
    IsIdentifierText (k.upperIdent name).toList := by
  rw [upperIdent, String.toList_ofList]
  exact (k.isIdentifierText_flatMap_render name).markDigit (by decide)

end Caser

def IsNameText (s : List Char) : Prop :=
  ∀ c ∈ s, (Text.isAlphanumeric c || c == '_') = true

theorem IsIdentifierText.isNameText {s : List Char} (h : IsIdentifierText s) : IsNameText s := by
  intro c hc
  rcases Bool.or_eq_true_iff.1 (h c hc) with ha | hu
  · simp [Text.isAlphanumeric_of_isAlphanum ha]
  · simp [hu]

theorem IsNameText.append {s t : List Char} (hs : IsNameText s) (ht : IsNameText t) :
    IsNameText (s ++ t) :=
  List.forall_mem_append.2 ⟨hs, ht⟩

theorem isNameText_fallbackName {stem : String} (hs : IsNameText stem.toList) (name : String) :
    IsNameText (fallbackName stem name).toList := by
  rw [fallbackName, String.toList_append, String.toList_ofList]
  exact hs.append fun c hc => (List.mem_filter.1 hc).2

theorem IsNameText.dot_not_mem {s : List Char} (h : IsNameText s) : '.' ∉ s := by
  have hdot : (Text.isAlphanumeric '.' || '.' == '_') = false := by decide +kernel
  intro hm
  exact Bool.false_ne_true (hdot.symm.trans (h '.' hm))

end QueryTyping.Naming
