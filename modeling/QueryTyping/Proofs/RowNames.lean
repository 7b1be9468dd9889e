import QueryTyping.Proofs.FreshName
import QueryTyping.Proofs.IdentifierText
import QueryTyping.Resolution

namespace QueryTyping.Naming

def IsIdentifier (s : String) : Prop :=
  ∃ c t, s.toList = c :: t ∧ (c.isAlpha = true ∨ c = '_') ∧ IsNameText t

theorem isNameText_of_isAlphanum {s : List Char} (h : ∀ c ∈ s, c.isAlphanum = true) :
    IsNameText s :=
  (IsWord.isIdentifierText h).isNameText

theorem isDigit_of_mem_repr {n : Nat} {c : Char} (hc : c ∈ n.repr.toList) : c.isDigit = true := by
  rw [Nat.toList_repr] at hc
  exact Nat.isDigit_of_mem_toDigits (by decide) (by decide) hc

theorem isNameText_repr (n : Nat) : IsNameText n.repr.toList := by
  refine isNameText_of_isAlphanum fun c hc => ?_
  simp [Char.isAlphanum, isDigit_of_mem_repr hc]

section Identifiers

variable {s t : String}

theorem IsIdentifier.append (hs : IsIdentifier s) (ht : IsNameText t.toList) :
    IsIdentifier (s ++ t) := by
  obtain ⟨c, u, hu, hc, htext⟩ := hs
  exact ⟨c, u ++ t.toList, by rw [String.toList_append, hu, List.cons_append], hc, htext.append ht⟩

theorem isIdentifier_of_isAlpha (hs : s.toList ≠ [])
    (h : ∀ c ∈ s.toList, c.isAlpha = true) : IsIdentifier s := by
  obtain ⟨c, t, ht⟩ := List.exists_cons_of_ne_nil hs
  rw [ht] at h
  obtain ⟨hc, hrest⟩ := List.forall_mem_cons.1 h
  refine ⟨c, t, ht, .inl hc, isNameText_of_isAlphanum fun d hd => ?_⟩
  simp [Char.isAlphanum, hrest d hd]

theorem isIdentifier_candidate (hs : IsIdentifier s) (position n : Nat) :
    IsIdentifier (candidate s "" position n) := by
  have hunderscore : IsNameText "_".toList := by simp [IsNameText]
  have hposition : IsIdentifier (s ++ "" ++ position.repr) := by
    rw [String.append_empty]
    exact hs.append (isNameText_repr position)
  match n with
  | 0 => exact hs
  | 1 => exact hposition
  | n + 2 => exact (hposition.append hunderscore).append (isNameText_repr (n + 2))

theorem isIdentifier_fresh (hs : IsIdentifier s) (position : Nat) (used : List String) :
    IsIdentifier (fresh s "" position used) := by
  obtain ⟨n, hn, -⟩ := exists_fresh_eq s "" position used
  rw [hn]
  exact isIdentifier_candidate hs position n

theorem isIdentifier_markDigit {mark : Char} {s : List Char} (hm : mark.isAlpha = true ∨ mark = '_')
    (h : IsIdentifierText s) (hs : s ≠ []) : IsIdentifier (String.ofList (markDigit mark s)) := by
  obtain ⟨c, s, rfl⟩ := List.exists_cons_of_ne_nil hs
  obtain ⟨hc, ht⟩ := List.forall_mem_cons.1 h
  by_cases hd : c.isDigit = true
  · exact ⟨mark, c :: s, by simp [markDigit, hd], hm, h.isNameText⟩
  · refine ⟨c, s, by simp [markDigit, hd], ?_, IsIdentifierText.isNameText ht⟩
    simpa [isIdentifierChar, Char.isAlphanum, hd] using hc

end Identifiers

theorem isLower_of_mem_reservedWords {s : String} (hs : s ∈ reservedWords) :
    ∀ c ∈ s.toList, c.isLower = true := by
  have table : ∀ w ∈ reservedWords, ∀ c ∈ w.toList, c.isLower = true := by
    simp [reservedWords]
  exact table s hs

theorem not_mem_reservedWords {s : String} {c : Char} (hc : c ∈ s.toList)
    (hl : c.isLower = false) : s ∉ reservedWords := by
  intro hs
  rw [isLower_of_mem_reservedWords hs c hc] at hl
  exact Bool.noConfusion hl

theorem isLower_of_isDigit {c : Char} (h : c.isDigit = true) : c.isLower = false := by
  refine forall_isAlphanum (P := fun c => c.isDigit = true → c.isLower = false) (by decide) ?_ h
  simp [Char.isAlphanum, h]

theorem candidate_not_mem_reservedWords {base : String} (hb : base ∉ reservedWords)
    (position n : Nat) : candidate base "" position n ∉ reservedWords := by
  have hne : position.repr.toList ≠ [] := by
    have := length_repr_pos position
    rw [← String.length_toList] at this
    exact List.ne_nil_of_length_pos this
  -- Keywords have small letters only, and what is numbered holds a digit.
  obtain ⟨c, hc⟩ := List.exists_mem_of_ne_nil _ hne
  have hl : c.isLower = false := isLower_of_isDigit (isDigit_of_mem_repr hc)
  rw [Nat.toList_repr] at hc
  match n with
  | 0 => exact hb
  | 1 => exact not_mem_reservedWords (c := c) (by simp [candidate, hc]) hl
  | n + 2 => exact not_mem_reservedWords (c := c) (by simp [candidate, hc]) hl

theorem fresh_not_mem_reservedWords {base : String} (hb : base ∉ reservedWords) (position : Nat)
    (used : List String) : fresh base "" position used ∉ reservedWords := by
  obtain ⟨n, hn, -⟩ := exists_fresh_eq base "" position used
  rw [hn]
  exact candidate_not_mem_reservedWords hb position n

namespace Caser

variable (k : Caser) (name : String)

theorem upperIdent_eq_empty_or : k.upperIdent name = "" ∨ IsIdentifier (k.upperIdent name) := by
  unfold upperIdent
  by_cases h : (k.words name).flatMap k.render = []
  · rw [h]
    exact .inl rfl
  · exact .inr (isIdentifier_markDigit (.inl rfl) (k.isIdentifierText_flatMap_render name) h)

theorem escapeReserved_eq (s : List Char) :
    escapeReserved s = s ∨ escapeReserved s = s ++ ['_'] := by
  unfold escapeReserved
  split
  · exact .inr rfl
  · exact .inl rfl

theorem escapeReserved_not_mem (s : List Char) :
    String.ofList (escapeReserved s) ∉ reservedWords := by
  by_cases h : String.ofList s ∈ reservedWords
  · rw [escapeReserved, if_pos (by simpa using h)]
    exact not_mem_reservedWords (c := '_') (by simp) rfl
  · rw [escapeReserved, if_neg (by simpa using h)]
    exact h

theorem markDigit_not_mem {mark : Char} {s : List Char} (hm : mark.isLower = false)
    (h : String.ofList s ∉ reservedWords) : String.ofList (markDigit mark s) ∉ reservedWords := by
  cases s with
  | nil => exact h
  | cons c s =>
    rw [markDigit]
    split
    · exact not_mem_reservedWords (c := mark) (by simp) hm
    · exact h

theorem isIdentifierText_escapeReserved {s : List Char} (h : IsIdentifierText s) :
    IsIdentifierText (escapeReserved s) := by
  rcases escapeReserved_eq s with he | he <;> rw [he]
  · exact h
  · exact List.forall_mem_append.2 ⟨h, by simp [isIdentifierChar]⟩

theorem escapeReserved_ne_nil {s : List Char} (h : s ≠ []) : escapeReserved s ≠ [] := by
  rcases escapeReserved_eq s with he | he <;> simp [he, h]

theorem lowerIdent_eq_empty_or : k.lowerIdent name = "" ∨
    IsIdentifier (k.lowerIdent name) ∧ k.lowerIdent name ∉ reservedWords := by
  unfold lowerIdent
  cases hw : k.words name with
  | nil => exact .inl rfl
  | cons w ws =>
    have hmem : w ∈ k.words name := by simp [hw]
    have hword : IsWord (lower w) := IsWord.lower (isWord_of_mem_words hmem)
    have hlower : stripInvalid (lower w) = lower w :=
      List.filter_eq_self.2 hword.isIdentifierText
    have hne : lower w ++ ws.flatMap k.render ≠ [] := by
      simp [lower, ne_nil_of_mem_wordsOf hmem]
    have htext : IsIdentifierText (lower w ++ ws.flatMap k.render) := by
      refine List.forall_mem_append.2 ⟨hword.isIdentifierText, fun c hc => ?_⟩
      refine k.isIdentifierText_flatMap_render name c ?_
      rw [hw, List.flatMap_cons]
      exact List.mem_append_right _ hc
    dsimp only
    rw [hlower]
    right
    constructor
    · exact isIdentifier_markDigit (.inr rfl) (isIdentifierText_escapeReserved htext)
        (escapeReserved_ne_nil hne)
    · exact markDigit_not_mem rfl (escapeReserved_not_mem _)

end Caser

def rowBase (cased : String → String) (stem : String) (i : Nat) (name : String) : String :=
  Resolution.orElse (cased name) (fallbackName (stem ++ i.repr) name)

theorem rowBase_of_ne {cased : String → String} {name : String} (h : cased name ≠ "")
    (stem : String) (i : Nat) : rowBase cased stem i name = cased name :=
  if_neg h

theorem isIdentifier_fallbackName {stem : String} (hs : IsIdentifier stem) (name : String) :
    IsIdentifier (fallbackName stem name) := by
  refine hs.append fun c hc => ?_
  rw [String.toList_ofList] at hc
  exact (List.mem_filter.1 hc).2

theorem isIdentifier_rowBase {cased : String → String} {stem : String} (hs : IsIdentifier stem)
    (i : Nat) {name : String} (hc : cased name = "" ∨ IsIdentifier (cased name)) :
    IsIdentifier (rowBase cased stem i name) := by
  unfold rowBase Resolution.orElse
  split
  · exact isIdentifier_fallbackName (hs.append (isNameText_repr i)) name
  · rename_i hne
    exact hc.resolve_left hne

structure RowNamed (base : Nat → String → String) (names idents : List String) : Prop where
  identifiers : ∀ ident ∈ idents, IsIdentifier ident
  toldApart : ToldApart (names.mapIdx base) idents

theorem rowNamed_freshRow {base : Nat → String → String} {names : List String}
    (hbase : ∀ i name, IsIdentifier (base i name)) :
    RowNamed base names (freshRow base names) := by
  refine ⟨fun ident hi => ?_, toldApart_freshRow⟩
  obtain ⟨j, name, used, rfl⟩ := exists_of_mem_freshRow hi
  exact isIdentifier_fresh (hbase j name) j used

end QueryTyping.Naming
