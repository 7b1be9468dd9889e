import Mathlib.Tactic.SplitIfs
import QueryTyping.Json.Token
import QueryTyping.Json.Value

namespace QueryTyping.Json

open Text (hexValue)

theorem isSpace_eq_false {c : Char} (h : c.isDigit) : isSpace c = false := by
  have hne (d : Char) (hd : d.isDigit = false) : c ≠ d := fun hc => by simp [hc ▸ h] at hd
  simp [isSpace, hne ' ' rfl, hne '\n' rfl, hne '\t' rfl, hne '\r' rfl]

theorem hexValue_digitChar {n : Nat} (h : n < 16) : hexValue n.digitChar = some n := by
  have table : ∀ i < 16, hexValue (Nat.digitChar i) = some i := by decide
  exact table n h

theorem hexQuad_hexDigits {n : Nat} (h : n < 0x20) :
    hexQuad '0' '0' (n / 16).digitChar (n % 16).digitChar = some n := by
  have hzero : hexValue '0' = some 0 := by decide
  simp only [hexQuad, hzero, hexValue_digitChar (show n / 16 < 16 by omega),
    hexValue_digitChar (show n % 16 < 16 by omega), Option.bind_eq_bind, Option.bind_some,
    Option.pure_def, Option.some.injEq]
  omega

theorem scanString_control {c : Char} (h : c.toNat < 0x20) (s : List Char) :
    scanString none ('\\' :: 'u' :: '0' :: '0' :: (hexDigits c.toNat ++ s)) =
      (scanString none s).map (c :: ·) := by
  have htrail : isTrailing c.toNat = false := by simp [isTrailing]; omega
  have hlead : isLeading c.toNat = false := by simp [isLeading]; omega
  simp [hexDigits, scanString, hexQuad_hexDigits h, htrail, hlead, Char.ofNat_toNat]

theorem scanString_plain {c : Char} (hquote : c ≠ '"') (hslash : c ≠ '\\') (h : 0x20 ≤ c.toNat)
    (s : List Char) : scanString none (c :: s) = (scanString none s).map (c :: ·) := by
  rw [scanString, if_neg (Nat.not_lt.2 h)]
  · rfl
  · exact hquote
  · exact hslash

theorem scanString_escape (c : Char) (s : List Char) :
    scanString none (escape c ++ s) = (scanString none s).map (c :: ·) := by
  unfold escape
  split_ifs with h1 h2 h3 h4 h5 h6 h7 h8
  · simp [h1, scanString, plainEscape?, unpaired]
  · simp [h2, scanString, plainEscape?, unpaired]
  · simp [h3, scanString, plainEscape?, unpaired]
  · simp [h4, scanString, plainEscape?, unpaired]
  · simp [h5, scanString, plainEscape?, unpaired]
  · simp [h6, scanString, plainEscape?, unpaired]
  · simp [h7, scanString, plainEscape?, unpaired]
  · exact scanString_control h8 s
  · exact scanString_plain h1 h2 (by omega) s

theorem scanString_flatMap_escape (cs s : List Char) :
    scanString none (cs.flatMap escape ++ '"' :: s) = .done (.ok cs) s := by
  induction cs with
  | nil => simp [scanString, unpaired]
  | cons c cs ih =>
    rw [List.flatMap_cons, List.append_assoc, scanString_escape, ih]
    rfl

theorem scanToken_quote (t : String) (s : List Char) :
    scanToken '"' (t.toList.flatMap escape ++ '"' :: s) = (.string (.ok t), s) := by
  simp [scanToken, scanString_flatMap_escape, Except.map]

theorem scanWord_append (t : Token) (w s : List Char) : scanWord t w (w ++ s) = (t, s) := by
  induction w with
  | nil => simp [scanWord]
  | cons c w ih => simpa [scanWord] using ih

def EndsNumber (s : List Char) : Prop :=
  ∀ c ∈ s.head?, c.isDigit = false ∧ c ≠ '.' ∧ c ≠ 'e' ∧ c ≠ 'E'

theorem endsNumber_nil : EndsNumber [] := by
  simp [EndsNumber]

theorem endsNumber_cons {c : Char} {s : List Char} :
    EndsNumber (c :: s) ↔ c.isDigit = false ∧ c ≠ '.' ∧ c ≠ 'e' ∧ c ≠ 'E' := by
  simp [EndsNumber]

namespace EndsNumber

variable {s : List Char}

theorem scanExponent_eq (h : EndsNumber s) : scanExponent s = .done (.ok none) s := by
  cases s with
  | nil => rfl
  | cons c s =>
    obtain ⟨-, -, he, hE⟩ := endsNumber_cons.1 h
    simp [scanExponent, he, hE]

theorem scanParts_eq (h : EndsNumber s) (negative : Bool) (whole : List Char) :
    scanParts negative whole s = .done (.ok ⟨negative, whole, [], none⟩) s := by
  rw [scanParts.eq_def]
  split
  · exact absurd rfl (endsNumber_cons.1 h).2.1
  · rw [h.scanExponent_eq]
    rfl

theorem takeWhile_append (h : EndsNumber s) {ds : List Char} (hds : ∀ c ∈ ds, c.isDigit) :
    (ds ++ s).takeWhile Char.isDigit = ds ∧ (ds ++ s).dropWhile Char.isDigit = s := by
  rw [List.takeWhile_append_of_pos hds, List.dropWhile_append_of_pos hds]
  cases s with
  | nil => simp
  | cons c s => simp [(endsNumber_cons.1 h).1]

end EndsNumber

namespace Number

def ofDigitsOf (n : Nat) : Except Fault Number :=
  Parts.value ⟨false, Nat.toDigits 10 n, [], none⟩

theorem ofDigitChars_cons (c : Char) (ds : List Char) (n : Nat) :
    Nat.ofDigitChars 10 (c :: ds) n = Nat.ofDigitChars 10 ds (n * 10 + digitValue c) := by
  rw [Nat.ofDigitChars_cons, digitValue, Nat.mul_comm]

theorem le_ofDigitChars (ds : List Char) (n : Nat) : n ≤ Nat.ofDigitChars 10 ds n := by
  induction ds generalizing n with
  | nil => exact Nat.le_refl n
  | cons c ds ih =>
    rw [ofDigitChars_cons]
    have := ih (n * 10 + digitValue c)
    omega

theorem absorb_of_lt {n : Nat} {ds : List Char} (h : Nat.ofDigitChars 10 ds n < UInt64.size) :
    absorb n ds = (Nat.ofDigitChars 10 ds n, 0) := by
  induction ds generalizing n with
  | nil => rfl
  | cons c ds ih =>
    rw [ofDigitChars_cons] at h ⊢
    have hfits : n * 10 + digitValue c < UInt64.size := Nat.lt_of_le_of_lt (le_ofDigitChars ds _) h
    rw [absorb]
    simp only [if_pos hfits]
    exact ih h

theorem ofDigitsOf_of_lt {n : Nat} (h : n < UInt64.size) : ofDigitsOf n = .ok (.integer n) := by
  have habsorb : absorb 0 (Nat.toDigits 10 n) = (n, 0) := by
    rw [absorb_of_lt] <;> rw [Nat.ofDigitChars_ten_toDigits]
    exact h
  simp [ofDigitsOf, Parts.value, habsorb, absorb]

end Number

theorem scanDigits_eq {c : Char} {ds s : List Char} (hs : EndsNumber s)
    (hds : ∀ d ∈ c :: ds, d.isDigit) (hzero : c = '0' → ds = []) :
    scanDigits false (c :: (ds ++ s)) =
      .done (Number.Parts.value ⟨false, c :: ds, [], none⟩) s := by
  obtain ⟨hc, hds⟩ := List.forall_mem_cons.1 hds
  by_cases h0 : c = '0'
  · obtain rfl := hzero h0
    subst h0
    have hhead : s.head?.any Char.isDigit = false := by
      cases s with
      | nil => rfl
      | cons d s => simpa using (endsNumber_cons.1 hs).1
    simp only [List.nil_append, scanDigits, hhead, hs.scanParts_eq]
    rfl
  · obtain ⟨htake, hdrop⟩ := hs.takeWhile_append hds
    rw [scanDigits, if_pos hc, htake, hdrop, hs.scanParts_eq]
    · rfl
    · exact h0

theorem head?_toDigits_ne_zero {n : Nat} (h : n ≠ 0) : (Nat.toDigits 10 n).head? ≠ some '0' := by
  induction n using Nat.strongRecOn with
  | _ n ih =>
    rw [Nat.toDigits_eq_if (by decide)]
    split
    · simpa using h
    · obtain ⟨c, ds, hds⟩ :=
        List.exists_cons_of_ne_nil (Nat.toDigits_ne_nil (b := 10) (n := n / 10))
      have hne := ih (n / 10) (by omega) (by omega)
      rw [hds] at hne ⊢
      exact hne

theorem toDigits_eq_cons (n : Nat) : ∃ c ds, Nat.toDigits 10 n = c :: ds ∧
    (∀ d ∈ c :: ds, d.isDigit) ∧ (c = '0' → ds = []) := by
  obtain ⟨c, ds, h⟩ := List.exists_cons_of_ne_nil (Nat.toDigits_ne_nil (b := 10) (n := n))
  refine ⟨c, ds, h, ?_, ?_⟩
  · intro d hd
    exact Nat.isDigit_of_mem_toDigits (by decide) (by decide) (h ▸ hd)
  · intro hc
    by_cases hn : n = 0
    · subst hn
      exact (List.cons.inj h).2.symm
    · exact absurd (by rw [h, hc]; rfl) (head?_toDigits_ne_zero hn)

theorem scanToken_number (n : Nat) {s : List Char} (hs : EndsNumber s) :
    ∃ c r, Nat.toDigits 10 n ++ s = c :: r ∧ isSpace c = false ∧
      scanToken c r = (.number (Number.ofDigitsOf n), s) := by
  obtain ⟨c, ds, h, hds, hzero⟩ := toDigits_eq_cons n
  have hc : c.isDigit := hds c (by simp)
  refine ⟨c, ds ++ s, by rw [h]; rfl, isSpace_eq_false hc, ?_⟩
  unfold scanToken
  rw [if_pos hc, scanDigits_eq hs hds hzero, ← h]
  rfl

end QueryTyping.Json
