import QueryTyping.Proofs.FirstOccurrence
import QueryTyping.Proofs.IdentifierText

namespace QueryTyping

namespace Naming

variable {b c d : Char} {s t w : List Char}

def endsBefore (c : Char) : List Char → Bool
  | [] => true
  | d :: s => !d.isAlphanum || opensWord c d s.head?

theorem endsBefore_cons_eq_false_iff :
    endsBefore c (d :: s) = false ↔ d.isAlphanum = true ∧ opensWord c d s.head? = false := by
  simp [endsBefore]

theorem wordsOf_cons_of_separator (hc : c.isAlphanum = false) : wordsOf (c :: s) = wordsOf s := by
  simp [wordsOf, hc]

theorem wordsOf_ne_nil (hc : c.isAlphanum = true) : wordsOf (c :: s) ≠ [] := by
  have hflatten := flatten_wordsOf (c :: s)
  rw [List.filter_cons_of_pos hc] at hflatten
  intro h
  rw [h] at hflatten
  exact nomatch hflatten

theorem wordsOf_cons (hc : c.isAlphanum = true) : wordsOf (c :: s) =
    if endsBefore c s then [c] :: wordsOf s else (wordsOf s).modifyHead (c :: ·) := by
  rw [wordsOf.eq_def]
  dsimp only
  rw [if_pos hc]
  cases s with
  | nil => rfl
  | cons d s =>
    cases hw : wordsOf (d :: s) with
    | nil =>
      have hd : d.isAlphanum = false := Bool.eq_false_iff.2 fun hd => wordsOf_ne_nil hd hw
      simp [endsBefore, hd]
    | cons w ws =>
      dsimp only
      cases hd : d.isAlphanum <;> cases ho : opensWord c d s.head? <;> simp [endsBefore, hd, ho]

theorem exists_wordsOf_cons (hc : c.isAlphanum = true) :
    ∃ w ws, wordsOf (c :: s) = (c :: w) :: ws ∧ w <+: s := by
  induction s generalizing c with
  | nil => exact ⟨[], [], wordsOf_cons hc, List.nil_prefix⟩
  | cons d s ih =>
    rw [wordsOf_cons hc]
    split
    · exact ⟨[], _, rfl, List.nil_prefix⟩
    · rename_i h
      obtain ⟨hd, -⟩ := endsBefore_cons_eq_false_iff.1 (Bool.eq_false_iff.2 h)
      obtain ⟨w, ws, hw, hprefix⟩ := ih hd
      rw [hw]
      exact ⟨d :: w, ws, rfl, List.cons_prefix_cons.2 ⟨rfl, hprefix⟩⟩

theorem opensWord_mono (hp : w <+: s) (h : opensWord c d w.head? = true) :
    opensWord c d s.head? = true := by
  cases w with
  | nil => simp_all [opensWord]
  | cons e w =>
    obtain ⟨t, rfl⟩ := hp
    exact h

theorem wordsOf_of_mem (h : w ∈ wordsOf s) : wordsOf w = [w] := by
  induction s generalizing w with
  | nil => exact absurd h List.not_mem_nil
  | cons c s ih =>
    by_cases hc : c.isAlphanum = true
    · rw [wordsOf_cons hc] at h
      split at h
      · rcases List.mem_cons.1 h with rfl | h
        · exact wordsOf_cons hc
        · exact ih h
      · rename_i hends
        cases s with
        | nil => exact absurd rfl hends
        | cons d s =>
          obtain ⟨hd, ho⟩ := endsBefore_cons_eq_false_iff.1 (Bool.eq_false_iff.2 hends)
          obtain ⟨v, ws, hv, hprefix⟩ := exists_wordsOf_cons (s := s) hd
          rw [hv] at h ih
          rcases List.mem_cons.1 h with rfl | h
          · have hgoes : endsBefore c (d :: v) = false := by
              refine endsBefore_cons_eq_false_iff.2 ⟨hd, Bool.eq_false_iff.2 fun ho' => ?_⟩
              rw [opensWord_mono hprefix ho'] at ho
              exact nomatch ho
            rw [wordsOf_cons hc, hgoes, ih (List.mem_cons_self ..)]
            rfl
          · exact ih (List.mem_cons_of_mem _ h)
    · rw [wordsOf_cons_of_separator (Bool.eq_false_iff.2 hc)] at h
      exact ih h

def OpensWord (b c : Char) (after : List Char) : Prop :=
  c.isUpper = true ∧ ((b.isLower = true ∨ b.isDigit = true) ∨
    b.isUpper = true ∧ ∃ d, after.head? = some d ∧ d.isLower = true)

theorem opensWord_eq_true_iff : opensWord b c s.head? = true ↔ OpensWord b c s := by
  simp [opensWord, OpensWord, Option.any_eq_true]

def places (i : Nat) (s : List Char) : List (Char × Nat) :=
  (s.zipIdx i).filter fun p => p.1.isAlphanum

theorem places_cons (i : Nat) (c : Char) (s : List Char) : places i (c :: s) =
    if c.isAlphanum then (c, i) :: places (i + 1) s else places (i + 1) s := by
  rw [places, List.zipIdx_cons, List.filter_cons, places]

def Together (placed : List (List (Char × Nat))) (p q : Char × Nat) : Prop :=
  ∃ w ∈ placed, p ∈ w ∧ q ∈ w

/-- The words of a text that starts at `i`, with the places where their characters stand. -/
structure Divides (i : Nat) (s : List Char) (placed : List (List (Char × Nat))) : Prop where
  nonempty : ∀ w ∈ placed, w ≠ []
  flatten : placed.flatten = places i s
  adjacent : ∀ w ∈ placed, w.IsChain fun p q => q.2 = p.2 + 1
  together : ∀ before b c after, s = before ++ b :: c :: after → b.isAlphanum = true →
    c.isAlphanum = true →
      (Together placed (b, i + before.length) (c, i + before.length + 1) ↔ ¬ OpensWord b c after)

namespace Divides

variable {i : Nat} {placed placed' : List (List (Char × Nat))} {p q : Char × Nat}

theorem nil (i : Nat) : Divides i [] [] :=
  ⟨by simp, rfl, by simp, by simp⟩

theorem lt_of_mem {v : List (Char × Nat)} (h : Divides (i + 1) s placed) (hv : v ∈ placed)
    (hp : p ∈ v) : i < p.2 := by
  have hm : p ∈ placed.flatten := List.mem_flatten.2 ⟨v, hv, hp⟩
  rw [h.flatten] at hm
  exact List.le_snd_of_mem_zipIdx (List.mem_filter.1 hm).1

theorem ne_of_later (h : i < p.2) : p ≠ (c, i) := by
  rintro rfl
  exact Nat.lt_irrefl i h

theorem together_cons (h : Divides (i + 1) s placed)
    (hlater : ∀ p q, i < p.2 → i < q.2 → (Together placed' p q ↔ Together placed p q))
    (hfirst : ∀ d t, s = d :: t → c.isAlphanum = true → d.isAlphanum = true →
      (Together placed' (c, i) (d, i + 1) ↔ ¬ OpensWord c d t)) :
    ∀ before b d after, c :: s = before ++ b :: d :: after → b.isAlphanum = true →
      d.isAlphanum = true →
        (Together placed' (b, i + before.length) (d, i + before.length + 1) ↔
          ¬ OpensWord b d after) := by
  intro before b d after heq hb hd
  cases before with
  | nil =>
    obtain ⟨rfl, rfl⟩ := List.cons.inj heq
    exact hfirst d after rfl hb hd
  | cons e before =>
    obtain ⟨rfl, hs⟩ := List.cons.inj heq
    rw [hlater]
    · have htail := h.together before b d after hs hb hd
      rwa [List.length_cons, ← Nat.add_assoc, Nat.add_right_comm]
    · simp
    · simp

theorem cons_of_separator (h : Divides (i + 1) s placed) (hc : c.isAlphanum = false) :
    Divides i (c :: s) placed := by
  refine ⟨h.nonempty, ?_, h.adjacent, h.together_cons (fun _ _ _ _ => Iff.rfl) ?_⟩
  · rw [places_cons, hc, h.flatten]
    rfl
  · intro d t _ hc'
    rw [hc] at hc'
    exact nomatch hc'

theorem cons_of_ends (h : Divides (i + 1) s placed) (hc : c.isAlphanum = true)
    (hends : endsBefore c s = true) : Divides i (c :: s) ([(c, i)] :: placed) := by
  refine ⟨?_, ?_, ?_, h.together_cons ?_ ?_⟩
  · exact List.forall_mem_cons.2 ⟨List.cons_ne_nil _ _, h.nonempty⟩
  · rw [places_cons, if_pos hc, List.flatten_cons, h.flatten]
    rfl
  · exact List.forall_mem_cons.2 ⟨List.isChain_singleton _, h.adjacent⟩
  · intro p q hp _
    simp [Together, ne_of_later hp]
  · rintro d t rfl - hd
    have hopens : OpensWord c d t := by
      rw [endsBefore, hd] at hends
      exact opensWord_eq_true_iff.1 hends
    refine ⟨?_, fun hn => absurd hopens hn⟩
    rintro ⟨v, hv, hcv, hdv⟩
    rcases List.mem_cons.1 hv with rfl | hv
    · simp at hdv
    · exact absurd (h.lt_of_mem hv hcv) (Nat.lt_irrefl i)

theorem cons_of_goesOn {v : List (Char × Nat)} (h : Divides (i + 1) (d :: s) (v :: placed))
    (hc : c.isAlphanum = true) (hgoes : endsBefore c (d :: s) = false) :
    Divides i (c :: d :: s) (((c, i) :: v) :: placed) := by
  obtain ⟨hd, ho⟩ := endsBefore_cons_eq_false_iff.1 hgoes
  obtain ⟨u, rfl⟩ : ∃ u, v = (d, i + 1) :: u := by
    have hplaces := h.flatten
    rw [places_cons, if_pos hd, List.flatten_cons] at hplaces
    obtain ⟨p, u, rfl⟩ := List.exists_cons_of_ne_nil (h.nonempty v (List.mem_cons_self ..))
    exact ⟨u, by rw [(List.cons.inj hplaces).1]⟩
  obtain ⟨hchain, hadjacent⟩ := List.forall_mem_cons.1 h.adjacent
  refine ⟨?_, ?_, ?_, h.together_cons ?_ ?_⟩
  · exact List.forall_mem_cons.2 ⟨List.cons_ne_nil _ _, (List.forall_mem_cons.1 h.nonempty).2⟩
  · rw [places_cons, if_pos hc, List.flatten_cons, List.cons_append, ← List.flatten_cons,
      h.flatten]
  · exact List.forall_mem_cons.2 ⟨List.isChain_cons_cons.2 ⟨rfl, hchain⟩, hadjacent⟩
  · intro p q hp hq
    simp [Together, ne_of_later hp, ne_of_later hq]
  · rintro e t heq - -
    obtain ⟨rfl, rfl⟩ := List.cons.inj heq
    rw [← opensWord_eq_true_iff, ho]
    simp [Together]

end Divides

theorem exists_divides (i : Nat) (s : List Char) :
    ∃ placed, Divides i s placed ∧ wordsOf s = placed.map (List.map Prod.fst) := by
  induction s generalizing i with
  | nil => exact ⟨[], .nil i, rfl⟩
  | cons c s ih =>
    obtain ⟨placed, h, hwords⟩ := ih (i + 1)
    by_cases hc : c.isAlphanum = true
    · by_cases hends : endsBefore c s = true
      · refine ⟨_, h.cons_of_ends hc hends, ?_⟩
        rw [wordsOf_cons hc, if_pos hends, hwords]
        rfl
      · cases s with
        | nil => exact absurd rfl hends
        | cons d s =>
          have hgoes := Bool.eq_false_iff.2 hends
          cases placed with
          | nil => exact absurd hwords (wordsOf_ne_nil (endsBefore_cons_eq_false_iff.1 hgoes).1)
          | cons v placed =>
            refine ⟨_, h.cons_of_goesOn hc hgoes, ?_⟩
            rw [wordsOf_cons hc, if_neg hends, hwords]
            rfl
    · have hc := Bool.eq_false_iff.2 hc
      exact ⟨placed, h.cons_of_separator hc, by rw [wordsOf_cons_of_separator hc, hwords]⟩

theorem words_ofList {r : Text.Romanization} (h : ∀ c ∈ s, c.toNat < 0x80) :
    words r (String.ofList s) = wordsOf s := by
  rw [words, String.toList_ofList, r.romanize_of_ascii h]

theorem words_divided (r : Text.Romanization) (name : String) :
    let text := r.romanize name.toList
    (∀ c ∈ text, c.toNat < 0x80) ∧
      (∀ w ∈ words r name, w ≠ []) ∧ (words r name).flatten = text.filter Char.isAlphanum ∧
      (∃ placed, Divides 0 text placed ∧ words r name = placed.map (List.map Prod.fst)) ∧
      ∀ w ∈ words r name, words r (String.ofList w) = [w] := by
  intro text
  refine ⟨fun c hc => r.toNat_lt_of_mem_romanize hc, fun w hw => ne_nil_of_mem_wordsOf hw,
    flatten_wordsOf text, exists_divides 0 text, fun w hw => ?_⟩
  have hascii (c : Char) (hc : c ∈ w) : c.toNat < 0x80 :=
    toNat_lt_of_isAlphanum (isWord_of_mem_words hw c hc)
  rw [words_ofList hascii, wordsOf_of_mem hw]

theorem words_divided_shenzhen :
    let text := "XMLParser int4Value ShenZhen".toList
    Text.Romanization.shenzhen.romanize "XMLParser int4Value 深圳".toList = text ∧
      (words .shenzhen "XMLParser int4Value 深圳").map String.ofList =
        ["XML", "Parser", "int4", "Value", "Shen", "Zhen"] ∧
      (words .shenzhen "XMLParser int4Value 深圳").flatten = text.filter Char.isAlphanum ∧
      ∃ placed, Divides 0 text placed ∧
        words .shenzhen "XMLParser int4Value 深圳" = placed.map (List.map Prod.fst) := by
  intro text
  have htext : Text.Romanization.shenzhen.romanize "XMLParser int4Value 深圳".toList = text := by
    decide
  have hwords : (words .shenzhen "XMLParser int4Value 深圳").map String.ofList =
      ["XML", "Parser", "int4", "Value", "Shen", "Zhen"] := by
    decide +kernel
  obtain ⟨-, -, hflatten, hdivided, -⟩ := words_divided .shenzhen "XMLParser int4Value 深圳"
  rw [htext] at hflatten hdivided
  exact ⟨htext, hwords, hflatten, hdivided⟩

end Naming

end QueryTyping
