import QueryTyping.Proofs.WordDivision

namespace QueryTyping.Naming

variable {c d sep : Char} {s t p w : List Char} {ps ws : List (List Char)}

theorem endsBefore_append (hs : s ≠ []) (ht : ∀ d, t.head? = some d → d.isLower = false) :
    endsBefore c (s ++ t) = endsBefore c s := by
  obtain ⟨d, s, rfl⟩ := List.exists_cons_of_ne_nil hs
  cases s with
  | cons e s => rfl
  | nil =>
    have hlower : t.head?.any Char.isLower = false := by
      cases t with
      | nil => rfl
      | cons e t => exact ht e rfl
    simp [endsBefore, opensWord, hlower]

theorem wordsOf_append (hs : ∀ c, s.getLast? = some c → endsBefore c t = true)
    (ht : ∀ d, t.head? = some d → d.isLower = false) :
    wordsOf (s ++ t) = wordsOf s ++ wordsOf t := by
  induction s with
  | nil => rfl
  | cons c s ih =>
    by_cases hc : c.isAlphanum = true
    · rw [List.cons_append, wordsOf_cons hc, wordsOf_cons hc]
      cases s with
      | nil =>
        rw [List.nil_append, if_pos (hs c rfl)]
        rfl
      | cons d s =>
        rw [endsBefore_append (List.cons_ne_nil d s) ht, ih hs]
        split
        · rfl
        · rename_i hgoes
          have hd := (endsBefore_cons_eq_false_iff.1 (Bool.eq_false_iff.2 hgoes)).1
          obtain ⟨w, ws, hw⟩ := List.exists_cons_of_ne_nil (wordsOf_ne_nil (s := s) hd)
          rw [hw]
          rfl
    · have hc := Bool.eq_false_iff.2 hc
      rw [List.cons_append, wordsOf_cons_of_separator hc, wordsOf_cons_of_separator hc]
      cases s with
      | nil => rfl
      | cons d s => exact ih hs

theorem wordsOf_eq_singleton (hne : s ≠ []) (hs : IsWord s)
    (h : ∀ before b c after, s = before ++ b :: c :: after → opensWord b c after.head? = false) :
    wordsOf s = [s] := by
  induction s with
  | nil => exact absurd rfl hne
  | cons c s ih =>
    obtain ⟨hc, htail⟩ := List.forall_mem_cons.1 hs
    rw [wordsOf_cons hc]
    cases s with
    | nil => rfl
    | cons d s =>
      have hgoes : endsBefore c (d :: s) = false :=
        endsBefore_cons_eq_false_iff.2 ⟨htail d (List.mem_cons_self ..), h [] c d s rfl⟩
      rw [hgoes, ih (List.cons_ne_nil d s) htail]
      · rfl
      · intro before b e after heq
        exact h (c :: before) b e after (by rw [heq, List.cons_append])

theorem wordsOf_intercalate (hsep : sep.isAlphanum = false) (h : ∀ p ∈ ps, wordsOf p = [p]) :
    wordsOf ([sep].intercalate ps) = ps := by
  have hlower : sep.isLower = false := by
    simp only [Char.isAlphanum, Char.isAlpha, Bool.or_eq_false_iff] at hsep
    exact hsep.1.2
  induction ps with
  | nil => rfl
  | cons p ps ih =>
    obtain ⟨hp, hps⟩ := List.forall_mem_cons.1 h
    cases ps with
    | nil => rwa [List.intercalate_singleton]
    | cons q ps =>
      rw [List.intercalate_cons_cons, List.append_assoc, List.singleton_append, wordsOf_append, hp,
        wordsOf_cons_of_separator hsep, ih hps]
      · rfl
      · intro c _
        simp [endsBefore, hsep]
      · intro d hd
        rw [← Option.some.inj hd, hlower]

namespace Caser

variable (k : Caser)

theorem render_lower (w : List Char) : k.render (lower w) = k.render w := by
  rw [render, lower_lower, capitalize_lower, render]

theorem flatMap_render_lower (ws : List (List Char)) :
    (ws.map lower).flatMap k.render = ws.flatMap k.render := by
  rw [List.flatMap_map]
  exact List.flatMap_congr fun w _ => k.render_lower w

theorem upperIdent_of_words {name : String} (h : (k.words name).map lower = ws) :
    k.upperIdent name = String.ofList (markDigit 'X' (ws.flatMap k.render)) := by
  rw [upperIdent, ← h, k.flatMap_render_lower]

theorem lowerIdent_of_words {name : String} (h : (k.words name).map lower = w :: ws) :
    k.lowerIdent name =
      String.ofList (markDigit '_' (escapeReserved (stripInvalid w ++ ws.flatMap k.render))) := by
  cases hn : k.words name with
  | nil => simp [hn] at h
  | cons v vs =>
    rw [hn, List.map_cons] at h
    obtain ⟨rfl, rfl⟩ := List.cons.inj h
    rw [lowerIdent, hn, k.flatMap_render_lower]

theorem lowerIdent_congr {name name' : String}
    (h : (k.words name).map lower = (k.words name').map lower) :
    k.lowerIdent name = k.lowerIdent name' := by
  cases hws : (k.words name).map lower with
  | nil =>
    have hname : k.words name = [] := List.map_eq_nil_iff.1 hws
    have hname' : k.words name' = [] := List.map_eq_nil_iff.1 (h.symm.trans hws)
    rw [lowerIdent, lowerIdent, hname, hname']
  | cons w ws => rw [k.lowerIdent_of_words hws, k.lowerIdent_of_words (h.symm.trans hws)]

end Caser

theorem classes_of_isUpper (hc : c.isUpper = true) :
    c.isAlphanum = true ∧ c.isLower = false ∧ c.isDigit = false := by
  have ha : c.isAlphanum = true := by simp [Char.isAlphanum, Char.isAlpha, hc]
  exact ⟨ha, forall_isAlphanum (P := fun c => c.isUpper = true → c.isLower = false ∧
    c.isDigit = false) (by decide) ha hc⟩

theorem classes_of_isLower (hc : c.isLower = true) :
    c.isAlphanum = true ∧ c.isUpper = false ∧ c.toUpper.isUpper = true := by
  have ha : c.isAlphanum = true := by simp [Char.isAlphanum, Char.isAlpha, hc]
  exact ⟨ha, forall_isAlphanum (P := fun c => c.isLower = true → c.isUpper = false ∧
    c.toUpper.isUpper = true) (by decide) ha hc⟩

theorem classes_of_isDigit (hc : c.isDigit = true) :
    c.isAlphanum = true ∧ c.isUpper = false ∧ c.isLower = false ∧ c.toUpper = c := by
  have ha : c.isAlphanum = true := by simp [Char.isAlphanum, hc]
  exact ⟨ha, forall_isAlphanum (P := fun c => c.isDigit = true → c.isUpper = false ∧
    c.isLower = false ∧ c.toUpper = c) (by decide) ha hc⟩

theorem wordsOf_of_tail (hs : IsWord (c :: s)) (h : ∀ d ∈ s, d.isUpper = false) :
    wordsOf (c :: s) = [c :: s] := by
  refine wordsOf_eq_singleton (List.cons_ne_nil c s) hs fun before b d after heq => ?_
  have hd : d ∈ s := by
    cases before with
    | nil =>
      obtain ⟨rfl, rfl⟩ := List.cons.inj heq
      exact List.mem_cons_self ..
    | cons e before =>
      obtain ⟨rfl, rfl⟩ := List.cons.inj heq
      simp
  simp [opensWord, h d hd]

theorem wordsOf_of_capitals (hs : ∀ c ∈ s, c.isUpper = true) (ht : ∀ d ∈ t, d.isDigit = true)
    (hne : s ≠ []) : wordsOf (s ++ t) = [s ++ t] := by
  induction s with
  | nil => exact absurd rfl hne
  | cons c s ih =>
    obtain ⟨hc, hs⟩ := List.forall_mem_cons.1 hs
    have hcc := classes_of_isUpper hc
    cases s with
    | nil =>
      refine wordsOf_of_tail (List.forall_mem_cons.2 ⟨hcc.1, fun d hd => ?_⟩) fun d hd => ?_
      · exact (classes_of_isDigit (ht d hd)).1
      · exact (classes_of_isDigit (ht d hd)).2.1
    | cons d s =>
      have hlower (e : Char) (he : e ∈ s ++ t) : e.isLower = false := by
        rcases List.mem_append.1 he with he | he
        · exact (classes_of_isUpper (hs e (List.mem_cons_of_mem d he))).2.1
        · exact (classes_of_isDigit (ht e he)).2.2.1
      have hnext : (s ++ t).head?.any Char.isLower = false := by
        cases hst : s ++ t with
        | nil => rfl
        | cons e r => exact hlower e (by simp [hst])
      have hgoes : endsBefore c (d :: (s ++ t)) = false := by
        refine endsBefore_cons_eq_false_iff.2 ⟨?_, ?_⟩
        · exact (classes_of_isUpper (hs d (List.mem_cons_self ..))).1
        · rw [opensWord, hnext]
          simp [hcc]
      rw [List.cons_append, wordsOf_cons hcc.1, ih hs (List.cons_ne_nil d s), List.cons_append,
        hgoes]
      rfl

def IsPlain (w : List Char) : Prop :=
  ∃ letters digits, w = letters ++ digits ∧ letters ≠ [] ∧ (∀ c ∈ letters, c.isLower = true) ∧
    (∀ c ∈ digits, c.isDigit = true) ∧ 2 ≤ w.length

namespace IsPlain

theorem isLower_or_isDigit (h : IsPlain w) (hc : c ∈ w) : c.isLower = true ∨ c.isDigit = true := by
  obtain ⟨letters, digits, rfl, -, hl, hd, -⟩ := h
  exact (List.mem_append.1 hc).imp (hl c) (hd c)

theorem classes (h : IsPlain w) (hc : c ∈ w) : c.isAlphanum = true ∧ c.isUpper = false := by
  rcases h.isLower_or_isDigit hc with hl | hd
  · exact ⟨(classes_of_isLower hl).1, (classes_of_isLower hl).2.1⟩
  · exact ⟨(classes_of_isDigit hd).1, (classes_of_isDigit hd).2.1⟩

theorem isWord (h : IsPlain w) : IsWord w :=
  fun _ hc => (h.classes hc).1

theorem lower_eq (h : IsPlain w) : lower w = w := by
  have hlower (c : Char) (hc : c ∈ w) : c.toLower = id c :=
    forall_isAlphanum (P := fun c => c.isUpper = false → c.toLower = c) (by decide) (h.isWord c hc)
      (h.classes hc).2
  rw [lower, List.map_congr_left hlower, List.map_id]

theorem exists_cons (h : IsPlain w) : ∃ c d t, w = c :: d :: t ∧ c.isLower = true := by
  obtain ⟨letters, digits, rfl, hne, hletters, -, hlength⟩ := h
  obtain ⟨c, letters, rfl⟩ := List.exists_cons_of_ne_nil hne
  rw [List.cons_append] at hlength ⊢
  cases hrest : letters ++ digits with
  | nil => simp [hrest] at hlength
  | cons d t => exact ⟨c, d, t, rfl, hletters c (List.mem_cons_self ..)⟩

theorem exists_capitalize (h : IsPlain w) :
    ∃ c d t, capitalize w = c :: d :: t ∧ c.isUpper = true ∧ ∀ e ∈ d :: t, e ∈ w := by
  obtain ⟨c, d, t, rfl, hc⟩ := h.exists_cons
  have htail : lower (d :: t) = d :: t := (List.cons.inj h.lower_eq).2
  refine ⟨c.toUpper, d, t, ?_, (classes_of_isLower hc).2.2, fun e he => List.mem_cons_of_mem c he⟩
  rw [capitalize, htail]

theorem wordsOf_eq (h : IsPlain w) : wordsOf w = [w] := by
  obtain ⟨c, d, t, rfl, -⟩ := h.exists_cons
  exact wordsOf_of_tail h.isWord fun e he => (h.classes (List.mem_cons_of_mem c he)).2

theorem wordsOf_capitalize (h : IsPlain w) : wordsOf (capitalize w) = [capitalize w] := by
  have hword : IsWord (capitalize w) := h.isWord.capitalize
  obtain ⟨c, d, t, hw, -, htail⟩ := h.exists_capitalize
  rw [hw] at hword ⊢
  exact wordsOf_of_tail hword fun e he => (h.classes (htail e he)).2

theorem wordsOf_upper (h : IsPlain w) : wordsOf (upper w) = [upper w] := by
  obtain ⟨letters, digits, rfl, hne, hletters, hdigits, -⟩ := h
  have hmap : upper (letters ++ digits) = letters.map Char.toUpper ++ digits := by
    have hsame (d : Char) (hd : d ∈ digits) : d.toUpper = id d :=
      (classes_of_isDigit (hdigits d hd)).2.2.2
    rw [upper, List.map_append, List.map_congr_left hsame, List.map_id]
  rw [hmap]
  refine wordsOf_of_capitals ?_ hdigits (by simpa using hne)
  exact List.forall_mem_map.2 fun c hc => (classes_of_isLower (hletters c hc)).2.2

theorem getLast_capitalize (h : IsPlain w) (hc : (capitalize w).getLast? = some c) :
    c.isLower = true ∨ c.isDigit = true := by
  obtain ⟨b, d, t, hw, -, htail⟩ := h.exists_capitalize
  rw [hw, List.getLast?_cons_cons] at hc
  exact h.isLower_or_isDigit (htail c (List.mem_of_getLast? hc))

end IsPlain

theorem wordsOf_append_capitalized (hs : ∀ c, s.getLast? = some c →
    c.isLower = true ∨ c.isDigit = true) (hws : ∀ w ∈ ws, IsPlain w) :
    wordsOf (s ++ ws.flatMap capitalize) = wordsOf s ++ wordsOf (ws.flatMap capitalize) := by
  cases ws with
  | nil => simp [wordsOf]
  | cons w ws =>
    obtain ⟨b, d, t, hw, hb, -⟩ := (hws w (List.mem_cons_self ..)).exists_capitalize
    have hbb := classes_of_isUpper hb
    rw [List.flatMap_cons, hw, List.cons_append]
    refine wordsOf_append (fun c hc => ?_) fun e he => ?_
    · rcases hs c hc with hl | hd
      · simp [endsBefore, opensWord, hb, hl]
      · simp [endsBefore, opensWord, hb, hd]
    · rw [← Option.some.inj he, hbb.2.1]

theorem wordsOf_flatMap_capitalize (hws : ∀ w ∈ ws, IsPlain w) :
    wordsOf (ws.flatMap capitalize) = ws.map capitalize := by
  induction ws with
  | nil => rfl
  | cons w ws ih =>
    obtain ⟨hw, hws⟩ := List.forall_mem_cons.1 hws
    rw [List.flatMap_cons, wordsOf_append_capitalized (fun c hc => hw.getLast_capitalize hc) hws,
      hw.wordsOf_capitalize, ih hws]
    rfl

inductive Style where
  | snake
  | kebab
  | screamingSnake
  | lowerCamel
  | upperCamel
  deriving DecidableEq, Repr

namespace Style

def all : List Style :=
  [snake, kebab, screamingSnake, lowerCamel, upperCamel]

def write : Style → List (List Char) → List Char
  | snake, ws => ['_'].intercalate ws
  | kebab, ws => ['-'].intercalate ws
  | screamingSnake, ws => ['_'].intercalate (ws.map upper)
  | lowerCamel, [] => []
  | lowerCamel, w :: ws => w ++ ws.flatMap capitalize
  | upperCamel, ws => ws.flatMap capitalize

variable (style : Style)

theorem wordsOf_write (hws : ∀ w ∈ ws, IsPlain w) :
    (wordsOf (style.write ws)).map lower = ws := by
  have hlower (f : List Char → List Char) (hf : ∀ w, lower (f w) = lower w)
      (vs : List (List Char)) (hvs : ∀ v ∈ vs, IsPlain v) : (vs.map f).map lower = vs := by
    have hsame (v : List Char) (hv : v ∈ vs) : lower (f v) = id v :=
      (hf v).trans (hvs v hv).lower_eq
    rw [List.map_map]
    exact (List.map_congr_left hsame).trans (List.map_id vs)
  have hplain : ws.map lower = ws := by
    simpa using hlower id (fun _ => rfl) ws hws
  cases style with
  | snake => rw [write, wordsOf_intercalate rfl fun w hw => (hws w hw).wordsOf_eq, hplain]
  | kebab => rw [write, wordsOf_intercalate rfl fun w hw => (hws w hw).wordsOf_eq, hplain]
  | screamingSnake =>
    rw [write, wordsOf_intercalate rfl, hlower upper lower_upper ws hws]
    exact List.forall_mem_map.2 fun w hw => (hws w hw).wordsOf_upper
  | lowerCamel =>
    cases ws with
    | nil => rfl
    | cons w ws =>
      obtain ⟨hw, hws⟩ := List.forall_mem_cons.1 hws
      have hlast (c : Char) (hc : w.getLast? = some c) : c.isLower = true ∨ c.isDigit = true :=
        hw.isLower_or_isDigit (List.mem_of_getLast? hc)
      rw [write, wordsOf_append_capitalized hlast hws, hw.wordsOf_eq,
        wordsOf_flatMap_capitalize hws, List.map_append,
        hlower capitalize lower_capitalize ws hws, List.map_singleton, hw.lower_eq]
      rfl
  | upperCamel =>
    rw [write, wordsOf_flatMap_capitalize hws, hlower capitalize lower_capitalize ws hws]

theorem mem_intercalate {sep : List Char} (h : c ∈ sep.intercalate ps) :
    c ∈ sep ∨ ∃ p ∈ ps, c ∈ p := by
  induction ps with
  | nil => simp at h
  | cons p ps ih =>
    cases ps with
    | nil =>
      rw [List.intercalate_singleton] at h
      exact .inr ⟨p, List.mem_singleton_self p, h⟩
    | cons q ps =>
      rw [List.intercalate_cons_cons, List.append_assoc] at h
      rcases List.mem_append.1 h with h | h
      · exact .inr ⟨p, List.mem_cons_self .., h⟩
      · rcases List.mem_append.1 h with h | h
        · exact .inl h
        · exact (ih h).imp_right fun ⟨r, hr, hc⟩ => ⟨r, List.mem_cons_of_mem p hr, hc⟩

theorem toNat_lt_of_mem_write (hws : ∀ w ∈ ws, IsPlain w) (hc : c ∈ style.write ws) :
    c.toNat < 0x80 := by
  have hjoined {sep : Char} (hsep : sep.toNat < 0x80) (vs : List (List Char))
      (hvs : ∀ v ∈ vs, IsWord v) (h : c ∈ [sep].intercalate vs) : c.toNat < 0x80 := by
    rcases mem_intercalate h with h | ⟨v, hv, h⟩
    · rwa [List.mem_singleton.1 h]
    · exact toNat_lt_of_isAlphanum (hvs v hv c h)
  have hcapitalized (vs : List (List Char)) (hvs : ∀ v ∈ vs, IsPlain v)
      (h : c ∈ vs.flatMap capitalize) : c.toNat < 0x80 := by
    obtain ⟨v, hv, h⟩ := List.mem_flatMap.1 h
    exact toNat_lt_of_isAlphanum ((hvs v hv).isWord.capitalize c h)
  cases style with
  | snake => exact hjoined (by decide) ws (fun w hw => (hws w hw).isWord) hc
  | kebab => exact hjoined (by decide) ws (fun w hw => (hws w hw).isWord) hc
  | screamingSnake =>
    refine hjoined (by decide) (ws.map upper) (List.forall_mem_map.2 fun w hw => ?_) hc
    exact List.forall_mem_map.2 fun d hd => isAlphanum_toUpper ((hws w hw).isWord d hd)
  | lowerCamel =>
    cases ws with
    | nil => exact absurd hc List.not_mem_nil
    | cons w ws =>
      obtain ⟨hw, hws⟩ := List.forall_mem_cons.1 hws
      rcases List.mem_append.1 hc with hc | hc
      · exact toNat_lt_of_isAlphanum (hw.isWord c hc)
      · exact hcapitalized ws hws hc
  | upperCamel => exact hcapitalized ws hws hc

def name (ws : List (List Char)) : String :=
  String.ofList (style.write ws)

theorem words_name (k : Caser) (hws : ∀ w ∈ ws, IsPlain w) :
    (k.words (style.name ws)).map lower = ws := by
  rw [Caser.words, name, words_ofList fun c hc => style.toNat_lt_of_mem_write hws hc,
    style.wordsOf_write hws]

end Style

theorem idents_of_styles (k : Caser) {ws : List (List Char)} (hws : ∀ w ∈ ws, IsPlain w) :
    (∀ style : Style, k.upperIdent (style.name ws) =
      String.ofList (markDigit 'X' (ws.flatMap fun w =>
        match k.acronyms.get? (String.ofList w) with
        | some rendering => stripInvalid rendering.toList
        | none => capitalize w))) ∧
      ∀ style style' : Style, k.lowerIdent (style.name ws) = k.lowerIdent (style'.name ws) := by
  constructor
  · intro style
    have hrender (w : List Char) (hw : w ∈ ws) : k.render w =
        match k.acronyms.get? (String.ofList w) with
        | some rendering => stripInvalid rendering.toList
        | none => capitalize w := by
      have hlower := (hws w hw).lower_eq
      cases hr : k.acronyms.get? (String.ofList w) with
      | some | none => simp only [Caser.render, hlower, hr]
    rw [k.upperIdent_of_words (style.words_name k hws), List.flatMap_congr hrender]
  · intro style style'
    exact k.lowerIdent_congr ((style.words_name k hws).trans (style'.words_name k hws).symm)

namespace Shapes

def caser : Caser :=
  .ofAcronyms .shenzhen [("dim", "3-D"), ("id", "ID")]

def shape : List (List Char) :=
  [['d', 'i', 'm'], ['v', '2'], ['p', 'o', 'i', 'n', 't'], ['i', 'd']]

theorem isPlain_shape : ∀ w ∈ shape, IsPlain w := by
  simp only [shape, List.forall_mem_cons, List.not_mem_nil, false_implies, implies_true, and_true]
  refine ⟨⟨['d', 'i', 'm'], [], ?_⟩, ⟨['v'], ['2'], ?_⟩, ⟨['p', 'o', 'i', 'n', 't'], [], ?_⟩,
    ⟨['i', 'd'], [], ?_⟩⟩
  all_goals simp

end Shapes

theorem idents_of_styles_shape :
    (∀ w ∈ Shapes.shape, IsPlain w) ∧
      Style.all.map (fun style => style.name Shapes.shape) =
        ["dim_v2_point_id", "dim-v2-point-id", "DIM_V2_POINT_ID", "dimV2PointId", "DimV2PointId"] ∧
      (∀ style : Style, Shapes.caser.upperIdent (style.name Shapes.shape) = "X3DV2PointID") ∧
      ∀ style : Style, Shapes.caser.lowerIdent (style.name Shapes.shape) = "dimV2PointID" := by
  obtain ⟨hupper, hlower⟩ := idents_of_styles Shapes.caser Shapes.isPlain_shape
  refine ⟨Shapes.isPlain_shape, ?_, fun style => ?_, fun style => ?_⟩
  · decide +kernel
  · rw [hupper style]
    decide +kernel
  · rw [hlower style .snake]
    decide +kernel

end QueryTyping.Naming
