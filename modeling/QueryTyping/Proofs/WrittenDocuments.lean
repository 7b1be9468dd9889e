import QueryTyping.Json.Document
import QueryTyping.Proofs.WrittenTokens

namespace QueryTyping.Json

@[elab_as_elim, induction_eliminator]
theorem induct {P : Json → Prop} (null : P null) (bool : ∀ b, P (bool b))
    (number : ∀ n, P (number n)) (string : ∀ s, P (string s))
    (array : ∀ vs, (∀ v ∈ vs, P v) → P (array vs))
    (object : ∀ es, (∀ e ∈ es, P e.2) → P (object es)) (v : Json) : P v := by
  match v with
  | .null => exact null
  | .bool b => exact bool b
  | .number n => exact number n
  | .string s => exact string s
  | .array vs =>
    exact array vs fun v _ => induct null bool number string array object v
  | .object es =>
    exact object es fun e he =>
      have : sizeOf e.2 < sizeOf es := by
        have := List.sizeOf_lt_of_mem he
        obtain ⟨k, v⟩ := e
        simp only [Prod.mk.sizeOf_spec] at this ⊢
        omega
      induct null bool number string array object e.2
termination_by v

mutual

def document : Json → Document
  | null => .null
  | bool b => .bool b
  | number n => .number (Number.ofDigitsOf n)
  | string s => .string (.ok s)
  | array vs => .array (documents vs) .closed
  | object es => .object (documentEntries es) .closed

def documents : List Json → List Document
  | [] => []
  | v :: vs => v.document :: documents vs

def documentEntries : List (String × Json) → List (Key × Document)
  | [] => []
  | (k, v) :: es => (.ok k, v.document) :: documentEntries es

end

theorem documents_eq_map (vs : List Json) : documents vs = vs.map document := by
  induction vs with
  | nil => rfl
  | cons v vs ih => simp [documents, ih]

variable {l : Layout} {depth : Nat} {r : Reader} {outer : List Frame} {rest : List Char}

namespace Reader

def Awaits (r : Reader) (outer : List Frame) : Prop :=
  ∀ t, t ≠ .closeList → r.step t = begin outer t

theorem start_awaits : start.Awaits [] :=
  fun _ _ => rfl

theorem items_awaits (outer : List Frame) : (items outer).Awaits (.item [] :: outer) := by
  intro t ht
  cases t <;> first | rfl | exact absurd rfl ht

theorem item_awaits (outer : List Frame) (before : List Document) :
    (item outer before).Awaits (.item before :: outer) := by
  intro t ht
  cases t <;> first | rfl | exact absurd rfl ht

theorem value_awaits (outer : List Frame) (before : List (Key × Document)) (key : Key) :
    (value outer before key).Awaits (.entry before key :: outer) :=
  fun _ _ => rfl

theorem run_nil (r : Reader) : r.run [] = r := by
  rw [run]

theorem run_space {c : Char} (h : isSpace c = true) : r.run (c :: rest) = r.run rest := by
  rw [run, if_pos h]

theorem run_token {c : Char} {s : List Char} {t : Token} (hc : isSpace c = false)
    (h : scanToken c s = (t, rest)) : r.run (c :: s) = (r.step t).run rest := by
  rw [run, if_neg (ne_true_of_eq_false hc)]
  simp only [h]

theorem run_mark (c : Char) (t : Token) (hc : isSpace c = false)
    (h : scanToken c rest = (t, rest)) : r.run (c :: rest) = (r.step t).run rest :=
  run_token hc h

theorem run_word (c : Char) (w : List Char) (t : Token) (hc : isSpace c = false)
    (h : scanToken c (w ++ rest) = scanWord t w (w ++ rest)) :
    r.run (c :: w ++ rest) = (r.step t).run rest :=
  run_token hc (h.trans (scanWord_append t w rest))

theorem run_line (l : Layout) (depth : Nat) (r : Reader) (s : List Char) :
    r.run (l.line depth ++ s) = r.run s := by
  cases l with
  | compact => rfl
  | indented =>
    rw [Layout.line, List.cons_append, run_space rfl]
    induction 2 * depth with
    | zero => rfl
    | succ n ih => rw [List.replicate_succ, List.cons_append, run_space rfl, ih]

theorem run_quote (t : String) :
    r.run (quote t ++ rest) = (r.step (.string (.ok t))).run rest := by
  have h : quote t ++ rest = '"' :: (t.toList.flatMap escape ++ '"' :: rest) := by
    simp [quote]
  rw [h]
  exact run_token rfl (scanToken_quote t rest)

theorem run_colon {before : List (Key × Document)} {key : Key} (l : Layout) :
    (colon outer before key).run (l.colon ++ rest) = (value outer before key).run rest := by
  cases l with
  | compact => exact run_mark ':' .colon rfl rfl
  | indented =>
    have h : Layout.indented.colon ++ rest = ':' :: ' ' :: rest := rfl
    rw [h, run_mark ':' .colon rfl rfl, run_space rfl]
    rfl

end Reader

open Reader

theorem endsNumber_line {c : Char} (hc : EndsNumber (c :: rest)) :
    EndsNumber (l.line depth ++ c :: rest) := by
  cases l with
  | compact => exact hc
  | indented => exact endsNumber_cons.2 (by decide)

theorem endsNumber_writeItems (vs : List Json) : EndsNumber (writeItems l depth vs ++ rest) := by
  cases vs with
  | nil =>
    rw [writeItems, List.append_assoc]
    exact endsNumber_line (endsNumber_cons.2 (by decide))
  | cons v vs => exact endsNumber_cons.2 (by decide)

theorem endsNumber_writeEntries (es : List (String × Json)) :
    EndsNumber (writeEntries l depth es ++ rest) := by
  cases es with
  | nil =>
    rw [writeEntries, List.append_assoc]
    exact endsNumber_line (endsNumber_cons.2 (by decide))
  | cons e es => exact endsNumber_cons.2 (by decide)

def Reread (l : Layout) (v : Json) : Prop :=
  ∀ (depth : Nat) (r : Reader) (outer : List Frame) (rest : List Char), r.Awaits outer →
    EndsNumber rest → r.run (v.write l depth ++ rest) = (put v.document outer).run rest

theorem run_writeItems {vs : List Json} (hvs : ∀ v ∈ vs, Reread l v) (before : List Document) :
    (afterItem outer before).run (writeItems l depth vs ++ rest) =
      (put (.array (before.reverse ++ documents vs) .closed) outer).run rest := by
  induction vs generalizing before with
  | nil =>
    rw [writeItems, List.append_assoc, run_line]
    rw [List.singleton_append, run_mark ']' .closeList rfl rfl, documents, List.append_nil]
    rfl
  | cons v vs ih =>
    obtain ⟨hv, hvs⟩ := List.forall_mem_cons.1 hvs
    simp only [writeItems, List.cons_append, List.append_assoc]
    rw [run_mark ',' .comma rfl rfl, run_line]
    have hcomma : (afterItem outer before).step .comma = item outer before := rfl
    rw [hcomma, hv _ _ _ _ (item_awaits outer before) (endsNumber_writeItems vs)]
    have hput : put v.document (.item before :: outer) = afterItem outer (v.document :: before) :=
      rfl
    rw [hput, ih hvs, documents, List.reverse_cons, List.append_assoc, List.singleton_append]

theorem run_writeEntries {es : List (String × Json)} (hes : ∀ e ∈ es, Reread l e.2)
    (before : List (Key × Document)) :
    (afterEntry outer before).run (writeEntries l depth es ++ rest) =
      (put (.object (before.reverse ++ documentEntries es) .closed) outer).run rest := by
  induction es generalizing before with
  | nil =>
    rw [writeEntries, List.append_assoc, run_line]
    rw [List.singleton_append, run_mark '}' .closeObject rfl rfl, documentEntries,
      List.append_nil]
    rfl
  | cons e es ih =>
    obtain ⟨k, v⟩ := e
    obtain ⟨hv, hes⟩ := List.forall_mem_cons.1 hes
    simp only [writeEntries, List.cons_append, List.append_assoc]
    rw [run_mark ',' .comma rfl rfl, run_line, run_quote]
    have hkey : ((afterEntry outer before).step .comma).step (.string (.ok k)) =
        colon outer before (.ok k) := rfl
    rw [hkey, run_colon, hv _ _ _ _ (value_awaits _ _ _) (endsNumber_writeEntries es)]
    have hput : put v.document (.entry before (.ok k) :: outer) =
        afterEntry outer ((.ok k, v.document) :: before) := rfl
    rw [hput, ih hes, documentEntries, List.reverse_cons, List.append_assoc, List.singleton_append]

theorem reread (l : Layout) (v : Json) : Reread l v := by
  induction v with
  | null =>
    intro depth r outer rest hr _
    rw [write, run_word 'n' ['u', 'l', 'l'] .null rfl rfl, hr .null nofun]
    rfl
  | bool b =>
    intro depth r outer rest hr _
    cases b with
    | true =>
      rw [write, run_word 't' ['r', 'u', 'e'] (.bool true) rfl rfl, hr (.bool true) nofun]
      rfl
    | false =>
      rw [write, run_word 'f' ['a', 'l', 's', 'e'] (.bool false) rfl rfl, hr (.bool false) nofun]
      rfl
  | number n =>
    intro depth r outer rest hr hrest
    obtain ⟨c, s, hs, hc, ht⟩ := scanToken_number n hrest
    rw [write, hs, run_token hc ht, hr (.number _) nofun]
    rfl
  | string s =>
    intro depth r outer rest hr _
    rw [write, run_quote, hr (.string _) nofun]
    rfl
  | array vs ih =>
    intro depth r outer rest hr _
    cases vs with
    | nil =>
      have hwrite : (array []).write l depth ++ rest = '[' :: ']' :: rest := by rw [write]; rfl
      rw [hwrite, run_mark '[' .openList rfl rfl, hr .openList nofun,
        run_mark ']' .closeList rfl rfl]
      rfl
    | cons v vs =>
      obtain ⟨hv, hvs⟩ := List.forall_mem_cons.1 ih
      simp only [write, List.cons_append, List.append_assoc]
      rw [run_mark '[' .openList rfl rfl, hr .openList nofun, run_line]
      have hitems : begin outer .openList = items outer := rfl
      rw [hitems, hv _ _ _ _ (items_awaits outer) (endsNumber_writeItems vs)]
      exact run_writeItems hvs [v.document]
  | object es ih =>
    intro depth r outer rest hr _
    cases es with
    | nil =>
      have hwrite : (object []).write l depth ++ rest = '{' :: '}' :: rest := by rw [write]; rfl
      rw [hwrite, run_mark '{' .openObject rfl rfl, hr .openObject nofun,
        run_mark '}' .closeObject rfl rfl]
      rfl
    | cons e es =>
      obtain ⟨k, v⟩ := e
      obtain ⟨hv, hes⟩ := List.forall_mem_cons.1 ih
      simp only [write, List.cons_append, List.append_assoc]
      rw [run_mark '{' .openObject rfl rfl, hr .openObject nofun, run_line, run_quote]
      have hkey : (begin outer .openObject).step (.string (.ok k)) = colon outer [] (.ok k) := rfl
      rw [hkey, run_colon, hv _ _ _ _ (value_awaits _ _ _) (endsNumber_writeEntries es)]
      exact run_writeEntries hes [(.ok k, v.document)]

def text (l : Layout) (v : Json) : String :=
  String.ofList (v.write l 0)

theorem read_text (l : Layout) (v : Json) :
    Document.read (v.text l).toList = (v.document, false) := by
  have h := reread l v 0 start [] [] start_awaits endsNumber_nil
  rw [List.append_nil, run_nil] at h
  rw [text, String.toList_ofList, Document.read, h]
  rfl

end QueryTyping.Json
