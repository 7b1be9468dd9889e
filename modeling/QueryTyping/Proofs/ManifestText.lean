import Mathlib.Data.List.Nodup
import QueryTyping.Manifest
import QueryTyping.Proofs.WrittenValues

namespace QueryTyping

open Json (Decoded Document Layout documentEntries documents)

namespace Json

theorem documents_append (vs ws : List Json) :
    documents (vs ++ ws) = documents vs ++ documents ws := by
  simp [documents_eq_map]

theorem decodeItems_congr {α : Type} {read : Document → Decoded α} {d d' : Document}
    (h : read d = read d') (before after : List Document) (i : Nat) :
    decodeItems read i (before ++ d :: after) = decodeItems read i (before ++ d' :: after) := by
  induction before generalizing i with
  | nil => rw [List.nil_append, List.nil_append, decodeItems, decodeItems, h]
  | cons e before ih => rw [List.cons_append, List.cons_append, decodeItems, decodeItems, ih]

def Slot.map {σ τ : Type} (f : σ → τ) : Slot σ → Slot τ
  | .unknown => .unknown
  | .taken => .taken
  | .free read => .free fun v => f <$> read v

section Entries

variable {σ : Type} {slot : σ → String → Slot σ}

def enter (slot : σ → String → Slot σ) (acc : σ) (e : String × Json) : Decoded σ :=
  match slot acc e.1 with
  | .taken => refuse (.duplicateField e.1)
  | .unknown => do
    within (.key e.1) e.2.document.skip
    return acc
  | .free read => within (.key e.1) (read e.2.document)

theorem enter_map {f : σ → σ} {acc : σ} {e : String × Json}
    (h : slot (f acc) e.1 = (slot acc e.1).map f) :
    enter slot (f acc) e = f <$> enter slot acc e := by
  rw [enter, enter, h]
  cases slot acc e.1 with
  | unknown => simp [Slot.map]
  | taken => rfl
  | free read =>
    simp only [Slot.map]
    cases read e.2.document <;> rfl

theorem decodeEntries_eq_foldlM (es : List (String × Json)) (acc : σ) :
    decodeEntries none slot acc (documentEntries es) .closed = es.foldlM (enter slot) acc := by
  induction es generalizing acc with
  | nil => rfl
  | cons e es ih =>
    obtain ⟨k, v⟩ := e
    rw [List.foldlM_cons, ← funext ih, documentEntries, enter]
    cases h : slot acc k with
    | taken =>
      simp only [decodeEntries, h]
      rfl
    | unknown =>
      simp only [decodeEntries, h, bind_assoc, pure_bind]
    | free read => simp only [decodeEntries, h]

end Entries

end Json

namespace SourceQuery

theorem decode_document (q : SourceQuery) : decode q.toJson.document = .ok q := by
  have htext (s : String) : (Json.string s).document.text = .ok s := rfl
  have hkind : ResultKind.decode q.kind.toJson.document = .ok q.kind := by
    cases q.kind <;> rfl
  rw [toJson, Json.document, decode]
  simp [documentEntries, Json.decodeEntries, Draft.slot, htext, hkind, Json.decodeList_strings,
    Json.within, Except.mapError, bind, Except.bind, pure, Except.pure, Draft.query, Json.required]

open Json (enter)

namespace Draft

def withParams (p : Option (List String)) (d : Draft) : Draft :=
  { d with paramNames := p }

theorem query_withParams_nil (d : Draft) : (d.withParams (some [])).query =
    (d.withParams none).query :=
  rfl

theorem slot_withParams {key : String} (hkey : key ≠ "paramNames") (p : Option (List String))
    (d : Draft) : slot (d.withParams p) key = (slot d key).map (withParams p) := by
  simp only [slot, if_neg hkey, apply_ite (Json.Slot.map _)]
  simp only [Json.Slot.map, map_bind, map_pure]
  rfl

theorem foldlM_withParams {es : List (String × Json)} (hes : ∀ e ∈ es, e.1 ≠ "paramNames")
    (p : Option (List String)) (d : Draft) :
    es.foldlM (enter slot) (d.withParams p) = withParams p <$> es.foldlM (enter slot) d := by
  induction es generalizing d with
  | nil => rfl
  | cons e es ih =>
    obtain ⟨he, hes⟩ := List.forall_mem_cons.1 hes
    rw [List.foldlM_cons, List.foldlM_cons, Json.enter_map (slot_withParams he p d), bind_map_left,
      map_bind]
    simp only [ih hes]

theorem enter_paramNames (d : Draft) :
    enter slot (d.withParams none) ("paramNames", .array []) =
      pure (d.withParams (some [])) :=
  rfl

end Draft

theorem decode_object (es : List (String × Json)) : decode (Json.object es).document =
    es.foldlM (enter Draft.slot) ⟨none, none, none, none⟩ >>= Draft.query := by
  rw [Json.document, decode, Json.decodeEntries_eq_foldlM]

theorem decode_omitted {es es' : List (String × Json)}
    (h : "paramNames" ∉ (es ++ es').map Prod.fst) :
    decode (Json.object (es ++ es')).document =
      decode (Json.object (es ++ ("paramNames", .array []) :: es')).document := by
  have hne (e : String × Json) (he : e ∈ es ++ es') : e.1 ≠ "paramNames" :=
    fun heq => h (heq ▸ List.mem_map_of_mem he)
  obtain ⟨hes, hes'⟩ := List.forall_mem_append.1 hne
  -- with nothing read before them, the entries in front leave no names of parameters
  have hstart := Draft.foldlM_withParams hes none ⟨none, none, none, none⟩
  rw [Draft.withParams] at hstart
  rw [decode_object, decode_object, List.foldlM_append, List.foldlM_append, hstart]
  simp only [bind_map_left, bind_assoc, List.foldlM_cons, Draft.enter_paramNames, pure_bind,
    Draft.foldlM_withParams hes', Draft.query_withParams_nil]

end SourceQuery

namespace Manifest

theorem duplicate?_eq_none_iff {seen names : List String} :
    duplicate? seen names = none ↔ names.Nodup ∧ ∀ n ∈ names, n ∉ seen := by
  induction names generalizing seen with
  | nil => simp [duplicate?]
  | cons n names ih =>
    rw [duplicate?]
    split
    · simp [*]
    · rw [ih]
      simp only [List.nodup_cons, List.mem_cons]
      grind

theorem exists_of_duplicate? {seen names : List String} {n : String}
    (h : duplicate? seen names = some n) : ∃ before after, names = before ++ n :: after ∧
      (n ∈ seen ∨ n ∈ before) ∧ duplicate? seen before = none := by
  induction names generalizing seen with
  | nil => exact nomatch h
  | cons m names ih =>
    rw [duplicate?] at h
    split at h
    · obtain rfl := Option.some.inj h
      exact ⟨[], names, rfl, .inl ‹_›, rfl⟩
    · obtain ⟨before, after, rfl, hn, hbefore⟩ := ih h
      refine ⟨m :: before, after, rfl, ?_, ?_⟩
      · grind
      · rw [duplicate?, if_neg ‹_›, hbefore]

theorem decode_document (d : Json) : decode (Json.object [("queries", d)]).document =
    Json.within (.key "queries") (decodeQueries d.document) := by
  have hslot : slot none "queries" = .free fun v => return some (← decodeQueries v) := rfl
  simp only [Json.document, decode, documentEntries, Json.decodeEntries, hslot]
  cases decodeQueries d.document <;> rfl

def compareNames (qs : List SourceQuery) : Except Fault (List SourceQuery) :=
  match duplicate? [] (qs.map SourceQuery.name) with
  | some n => .error (.duplicateName n)
  | none => .ok qs

theorem compareNames_of_nodup {qs : List SourceQuery} (h : (qs.map SourceQuery.name).Nodup) :
    compareNames qs = .ok qs := by
  rw [compareNames, duplicate?_eq_none_iff.2 ⟨h, fun _ _ => List.not_mem_nil⟩]

theorem compareNames_of_not_nodup {qs : List SourceQuery}
    (h : ¬(qs.map SourceQuery.name).Nodup) : ∃ before q after, qs = before ++ q :: after ∧
      (before.map SourceQuery.name).Nodup ∧ q.name ∈ before.map SourceQuery.name ∧
      compareNames qs = .error (.duplicateName q.name) := by
  obtain hnone | ⟨n, hn⟩ := Option.eq_none_or_eq_some (duplicate? [] (qs.map SourceQuery.name))
  · exact absurd (duplicate?_eq_none_iff.1 hnone).1 h
  obtain ⟨names, rest, hsplit, hmem, hnames⟩ := exists_of_duplicate? hn
  obtain ⟨before, qs', rfl, rfl, hqs'⟩ := List.map_eq_append_iff.1 hsplit
  obtain ⟨q, after, rfl, rfl, -⟩ := List.map_eq_cons_iff.1 hqs'
  refine ⟨before, q, after, rfl, (duplicate?_eq_none_iff.1 hnames).1, ?_, ?_⟩
  · exact hmem.resolve_left List.not_mem_nil
  · rw [compareNames, hn]

theorem parse_toJson (l : Layout) (qs : List SourceQuery) :
    parse ((toJson qs).text l) = compareNames qs := by
  have hqs : decodeQueries (Json.array (qs.map SourceQuery.toJson)).document = .ok qs :=
    Json.decodeList_map fun q _ => q.decode_document
  rw [parse, Json.read_text, toJson]
  dsimp only
  rw [decode_document, hqs]
  rfl

theorem parse_omitted (l : Layout) (before after : List Json) {es es' : List (String × Json)}
    (h : "paramNames" ∉ (es ++ es').map Prod.fst) :
    parse ((Json.object [("queries", .array (before ++ .object (es ++ es') :: after))]).text l) =
      parse ((Json.object [("queries", .array
        (before ++ .object (es ++ ("paramNames", .array []) :: es') :: after))]).text l) := by
  have hqueries : decodeQueries (Json.array (before ++ .object (es ++ es') :: after)).document =
      decodeQueries (Json.array
        (before ++ .object (es ++ ("paramNames", .array []) :: es') :: after)).document := by
    have hitems := Json.decodeItems_congr (SourceQuery.decode_omitted h) (documents before)
      (documents after) 0
    rw [Json.document, Json.document, Json.documents_append, Json.documents_append, documents,
      documents, decodeQueries, Json.decodeList, Json.decodeList, hitems]
  simp only [parse, Json.read_text]
  rw [decode_document, decode_document, hqueries]

theorem nodup_of_parse {text : String} {qs : List SourceQuery} (h : parse text = .ok qs) :
    (qs.map SourceQuery.name).Nodup := by
  rw [parse] at h
  split at h
  · exact nomatch h
  · split at h
    · exact nomatch h
    · obtain rfl := Except.ok.inj h
      exact (duplicate?_eq_none_iff.1 ‹_›).1

theorem parse_manifest_text :
    (∀ (l : Layout) (qs : List SourceQuery), (qs.map SourceQuery.name).Nodup →
      parse ((toJson qs).text l) = .ok qs) ∧
    (∀ (l : Layout) (qs : List SourceQuery), ¬(qs.map SourceQuery.name).Nodup →
      ∃ before q after, qs = before ++ q :: after ∧ (before.map SourceQuery.name).Nodup ∧
        q.name ∈ before.map SourceQuery.name ∧
        parse ((toJson qs).text l) = .error (.duplicateName q.name)) ∧
    (∀ (l : Layout) (before after : List Json) (es es' : List (String × Json)),
      "paramNames" ∉ (es ++ es').map Prod.fst →
      parse ((Json.object [("queries", .array (before ++ .object (es ++ es') :: after))]).text l) =
        parse ((Json.object [("queries", .array
          (before ++ .object (es ++ ("paramNames", .array []) :: es') :: after))]).text l)) ∧
    (∀ (text : String) (qs : List SourceQuery), parse text = .ok qs →
      (qs.map SourceQuery.name).Nodup ∧ ∀ l : Layout, parse ((toJson qs).text l) = .ok qs) := by
  refine ⟨fun l qs h => ?_, fun l qs h => ?_, fun l before after es es' h => ?_,
    fun text qs h => ?_⟩
  · rw [parse_toJson, compareNames_of_nodup h]
  · rw [parse_toJson]
    exact compareNames_of_not_nodup h
  · exact parse_omitted l before after h
  · have hqs := nodup_of_parse h
    exact ⟨hqs, fun l => by rw [parse_toJson, compareNames_of_nodup hqs]⟩

def twoQueries : List SourceQuery :=
  [⟨"find", "SELECT \"id\"\n FROM é WHERE \\ = $1", ["id"], .one⟩, ⟨"wipe", "", [], .exec⟩]

def wipeEntries : List (String × Json) :=
  [("name", .string "wipe"), ("preparedSql", .string ""), ("resultKind", .string "exec")]

theorem parse_manifest_text_twoQueries :
    parse ((toJson twoQueries).text .compact) = .ok twoQueries ∧
    (∃ before q after, twoQueries ++ twoQueries = before ++ q :: after ∧
      (before.map SourceQuery.name).Nodup ∧ q.name ∈ before.map SourceQuery.name ∧
      parse ((toJson (twoQueries ++ twoQueries)).text .compact) =
        .error (.duplicateName q.name)) ∧
    parse ((Json.object [("queries", .array [.object wipeEntries])]).text .indented) =
      parse ((Json.object [("queries", .array
        [.object (wipeEntries ++ [("paramNames", .array [])])])]).text .indented) ∧
    ((twoQueries.map SourceQuery.name).Nodup ∧
      parse ((toJson twoQueries).text .indented) = .ok twoQueries) := by
  obtain ⟨distinct, repeated, omitted, accepted⟩ := parse_manifest_text
  have h := distinct .compact twoQueries (by decide)
  obtain ⟨hnames, hagain⟩ := accepted _ _ h
  exact ⟨h, repeated .compact _ (by decide), omitted .indented [] [] wipeEntries [] (by decide),
    hnames, hagain .indented⟩

end Manifest

end QueryTyping
