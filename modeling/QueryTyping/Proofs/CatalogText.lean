import QueryTyping.Catalog.Format
import QueryTyping.Proofs.CatalogTree
import QueryTyping.Proofs.WrittenValues

namespace QueryTyping.CatalogType

open Catalog (Head)
open Json (Document depthOfEntries documentEntries documents)

theorem fieldsToJson_eq_map (fields : List (String × CatalogType)) : fieldsToJson fields =
    fields.map fun f => .object [("name", .string f.1), ("type", f.2.toJson)] := by
  induction fields with
  | nil => rfl
  | cons f fields ih => simp [fieldsToJson, ih]

section Entry

variable (h : Head) (kind : String) {details : List (String × Json)}

theorem depth_entry : (entry h kind details).depth = depthOfEntries details + 2 := by
  obtain ⟨oid, name, schema⟩ := h
  cases schema with
  | none => simp [entry, headEntries, Json.depth, depthOfEntries]
  | some s => simp [entry, headEntries, Json.depth, depthOfEntries]

theorem fits_entry (hd : ∀ e ∈ details, e.2.Fits) : (entry h kind details).Fits := by
  have hoid : (Json.number h.oid.val.toNat).Fits :=
    .number (Nat.lt_trans h.oid.val.toNat_lt (by decide))
  have hschema : ∀ e ∈ (h.schema.map fun s => ("namespace", Json.string s)).toList, e.2.Fits := by
    intro e he
    obtain ⟨s, -, rfl⟩ := Option.map_eq_some_iff.1 (Option.mem_toList.1 he)
    exact .string s
  have hkind : (Json.object (("kind", .string kind) :: details)).Fits :=
    .object (List.forall_mem_cons.2 ⟨.string kind, hd⟩)
  refine .object ?_
  simp only [headEntries, List.forall_mem_append, List.forall_mem_cons]
  exact ⟨⟨⟨hoid, .string h.name, nofun⟩, hschema⟩, hkind, nofun⟩

end Entry

theorem fits_fields {fields : List (String × CatalogType)} (h : ∀ f ∈ fields, f.2.toJson.Fits) :
    (Json.array (fieldsToJson fields)).Fits := by
  refine .array ?_
  rw [fieldsToJson_eq_map]
  intro v hv
  obtain ⟨f, hf, rfl⟩ := List.mem_map.1 hv
  exact .object (List.forall_mem_cons.2 ⟨.string f.1, List.forall_mem_singleton.2 (h f hf)⟩)

theorem fits_toJson (t : CatalogType) : t.toJson.Fits := by
  induction t with
  | scalar h => exact fits_entry h _ nofun
  | pseudo h => exact fits_entry h _ nofun
  | enum h labels => exact fits_entry h _ (List.forall_mem_singleton.2 (Json.fits_strings labels))
  | composite h fields ih => exact fits_entry h _ (List.forall_mem_singleton.2 (fits_fields ih))
  | domain h base ih => exact fits_entry h _ (List.forall_mem_singleton.2 ih)
  | array h elem ih => exact fits_entry h _ (List.forall_mem_singleton.2 ih)

theorem decodeOid_document (oid : Oid) :
    decodeOid (Json.number oid.val.toNat).document = .ok oid := by
  have h := oid.val.toNat_lt
  rw [Json.document, Json.Number.ofDigitsOf_of_lt (Nat.lt_trans h (by decide))]
  simp [decodeOid, h]

variable {held : Bool} {room : Nat}

theorem decodeAt_entry {h : Head} {kind : String} {details : List (String × Json)} {k : Kind}
    (hroom : 1 < room)
    (hk : decodeKind held (room - 1) (Json.object (("kind", .string kind) :: details)).document =
      .ok k) :
    decodeAt held room (entry h kind details).document = .ok (k.type h) := by
  have htext (s : String) : (Json.string s).document.text = .ok s := rfl
  have hschema (s : String) : decodeSchema (Json.string s).document = .ok (some s) := rfl
  obtain ⟨oid, name, schema⟩ := h
  rw [entry, Json.document, decodeAt, if_neg (Nat.not_le.2 hroom)]
  cases schema with
  | none =>
    simp [headEntries, documentEntries, decodeEntries, Draft.taken, decodeOid_document, hk, htext,
      bind, Except.bind, closeObject, Json.ObjectEnd.fault?, Draft.type, Json.required, pure,
      Except.pure]
  | some s =>
    simp [headEntries, documentEntries, decodeEntries, Draft.taken, decodeOid_document, hk, htext,
      hschema, bind, Except.bind, closeObject, Json.ObjectEnd.fault?, Draft.type, Json.required,
      pure, Except.pure]

theorem ofEntries_kind (held : Bool) {es : List (String × Json)} (tag : Tag)
    (hes : ∀ e ∈ es, e.1 ≠ "kind" ∧ e.2.document.fault? room = none) :
    Tag.ofEntries held room none (documentEntries (("kind", .string tag.name) :: es)) .closed =
      .ok tag := by
  have hrest : Tag.ofEntries held room (some tag) (documentEntries es) .closed = .ok tag := by
    induction es with
    | nil => rfl
    | cons e es ih =>
      obtain ⟨k, v⟩ := e
      obtain ⟨⟨hk, hv⟩, hes⟩ := List.forall_mem_cons.1 hes
      dsimp only at hk hv
      rw [documentEntries, Tag.ofEntries, hv]
      · exact ih hes
      · exact hk
  have hdecode : Tag.decode held (Json.string tag.name).document = .ok tag := by
    cases tag <;> rfl
  rw [documentEntries, Tag.ofEntries, hdecode]
  exact hrest

def decodeDetails (room : Nat) (es : List (Json.Key × Document)) : Tag → Json.Decoded Kind
  | .scalar => return .scalar
  | .pseudo => return .pseudo
  | .enum => return .enum (← decodeLabels none es)
  | .composite => return .composite (← decodeFieldsOf room none es)
  | .domain => return .domain (← decodePart room "base" none es)
  | .array => return .array (← decodePart room "elem" none es)

theorem decodeKind_object {es : List (Json.Key × Document)} {stop : Json.ObjectEnd} {tag : Tag}
    (hroom : 1 < room) (htag : Tag.ofEntries held (room - 1) none es stop = .ok tag) :
    decodeKind held room (.object es stop) = decodeDetails room es tag := by
  have h : decodeKind held room (.object es stop) =
      if room ≤ 1 then Json.refuseFault .tooDeep
      else Tag.ofEntries held (room - 1) none es stop >>= decodeDetails room es := rfl
  rw [h, if_neg (Nat.not_le.2 hroom), htag]
  rfl

theorem decodeAt_plain (head : Head) (tag : Tag) (k : Kind) (hroom : 2 < room)
    (hk : decodeDetails (room - 1) [] tag = .ok k) :
    decodeAt held room (entry head tag.name []).document = .ok (k.type head) := by
  have htag : Tag.ofEntries held (room - 1 - 1) none
      (documentEntries [("kind", .string tag.name)]) .closed = .ok tag :=
    ofEntries_kind held tag nofun
  refine decodeAt_entry (by omega) ?_
  rw [Json.document, decodeKind_object (by omega) htag, ← hk]
  cases tag <;> rfl

theorem decodeAt_part {v : Json} (head : Head) (tag : Tag) (key : String) (k : Kind) (hv : v.Fits)
    (hkey : key ≠ "kind") (hroom : v.depth + 2 < room)
    (hk : decodeDetails (room - 1) [(.ok key, v.document)] tag = .ok k) :
    decodeAt held room (entry head tag.name [(key, v)]).document = .ok (k.type head) := by
  have htag : Tag.ofEntries held (room - 1 - 1) none
      (documentEntries [("kind", .string tag.name), (key, v)]) .closed = .ok tag := by
    refine ofEntries_kind held tag (List.forall_mem_singleton.2 ⟨hkey, ?_⟩)
    exact hv.fault?_document (by omega)
  refine decodeAt_entry (by omega) ?_
  rw [Json.document, decodeKind_object (by omega) htag, ← hk]
  cases tag <;> rfl

theorem decodeLabels_singleton (d : Document) :
    decodeLabels none [(.ok "labels", d)] = labelsOf d := by
  simp only [decodeLabels, Except.toOption, ↓reduceIte]
  cases labelsOf d <;> rfl

theorem decodeFieldsOf_singleton (d : Document) :
    decodeFieldsOf room none [(.ok "fields", d)] = decodeFields room d := by
  simp only [decodeFieldsOf, Except.toOption, ↓reduceIte]
  cases decodeFields room d <;> rfl

theorem decodePart_singleton (key : String) (d : Document) :
    decodePart room key none [(.ok key, d)] = decodeAt true room d := by
  simp only [decodePart, Except.toOption, ↓reduceIte]
  cases decodeAt true room d <;> rfl

theorem decodeField_document {name : String} {t : CatalogType}
    (h : decodeAt true room t.toJson.document = .ok t) :
    decodeField room (Json.object [("name", .string name), ("type", t.toJson)]).document =
      .ok (name, t) := by
  have hname : (Json.string name).document.text = .ok name := rfl
  have hne : some "type" ≠ some "name" := by decide
  have htype : decodeFieldEntries room (some name) none [(.ok "type", t.toJson.document)] =
      .ok (name, t) := by
    simp only [decodeFieldEntries, Except.toOption, hne, ↓reduceIte, h]
    rfl
  simp only [Json.document, documentEntries, decodeField]
  rw [decodeFieldEntries]
  exact htype

theorem decodeFieldList_documents {fields : List (String × CatalogType)}
    (h : ∀ f ∈ fields, decodeAt true room f.2.toJson.document = .ok f.2) :
    decodeFieldList room (documents (fieldsToJson fields)) = .ok fields := by
  induction fields with
  | nil => rfl
  | cons f fields ih =>
    obtain ⟨hf, hfields⟩ := List.forall_mem_cons.1 h
    rw [fieldsToJson, documents, decodeFieldList, decodeField_document hf, ih hfields]
    rfl

theorem depth_field {fields : List (String × CatalogType)} {f : String × CatalogType}
    (hf : f ∈ fields) : f.2.toJson.depth < Json.depthOfList (fieldsToJson fields) := by
  have hmem : Json.object [("name", .string f.1), ("type", f.2.toJson)] ∈ fieldsToJson fields := by
    rw [fieldsToJson_eq_map]
    exact List.mem_map_of_mem hf
  have hle := Json.depth_le_depthOfList hmem
  simp only [Json.depth, depthOfEntries] at hle
  omega

theorem decodeAt_document (t : CatalogType) (held : Bool) (room : Nat)
    (h : t.toJson.depth < room) : decodeAt held room t.toJson.document = .ok t := by
  induction t generalizing held room with
  | scalar head =>
    rw [toJson, depth_entry] at h
    exact decodeAt_plain head .scalar .scalar (by omega) rfl
  | pseudo head =>
    rw [toJson, depth_entry] at h
    exact decodeAt_plain head .pseudo .pseudo (by omega) rfl
  | enum head labels =>
    rw [toJson, depth_entry, depthOfEntries, depthOfEntries, Nat.max_zero] at h
    refine decodeAt_part head .enum "labels" (.enum labels) (Json.fits_strings labels) (by decide)
      h ?_
    have hlabels : labelsOf (Json.strings labels).document = .ok labels :=
      Json.decodeList_strings labels
    rw [decodeDetails, decodeLabels_singleton, hlabels]
    rfl
  | composite head fields ih =>
    rw [toJson, depth_entry, depthOfEntries, depthOfEntries, Nat.max_zero] at h
    refine decodeAt_part head .composite "fields" (.composite fields)
      (fits_fields fun f _ => f.2.fits_toJson) (by decide) h ?_
    have hfields : decodeFieldList (room - 1) (documents (fieldsToJson fields)) = .ok fields := by
      rw [Json.depth] at h
      refine decodeFieldList_documents fun f hf => ih f hf true (room - 1) ?_
      have := depth_field hf
      omega
    have hlist : decodeFields (room - 1) (Json.array (fieldsToJson fields)).document =
        .ok fields := by
      rw [Json.document, decodeFields, hfields]
    rw [decodeDetails, decodeFieldsOf_singleton, hlist]
    rfl
  | domain head base ih =>
    rw [toJson, depth_entry, depthOfEntries, depthOfEntries, Nat.max_zero] at h
    refine decodeAt_part head .domain "base" (.domain base) base.fits_toJson (by decide) h ?_
    have hbase := ih true (room - 1) (by omega)
    rw [decodeDetails, decodePart_singleton, hbase]
    rfl
  | array head elem ih =>
    rw [toJson, depth_entry, depthOfEntries, depthOfEntries, Nat.max_zero] at h
    refine decodeAt_part head .array "elem" (.array elem) elem.fits_toJson (by decide) h ?_
    have helem := ih true (room - 1) (by omega)
    rw [decodeDetails, decodePart_singleton, helem]
    rfl

theorem parse_text (l : Json.Layout) (t : CatalogType) (h : t.toJson.depth < depthLimit) :
    parse (t.toJson.text l) = .ok t := by
  rw [parse, Json.read_text]
  dsimp only
  rw [decodeAt_document t false depthLimit h]
  rfl

theorem parse_compact_pretty (t : CatalogType) (h : t.toJson.depth ≤ 127) :
    parse t.toJson.compact = .ok t ∧ parse t.toJson.pretty = .ok t :=
  ⟨parse_text .compact t (Nat.lt_succ_of_le h), parse_text .indented t (Nat.lt_succ_of_le h)⟩

def wrapped (t : CatalogType) : Nat → CatalogType
  | 0 => t
  | n + 1 => .domain ⟨⟨n.toUInt32⟩, "layer", none⟩ (wrapped t n)

theorem depth_wrapped (t : CatalogType) (n : Nat) :
    (wrapped t n).toJson.depth = t.toJson.depth + 2 * n := by
  induction n with
  | zero => rfl
  | succ n ih =>
    rw [wrapped, toJson, depth_entry, depthOfEntries, depthOfEntries, Nat.max_zero, ih]
    omega

def escapes : CatalogType :=
  .array ⟨⟨4294967295⟩, "_\"é\"", some "pg\\catalog"⟩
    (.enum ⟨⟨0⟩, "", some ""⟩ ["\x01\t\n", "😀/", ""])

theorem parse_compact_pretty_escapes :
    (wrapped escapes 61).toJson.depth = 127 ∧
      parse (wrapped escapes 61).toJson.compact = .ok (wrapped escapes 61) ∧
      parse (wrapped escapes 61).toJson.pretty = .ok (wrapped escapes 61) := by
  have h : (wrapped escapes 61).toJson.depth = 127 := depth_wrapped escapes 61
  exact ⟨h, parse_compact_pretty _ (Nat.le_of_eq h)⟩

end QueryTyping.CatalogType
