import QueryTyping.Generation.Format
import QueryTyping.Proofs.CatalogText
import QueryTyping.Proofs.TargetTree

namespace QueryTyping

namespace Json

theorem document_eq_of_text_eq {l : Layout} {v w : Json} (h : v.text l = w.text l) :
    v.document = w.document := by
  have hread := read_text l v
  rw [h, read_text] at hread
  exact (Prod.mk.inj hread).1.symm

@[simp]
theorem document_string_inj {s s' : String} :
    (string s).document = (string s').document ↔ s = s' := by
  simp [document]

@[simp]
theorem document_bool_inj {b b' : Bool} : (bool b).document = (bool b').document ↔ b = b' := by
  simp [document]

@[simp]
theorem document_object_inj {es es' : List (String × Json)} :
    (object es).document = (object es').document ↔ documentEntries es = documentEntries es' := by
  simp [document]

@[simp]
theorem documentEntries_cons_inj {k k' : String} {v v' : Json} {es es' : List (String × Json)} :
    documentEntries ((k, v) :: es) = documentEntries ((k', v') :: es') ↔
      (k = k' ∧ v.document = v'.document) ∧ documentEntries es = documentEntries es' := by
  simp [documentEntries]

theorem document_array_inj {α : Type} {f : α → Json} {as bs : List α}
    (h : ∀ a ∈ as, ∀ b, (f a).document = (f b).document ↔ a = b) :
    (array (as.map f)).document = (array (bs.map f)).document ↔ as = bs := by
  have hdocs : documents (as.map f) = documents (bs.map f) ↔ as = bs := by
    induction as generalizing bs with
    | nil => cases bs <;> simp [documents]
    | cons a as ih =>
      obtain ⟨ha, has⟩ := List.forall_mem_cons.1 h
      cases bs with
      | nil => simp [documents]
      | cons b bs => simp [documents, ha, ih has]
  simp [document, hdocs]

@[simp]
theorem document_strings_inj {ss ss' : List String} :
    (strings ss).document = (strings ss').document ↔ ss = ss' :=
  document_array_inj fun _ _ _ => document_string_inj

end Json

@[simp]
theorem CatalogType.document_inj {t u : CatalogType} :
    t.toJson.document = u.toJson.document ↔ t = u := by
  refine ⟨fun h => ?_, fun h => h ▸ rfl⟩
  have ht := decodeAt_document t false (max t.toJson.depth u.toJson.depth + 1) (by omega)
  have hu := decodeAt_document u false (max t.toJson.depth u.toJson.depth + 1) (by omega)
  rw [h, hu] at ht
  exact (Except.ok.inj ht).symm

theorem Target.Name.eq_iff {n n' : Target.Name} :
    n = n' ↔ n.path = n'.path ∧ n.pkg = n'.pkg ∧ n.name = n'.name := by
  cases n
  cases n'
  simp

@[simp]
theorem TargetType.document_inj {t u : TargetType} :
    t.toJson.document = u.toJson.document ↔ t = u := by
  induction t generalizing u with
  | builtin => cases u <;> simp [toJson]
  | named => cases u <;> simp [toJson, nameEntries, Target.Name.eq_iff]
  | enum => cases u <;> simp [toJson, nameEntries, Target.Name.eq_iff, and_assoc]
  | composite name fieldNames ts source ih =>
    have hts (us : List TargetType) : (Json.array (listToJson ts)).document =
        (Json.array (listToJson us)).document ↔ ts = us := by
      rw [listToJson_eq_map, listToJson_eq_map]
      exact Json.document_array_inj fun t ht _ => ih t ht
    cases u <;> simp [toJson, nameEntries, Target.Name.eq_iff, and_assoc, hts]
  | array t ih => cases u <;> simp [toJson, ih]

@[simp]
theorem ResultKind.document_inj {k k' : ResultKind} :
    k.toJson.document = k'.toJson.document ↔ k = k' := by
  cases k <;> cases k' <;> simp [toJson, name]

@[simp]
theorem InputParam.document_inj {p q : InputParam} :
    p.toJson.document = q.toJson.document ↔ p = q := by
  cases p
  cases q
  simp [toJson]

@[simp]
theorem OutputColumn.document_inj {c d : OutputColumn} :
    c.toJson.document = d.toJson.document ↔ c = d := by
  cases c
  cases d
  simp [toJson]

@[simp]
theorem TypedQuery.document_inj {q r : TypedQuery} :
    q.toJson.document = r.toJson.document ↔ q = r := by
  cases q
  cases r
  simp [toJson, Json.document_array_inj fun (p : InputParam) _ _ => p.document_inj,
    Json.document_array_inj fun (c : OutputColumn) _ _ => c.document_inj]

theorem Generation.text_eq_text_iff (g g' : Generation) : g.text = g'.text ↔
    g.packagePath = g'.packagePath ∧ g.queries = g'.queries ∧
      g.declarations = g'.declarations ∧ g.imports = g'.imports := by
  constructor
  · intro h
    have hdoc : g.toJson.document = g'.toJson.document := Json.document_eq_of_text_eq h
    simpa [toJson, Json.document_array_inj fun (q : TypedQuery) _ _ => q.document_inj,
      Json.document_array_inj fun (t : TargetType) _ _ => t.document_inj] using hdoc
  · rintro ⟨hpath, hqueries, hdeclarations, himports⟩
    rw [text, text, toJson, toJson, hpath, hqueries, hdeclarations, himports]

end QueryTyping
