import QueryTyping.Proofs.Fetch
import QueryTyping.Proofs.FirstOccurrence

namespace QueryTyping

open CatalogType (nodes parts)

namespace Catalog

def Call.isLookup : Call → Bool
  | prepare _ => false
  | header _ | labels _ | fields _ => true

def Cache.lookups (c : Cache) : List Call :=
  c.calls.filter Call.isLookup

def TypeClass.details (oid : Oid) : TypeClass → List Call
  | enum => [.labels oid]
  | composite => [.fields oid]
  | scalar | pseudo | domain _ | array _ => []

end Catalog

def CatalogType.lookups (t : CatalogType) : List Catalog.Call :=
  if (Catalog.wellKnown? t.oid).isSome then [] else .header t.oid :: t.shape.details t.oid

namespace Catalog

variable {e : Engine} {p : Path} {oid : Oid} {own : List Call} {call : Call}
  {ns ms : List CatalogType} {c c' c'' : Cache} {t : CatalogType} {α β : Type}

/-- From `c` to `c'` the engine is asked `own`, and then about those of the types `ns` that are not
yet known. -/
structure Visited (own : List Call) (ns : List CatalogType) (c c' : Cache) : Prop where
  mem_types : ∀ t, t ∈ c'.types ↔ t ∈ c.types ∨ t ∈ ns
  lookups : c'.lookups = c.lookups ++ own ++ (unmet c.types ns).flatMap CatalogType.lookups

namespace Visited

theorem of_subset (hl : c'.lookups = c.lookups) (ht : c'.types = c.types) (hn : ns ⊆ c.types) :
    Visited [] ns c c' where
  mem_types u := by
    rw [ht]
    exact ⟨.inl, fun h => h.elim id fun hu => hn hu⟩
  lookups := by simp [hl, unmet_of_subset hn]

theorem append (h : Visited own ns c c') (h' : Visited [] ms c' c'') :
    Visited own (ns ++ ms) c c'' where
  mem_types u := by rw [h'.mem_types, h.mem_types, List.mem_append, or_assoc]
  lookups := by
    rw [h'.lookups, h.lookups, unmet_append h.mem_types, List.flatMap_append]
    simp

theorem of_call (hcall : call.isLookup)
    (h : Visited own ns { c with calls := c.calls ++ [call] } c') :
    Visited (call :: own) ns c c' where
  mem_types := h.mem_types
  lookups := by
    rw [h.lookups]
    simp [Cache.lookups, hcall]

theorem add (h : Visited t.lookups (t.parts.flatMap nodes) c c') (ht : t ∉ c.types) :
    Visited [] t.nodes c (c'.add t) where
  mem_types u := by
    rw [Cache.add, List.mem_cons, h.mem_types, CatalogType.nodes_eq, List.mem_cons]
    tauto
  lookups := by
    have hparts : t ∉ t.parts.flatMap nodes := by
      intro hm
      obtain ⟨u, hu, hm⟩ := List.mem_flatMap.1 hm
      exact CatalogType.not_mem_nodes_of_mem_parts hu hm
    have hcalls : (c'.add t).lookups = c'.lookups := rfl
    rw [hcalls, h.lookups, CatalogType.nodes_eq, unmet_cons ht hparts, List.flatMap_cons]
    simp

theorem of_wellKnown (hw : wellKnown? t.oid = some t) (ht : t ∉ c.types) :
    Visited [] t.nodes c (c.add t) := by
  refine add ?_ ht
  rw [CatalogType.lookups, hw, parts_of_wellKnown? hw]
  exact .of_subset rfl rfl (List.nil_subset _)

theorem of_told (h : Visited (t.shape.details t.oid) (t.parts.flatMap nodes)
      { c with calls := c.calls ++ [.header t.oid] } c')
    (hw : wellKnown? t.oid = none) (ht : t ∉ c.types) : Visited [] t.nodes c (c'.add t) := by
  refine add ?_ ht
  rw [CatalogType.lookups, hw]
  exact h.of_call rfl

end Visited

def Visits (e : Engine) (p : Path) (own : List Call) (x : Fetch α)
    (P : α → List CatalogType → Prop) : Prop :=
  ∀ c : Cache, c.Valid e → p.Open c →
    Ends x c (fun a c' => Learnt e p c c' ∧ ∃ ns, P a ns ∧ Visited own ns c c') fun _ _ => True

namespace Visits

variable {P : α → List CatalogType → Prop} {Q : β → List CatalogType → Prop}

theorem pure {a : α} (h : P a []) : Visits e p [] (pure a) P :=
  fun _ hc hp => Ends.pure ⟨.refl hc hp, [], h, .of_subset rfl rfl (List.nil_subset _)⟩

theorem bind {x : Fetch α} {g : α → Fetch β} (hx : Visits e p own x P)
    (hg : ∀ a ns, P a ns → Visits e p [] (g a) fun b ms => Q b (ns ++ ms)) :
    Visits e p own (x >>= g) Q := by
  intro c hc hp
  refine Ends.bind (hx c hc hp) ?_ fun _ _ _ => trivial
  rintro a c₁ ⟨h₁, ns, ha, hns⟩
  refine (hg a ns ha c₁ h₁.valid h₁.isOpen).mono ?_ fun _ _ _ => trivial
  rintro b c₂ ⟨h₂, ms, hb, hms⟩
  exact ⟨h₁.trans h₂, ns ++ ms, hb, hns.append hms⟩

theorem ask {answer : List Call → Except EngineFault α} {blame : EngineFault → Failure}
    {g : α → Fetch β} (hcall : call.isLookup) (hg : ∀ a, Visits e p own (g a) Q) :
    Visits e p (call :: own) (ask call answer blame >>= g) Q := by
  intro c hc hp
  refine bind_ask (fun a _ => ?_) fun _ _ => trivial
  have hcalled : Learnt e p c { c with calls := c.calls ++ [call] } := .of_types hc hp rfl
  refine (hg a _ hcalled.valid hcalled.isOpen).mono ?_ fun _ _ _ => trivial
  rintro b c' ⟨h, ns, hb, hns⟩
  exact ⟨hcalled.trans h, ns, hb, hns.of_call hcall⟩

theorem mapM {next : Oid → Fetch CatalogType}
    (hnext : ∀ oid, Visits e p [] (next oid) fun t ns => ns = t.nodes)
    (defs : List (String × Oid)) :
    Visits e p [] (defs.mapM fun d => return (d.1, ← next d.2)) fun fields ns =>
      ns = (fields.map Prod.snd).flatMap nodes := by
  induction defs with
  | nil => exact .pure rfl
  | cons d defs ih =>
    rw [List.mapM_cons]
    refine bind (P := fun f ns => ns = f.2.nodes) ?_ ?_
    · refine (hnext d.2).bind ?_
      rintro t _ rfl
      exact .pure (by simp)
    · rintro f _ rfl
      refine ih.bind ?_
      rintro fields _ rfl
      exact .pure (by simp)

theorem assemble {next : Oid → Fetch CatalogType}
    (hnext : ∀ oid, Visits e p [] (next oid) fun t ns => ns = t.nodes)
    (head : Head) (shape : TypeClass) :
    Visits e p (shape.details head.oid)
      (assemble (askLabels e head.oid) (askFields e head.oid) next head shape) fun t ns =>
        ns = t.parts.flatMap nodes := by
  cases shape with
  | scalar => exact .pure rfl
  | pseudo => exact .pure rfl
  | enum => exact ask rfl fun labels => .pure rfl
  | composite =>
    refine ask rfl fun defs => (mapM hnext defs).bind ?_
    rintro fields _ rfl
    exact .pure (by simp [parts])
  | domain base =>
    refine (hnext base).bind ?_
    rintro t _ rfl
    exact .pure (by simp [parts])
  | array elem =>
    refine (hnext elem).bind ?_
    rintro t _ rfl
    exact .pure (by simp [parts])

end Visits

theorem fetchIn_visits (e : Engine) (p : Path) (oid : Oid) :
    Visits e p [] (fetchIn e p oid) fun t ns => ns = t.nodes := by
  induction p using Path.induct generalizing oid with
  | h p ih =>
    intro c hc hp
    have hends : Ends (fetchIn e p oid) c (fun t c' => Visited [] t.nodes c c')
        fun _ _ => True := by
      rw [fetchIn_eq_fetchLevel, fetchLevel]
      refine Ends.bind_get ?_
      cases hm : c.type? oid with
      | some t =>
        have hknown := Cache.mem_of_type? hm
        exact Ends.pure (.of_subset rfl rfl fun u hu => hc.coherent.nodes hknown hu)
      | none =>
        have hne := Cache.oid_ne_of_type? hm
        cases hw : wellKnown? oid with
        | some t =>
          obtain rfl := oid_of_wellKnown? hw
          exact Visited.of_wellKnown hw fun ht => hne t ht rfl
        | none =>
          refine bind_ask (fun h hh => ?_) fun _ _ => trivial
          by_cases hseen : oid ∈ p.map Prod.fst
          · rw [if_pos hseen]
            exact Ends.throw trivial
          · rw [if_neg hseen]
            have hcalled : Learnt e ((oid, h.name) :: p) c
                { c with calls := c.calls ++ [.header oid] } :=
              .of_types hc (hp.cons hw hm) rfl
            have hknows := assemble_knows (fetchIn_knows e ((oid, h.name) :: p))
              ⟨oid, h.name, h.schema⟩ h.shape _ hcalled.valid hcalled.isOpen
            have hvisits := Visits.assemble (ih oid h.name hseen) ⟨oid, h.name, h.schema⟩ h.shape
              _ hcalled.valid hcalled.isOpen
            refine Ends.bind (hknows.and hvisits) ?_ fun _ _ _ => trivial
            rintro t c₁ ⟨⟨-, ⟨hhead, hshape⟩, -⟩, -, _, rfl, hvisited⟩
            have ho : t.oid = oid := by rw [CatalogType.oid, hhead]
            subst ho
            rw [← hshape] at hvisited
            exact Visited.of_told hvisited hw fun ht => hne t ht rfl
    refine ((fetchIn_knows e p oid c hc hp).and hends).mono ?_ fun _ _ _ => trivial
    rintro t c' ⟨⟨hlearnt, -⟩, hvisited⟩
    exact ⟨hlearnt, t.nodes, rfl, hvisited⟩

theorem fetch_visited (hc : c.Valid e) (oid : Oid) :
    Ends (fetch e oid) c (fun t c' => Visited [] t.nodes c c') fun _ _ => True := by
  refine (fetchIn_visits e [] oid c hc ?_).mono ?_ fun _ _ _ => trivial
  · intro o ho
    exact absurd ho List.not_mem_nil
  · rintro t c' ⟨-, _, rfl, h⟩
    exact h

end Catalog

end QueryTyping
