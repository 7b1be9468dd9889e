import QueryTyping.Catalog.Type

namespace QueryTyping.CatalogType

def parts : CatalogType → List CatalogType
  | composite _ fields => fields.map Prod.snd
  | domain _ base => [base]
  | array _ elem => [elem]
  | scalar _ | pseudo _ | enum _ _ => []

theorem sizeOf_lt_of_mem_parts {t u : CatalogType} (h : u ∈ t.parts) : sizeOf u < sizeOf t := by
  cases t with
  | composite head fields =>
    obtain ⟨f, hf, rfl⟩ := List.mem_map.1 h
    have hlt := List.sizeOf_lt_of_mem hf
    obtain ⟨name, t⟩ := f
    simp only [composite.sizeOf_spec, Prod.mk.sizeOf_spec] at hlt ⊢
    omega
  | domain head base =>
    obtain rfl := List.mem_singleton.1 h
    simp only [domain.sizeOf_spec]
    omega
  | array head elem =>
    obtain rfl := List.mem_singleton.1 h
    simp only [array.sizeOf_spec]
    omega
  | scalar | pseudo | enum => simp [parts] at h

@[elab_as_elim, induction_eliminator]
theorem induct {P : CatalogType → Prop} (scalar : ∀ h, P (scalar h)) (pseudo : ∀ h, P (pseudo h))
    (enum : ∀ h labels, P (enum h labels))
    (composite : ∀ h fields, (∀ f ∈ fields, P f.2) → P (composite h fields))
    (domain : ∀ h base, P base → P (domain h base))
    (array : ∀ h elem, P elem → P (array h elem)) (t : CatalogType) : P t := by
  have h (t : CatalogType) (ih : ∀ u ∈ t.parts, P u) : P t := by
    cases t with
    | scalar h => exact scalar h
    | pseudo h => exact pseudo h
    | enum h labels => exact enum h labels
    | composite h fields =>
      exact composite h fields fun f hf => ih f.2 (List.mem_map_of_mem hf)
    | domain h base => exact domain h base (ih base (List.mem_singleton_self base))
    | array h elem => exact array h elem (ih elem (List.mem_singleton_self elem))
  exact h t fun u _ => induct scalar pseudo enum composite domain array u
termination_by sizeOf t
decreasing_by exact sizeOf_lt_of_mem_parts ‹_›

mutual

def nodes : CatalogType → List CatalogType
  | scalar h => [scalar h]
  | pseudo h => [pseudo h]
  | enum h labels => [enum h labels]
  | composite h fields => composite h fields :: nodesOfFields fields
  | domain h base => domain h base :: base.nodes
  | array h elem => array h elem :: elem.nodes

def nodesOfFields : List (String × CatalogType) → List CatalogType
  | [] => []
  | (_, t) :: fields => t.nodes ++ nodesOfFields fields

end

theorem nodesOfFields_eq_flatMap (fields : List (String × CatalogType)) :
    nodesOfFields fields = (fields.map Prod.snd).flatMap nodes := by
  induction fields with
  | nil => rfl
  | cons f fields ih => simp [nodesOfFields, ih]

theorem nodes_eq (t : CatalogType) : t.nodes = t :: t.parts.flatMap nodes := by
  cases t <;> simp [nodes, parts, nodesOfFields_eq_flatMap]

theorem mem_nodes_iff {t u : CatalogType} :
    u ∈ t.nodes ↔ u = t ∨ ∃ p ∈ t.parts, u ∈ p.nodes := by
  rw [nodes_eq, List.mem_cons, List.mem_flatMap]

theorem mem_nodes_self (t : CatalogType) : t ∈ t.nodes :=
  mem_nodes_iff.2 (.inl rfl)

theorem mem_flatMap_nodes {t : CatalogType} {ts : List CatalogType} (h : t ∈ ts) :
    t ∈ ts.flatMap nodes :=
  List.mem_flatMap.2 ⟨t, h, mem_nodes_self t⟩

theorem sizeOf_le_of_mem_nodes {t u : CatalogType} (h : u ∈ t.nodes) : sizeOf u ≤ sizeOf t := by
  rcases mem_nodes_iff.1 h with rfl | ⟨p, hp, hu⟩
  · exact Nat.le_refl _
  · have hlt := sizeOf_lt_of_mem_parts hp
    exact Nat.le_trans (sizeOf_le_of_mem_nodes hu) (Nat.le_of_lt hlt)
termination_by sizeOf t

theorem mem_nodes_of_mem_parts {t u v : CatalogType} (h : u ∈ t.nodes) (hv : v ∈ u.parts) :
    v ∈ t.nodes := by
  rcases mem_nodes_iff.1 h with rfl | ⟨p, hp, hu⟩
  · exact mem_nodes_iff.2 (.inr ⟨v, hv, mem_nodes_self v⟩)
  · have hlt := sizeOf_lt_of_mem_parts hp
    exact mem_nodes_iff.2 (.inr ⟨p, hp, mem_nodes_of_mem_parts hu hv⟩)
termination_by sizeOf t

theorem not_mem_nodes_of_mem_parts {t u : CatalogType} (h : u ∈ t.parts) : t ∉ u.nodes :=
  fun ht => absurd (sizeOf_le_of_mem_nodes ht) (Nat.not_le.2 (sizeOf_lt_of_mem_parts h))

mutual

def same : CatalogType → CatalogType → Bool
  | scalar h, scalar h' => h == h'
  | pseudo h, pseudo h' => h == h'
  | enum h labels, enum h' labels' => h == h' && labels == labels'
  | composite h fields, composite h' fields' => h == h' && sameFields fields fields'
  | domain h base, domain h' base' => h == h' && same base base'
  | array h elem, array h' elem' => h == h' && same elem elem'
  | _, _ => false

def sameFields : List (String × CatalogType) → List (String × CatalogType) → Bool
  | [], [] => true
  | (n, t) :: fields, (n', t') :: fields' => n == n' && same t t' && sameFields fields fields'
  | _, _ => false

end

theorem same_iff {t u : CatalogType} : same t u = true ↔ t = u := by
  induction t generalizing u with
  | scalar | pseudo | enum => cases u <;> simp [same]
  | composite h fields ih =>
    have hfields (fields' : List (String × CatalogType)) :
        sameFields fields fields' = true ↔ fields = fields' := by
      clear h u
      induction fields generalizing fields' with
      | nil => cases fields' <;> simp [sameFields]
      | cons f fields ihf =>
        cases fields' with
        | nil => simp [sameFields]
        | cons f' fields' =>
          have hf := @ih f (by simp) f'.2
          have hr := ihf (fun g hg => ih g (by simp [hg])) fields'
          simp [sameFields, hf, hr, Prod.ext_iff]
    cases u <;> simp [same, hfields]
  | domain h base ih => cases u <;> simp [same, ih]
  | array h elem ih => cases u <;> simp [same, ih]

instance : DecidableEq CatalogType := fun _ _ => decidable_of_iff _ same_iff

structure Coherent (known : List CatalogType) : Prop where
  parts : ∀ t ∈ known, ∀ u ∈ t.parts, u ∈ known
  unique : ∀ t ∈ known, ∀ u ∈ known, t.oid = u.oid → t = u

namespace Coherent

theorem nodes {known : List CatalogType} (hk : Coherent known) {t u : CatalogType}
    (ht : t ∈ known) (hu : u ∈ t.nodes) : u ∈ known := by
  rcases mem_nodes_iff.1 hu with rfl | ⟨p, hp, hu⟩
  · exact ht
  · have hlt := sizeOf_lt_of_mem_parts hp
    exact hk.nodes (hk.parts t ht p hp) hu
termination_by sizeOf t

theorem oid_ne_of_mem_parts {known : List CatalogType} (hk : Coherent known) {t p u : CatalogType}
    (ht : t ∈ known) (hp : p ∈ t.parts) (hu : u ∈ p.nodes) : u.oid ≠ t.oid := by
  intro he
  have hu' : u ∈ known := hk.nodes (hk.parts t ht p hp) hu
  obtain rfl := hk.unique u hu' t ht he
  exact not_mem_nodes_of_mem_parts hp hu

theorem of_nodes {ts : List CatalogType}
    (h : ∀ t ∈ ts.flatMap CatalogType.nodes, ∀ u ∈ ts.flatMap CatalogType.nodes,
      t.oid = u.oid → t = u) : Coherent (ts.flatMap CatalogType.nodes) where
  parts t ht u hu := by
    obtain ⟨v, hv, ht⟩ := List.mem_flatMap.1 ht
    exact List.mem_flatMap.2 ⟨v, hv, mem_nodes_of_mem_parts ht hu⟩
  unique := h

end Coherent

end QueryTyping.CatalogType
