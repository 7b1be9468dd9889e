import QueryTyping.Catalog.Snapshot
import QueryTyping.Proofs.Fetch

namespace QueryTyping.Catalog

open CatalogType (nodes parts)

structure Engine.Steady (e : Engine) : Prop where
  prepare : ∀ calls calls', e.prepare calls = e.prepare calls'
  header : ∀ calls calls', e.header calls = e.header calls'
  labels : ∀ calls calls', e.labels calls = e.labels calls'
  fields : ∀ calls calls', e.fields calls = e.fields calls'

variable {e : Engine} {oid : Oid} {t u : CatalogType}

theorem references_inj {fields fields' : List (String × CatalogType)}
    (h : references fields = references fields')
    (hp : ∀ f ∈ fields, ∀ g ∈ fields', f.2.oid = g.2.oid → f.2 = g.2) : fields = fields' := by
  induction fields generalizing fields' with
  | nil => cases fields' <;> simp_all [references]
  | cons f fields ih =>
    cases fields' with
    | nil => simp [references] at h
    | cons g fields' =>
      simp only [references, List.map_cons, List.cons.injEq, Prod.mk.injEq] at h
      obtain ⟨⟨hn, ho⟩, hr⟩ := h
      have hfg := Prod.ext hn (hp f (by simp) g (by simp) ho)
      rw [hfg, ih hr fun a ha b hb => hp a (by simp [ha]) b (by simp [hb])]

theorem eq_of_header_eq (he : e.Steady) (ho : t.oid = u.oid) (hh : t.header = u.header)
    (ht : Detailed e t) (hu : Detailed e u)
    (hp : ∀ p ∈ t.parts, ∀ q ∈ u.parts, p.oid = q.oid → p = q) : t = u := by
  obtain ⟨hn, hs, hshape⟩ : t.head.name = u.head.name ∧ t.head.schema = u.head.schema ∧
      t.shape = u.shape := by simpa [CatalogType.header] using hh
  have hhead : t.head = u.head := by
    rw [show t.head = ⟨t.oid, t.head.name, t.head.schema⟩ from rfl, ho, hn, hs]
    rfl
  cases t <;> cases u <;> simp only [CatalogType.shape, reduceCtorEq] at hshape <;>
    (simp only [CatalogType.head] at hhead; subst hhead)
  case scalar.scalar => rfl
  case pseudo.pseudo => rfl
  case enum.enum h labels labels' =>
    obtain ⟨a, ha⟩ := ht
    obtain ⟨b, hb⟩ := hu
    rw [he.labels a b] at ha
    rw [Except.ok.inj (ha.symm.trans hb)]
  case composite.composite h fields fields' =>
    obtain ⟨a, ha⟩ := ht
    obtain ⟨b, hb⟩ := hu
    rw [he.fields a b] at ha
    rw [references_inj (Except.ok.inj (ha.symm.trans hb)) fun f hf g hg =>
      hp f.2 (List.mem_map_of_mem hf) g.2 (List.mem_map_of_mem hg)]
  case domain.domain h base base' =>
    rw [hp base (by simp [parts]) base' (by simp [parts]) (by simpa using hshape)]
  case array.array h elem elem' =>
    rw [hp elem (by simp [parts]) elem' (by simp [parts]) (by simpa using hshape)]

theorem describes_unique (he : e.Steady) (ht : Describes e t) (hu : Describes e u)
    (ho : t.oid = u.oid) : t = u := by
  induction ht generalizing u with
  | @wellKnown oid t hw =>
    obtain rfl := oid_of_wellKnown? hw
    cases hu with
    | wellKnown hw' =>
      obtain rfl := oid_of_wellKnown? hw'
      rw [← ho, hw] at hw'
      exact Option.some.inj hw'
    | told hn => simp [← ho, hw] at hn
  | @told t a hn hh hd _ ih =>
    cases hu with
    | wellKnown hw =>
      obtain rfl := oid_of_wellKnown? hw
      simp [ho, hw] at hn
    | @told _ b _ hh' hd' hp' =>
      have heq : t.header = u.header := by
        rw [he.header a b, ho] at hh
        exact Except.ok.inj (hh.symm.trans hh')
      exact eq_of_header_eq he ho heq hd hd' fun p hp q hq hpq => ih p hp (hp' q hq) hpq

theorem describes_of_mem_parts (h : Describes e t) (hu : u ∈ t.parts) : Describes e u := by
  cases h with
  | wellKnown hw => simp [parts_of_wellKnown? hw] at hu
  | told _ _ _ hp => exact hp u hu

theorem describes_of_mem_nodes {t u : CatalogType} (h : Describes e t) (hu : u ∈ t.nodes) :
    Describes e u := by
  rcases CatalogType.mem_nodes_iff.1 hu with rfl | ⟨p, hp, hu⟩
  · exact h
  · have hlt := CatalogType.sizeOf_lt_of_mem_parts hp
    exact describes_of_mem_nodes (describes_of_mem_parts h hp) hu
termination_by sizeOf t

theorem oid_ne_of_describes (he : e.Steady) (h : Describes e t) {v : CatalogType}
    (hv : v ∈ t.parts) (hu : u ∈ v.nodes) : u.oid ≠ t.oid := by
  intro ho
  have hd := describes_of_mem_nodes (describes_of_mem_parts h hv) hu
  rw [describes_unique he hd h ho] at hu
  exact CatalogType.not_mem_nodes_of_mem_parts hv hu

theorem Snapshot.steady_engine {snapshot : Snapshot} (h : snapshot.lostAfter = none) :
    snapshot.engine.Steady := by
  have hlost (calls : List Call) : snapshot.isLost calls = false := by
    rw [Snapshot.isLost, h]
  constructor <;> intro calls calls' <;> simp only [Snapshot.engine, Snapshot.unlessLost, hlost]

end QueryTyping.Catalog
