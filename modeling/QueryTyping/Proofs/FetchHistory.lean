import QueryTyping.Proofs.Fetch
import QueryTyping.Proofs.NamesApart

namespace QueryTyping

open CatalogType (Coherent Consistent nodes)

namespace CatalogType

def IsDescent (path : List CatalogType) : Prop :=
  path.IsChain fun t u => u ∈ t.parts

theorem mem_nodes_of_descent {t u : CatalogType} {path : List CatalogType}
    (h : IsDescent (t :: path)) (hu : u ∈ path) : ∃ p ∈ t.parts, u ∈ p.nodes := by
  induction path generalizing t with
  | nil => exact absurd hu List.not_mem_nil
  | cons v path ih =>
    obtain ⟨hv, h⟩ := List.isChain_cons_cons.1 h
    rcases List.mem_cons.1 hu with rfl | hu
    · exact ⟨u, hv, mem_nodes_self u⟩
    · obtain ⟨p, hp, hu⟩ := ih h hu
      exact ⟨v, hv, mem_nodes_iff.2 (.inr ⟨p, hp, hu⟩)⟩

theorem Coherent.nodup_of_descent {known path : List CatalogType} (hk : Coherent known)
    (hpath : ∀ t ∈ path, t ∈ known) (h : IsDescent path) : (path.map CatalogType.oid).Nodup := by
  induction path with
  | nil => exact List.nodup_nil
  | cons t path ih =>
    have htail : (path.map CatalogType.oid).Nodup :=
      ih (fun u hu => hpath u (List.mem_cons_of_mem t hu)) h.of_cons
    refine List.nodup_cons.2 ⟨?_, htail⟩
    intro hm
    obtain ⟨u, hu, ho⟩ := List.mem_map.1 hm
    obtain ⟨p, hp, hup⟩ := mem_nodes_of_descent h hu
    exact hk.oid_ne_of_mem_parts (hpath t (by simp)) hp hup ho

end CatalogType

namespace Catalog

variable {e : Engine} {c : Cache} {oid : Oid} {oids : List Oid} {t : CatalogType}

def Cache.after (e : Engine) (c : Cache) (oid : Oid) : Cache :=
  stateAfter (fetch e oid) c

def returned (e : Engine) (c : Cache) : List Oid → List CatalogType
  | [] => []
  | oid :: oids =>
    match fetch e oid c with
    | .ok t _ => t :: returned e (c.after e oid) oids
    | .error _ _ => returned e (c.after e oid) oids

theorem Cache.after_ends (hc : c.Valid e) (oid : Oid) :
    (c.after e oid).Valid e ∧ c.types <:+ (c.after e oid).types :=
  Ends.after ((fetch_ends hc).mono (fun _ _ h => ⟨h.1, h.2.1⟩) fun _ _ h => h)

theorem Cache.valid_foldl_after (hc : c.Valid e) (oids : List Oid) :
    (oids.foldl (Cache.after e) c).Valid e ∧ c.types <:+ (oids.foldl (Cache.after e) c).types := by
  induction oids generalizing c with
  | nil => exact ⟨hc, List.suffix_refl _⟩
  | cons oid oids ih =>
    obtain ⟨h₁, hk₁⟩ := after_ends hc oid
    obtain ⟨h₂, hk₂⟩ := ih h₁
    exact ⟨h₂, hk₁.trans hk₂⟩

theorem mem_types_of_mem_returned (hc : c.Valid e) (ht : t ∈ returned e c oids) :
    t ∈ (oids.foldl (Cache.after e) c).types := by
  induction oids generalizing c with
  | nil => exact absurd ht List.not_mem_nil
  | cons oid oids ih =>
    have hnext := (Cache.after_ends hc oid).1
    rw [returned] at ht
    cases hx : fetch e oid c with
    | ok u c' =>
      simp only [hx] at ht
      rcases List.mem_cons.1 ht with rfl | ht
      · have hu : t ∈ (c.after e oid).types := by
          rw [Cache.after, stateAfter, hx]
          exact ((fetch_ends hc).of_ok hx).2.2.1
        exact (Cache.valid_foldl_after hnext oids).2.subset hu
      · exact ih hnext ht
    | error f c' =>
      simp only [hx] at ht
      exact ih hnext ht

theorem exists_coherent_of_returned (e : Engine) (oids : List Oid) :
    ∃ known, Coherent known ∧ ∀ t ∈ returned e .empty oids, t ∈ known := by
  have hvalid := (Cache.valid_foldl_after (Cache.valid_empty e) oids).1
  exact ⟨_, hvalid.coherent, fun t ht => mem_types_of_mem_returned (Cache.valid_empty e) ht⟩

theorem consistent_returned (e : Engine) (oids : List Oid) :
    Consistent (returned e .empty oids) := by
  obtain ⟨known, hk, hreturned⟩ := exists_coherent_of_returned e oids
  have hnodes (t : CatalogType) (ht : t ∈ (returned e .empty oids).flatMap nodes) : t ∈ known := by
    obtain ⟨root, hroot, ht⟩ := List.mem_flatMap.1 ht
    exact hk.nodes (hreturned root hroot) ht
  intro t ht u hu ho
  exact hk.unique t (hnodes t ht) u (hnodes u hu) ho

theorem nodup_descent_of_returned {path : List CatalogType} (ht : t ∈ returned e .empty oids)
    (hpath : CatalogType.IsDescent (t :: path)) : ((t :: path).map CatalogType.oid).Nodup := by
  obtain ⟨known, hk, hreturned⟩ := exists_coherent_of_returned e oids
  refine hk.nodup_of_descent ?_ hpath
  intro u hu
  rcases List.mem_cons.1 hu with rfl | hu
  · exact hreturned u ht
  · obtain ⟨p, hp, hu⟩ := CatalogType.mem_nodes_of_descent hpath hu
    exact hk.nodes (hk.parts t (hreturned t ht) p hp) hu

end Catalog

namespace Registry

variable {s : Settings} {known us : List CatalogType} {r : Registry} {t : CatalogType}

theorem Refuses.ne_cycle {f : Failure} {chain : List String} (h : Refuses s r t f) :
    f ≠ .cycle chain := by
  cases h with
  | override => exact Failure.noConfusion
  | unmapped => exact Failure.noConfusion
  | collision => exact Failure.noConfusion

theorem resolve_ne_cycle (hk : Coherent known) (ht : t ∈ known) (hr : r.Valid s known)
    (chain : List String) (r' : Registry) : resolve s t r ≠ .error (.cycle chain) r' := by
  intro hx
  obtain ⟨u, -, hu⟩ := ((resolve_settles hk ht r hr).of_error hx).reason
  exact hu.ne_cycle rfl

theorem valid_foldl_after (hk : Coherent known) (hr : r.Valid s known)
    (hus : ∀ u ∈ us, u ∈ known) : (us.foldl (Registry.after s) r).Valid s known := by
  induction us generalizing r with
  | nil => exact hr
  | cons u us ih =>
    have hu := valid_after hk hr (hus u (by simp))
    exact ih hu fun v hv => hus v (List.mem_cons_of_mem u hv)

theorem resolve_returned_ne_cycle {e : Catalog.Engine} {oids : List Oid}
    (hus : us ⊆ Catalog.returned e .empty oids) (ht : t ∈ Catalog.returned e .empty oids)
    (chain : List String) (r' : Registry) :
    resolve s t (us.foldl (Registry.after s) .empty) ≠ .error (.cycle chain) r' := by
  obtain ⟨known, hk, hreturned⟩ := Catalog.exists_coherent_of_returned e oids
  have hvalid : (us.foldl (Registry.after s) .empty).Valid s known :=
    valid_foldl_after hk (.empty s known) fun u hu => hreturned u (hus hu)
  exact resolve_ne_cycle hk (hreturned t ht) hvalid chain r'

end Registry

end QueryTyping
