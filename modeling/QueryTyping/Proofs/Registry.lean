import QueryTyping.Proofs.Claims
import QueryTyping.Proofs.Outcome

namespace QueryTyping

open Resolution

namespace Registry

def types (r : Registry) : List CatalogType :=
  (r.resolved.map Prod.fst).reverse

def Holds (r : Registry) (c : Claim) : Prop :=
  ∃ owner, r.claims.lookup c.1 = some owner ∧ owner.describe = c.2.describe

theorem mem_types_iff {r : Registry} {t : CatalogType} :
    t ∈ r.types ↔ ∃ target, (t, target) ∈ r.resolved := by
  simp [types]

structure Extends (s : Settings) (us : List CatalogType) (r r' : Registry) : Prop where
  types : ∀ t ∈ r'.types, t ∈ r.types ∨ t ∈ us
  kept : r.resolved <:+ r'.resolved
  claims : ∀ c ∈ r'.claims, c ∈ r.claims ∨ ∃ u ∈ us, c ∈ ownClaims s u
  lookup : ∀ k owner, r.claims.lookup k = some owner → r'.claims.lookup k = some owner

namespace Extends

variable {s : Settings} {us vs : List CatalogType} {r r' r'' : Registry}

theorem refl (s : Settings) (us : List CatalogType) (r : Registry) : Extends s us r r where
  types _ h := .inl h
  kept := List.suffix_refl _
  claims _ h := .inl h
  lookup _ _ h := h

theorem mono (h : Extends s us r r') (hs : us ⊆ vs) : Extends s vs r r' where
  types t ht := (h.types t ht).imp_right fun hu => hs hu
  kept := h.kept
  claims c hc := (h.claims c hc).imp_right fun ⟨u, hu, hc⟩ => ⟨u, hs hu, hc⟩
  lookup := h.lookup

theorem trans (h : Extends s us r r') (h' : Extends s us r' r'') : Extends s us r r'' where
  types t ht := (h'.types t ht).elim (h.types t) .inr
  kept := h.kept.trans h'.kept
  claims c hc := (h'.claims c hc).elim (h.claims c) .inr
  lookup k owner hk := h'.lookup k owner (h.lookup k owner hk)

theorem holds (h : Extends s us r r') {c : Claim} (hc : r.Holds c) : r'.Holds c := by
  obtain ⟨owner, hl, hd⟩ := hc
  exact ⟨owner, h.lookup _ _ hl, hd⟩

end Extends

structure Valid (s : Settings) (known : List CatalogType) (r : Registry) : Prop where
  known : ∀ t ∈ r.types, t ∈ known
  target : ∀ p ∈ r.resolved, targetOf? s p.1 = some p.2
  nodup : r.types.Nodup
  closed : ∀ t ∈ r.types, reached s t ⊆ r.types
  held : ∀ t ∈ r.types, ∀ c ∈ ownClaims s t, r.Holds c
  declarations : r.declarations = r.types.filterMap (declaration? s)

namespace Valid

variable {s : Settings} {known : List CatalogType} {r r' : Registry} {t : CatalogType}
  {target : TargetType}

theorem empty (s : Settings) (known : List CatalogType) : Registry.empty.Valid s known := by
  constructor <;> simp [Registry.empty, types]

theorem mono {known' : List CatalogType} (h : r.Valid s known) (hk : known ⊆ known') :
    r.Valid s known' :=
  { h with known := fun t ht => hk (h.known t ht) }

theorem of_claims {us : List CatalogType} (h : r.Valid s known) (he : Extends s us r r')
    (hr : r'.resolved = r.resolved) (hd : r'.declarations = r.declarations) :
    r'.Valid s known := by
  have ht : r'.types = r.types := by rw [types, hr]; rfl
  constructor
  · rw [ht]; exact h.known
  · rw [hr]; exact h.target
  · rw [ht]; exact h.nodup
  · rw [ht]; exact h.closed
  · rw [ht]; exact fun t ht c hc => he.holds (h.held t ht c hc)
  · rw [hd, ht]; exact h.declarations

theorem of_target? (h : r.Valid s known) (hk : CatalogType.Coherent known) (ht : t ∈ known)
    (hr : r.target? t.oid = some target) : (t, target) ∈ r.resolved := by
  obtain ⟨p, hp, rfl⟩ := Option.map_eq_some_iff.1 hr
  have hm := List.mem_of_find?_eq_some hp
  have ho : p.1.oid = t.oid := by simpa using List.find?_some hp
  have hp' : p.1 ∈ known := h.known _ (mem_types_iff.2 ⟨p.2, hm⟩)
  rw [← hk.unique _ hp' _ ht ho]
  exact hm

theorem not_mem_types (hr : r.target? t.oid = none) : t ∉ r.types := by
  intro ht
  obtain ⟨target, hm⟩ := mem_types_iff.1 ht
  have := List.find?_eq_none.1 (Option.map_eq_none_iff.1 hr) _ hm
  simp at this

end Valid

inductive Refuses (s : Settings) (r : Registry) (u : CatalogType) : Failure → Prop where
  | override {key value : String} {fault : Target.NameFault} :
    override? s u.head = some (key, value) → Target.Name.parse value = .error fault →
      Refuses s r u (.invalidOverride key value (.target fault))
  | unmapped {h : Catalog.Head} : u = .pseudo h → override? s h = none →
      Refuses s r u (.unmapped h)
  | collision {package name : String} {owner who : Claimant} :
    ((package, name), who) ∈ ownClaims s u → r.claims.lookup (package, name) = some owner →
      owner.describe ≠ who.describe → Refuses s r u (.nameCollision package name owner who)

structure Done (s : Settings) (known us : List CatalogType) (r r' : Registry) : Prop where
  valid : r'.Valid s known
  extends_ : Extends s us r r'
  types : r'.types = (r.types ++ us).eraseDups

structure Refused (s : Settings) (known us : List CatalogType) (f : Failure) (r r' : Registry) :
    Prop where
  valid : r'.Valid s known
  extends_ : Extends s us r r'
  reason : ∃ u ∈ us, Refuses s r' u f

variable {s : Settings} {known us vs : List CatalogType} {r r' r'' : Registry} {f : Failure}

theorem Done.nil (h : r.Valid s known) : Done s known [] r r :=
  ⟨h, .refl s [] r, by rw [List.append_nil, eraseDups_of_nodup h.nodup]⟩

theorem Done.append (h : Done s known us r r') (h' : Done s known vs r' r'') :
    Done s known (us ++ vs) r r'' where
  valid := h'.valid
  extends_ := (h.extends_.mono (List.subset_append_left us vs)).trans
    (h'.extends_.mono (List.subset_append_right us vs))
  types := by rw [h'.types, h.types, eraseDups_eraseDups_append, List.append_assoc]

theorem Done.mem_types (h : Done s known us r r') {t : CatalogType} :
    t ∈ r'.types ↔ t ∈ r.types ∨ t ∈ us := by
  rw [h.types, List.mem_eraseDups, List.mem_append]

theorem Refused.mono (h : Refused s known us f r r') (hs : us ⊆ vs) :
    Refused s known vs f r r' where
  valid := h.valid
  extends_ := h.extends_.mono hs
  reason := h.reason.imp fun _ hu => ⟨hs hu.1, hu.2⟩

theorem Done.refused (h : Done s known us r r') (h' : Refused s known vs f r' r'') :
    Refused s known (us ++ vs) f r r'' where
  valid := h'.valid
  extends_ := (h.extends_.mono (List.subset_append_left us vs)).trans
    (h'.extends_.mono (List.subset_append_right us vs))
  reason := (h'.mono (List.subset_append_right us vs)).reason

theorem Done.learn {t : CatalogType} {target : TargetType} (h : r.Valid s known) (hk : t ∈ known)
    (hn : t ∉ r.types) (ht : targetOf? s t = some target) (hc : ∀ c ∈ ownClaims s t, r.Holds c)
    (hp : ∀ u ∈ reached s t, u = t ∨ u ∈ r.types) (hr : r'.resolved = (t, target) :: r.resolved)
    (hcl : r'.claims = r.claims)
    (hd : r'.declarations = r.declarations ++ (declaration? s t).toList) :
    Done s known [t] r r' := by
  have hty : r'.types = r.types ++ [t] := by simp [Registry.types, hr]
  have he : Extends s [t] r r' :=
    { types := by simp [hty]
      kept := by rw [hr]; exact List.suffix_cons _ _
      claims := by rw [hcl]; exact fun c hc => .inl hc
      lookup := by rw [hcl]; exact fun _ _ h => h }
  refine ⟨?_, he, ?_⟩
  · constructor
    · simpa [hty, or_imp, forall_and, hk] using h.known
    · simpa [hr, ht] using h.target
    · rw [hty, ← List.concat_eq_append]
      exact h.nodup.concat hn
    · intro u hu v hv
      rw [hty, List.mem_append, List.mem_singleton] at hu ⊢
      rcases hu with hu | rfl
      · exact .inl (h.closed u hu hv)
      · exact (hp v hv).symm
    · intro u hu c huc
      rw [hty, List.mem_append, List.mem_singleton] at hu
      rcases hu with hu | rfl
      · exact he.holds (h.held u hu c huc)
      · exact he.holds (hc c huc)
    · rw [hd, hty, List.filterMap_append, h.declarations]
      cases hdt : declaration? s t <;> simp [hdt]
  · rw [hty, eraseDups_concat, if_neg hn, eraseDups_of_nodup h.nodup]

end Registry

end QueryTyping
