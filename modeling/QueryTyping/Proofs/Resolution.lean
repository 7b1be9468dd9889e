import QueryTyping.Proofs.Registry

namespace QueryTyping

open CatalogType (Coherent parts)
open Resolution

namespace Registry

variable {s : Settings} {known us vs : List CatalogType} {cs ds : List Claim}
  {t : CatalogType} {f : Failure} {r r' r'' : Registry} {α β : Type}

structure Claimed (s : Settings) (us : List CatalogType) (cs : List Claim) (r r' : Registry) :
    Prop where
  extends_ : Extends s us r r'
  resolved : r'.resolved = r.resolved
  declarations : r'.declarations = r.declarations
  held : ∀ c ∈ cs, r'.Holds c

namespace Claimed

theorem nil (s : Settings) (us : List CatalogType) (r : Registry) : Claimed s us [] r r :=
  ⟨.refl s us r, rfl, rfl, by simp⟩

theorem append (h : Claimed s us cs r r') (h' : Claimed s us ds r' r'') :
    Claimed s us (cs ++ ds) r r'' where
  extends_ := h.extends_.trans h'.extends_
  resolved := h'.resolved.trans h.resolved
  declarations := h'.declarations.trans h.declarations
  held c hc := (List.mem_append.1 hc).elim (fun hc => h'.extends_.holds (h.held c hc)) (h'.held c)

theorem valid (h : Claimed s us cs r r') (hr : r.Valid s known) : r'.Valid s known :=
  hr.of_claims h.extends_ h.resolved h.declarations

theorem types (h : Claimed s us cs r r') : r'.types = r.types := by
  rw [Registry.types, h.resolved, Registry.types]

theorem done (h : Claimed s [t] cs r r') (h' : Done s known us r' r'') (ht : t ∈ us) :
    Done s known us r r'' where
  valid := h'.valid
  extends_ := (h.extends_.mono (by simpa using ht)).trans h'.extends_
  types := by rw [h'.types, h.types]

theorem refused (h : Claimed s [t] cs r r') (h' : Refused s known us f r' r'') (ht : t ∈ us) :
    Refused s known us f r r'' where
  valid := h'.valid
  extends_ := (h.extends_.mono (by simpa using ht)).trans h'.extends_
  reason := h'.reason

end Claimed

def Settles (s : Settings) (known us : List CatalogType) (x : Resolve α) (P : α → Prop) : Prop :=
  ∀ r, r.Valid s known →
    Ends x r (fun a r' => Done s known us r r' ∧ P a) fun f r' => Refused s known us f r r'

theorem Settles.pure {P : α → Prop} {a : α} (h : P a) : Settles s known [] (pure a) P :=
  fun _ hr => Ends.pure ⟨.nil hr, h⟩

theorem Settles.bind {x : Resolve α} {g : α → Resolve β} {P : α → Prop} {Q : β → Prop}
    (hx : Settles s known us x P) (hg : ∀ a, P a → Settles s known vs (g a) Q) :
    Settles s known (us ++ vs) (x >>= g) Q := by
  intro r hr
  refine Ends.bind (hx r hr) ?_ fun f r' h => h.mono (List.subset_append_left us vs)
  rintro a r' ⟨hd, ha⟩
  exact (hg a ha r' hd.valid).mono (fun b r'' h => ⟨hd.append h.1, h.2⟩)
    fun f r'' h => hd.refused h

theorem Done.finish {target : TargetType} (h : Done s known (t.parts.flatMap (reached s)) r r')
    (ho : override? s t.head = none) (ht : t ∈ known) (hn : t ∉ r.types)
    (htarget : targetOf? s t = some target) (hc : ∀ c ∈ ownClaims s t, r'.Holds c)
    (hr : r''.resolved = (t, target) :: r'.resolved) (hcl : r''.claims = r'.claims)
    (hd : r''.declarations = r'.declarations ++ (declaration? s t).toList) :
    Done s known (reached s t) r r'' := by
  have hparts : t ∉ t.parts.flatMap (reached s) := by
    intro hm
    obtain ⟨p, hp, hm⟩ := List.mem_flatMap.1 hm
    exact CatalogType.not_mem_nodes_of_mem_parts hp (reached_subset_nodes s p hm)
  rw [reached_of_no_override ho]
  refine h.append (.learn h.valid ht ?_ htarget hc ?_ hr hcl hd)
  · rw [h.mem_types]
    exact fun hm => hm.elim hn hparts
  · intro u hu
    rw [reached_of_no_override ho, List.mem_append, List.mem_singleton] at hu
    exact hu.symm.imp_right fun hu => h.mem_types.2 (.inr hu)

end Registry

namespace Resolution

open Registry

variable {s : Settings} {known : List CatalogType} {t : CatalogType} {r : Registry}

theorem claim_ends {package name : String} {who : Claimant} (hr : r.Valid s known)
    (hc : ((package, name), who) ∈ ownClaims s t) :
    Ends (claim package name who) r
      (fun _ r' => Claimed s [t] [((package, name), who)] r r')
      fun f r' => Refused s known [t] f r r' := by
  unfold claim
  refine Ends.bind_get ?_
  cases hl : r.claims.lookup (package, name) with
  | none =>
    refine Ends.modify ⟨⟨fun t ht => .inl ht, List.suffix_refl _, ?_, ?_⟩, rfl, rfl, ?_⟩
    · intro c h
      rcases List.mem_cons.1 h with rfl | h
      · exact .inr ⟨t, by simp, hc⟩
      · exact .inl h
    · intro k owner hk
      have hne : k ≠ (package, name) := by rintro rfl; simp [hl] at hk
      rw [List.lookup_cons, beq_eq_false_iff_ne.2 hne]
      exact hk
    · simp [Holds]
  | some owner =>
    by_cases hd : owner.describe = who.describe
    · simp only [hd, if_true]
      refine Ends.pure ⟨.refl s [t] r, rfl, rfl, ?_⟩
      simpa [Holds] using ⟨owner, hl, hd⟩
    · simp only [hd, if_false]
      exact Ends.throw ⟨hr, .refl s [t] r, t, by simp, .collision hc hl hd⟩

theorem claimLabels_ends {h : Catalog.Head} {enumName : String} {i : Nat} {labels : List String}
    (hr : r.Valid s known) (hc : ∀ c ∈ labelClaims s h enumName i labels, c ∈ ownClaims s t) :
    Ends (claimLabels s h enumName i labels) r
      (fun constants r' =>
        constants = (labels.mapIdx fun j => constantName s enumName (i + j)) ∧
          Claimed s [t] (labelClaims s h enumName i labels) r r')
      fun f r' => Refused s known [t] f r r' := by
  induction labels generalizing i r with
  | nil => exact Ends.pure ⟨rfl, .nil s [t] r⟩
  | cons label labels ih =>
    rw [claimLabels]
    refine Ends.bind (claim_ends hr (hc _ (by simp [labelClaims]))) ?_ fun _ _ h => h
    intro _ r₁ h₁
    have hi := ih (i := i + 1) (h₁.valid hr) fun c hm => hc c (by simp [labelClaims, hm])
    refine Ends.bind hi ?_ fun _ _ h => h₁.refused h (by simp)
    rintro constants r₂ ⟨rfl, h₂⟩
    refine Ends.pure ⟨?_, h₁.append h₂⟩
    simp [Nat.add_comm, Nat.add_left_comm]

theorem overridden?_ends (hr : r.Valid s known) :
    Ends (overridden? s t.head) r
      (fun o r' => (o = none ∧ override? s t.head = none ∧ r' = r) ∨
        ∃ target, o = some target ∧ (∃ p, override? s t.head = some p) ∧
          targetOf? s t = some target ∧ Claimed s [t] (ownClaims s t) r r')
      fun f r' => Refused s known [t] f r r' := by
  cases ho : override? s t.head with
  | none =>
    simp only [overridden?, ho]
    exact Ends.pure (.inl ⟨rfl, trivial, rfl⟩)
  | some p =>
    obtain ⟨key, value⟩ := p
    cases hn : Target.Name.parse value with
    | error fault =>
      simp only [overridden?, ho, hn]
      exact Ends.throw ⟨hr, .refl s [t] r, t, by simp, .override ho hn⟩
    | ok n =>
      have ht : targetOf? s t = some (.named n) := by
        rw [targetOf?_of_override ho, hn]
        rfl
      by_cases hp : n.path = ""
      · have hown : ownClaims s t = [] := by
          simp [ownClaims_of_override ho, overrideClaims, hn, hp]
        simp only [overridden?, ho, hn, hp, ne_eq, not_true_eq_false, if_false]
        exact Ends.pure (.inr ⟨_, rfl, ⟨_, rfl⟩, ht, hown ▸ .nil s [t] r⟩)
      · have hown := ownClaims_of_parse ho hn hp
        simp only [overridden?, ho, hn, ne_eq, hp, not_false_eq_true, if_true]
        refine Ends.bind (claim_ends hr (by simp [hown])) ?_ fun _ _ h => h
        intro _ r' h
        exact Ends.pure (.inr ⟨_, rfl, ⟨_, rfl⟩, ht, hown ▸ h⟩)

theorem resolveFields_settles {visiting : List (Oid × String)}
    {fields : List (String × CatalogType)}
    (hf : ∀ f ∈ fields, Settles s known (reached s f.2) (resolveIn s visiting f.2)
      fun target => targetOf? s f.2 = some target) {i : Nat} {used : List String} :
    Settles s known (reachedFields s fields) (resolveFields s visiting i used fields)
      fun l => l.map Prod.fst = fieldIdents s i used (fields.map Prod.fst) ∧
        targetsOf? s fields = some (l.map Prod.snd) := by
  induction fields generalizing i used with
  | nil => exact .pure ⟨rfl, rfl⟩
  | cons f fields ih =>
    rw [resolveFields, reachedFields]
    refine (hf f (by simp)).bind fun target ht => ?_
    rw [← List.append_nil (reachedFields s fields)]
    refine (ih fun g hg => hf g (by simp [hg])).bind ?_
    rintro l ⟨hl, hts⟩
    exact .pure ⟨by simp [fieldIdents_cons, hl], by simp [targetsOf?, ht, hts]⟩

theorem remember_ends {target : TargetType} {ok : TargetType → Registry → Prop}
    {fail : Failure → Registry → Prop}
    (h : ok target { r with resolved := (t, target) :: r.resolved }) :
    Ends (remember t target) r ok fail :=
  h

theorem declare_remember_ends {target : TargetType} {ok : TargetType → Registry → Prop}
    {fail : Failure → Registry → Prop}
    (h : ok target { r with
      resolved := (t, target) :: r.resolved, declarations := r.declarations ++ [target] }) :
    Ends (do remember t (← declare target)) r ok fail :=
  h

theorem enum_ends {h : Catalog.Head} {labels : List String} (ho : override? s h = none)
    (hr : r.Valid s known) (ht : CatalogType.enum h labels ∈ known)
    (hn : CatalogType.enum h labels ∉ r.types) :
    Ends
      (do
        claim s.packagePath (typeName s "UnnamedEnum" h) (.type h)
        let constants ← claimLabels s h (typeName s "UnnamedEnum" h) 0 labels
        let target ← declare (.enum (generatedName s (typeName s "UnnamedEnum" h)) constants labels
          (.enum h labels))
        remember (.enum h labels) target)
      r
      (fun target r' => Done s known (reached s (.enum h labels)) r r' ∧
        targetOf? s (.enum h labels) = some target)
      fun f r' => Refused s known (reached s (.enum h labels)) f r r' := by
  have hself := mem_reached_self s (.enum h labels)
  have hown : ownClaims s (.enum h labels) = declarationClaims s (.enum h labels) :=
    ownClaims_of_no_override ho
  have htarget : targetOf? s (.enum h labels) = some (enumTarget s h labels) := targetOf?_enum ho
  have hdecl : declaration? s (.enum h labels) = some (enumTarget s h labels) :=
    declaration?_enum ho
  refine Ends.bind (claim_ends (t := .enum h labels) hr ?_) ?_ fun f r' hf => hf.mono ?_
  · simp [hown, declarationClaims]
  · intro _ r₁ h₁
    refine Ends.bind (claimLabels_ends (t := .enum h labels) (h₁.valid hr) ?_) ?_ fun f r' hf =>
      h₁.refused (hf.mono ?_) hself
    · intro c hc
      simp [hown, declarationClaims, hc]
    · rintro constants r₂ ⟨rfl, h₂⟩
      have hcl := h₁.append h₂
      refine declare_remember_ends ⟨hcl.done (.finish (.nil (hcl.valid hr)) ho ht ?_ htarget ?_ ?_
        rfl ?_) hself, ?_⟩
      · rwa [hcl.types]
      · rw [hown]
        exact hcl.held
      · simp [enumTarget_eq]
      · simp [hdecl, enumTarget_eq]
      · simp [htarget, enumTarget_eq]
    · simpa using hself
  · simpa using hself

theorem composite_ends {h : Catalog.Head} {fields : List (String × CatalogType)}
    {visiting : List (Oid × String)} (ho : override? s h = none) (hr : r.Valid s known)
    (ht : CatalogType.composite h fields ∈ known) (hn : CatalogType.composite h fields ∉ r.types)
    (hf : ∀ f ∈ fields, Settles s known (reached s f.2) (resolveIn s visiting f.2)
      fun target => targetOf? s f.2 = some target) :
    Ends
      (do
        claim s.packagePath (typeName s "UnnamedComposite" h) (.type h)
        let resolved ← resolveFields s visiting 0 [] fields
        let target ← declare (.composite (generatedName s (typeName s "UnnamedComposite" h))
          (resolved.map Prod.fst) (resolved.map Prod.snd) (.composite h fields))
        remember (.composite h fields) target)
      r
      (fun target r' => Done s known (reached s (.composite h fields)) r r' ∧
        targetOf? s (.composite h fields) = some target)
      fun f r' => Refused s known (reached s (.composite h fields)) f r r' := by
  have hself := mem_reached_self s (.composite h fields)
  have hown : ownClaims s (.composite h fields) = declarationClaims s (.composite h fields) :=
    ownClaims_of_no_override ho
  have hreached := reached_of_no_override (t := .composite h fields) ho
  have hparts := reachedFields_eq_flatMap s fields
  refine Ends.bind (claim_ends (t := .composite h fields) hr ?_) ?_ fun f r' hf => hf.mono ?_
  · simp [hown, declarationClaims]
  · intro _ r₁ h₁
    refine Ends.bind (resolveFields_settles hf r₁ (h₁.valid hr)) ?_ fun f r' hf =>
      h₁.refused (hf.mono ?_) hself
    · rintro l r₂ ⟨h₂, hl, hts⟩
      rw [hparts] at h₂
      have htarget : targetOf? s (.composite h fields) =
          some (compositeTarget s h fields (l.map Prod.snd)) := by
        rw [targetOf?_composite ho, hts, Option.map_some]
      have hdecl : declaration? s (.composite h fields) =
          some (compositeTarget s h fields (l.map Prod.snd)) :=
        declaration?_composite ho hts
      refine declare_remember_ends ⟨h₁.done (.finish h₂ ho ht ?_ htarget ?_ ?_
        rfl ?_) hself, ?_⟩
      · rwa [h₁.types]
      · rw [hown]
        exact fun c hc => h₂.extends_.holds (h₁.held c hc)
      · simp [compositeTarget_eq, hl]
      · simp [hdecl, compositeTarget_eq, hl]
      · simp [htarget, compositeTarget_eq, hl]
    · rw [hreached, hparts]
      exact List.subset_append_left _ _
  · simpa using hself

theorem wrapper_ends {p : CatalogType} {x : Resolve TargetType} {g : TargetType → TargetType}
    (ho : override? s t.head = none) (hr : r.Valid s known) (ht : t ∈ known) (hn : t ∉ r.types)
    (hp : t.parts = [p])
    (hx : Settles s known (reached s p) x fun target => targetOf? s p = some target)
    (hg : ∀ target, targetOf? s p = some target → targetOf? s t = some (g target))
    (hc : ownClaims s t = []) (hd : declaration? s t = none) :
    Ends (do remember t (g (← x))) r
      (fun target r' => Done s known (reached s t) r r' ∧ targetOf? s t = some target)
      fun f r' => Refused s known (reached s t) f r r' := by
  have hparts : t.parts.flatMap (reached s) = reached s p := by simp [hp]
  refine Ends.bind (hx r hr) ?_ fun f r' hf => hf.mono ?_
  · rintro target r' ⟨h, htarget⟩
    rw [← hparts] at h
    exact remember_ends ⟨.finish h ho ht hn (hg target htarget) (by simp [hc]) rfl rfl
      (by simp [hd]), hg target htarget⟩
  · rw [reached_of_no_override ho, hparts]
    exact List.subset_append_left _ _

theorem resolveIn_settles (hk : Coherent known) {t : CatalogType} (ht : t ∈ known)
    {visiting : List (Oid × String)}
    (hv : ∀ o ∈ visiting.map Prod.fst, ∀ u ∈ t.nodes, u.oid ≠ o) :
    Settles s known (reached s t) (resolveIn s visiting t)
      fun target => targetOf? s t = some target := by
  intro r hr
  rw [resolveIn.eq_def]
  refine Ends.bind_get ?_
  cases hm : r.target? t.oid with
  | some target =>
    have hmem := hr.of_target? hk ht hm
    have htypes : t ∈ r.types := mem_types_iff.2 ⟨target, hmem⟩
    refine Ends.pure ⟨⟨hr, .refl s _ r, ?_⟩, hr.target _ hmem⟩
    rw [eraseDups_append_of_subset (hr.closed t htypes), eraseDups_of_nodup hr.nodup]
  | none =>
    have hn : t ∉ r.types := Valid.not_mem_types hm
    -- No number that occurs in the type is being visited, so the check for cycles passes.
    have hcycle : t.oid ∉ visiting.map Prod.fst :=
      fun h => hv t.oid h t (CatalogType.mem_nodes_self t) rfl
    have hself := mem_reached_self s t
    simp only [hcycle, if_false]
    have ih (p : CatalogType) (hp : p ∈ t.parts) (v : List (Oid × String))
        (hv' : ∀ o ∈ v.map Prod.fst, o = t.oid ∨ o ∈ visiting.map Prod.fst) :
        Settles s known (reached s p) (resolveIn s v p) fun target =>
          targetOf? s p = some target := by
      have hlt := CatalogType.sizeOf_lt_of_mem_parts hp
      refine resolveIn_settles hk (hk.parts t ht p hp) fun o ho u hu => ?_
      rcases hv' o ho with rfl | ho
      · exact hk.oid_ne_of_mem_parts ht hp hu
      · exact hv o ho u (CatalogType.mem_nodes_iff.2 (.inr ⟨p, hp, hu⟩))
    refine Ends.bind (overridden?_ends hr) ?_ fun f r' h => h.mono (by simpa using hself)
    rintro o r₁ (⟨rfl, ho, rfl⟩ | ⟨target, rfl, ⟨p, ho⟩, htarget, hcl⟩)
    · cases t with
      | scalar h =>
        have htarget := targetOf?_scalar ho
        refine remember_ends ⟨.finish (.nil hr) ho ht hn htarget ?_ rfl rfl ?_, htarget⟩
        · simp [ownClaims_of_no_override ho, declarationClaims]
        · simp
      | pseudo h => exact Ends.throw ⟨hr, .refl s _ _, _, hself, .unmapped rfl ho⟩
      | enum h labels => exact enum_ends ho hr ht hn
      | composite h fields =>
        refine composite_ends ho hr ht hn fun f hf => ih f.2 (List.mem_map_of_mem hf) _ ?_
        simp [CatalogType.oid, CatalogType.head]
      | domain h base =>
        refine wrapper_ends ho hr ht hn rfl (ih base (by simp [parts]) visiting fun o => .inr) ?_
          (ownClaims_of_no_override ho) (by simp)
        exact fun target hbase => (targetOf?_domain ho).trans hbase
      | array h elem =>
        refine wrapper_ends ho hr ht hn rfl (ih elem (by simp [parts]) visiting fun o => .inr) ?_
          (ownClaims_of_no_override ho) (by simp)
        exact fun target helem => (targetOf?_array ho).trans (by rw [helem, Option.map_some])
    · have hreached := reached_of_override ho
      have hdecl : declaration? s t = none := declaration?_of_override ho
      have hlearn : Done s known [t] r₁ { r₁ with resolved := (t, target) :: r₁.resolved } :=
        .learn (hcl.valid hr) ht (hcl.types ▸ hn) htarget hcl.held (by simp [hreached]) rfl rfl
          (by simp [hdecl])
      exact remember_ends ⟨hreached ▸ hcl.done hlearn (by simp), htarget⟩
termination_by sizeOf t

end Resolution

theorem resolve_settles {s : Settings} {known : List CatalogType} (hk : Coherent known)
    {t : CatalogType} (ht : t ∈ known) :
    Registry.Settles s known (reached s t) (resolve s t) fun target =>
      targetOf? s t = some target := by
  refine resolveIn_settles hk ht fun o ho => ?_
  simp at ho

end QueryTyping
