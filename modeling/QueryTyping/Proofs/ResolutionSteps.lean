import QueryTyping.Proofs.NamesApart

namespace QueryTyping.Resolution

structure Keeps (s : Settings) (I : Registry → Prop) (ok : TargetType → Prop)
    (fail : Failure → Prop) : Prop where
  known : ∀ r, I r → ∀ p ∈ r.resolved, ok p.2
  claim : ∀ r c, I r → I { r with claims := c :: r.claims }
  learn : ∀ r t target, I r → ok target → I { r with resolved := (t, target) :: r.resolved }
  declare : ∀ r target, I r → ok target → I { r with declarations := r.declarations ++ [target] }
  scalar : ∀ h, ok (Target.ofScalar h)
  override : ∀ value n, Target.Name.parse value = .ok n → ok (.named n)
  enum : ∀ h constants labels, ok (.enum (generatedName s (typeName s "UnnamedEnum" h)) constants
    labels (.enum h labels))
  composite : ∀ h fields targets, (∀ t ∈ targets, ok t) →
    ok (.composite (generatedName s (typeName s "UnnamedComposite" h))
      (fieldIdents s 0 [] (fields.map Prod.fst)) targets (.composite h fields))
  array : ∀ t, ok t → ok t.array
  collision : ∀ package name first second, fail (.nameCollision package name first second)
  cycle : ∀ chain, fail (.cycle chain)
  unmapped : ∀ h, fail (.unmapped h)
  invalid : ∀ h key value fault, override? s h = some (key, value) →
    Target.Name.parse value = .error fault → fail (.invalidOverride key value (.target fault))

namespace Keeps

variable {s : Settings} {I : Registry → Prop} {ok : TargetType → Prop} {fail : Failure → Prop}
  {target : TargetType} {fields : List (String × CatalogType)} {visiting : List (Oid × String)}

theorem claim_yields (hk : Keeps s I ok fail) (package name : String) (who : Claimant) :
    Yields I (Resolution.claim package name who) (fun _ => True) fail := by
  unfold Resolution.claim
  refine Yields.bind_get fun r hr => ?_
  split
  · exact Yields.modify (fun r => hk.claim r _) trivial
  · split
    · exact Yields.pure trivial
    · exact Yields.throw (hk.collision _ _ _ _)

theorem claimLabels_yields (hk : Keeps s I ok fail) (h : Catalog.Head) (enumName : String) (i : Nat)
    (labels : List String) :
    Yields I (claimLabels s h enumName i labels) (fun _ => True) fail := by
  induction labels generalizing i with
  | nil => exact Yields.pure trivial
  | cons label labels ih =>
    rw [claimLabels]
    refine Yields.bind (hk.claim_yields _ _ _) fun _ _ => ?_
    exact Yields.bind (ih (i + 1)) fun _ _ => .pure trivial

theorem remember_yields (hk : Keeps s I ok fail) (t : CatalogType) (ht : ok target) :
    Yields I (remember t target) ok fail :=
  fun r hr => ⟨hk.learn r t target hr ht, ht⟩

theorem declare_yields (hk : Keeps s I ok fail) (ht : ok target) :
    Yields I (Resolution.declare target) (fun t => t = target) fail :=
  fun r hr => ⟨hk.declare r target hr ht, rfl⟩

theorem overridden?_yields (hk : Keeps s I ok fail) (h : Catalog.Head) :
    Yields I (overridden? s h) (fun o => ∀ target, o = some target → ok target) fail := by
  cases ho : override? s h with
  | none =>
    simp only [overridden?, ho]
    refine Yields.pure fun target htarget => ?_
    cases htarget
  | some p =>
    obtain ⟨key, value⟩ := p
    cases hn : Target.Name.parse value with
    | error fault =>
      simp only [overridden?, ho, hn]
      exact Yields.throw (hk.invalid h key value fault ho hn)
    | ok n =>
      have hdone : Yields I (pure (some (.named n)) : Resolve (Option TargetType))
          (fun o => ∀ target, o = some target → ok target) fail := by
        refine Yields.pure fun target htarget => ?_
        obtain rfl := Option.some.inj htarget
        exact hk.override value n hn
      simp only [overridden?, ho, hn]
      split
      · exact Yields.bind (hk.claim_yields _ _ _) fun _ _ => hdone
      · exact hdone

theorem resolveFields_yields
    (hf : ∀ f ∈ fields, Yields I (resolveIn s visiting f.2) ok fail) (i : Nat)
    (used : List String) :
    Yields I (resolveFields s visiting i used fields)
      (fun l => l.map Prod.fst = fieldIdents s i used (fields.map Prod.fst) ∧ ∀ p ∈ l, ok p.2)
      fail := by
  induction fields generalizing i used with
  | nil => exact Yields.pure ⟨rfl, by simp⟩
  | cons f fields ih =>
    rw [resolveFields]
    refine Yields.bind (hf f (by simp)) fun target htarget => ?_
    refine Yields.bind (ih (fun g hg => hf g (by simp [hg])) _ _) fun l hl => ?_
    refine Yields.pure ⟨?_, List.forall_mem_cons.2 ⟨htarget, hl.2⟩⟩
    rw [List.map_cons, List.map_cons, fieldIdents_cons, hl.1]

theorem resolveIn_yields (hk : Keeps s I ok fail) (visiting : List (Oid × String))
    (t : CatalogType) : Yields I (resolveIn s visiting t) ok fail := by
  have ih (p : CatalogType) (hp : p ∈ t.parts) (v : List (Oid × String)) :
      Yields I (resolveIn s v p) ok fail := by
    have hlt := CatalogType.sizeOf_lt_of_mem_parts hp
    exact hk.resolveIn_yields v p
  rw [resolveIn.eq_def]
  refine Yields.bind_get fun r hr => ?_
  cases hm : r.target? t.oid with
  | some target =>
    obtain ⟨p, hp, rfl⟩ := Option.map_eq_some_iff.1 hm
    exact Yields.pure (hk.known r hr p (List.mem_of_find?_eq_some hp))
  | none =>
    dsimp only
    split
    · exact Yields.throw (hk.cycle _)
    refine Yields.bind (hk.overridden?_yields t.head) fun o ho => ?_
    cases o with
    | some target => exact hk.remember_yields _ (ho target rfl)
    | none =>
      cases t with
      | scalar h => exact hk.remember_yields _ (hk.scalar h)
      | pseudo h => exact Yields.throw (hk.unmapped h)
      | enum h labels =>
        refine Yields.bind (hk.claim_yields _ _ _) fun _ _ => ?_
        refine Yields.bind (hk.claimLabels_yields h _ 0 labels) fun constants _ => ?_
        have henum := hk.enum h constants labels
        refine Yields.bind (hk.declare_yields henum) ?_
        rintro target rfl
        exact hk.remember_yields _ henum
      | composite h fields =>
        refine Yields.bind (hk.claim_yields _ _ _) fun _ _ => ?_
        have hfields (f : String × CatalogType) (hf : f ∈ fields) :=
          ih f.2 (List.mem_map_of_mem hf) ((h.oid, h.name) :: visiting)
        refine Yields.bind (resolveFields_yields hfields 0 []) fun l hl => ?_
        have hcomposite := hk.composite h fields (l.map Prod.snd) fun u hu => by
          obtain ⟨p, hp, rfl⟩ := List.mem_map.1 hu
          exact hl.2 p hp
        rw [← hl.1] at hcomposite
        refine Yields.bind (hk.declare_yields hcomposite) ?_
        rintro target rfl
        exact hk.remember_yields _ hcomposite
      | domain h base =>
        refine Yields.bind (ih base (List.mem_singleton_self base) visiting) fun target ht => ?_
        exact hk.remember_yields _ ht
      | array h elem =>
        refine Yields.bind (ih elem (List.mem_singleton_self elem) visiting) fun target ht => ?_
        exact hk.remember_yields _ (hk.array target ht)
termination_by sizeOf t

section Runs

variable {r r' : Registry}

theorem after (hk : Keeps s I ok fail) (hr : I r) (t : CatalogType) : I (r.after s t) := by
  rw [Registry.after_eq_stateAfter]
  exact Ends.after ((hk.resolveIn_yields [] t r hr).mono (fun _ _ h => h.1) fun _ _ h => h.1)

theorem foldl_after (hk : Keeps s I ok fail) (hr : I r) (ts : List CatalogType) :
    I (ts.foldl (Registry.after s) r) := by
  induction ts generalizing r with
  | nil => exact hr
  | cons t ts ih => exact ih (hk.after hr t)

theorem of_mem_history (hk : Keeps s I ok fail) (hr : I r) {ts : List CatalogType}
    (h : r' ∈ r.history s ts) : I r' :=
  Registry.of_mem_history (P := I) (fun _ t _ hr => hk.after hr t) hr h

end Runs

end Keeps

end QueryTyping.Resolution
