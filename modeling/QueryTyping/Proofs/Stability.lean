import Mathlib
import QueryTyping.Proofs.FetchHistory

namespace QueryTyping

open CatalogType (Coherent Consistent)
open Resolution

namespace Registry

variable {s : Settings} {known us : List CatalogType} {t u : CatalogType} {f : Failure}
  {r r' r'' : Registry} {α β : Type}

structure Later (s : Settings) (known : List CatalogType) (r r' : Registry) : Prop where
  valid : r'.Valid s known
  kept : r.resolved <:+ r'.resolved
  lookup : ∀ k owner, r.claims.lookup k = some owner → r'.claims.lookup k = some owner

namespace Later

theorem refl (hr : r.Valid s known) : Later s known r r :=
  ⟨hr, List.suffix_refl _, fun _ _ h => h⟩

theorem trans (h : Later s known r r') (h' : Later s known r' r'') : Later s known r r'' :=
  ⟨h'.valid, h.kept.trans h'.kept, fun k owner hk => h'.lookup k owner (h.lookup k owner hk)⟩

theorem of_extends (he : Extends s us r r') (hr : r'.Valid s known) : Later s known r r' :=
  ⟨hr, he.kept, he.lookup⟩

theorem mem_types (h : Later s known r r') (ht : t ∈ r.types) : t ∈ r'.types := by
  obtain ⟨target, hm⟩ := mem_types_iff.1 ht
  exact mem_types_iff.2 ⟨target, h.kept.subset hm⟩

theorem declarations (h : Later s known r r') (hr : r.Valid s known) :
    r.declarations <+: r'.declarations := by
  have htypes : r.types <+: r'.types := List.reverse_prefix.2 (h.kept.map Prod.fst)
  rw [hr.declarations, h.valid.declarations]
  exact htypes.filterMap _

end Later

namespace Valid

theorem target?_of_mem_types {target : TargetType} (h : r.Valid s known) (hk : Coherent known)
    (ht : t ∈ known) (hm : t ∈ r.types) (htarget : targetOf? s t = some target) :
    r.target? t.oid = some target := by
  cases hr : r.target? t.oid with
  | none => exact absurd hm (not_mem_types hr)
  | some target' =>
    have htarget' : targetOf? s t = some target' := h.target _ (h.of_target? hk ht hr)
    exact htarget'.symm.trans htarget

theorem target?_eq_none (h : r.Valid s known) (hk : Coherent known) (ht : t ∈ known)
    (hn : t ∉ r.types) : r.target? t.oid = none := by
  cases hr : r.target? t.oid with
  | none => rfl
  | some target => exact absurd (mem_types_iff.2 ⟨target, h.of_target? hk ht hr⟩) hn

end Valid

theorem Refuses.not_mem_types (h : Refuses s r u f) (hl : Later s known r r') : u ∉ r'.types := by
  intro hu
  obtain ⟨target, hm⟩ := mem_types_iff.1 hu
  have htarget : targetOf? s u = some target := hl.valid.target _ hm
  cases h with
  | override ho hp => simp [targetOf?_of_override ho, hp, Except.toOption] at htarget
  | unmapped hp ho => simp [hp, targetOf?_pseudo ho] at htarget
  | collision hc hk hne =>
    obtain ⟨owner, ho, hd⟩ := hl.valid.held u hu _ hc
    have hsame := (hl.lookup _ _ hk).symm.trans ho
    obtain rfl := Option.some.inj hsame
    exact hne hd

theorem Refused.not_mem_types (h : Refused s known (reached s t) f r r')
    (hl : Later s known r' r'') : t ∉ r''.types := by
  intro ht
  obtain ⟨u, hu, hrefuses⟩ := h.reason
  exact hrefuses.not_mem_types hl (hl.valid.closed t ht hu)

def memoized (t : CatalogType) (x : Resolve TargetType) : Resolve TargetType := do
  match (← get).target? t.oid with
  | some target => return target
  | none => x

theorem memoized_of_some {x : Resolve TargetType} {target : TargetType}
    (h : r.target? t.oid = some target) : memoized t x r = .ok target r := by
  rw [memoized, get_bind, h]
  rfl

theorem memoized_of_none {x : Resolve TargetType} (h : r.target? t.oid = none) :
    memoized t x r = x r := by
  rw [memoized, get_bind, h]

def Stable (s : Settings) (known : List CatalogType) (x : Resolve α) : Prop :=
  ∀ r, r.Valid s known →
    Ends x r
      (fun a r' => Later s known r r' ∧ ∀ r'', Later s known r' r'' → x r'' = .ok a r'')
      fun f r' => Later s known r r' ∧ ∀ r'', Later s known r' r'' → x r'' = .error f r''

def Stops (s : Settings) (known : List CatalogType) (x : Resolve α) : Prop :=
  ∀ r, r.Valid s known →
    Ends x r (fun _ _ => True)
      fun f r' => Later s known r r' ∧ ∀ r'', Later s known r' r'' → x r'' = .error f r''

theorem Stops.of_total {x : Resolve α} (hx : ∀ r, ∃ a r', x r = .ok a r') : Stops s known x := by
  intro r _
  obtain ⟨a, r', h⟩ := hx r
  simp [Ends, h]

namespace Stable

variable {x : Resolve α} {g : α → Resolve β}

theorem pure (a : α) : Stable s known (pure a) :=
  fun _ hr => Ends.pure ⟨.refl hr, fun _ _ => rfl⟩

theorem throw (f : Failure) : Stable s known (throw f : Resolve α) :=
  fun _ hr => Ends.throw ⟨.refl hr, fun _ _ => rfl⟩

theorem stops (hx : Stable s known x) : Stops s known x :=
  fun r hr => (hx r hr).mono (fun _ _ _ => trivial) fun _ _ h => h

theorem bind (hx : Stable s known x) (hg : ∀ a, Stable s known (g a)) :
    Stable s known (x >>= g) := by
  intro r hr
  refine Ends.bind (hx r hr) ?_ ?_
  · rintro a r₁ ⟨h₁, ha⟩
    refine (hg a r₁ h₁.valid).mono ?_ ?_
    · rintro b r₂ ⟨h₂, hb⟩
      refine ⟨h₁.trans h₂, fun r'' hl => ?_⟩
      rw [bind_of_ok (ha r'' (h₂.trans hl)), hb r'' hl]
    · rintro f r₂ ⟨h₂, hf⟩
      refine ⟨h₁.trans h₂, fun r'' hl => ?_⟩
      rw [bind_of_ok (ha r'' (h₂.trans hl)), hf r'' hl]
  · rintro f r₁ ⟨h₁, hf⟩
    exact ⟨h₁, fun r'' hl => bind_of_error (hf r'' hl)⟩

theorem bind_stops (hx : Stable s known x)
    (hg : ∀ a, (∃ r r', r.Valid s known ∧ x r = .ok a r') → Stops s known (g a)) :
    Stops s known (x >>= g) := by
  intro r hr
  refine Ends.bind (hx r hr) ?_ ?_
  · rintro a r₁ ⟨h₁, ha⟩
    refine (hg a ⟨r₁, r₁, h₁.valid, ha r₁ (.refl h₁.valid)⟩ r₁ h₁.valid).mono (fun _ _ h => h) ?_
    rintro f r₂ ⟨h₂, hf⟩
    refine ⟨h₁.trans h₂, fun r'' hl => ?_⟩
    rw [bind_of_ok (ha r'' (h₂.trans hl)), hf r'' hl]
  · rintro f r₁ ⟨h₁, hf⟩
    exact ⟨h₁, fun r'' hl => bind_of_error (hf r'' hl)⟩

theorem of_memo {x : Resolve TargetType} (hk : Coherent known) (ht : t ∈ known)
    (hsettles : Settles s known (reached s t) (memoized t x) fun target =>
      targetOf? s t = some target)
    (hx : Stops s known x) : Stable s known (memoized t x) := by
  intro r hr
  have hstops : Ends (memoized t x) r (fun _ _ => True)
      fun f r' => ∀ r'', Later s known r' r'' → x r'' = .error f r'' := by
    unfold Ends
    cases hm : r.target? t.oid with
    | some target => simp only [memoized_of_some hm]
    | none =>
      rw [memoized_of_none hm]
      exact (hx r hr).mono (fun _ _ h => h) fun _ _ h => h.2
  refine ((hsettles r hr).and hstops).mono ?_ ?_
  · rintro target r' ⟨⟨hdone, htarget⟩, -⟩
    have ht' : t ∈ r'.types := hdone.mem_types.2 (.inr (mem_reached_self s t))
    refine ⟨.of_extends hdone.extends_ hdone.valid, fun r'' hl => ?_⟩
    exact memoized_of_some (hl.valid.target?_of_mem_types hk ht (hl.mem_types ht') htarget)
  · rintro f r' ⟨hrefused, hfails⟩
    refine ⟨.of_extends hrefused.extends_ hrefused.valid, fun r'' hl => ?_⟩
    -- Had the type been resolved in between, what refused it would be gone.
    have hn : t ∉ r''.types := hrefused.not_mem_types hl
    rw [memoized_of_none (hl.valid.target?_eq_none hk ht hn)]
    exact hfails r'' hl

end Stable

end Registry

namespace Resolution

open Registry

variable {s : Settings} {known : List CatalogType} {t : CatalogType} {r : Registry}
  {package name : String} {owner who : Claimant}

theorem claim_of_free (hk : r.claims.lookup (package, name) = none) :
    claim package name who r = .ok () { r with claims := ((package, name), who) :: r.claims } := by
  rw [claim, get_bind]
  simp only [hk]
  rfl

theorem claim_of_same (hk : r.claims.lookup (package, name) = some owner)
    (hd : owner.describe = who.describe) : claim package name who r = .ok () r := by
  rw [claim, get_bind]
  simp only [hk, hd, if_true]
  rfl

theorem claim_of_other (hk : r.claims.lookup (package, name) = some owner)
    (hd : owner.describe ≠ who.describe) :
    claim package name who r = .error (.nameCollision package name owner who) r := by
  rw [claim, get_bind]
  simp only [hk, hd, if_false]
  rfl

theorem claim_stable (hc : ((package, name), who) ∈ ownClaims s t) :
    Stable s known (claim package name who) := by
  intro r hr
  have hsame (r' r'' : Registry)
      (h : Claimed s [t] [((package, name), who)] r r') (hl : Later s known r' r'') :
      claim package name who r'' = .ok () r'' := by
    obtain ⟨owner, hk, hd⟩ := h.held _ (List.mem_singleton_self _)
    exact claim_of_same (hl.lookup _ _ hk) hd
  have hother : Ends (claim package name who) r (fun _ _ => True) fun f r' =>
      ∀ r'', Later s known r' r'' → claim package name who r'' = .error f r'' := by
    unfold Ends
    cases hk : r.claims.lookup (package, name) with
    | none => simp only [claim_of_free hk]
    | some owner =>
      by_cases hd : owner.describe = who.describe
      · simp only [claim_of_same hk hd]
      · simp only [claim_of_other hk hd]
        exact fun r'' hl => claim_of_other (hl.lookup _ _ hk) hd
  refine ((claim_ends hr hc).and hother).mono ?_ ?_
  · rintro ⟨⟩ r' ⟨h, -⟩
    exact ⟨.of_extends h.extends_ (h.valid hr), fun r'' hl => hsame r' r'' h hl⟩
  · rintro f r' ⟨h, hf⟩
    exact ⟨.of_extends h.extends_ h.valid, hf⟩

theorem claimLabels_stable {h : Catalog.Head} {enumName : String} {i : Nat} {labels : List String}
    (hc : ∀ c ∈ labelClaims s h enumName i labels, c ∈ ownClaims s t) :
    Stable s known (claimLabels s h enumName i labels) := by
  induction labels generalizing i with
  | nil => exact .pure []
  | cons label labels ih =>
    have hlabel := hc _ (List.mem_cons_self ..)
    have hlabels := ih (i := i + 1) fun c hm => hc c (List.mem_cons_of_mem _ hm)
    exact (claim_stable hlabel).bind fun _ => hlabels.bind fun _ => .pure _

theorem overridden?_stable (t : CatalogType) : Stable s known (overridden? s t.head) := by
  cases ho : override? s t.head with
  | none =>
    simp only [overridden?, ho]
    exact .pure none
  | some p =>
    obtain ⟨key, value⟩ := p
    cases hn : Target.Name.parse value with
    | error fault =>
      simp only [overridden?, ho, hn]
      exact .throw _
    | ok n =>
      simp only [overridden?, ho, hn]
      by_cases hp : n.path = ""
      · simp only [hp, ne_eq, not_true_eq_false, if_false]
        exact .pure _
      · have hown := ownClaims_of_parse ho hn hp
        simp only [hp, ne_eq, not_false_eq_true, if_true]
        exact (claim_stable (t := t) (by simp [hown])).bind fun _ => .pure _

theorem override?_of_overridden? {r' : Registry} (hr : r.Valid s known)
    (hx : overridden? s t.head r = .ok none r') : override? s t.head = none := by
  rcases (overridden?_ends hr).of_ok hx with ⟨-, ho, -⟩ | ⟨target, htarget, -⟩
  · exact ho
  · exact nomatch htarget

theorem resolveFields_stable {visiting : List (Oid × String)}
    {fields : List (String × CatalogType)}
    (hf : ∀ f ∈ fields, Stable s known (resolveIn s visiting f.2)) (i : Nat)
    (used : List String) : Stable s known (resolveFields s visiting i used fields) := by
  induction fields generalizing i used with
  | nil => exact .pure []
  | cons f fields ih =>
    have hrest := ih fun g hg => hf g (by simp [hg])
    rw [resolveFields]
    exact (hf f (by simp)).bind fun _ => (hrest (i + 1) _).bind fun _ => .pure _

theorem remember_total (t : CatalogType) (target : TargetType) (r : Registry) :
    ∃ a r', remember t target r = .ok a r' :=
  ⟨_, _, rfl⟩

theorem declare_remember_total (t : CatalogType) (target : TargetType) (r : Registry) :
    ∃ a r', (do remember t (← declare target) : Resolve TargetType) r = .ok a r' :=
  ⟨_, _, rfl⟩

theorem resolveIn_stable (hk : Coherent known) {t : CatalogType} (ht : t ∈ known)
    {visiting : List (Oid × String)}
    (hv : ∀ o ∈ visiting.map Prod.fst, ∀ u ∈ t.nodes, u.oid ≠ o) :
    Stable s known (resolveIn s visiting t) := by
  have hsettles := resolveIn_settles (s := s) hk ht hv
  have ih (p : CatalogType) (hp : p ∈ t.parts) (v : List (Oid × String))
      (hv' : ∀ o ∈ v.map Prod.fst, o = t.oid ∨ o ∈ visiting.map Prod.fst) :
      Stable s known (resolveIn s v p) := by
    have hlt := CatalogType.sizeOf_lt_of_mem_parts hp
    refine resolveIn_stable hk (hk.parts t ht p hp) fun o ho u hu => ?_
    rcases hv' o ho with rfl | ho
    · exact hk.oid_ne_of_mem_parts ht hp hu
    · exact hv o ho u (CatalogType.mem_nodes_iff.2 (.inr ⟨p, hp, hu⟩))
  rw [resolveIn.eq_def] at hsettles ⊢
  refine .of_memo hk ht hsettles ?_
  split
  · exact (Stable.throw _).stops
  refine (overridden?_stable t).bind_stops fun o hret => ?_
  cases o with
  | some target => exact .of_total (remember_total _ _)
  | none =>
    obtain ⟨r, r', hr, hx⟩ := hret
    have hown := ownClaims_of_no_override (override?_of_overridden? hr hx)
    cases t with
    | scalar h => exact .of_total (remember_total _ _)
    | pseudo h => exact (Stable.throw _).stops
    | enum h labels =>
      refine (claim_stable (t := .enum h labels) ?_).bind_stops fun _ _ => ?_
      · simp [hown, declarationClaims]
      refine (claimLabels_stable (t := .enum h labels) fun c hc => ?_).bind_stops
        fun constants _ => ?_
      · simp [hown, declarationClaims, hc]
      · exact .of_total (declare_remember_total _ _)
    | composite h fields =>
      refine (claim_stable (t := .composite h fields) ?_).bind_stops fun _ _ => ?_
      · simp [hown, declarationClaims]
      refine (resolveFields_stable (fun f hf => ?_) 0 []).bind_stops fun l _ => ?_
      · refine ih f.2 (List.mem_map_of_mem hf) _ ?_
        simp [CatalogType.oid, CatalogType.head]
      · exact .of_total (declare_remember_total _ _)
    | domain h base =>
      have hbase := ih base (List.mem_singleton_self base) visiting fun o => .inr
      exact hbase.bind_stops fun target _ => .of_total (remember_total _ _)
    | array h elem =>
      have helem := ih elem (List.mem_singleton_self elem) visiting fun o => .inr
      exact helem.bind_stops fun target _ => .of_total (remember_total _ _)
termination_by sizeOf t

end Resolution

theorem resolve_stable {s : Settings} {known : List CatalogType} (hk : Coherent known)
    {t : CatalogType} (ht : t ∈ known) : Registry.Stable s known (resolve s t) := by
  refine resolveIn_stable hk ht fun o ho => ?_
  simp at ho

namespace Registry

variable {s : Settings} {known ts : List CatalogType} {t : CatalogType} {r : Registry}

def afterAll (s : Settings) (ts : List CatalogType) : Registry :=
  ts.foldl (Registry.after s) .empty

def outcomeAfter (s : Settings) (before : List CatalogType) (t : CatalogType) :
    Except Failure TargetType :=
  outcome (resolve s t) (afterAll s before)

theorem later_after (hk : Coherent known) (hr : r.Valid s known) (ht : t ∈ known) :
    Later s known r (r.after s t) := by
  have hends := (resolve_stable hk ht r hr).mono (fun _ _ h => h.1) fun _ _ h => h.1
  rw [after_eq_stateAfter]
  exact Ends.after hends

theorem later_foldl_after (hk : Coherent known) (hr : r.Valid s known)
    (hts : ∀ t ∈ ts, t ∈ known) : Later s known r (ts.foldl (Registry.after s) r) := by
  induction ts generalizing r with
  | nil => exact .refl hr
  | cons t ts ih =>
    have ht := later_after hk hr (hts t (by simp))
    exact ht.trans (ih ht.valid fun u hu => hts u (List.mem_cons_of_mem t hu))

theorem resolve_of_later {r' : Registry} (hk : Coherent known) (hr : r.Valid s known)
    (ht : t ∈ known) (hl : Later s known (r.after s t) r') :
    outcome (resolve s t) r' = outcome (resolve s t) r ∧ r'.after s t = r' := by
  have hends := resolve_stable hk ht r hr
  unfold outcome Registry.after at *
  cases hx : resolve s t r with
  | ok target r₁ =>
    rw [hx] at hl
    have hagain := (hends.of_ok hx).2 r' hl
    simp only [hagain, and_self]
  | error f r₁ =>
    rw [hx] at hl
    have hagain := (hends.of_error hx).2 r' hl
    simp only [hagain, and_self]

/-- Any two resolutions of one number among those of `ts` come to the same, the later of them
declares nothing, and no resolution takes a declaration back. -/
structure OutcomesStable (s : Settings) (ts : List CatalogType) : Prop where
  outcome : ∀ before t between u, before ++ t :: between ++ [u] <+: ts → t.oid = u.oid →
    outcomeAfter s (before ++ t :: between) u = outcomeAfter s before t
  repeated : ∀ before t between u, before ++ t :: between ++ [u] <+: ts → t.oid = u.oid →
    (afterAll s (before ++ t :: between ++ [u])).declarations =
      (afterAll s (before ++ t :: between)).declarations
  kept : ∀ before t, before ++ [t] <+: ts →
    (afterAll s before).declarations <+: (afterAll s (before ++ [t])).declarations

theorem outcomes_stable (s : Settings) {ts : List CatalogType} (hone : Consistent ts) :
    OutcomesStable s ts := by
  have hk := Coherent.of_nodes hone
  have hroot (t : CatalogType) (ht : t ∈ ts) := CatalogType.mem_flatMap_nodes ht
  have hvalid (us : List CatalogType) (hus : us ⊆ ts) :
      (afterAll s us).Valid s (ts.flatMap CatalogType.nodes) :=
    valid_foldl_after hk (.empty s _) fun u hu => hroot u (hus hu)
  have hagain (before : List CatalogType) (t : CatalogType) (between : List CatalogType)
      (u : CatalogType) (h : before ++ t :: between ++ [u] <+: ts) (ho : t.oid = u.oid) :
      outcomeAfter s (before ++ t :: between) u = outcomeAfter s before t ∧
        afterAll s (before ++ t :: between ++ [u]) = afterAll s (before ++ t :: between) := by
    have ht : t ∈ ts := h.subset (by simp)
    have hu : u ∈ ts := h.subset (by simp)
    obtain rfl : t = u := hone t (hroot t ht) u (hroot u hu) ho
    have hbefore := hvalid before fun v hv => h.subset (by simp [hv])
    have hbetween : ∀ v ∈ between, v ∈ ts.flatMap CatalogType.nodes :=
      fun v hv => hroot v (h.subset (by simp [hv]))
    have hlater := later_after hk hbefore (hroot t ht)
    have hrest := later_foldl_after hk hlater.valid hbetween
    have hresolve := resolve_of_later hk hbefore (hroot t ht) hrest
    simpa [outcomeAfter, afterAll, List.foldl_append] using hresolve
  refine ⟨fun before t between u h ho => (hagain before t between u h ho).1, ?_, ?_⟩
  · intro before t between u h ho
    rw [(hagain before t between u h ho).2]
  · intro before t h
    have hbefore := hvalid before fun v hv => h.subset (by simp [hv])
    have hlater := later_after hk hbefore (hroot t (h.subset (by simp)))
    have hkept := hlater.declarations hbefore
    simpa [afterAll, List.foldl_append] using hkept

namespace Moods

set_option maxRecDepth 2000 in
theorem outcomeAfter_other : outcomeAfter settings [mood] other =
    .error (.nameCollision "app/db" "Mood" (.type mood.head) (.type other.head)) := by
  cbv

end Moods

theorem outcomes_stable_moods :
    Consistent [Moods.mood, Moods.other, Moods.day, Moods.other] ∧
      outcomeAfter Moods.settings [Moods.mood, Moods.other, Moods.day] Moods.other =
        .error (.nameCollision "app/db" "Mood" (.type Moods.mood.head) (.type Moods.other.head)) ∧
      OutcomesStable Moods.settings [Moods.mood, Moods.other, Moods.day, Moods.other] := by
  have hone : Consistent [Moods.mood, Moods.other, Moods.day, Moods.other] := by
    decide
  have hstable := outcomes_stable Moods.settings hone
  have hagain := hstable.outcome [Moods.mood] Moods.other [Moods.day] Moods.other
    (List.prefix_refl _) rfl
  exact ⟨hone, hagain.trans Moods.outcomeAfter_other, hstable⟩

end Registry

end QueryTyping
