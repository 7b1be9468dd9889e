import QueryTyping.Proofs.Stability

namespace QueryTyping

open CatalogType (Coherent Consistent)
open Resolution

namespace Resolution

structure Mapped (s : Settings) (t : CatalogType) : Prop where
  readable : ∀ key value, override? s t.head = some (key, value) →
    ∃ n, Target.Name.parse value = .ok n
  pseudo : ∀ h, t = .pseudo h → override? s h ≠ none

structure Clash (s : Settings) (us : List CatalogType) (name : String × String)
    (first second : Claimant) : Prop where
  ne : first ≠ second
  first : ∃ t ∈ us, (name, first) ∈ ownClaims s t
  second : ∃ t ∈ us, (name, second) ∈ ownClaims s t

theorem Clash.mono {s : Settings} {us vs : List CatalogType} {name : String × String}
    {first second : Claimant} (h : Clash s us name first second) (hs : us ⊆ vs) :
    Clash s vs name first second :=
  ⟨h.ne, h.first.imp fun _ ht => ⟨hs ht.1, ht.2⟩, h.second.imp fun _ ht => ⟨hs ht.1, ht.2⟩⟩

end Resolution

namespace Registry

variable {s : Settings} {known us ts : List CatalogType} {t u : CatalogType} {f : Failure}
  {r r' : Registry}

theorem Valid.claimant_eq (h : r.Valid s known) (hk : Coherent known) (ht : t ∈ r.types)
    (hu : u ∈ r.types) {c d : Claim} (hc : c ∈ ownClaims s t) (hd : d ∈ ownClaims s u)
    (he : c.1 = d.1) : c.2 = d.2 := by
  have hdescribe := h.describe_eq_of_name_eq ht hu hc hd he
  obtain rfl := h.eq_of_name_eq hk ht hu hc hd he
  refine Claimant.describe_inj_of_head ?_ hdescribe
  rw [head_of_mem_ownClaims hc, head_of_mem_ownClaims hd]

theorem Refuses.clash {package name : String} {first second : Claimant}
    (h : Refuses s r u (.nameCollision package name first second)) (hu : u ∈ us)
    (hr : ∀ c ∈ r.claims, ∃ t ∈ us, c ∈ ownClaims s t) :
    Clash s us (package, name) first second := by
  cases h with
  | collision hc hl hne =>
    have hfirst := hr _ (mem_of_lookup hl)
    refine ⟨?_, hfirst, u, hu, hc⟩
    rintro rfl
    exact hne rfl

theorem Refuses.collision_of_mapped (h : Refuses s r u f) (hu : Mapped s u) :
    ∃ package name first second, f = .nameCollision package name first second := by
  cases h with
  | override ho hp =>
    obtain ⟨n, hn⟩ := hu.readable _ _ ho
    exact nomatch hp.symm.trans hn
  | unmapped hp ho => exact absurd ho (hu.pseudo _ hp)
  | collision => exact ⟨_, _, _, _, rfl⟩

theorem extends_after (hk : Coherent known) (hr : r.Valid s known) (ht : t ∈ known) :
    Extends s (reached s t) r (r.after s t) := by
  have hends :=
    (resolve_settles hk ht r hr).mono (fun _ _ h => h.1.extends_) fun _ _ h => h.extends_
  rw [after_eq_stateAfter]
  exact Ends.after hends

theorem extends_foldl_after (hk : Coherent known) (hr : r.Valid s known)
    (hts : ∀ t ∈ ts, t ∈ known) :
    Extends s (ts.flatMap (reached s)) r (ts.foldl (Registry.after s) r) := by
  induction ts generalizing r with
  | nil => exact .refl s _ r
  | cons t ts ih =>
    have ht := hts t (List.mem_cons_self ..)
    have hrest := ih (valid_after hk hr ht) fun u hu => hts u (List.mem_cons_of_mem t hu)
    rw [List.flatMap_cons]
    exact ((extends_after hk hr ht).mono (List.subset_append_left _ _)).trans
      (hrest.mono (List.subset_append_right _ _))

theorem done_foldl_after (hk : Coherent known) (hr : r.Valid s known) (hts : ∀ t ∈ ts, t ∈ known)
    (hok : ∀ before t, before ++ [t] <+: ts →
      ∃ target, outcome (resolve s t) (before.foldl (Registry.after s) r) = .ok target) :
    Done s known (ts.flatMap (reached s)) r (ts.foldl (Registry.after s) r) := by
  induction ts generalizing r with
  | nil => exact .nil hr
  | cons t ts ih =>
    have ht := hts t (List.mem_cons_self ..)
    have hdone : Done s known (reached s t) r (r.after s t) := by
      obtain ⟨target, hx⟩ := hok [] t (by simp)
      rw [after_eq_stateAfter]
      exact ((resolve_settles hk ht r hr).of_ok (eq_ok_of_outcome hx)).1
    rw [List.flatMap_cons]
    refine hdone.append (ih hdone.valid (fun u hu => hts u (List.mem_cons_of_mem t hu)) ?_)
    intro before u hprefix
    exact hok (t :: before) u (List.cons_prefix_cons.2 ⟨rfl, hprefix⟩)

/-- Every collision that is reported is a clash of names, and if nothing else can go wrong, every
clash of names is reported. -/
structure ClashesReported (s : Settings) (ts : List CatalogType) : Prop where
  iff_no_clash : (∀ t ∈ ts.flatMap (reached s), Mapped s t) →
    ((∀ before t, before ++ [t] <+: ts → ∃ target, outcomeAfter s before t = .ok target) ↔
      ∀ name first second, ¬ Clash s (ts.flatMap (reached s)) name first second)
  clash : ∀ before t package name first second, before ++ [t] <+: ts →
    outcomeAfter s before t = .error (.nameCollision package name first second) →
      Clash s ((before ++ [t]).flatMap (reached s)) (package, name) first second

theorem not_clash_of_done (hk : Coherent known) (h : Done s known us .empty r)
    (name : String × String) (first second : Claimant) : ¬ Clash s us name first second := by
  rintro ⟨hne, ⟨t, ht, hfirst⟩, u, hu, hsecond⟩
  have ht' : t ∈ r.types := h.mem_types.2 (.inr ht)
  have hu' : u ∈ r.types := h.mem_types.2 (.inr hu)
  exact hne (h.valid.claimant_eq hk ht' hu' hfirst hsecond rfl)

theorem refuses_of_outcomeAfter {before : List CatalogType} (hk : Coherent known)
    (hknown : ∀ u ∈ before ++ [t], u ∈ known) (hf : outcomeAfter s before t = .error f) :
    (∃ u ∈ reached s t, Refuses s (afterAll s (before ++ [t])) u f) ∧
      ∀ c ∈ (afterAll s (before ++ [t])).claims,
        ∃ v ∈ (before ++ [t]).flatMap (reached s), c ∈ ownClaims s v := by
  have hempty := Valid.empty s known
  have hbefore : (afterAll s before).Valid s known :=
    valid_foldl_after hk hempty fun u hu => hknown u (List.mem_append_left _ hu)
  have hlast : afterAll s (before ++ [t]) = stateAfter (resolve s t) (afterAll s before) := by
    rw [← after_eq_stateAfter, afterAll, afterAll, List.foldl_append]
    rfl
  have ht := hknown t (by simp)
  have hrefused := (resolve_settles hk ht _ hbefore).of_error (eq_error_of_outcome hf)
  refine ⟨hlast ▸ hrefused.reason, fun c hc => ?_⟩
  have hclaims := (extends_foldl_after hk hempty hknown).claims c hc
  exact hclaims.resolve_left List.not_mem_nil

theorem clashes_reported (s : Settings) {ts : List CatalogType} (hone : Consistent ts) :
    ClashesReported s ts := by
  have hk := Coherent.of_nodes hone
  have hroot (t : CatalogType) (ht : t ∈ ts) := CatalogType.mem_flatMap_nodes ht
  have hclash (before : List CatalogType) (t : CatalogType) (package name : String)
      (first second : Claimant) (h : before ++ [t] <+: ts)
      (hf : outcomeAfter s before t = .error (.nameCollision package name first second)) :
      Clash s ((before ++ [t]).flatMap (reached s)) (package, name) first second := by
    have hknown (u : CatalogType) (hu : u ∈ before ++ [t]) := hroot u (h.subset hu)
    obtain ⟨⟨u, hu, hrefuses⟩, hclaims⟩ := refuses_of_outcomeAfter hk hknown hf
    have hu' : u ∈ (before ++ [t]).flatMap (reached s) :=
      List.mem_flatMap.2 ⟨t, by simp, hu⟩
    exact hrefuses.clash hu' hclaims
  refine ⟨fun hmapped => ⟨fun hok => ?_, fun hno before t h => ?_⟩, hclash⟩
  · exact not_clash_of_done hk (done_foldl_after hk (.empty s _) hroot hok)
  · cases hf : outcomeAfter s before t with
    | ok target => exact ⟨target, rfl⟩
    | error f =>
      have hknown (u : CatalogType) (hu : u ∈ before ++ [t]) := hroot u (h.subset hu)
      have hsubset : (before ++ [t]).flatMap (reached s) ⊆ ts.flatMap (reached s) := by
        intro v hv
        obtain ⟨w, hw, hv⟩ := List.mem_flatMap.1 hv
        exact List.mem_flatMap.2 ⟨w, h.subset hw, hv⟩
      obtain ⟨⟨u, hu, hrefuses⟩, -⟩ := refuses_of_outcomeAfter hk hknown hf
      have hu' : u ∈ ts.flatMap (reached s) :=
        List.mem_flatMap.2 ⟨t, h.subset (by simp), hu⟩
      obtain ⟨package, name, first, second, rfl⟩ := hrefuses.collision_of_mapped (hmapped u hu')
      have hfirst := hclash before t package name first second h hf
      exact absurd (hfirst.mono hsubset) (hno _ _ _)

namespace Moods

def uuid : CatalogType :=
  .scalar ⟨⟨2950⟩, "uuid", none⟩

theorem mapped_of_no_override {t : CatalogType} (ho : override? s t.head = none)
    (hp : ∀ h, t ≠ .pseudo h) : Mapped s t := by
  refine ⟨fun key value h => ?_, fun h ht => absurd ht (hp h)⟩
  exact nomatch ho.symm.trans h

theorem mapped_of_mem_reached_day :
    ∀ t ∈ [day].flatMap (reached settings), Mapped settings t := by
  have hreached : [day].flatMap (reached settings) = [mood, uuid, day] := by cbv
  have huuid : override? settings uuid.head = some ("uuid", "app/ids.UUID") := by cbv
  have hparse : Target.Name.parse "app/ids.UUID" = .ok ⟨"app/ids", "ids", "UUID"⟩ := by
    decide +kernel
  rw [hreached]
  intro t ht
  simp only [List.mem_cons, List.not_mem_nil, or_false] at ht
  rcases ht with rfl | rfl | rfl
  · exact mapped_of_no_override (by cbv) (by simp [mood])
  · refine ⟨fun key value h => ?_, by simp [uuid]⟩
    obtain ⟨rfl, rfl⟩ : "uuid" = key ∧ "app/ids.UUID" = value := by
      simpa using huuid.symm.trans h
    exact ⟨_, hparse⟩
  · exact mapped_of_no_override (by cbv) (by simp [day])

theorem outcomeAfter_day : (outcomeAfter settings [] day).isOk := by
  decide +kernel

end Moods

theorem clashes_reported_moods :
    Consistent [Moods.mood, Moods.other] ∧
      Clash Moods.settings ([Moods.mood, Moods.other].flatMap (reached Moods.settings))
        ("app/db", "Mood") (.type Moods.mood.head) (.type Moods.other.head) ∧
      Consistent [Moods.day] ∧
      (∀ t ∈ [Moods.day].flatMap (reached Moods.settings), Mapped Moods.settings t) ∧
      ∀ name first second, ¬ Clash Moods.settings ([Moods.day].flatMap (reached Moods.settings))
        name first second := by
  have hone : Consistent [Moods.mood, Moods.other] := by decide
  have hone' : Consistent [Moods.day] := by decide
  have hclash := (clashes_reported Moods.settings hone).clash [Moods.mood] Moods.other _ _ _ _
    (List.prefix_refl _) Moods.outcomeAfter_other
  have hday : ∀ before t, before ++ [t] <+: [Moods.day] →
      ∃ target, outcomeAfter Moods.settings before t = .ok target := by
    intro before t h
    obtain ⟨rfl, rfl⟩ : before = [] ∧ t = Moods.day := by
      cases before <;> simp_all
    cases hf : outcomeAfter Moods.settings [] Moods.day with
    | ok target => exact ⟨target, rfl⟩
    | error f => exact absurd Moods.outcomeAfter_day (by simp [hf, Except.isOk, Except.toBool])
  have hmapped := Moods.mapped_of_mem_reached_day
  exact ⟨hone, hclash, hone', hmapped,
    ((clashes_reported Moods.settings hone').iff_no_clash hmapped).1 hday⟩

end Registry

end QueryTyping
