import QueryTyping.Proofs.Ascending
import QueryTyping.Proofs.Declared
import QueryTyping.Proofs.Expansion

namespace QueryTyping

open Catalog (Engine)
open Resolution (ownClaims targetOf?)

namespace Session

structure Agrees (e : Engine) (s : Settings) (σ' σ : Session) : Prop where
  valid : σ.Valid e s
  claims : ∀ c ∈ σ.registry.claims, σ'.registry.Holds c

def Covers (s : Settings) (σ' σ : Session) : Prop :=
  ∀ t ∈ σ.registry.types, ∀ c ∈ ownClaims s t, σ'.registry.Holds c

end Session

variable {e : Engine} {s : Settings} {σ σ' σf : Session} {α β : Type}

namespace Registry

variable {known us : List CatalogType} {r r' rf : Registry} {f : Failure}

theorem holds_of_extends (hr : ∀ c ∈ r.claims, rf.Holds c) (h : Extends s us r r')
    (hus : ∀ u ∈ us, ∀ c ∈ ownClaims s u, rf.Holds c) : ∀ c ∈ r'.claims, rf.Holds c := by
  intro c hc
  rcases h.claims c hc with hc | ⟨u, hu, hc⟩
  · exact hr c hc
  · exact hus u hu c hc

theorem not_refused (hr : ∀ c ∈ r.claims, rf.Holds c)
    (htarget : ∀ u ∈ us, ∃ target, targetOf? s u = some target)
    (hus : ∀ u ∈ us, ∀ c ∈ ownClaims s u, rf.Holds c) : ¬ Refused s known us f r r' := by
  intro h
  obtain ⟨u, hu, hreason⟩ := h.reason
  obtain ⟨target, ht⟩ := htarget u hu
  cases hreason with
  | override ho hp => simp [Resolution.targetOf?_of_override ho, hp, Except.toOption] at ht
  | unmapped hp ho => simp [hp, Resolution.targetOf?_pseudo ho] at ht
  | @collision package name owner who hc hl hne =>
    have hmem : ((package, name), owner) ∈ r'.claims := mem_of_lookup hl
    -- Both claimants have the name in `rf`, where it has one owner.
    obtain ⟨a, ha, hao⟩ := holds_of_extends hr h.extends_ hus _ hmem
    obtain ⟨b, hb, hbw⟩ := hus u hu _ hc
    rw [ha] at hb
    obtain rfl := Option.some.inj hb
    exact hne (hao.symm.trans hbw)

end Registry

namespace Session

theorem Agrees.of_same (h : Agrees e s σf σ) (hs : σ.Same σ') : Agrees e s σf σ' where
  valid := h.valid.of_same hs
  claims := by rw [hs.registry]; exact h.claims

theorem agrees_empty (e : Engine) (s : Settings) (σf : Session) : Agrees e s σf .empty where
  valid := valid_empty e s
  claims := by simp [empty, Registry.empty]

theorem Covers.mono (h : Covers s σf σ') (hs : σ.registry.types ⊆ σ'.registry.types) :
    Covers s σf σ :=
  fun t ht => h t (hs ht)

end Session

namespace Typing

open Session (Agrees Covers Same)

def Repeats (e : Engine) (s : Settings) (σf : Session) (x : Typing α) (a : α) : Prop :=
  ∀ σ, Agrees e s σf σ → Ends x σ (fun b σ' => Agrees e s σf σ' ∧ b = a) fun _ _ => False

/-- What the computation returns once is repeated wherever the names agree. -/
def Repeatable (e : Engine) (s : Settings) (x : Typing α) : Prop :=
  ∀ σ : Session, σ.Valid e s →
    Ends x σ
      (fun a σ' => σ'.Valid e s ∧ σ.registry.types ⊆ σ'.registry.types ∧
        ∀ σf, Covers s σf σ' → Repeats e s σf x a)
      fun _ _ => True

theorem Repeats.pure (a : α) : Repeats e s σf (pure a) a :=
  fun _ hσ => Ends.pure ⟨hσ, rfl⟩

theorem Repeats.bind {x : Typing α} {g : α → Typing β} {a : α} {b : β}
    (hx : Repeats e s σf x a) (hg : Repeats e s σf (g a) b) : Repeats e s σf (x >>= g) b := by
  intro σ hσ
  refine Ends.bind (hx σ hσ) ?_ fun _ _ h => h
  rintro _ σ' ⟨hσ', rfl⟩
  exact hg σ' hσ'

theorem Repeats.unique {x : Typing α} {a b : α} (ha : Repeats e s σf x a)
    (hb : Repeats e s σf x b) : a = b := by
  have hempty := Session.agrees_empty e s σf
  obtain ⟨c, σ, -, ⟨-, hca⟩, -, hcb⟩ :=
    Ends.ok_of_not_fail (((ha _ hempty).and (hb _ hempty)).mono (fun _ _ h => h) fun _ _ h => h.1)
  exact hca.symm.trans hcb

namespace Repeatable

theorem pure (a : α) : Repeatable e s (pure a) :=
  fun _ hσ => Ends.pure ⟨hσ, List.Subset.refl _, fun _ _ => .pure a⟩

theorem throw (f : Failure) : Repeatable e s (throw f : Typing α) :=
  fun _ _ => Ends.throw trivial

theorem bind {x : Typing α} {g : α → Typing β} (hx : Repeatable e s x)
    (hg : ∀ a, Repeatable e s (g a)) : Repeatable e s (x >>= g) := by
  intro σ hσ
  refine Ends.bind (hx σ hσ) ?_ fun _ _ h => h
  rintro a σ₁ ⟨h₁, hs₁, hx⟩
  refine (hg a σ₁ h₁).mono ?_ fun _ _ h => h
  rintro b σ₂ ⟨h₂, hs₂, hg⟩
  refine ⟨h₂, fun t ht => hs₂ (hs₁ ht), fun σf hf => ?_⟩
  exact (hx σf (hf.mono hs₂)).bind (hg σf hf)

theorem of_same {x : Typing α}
    (h : ∀ σ, Ends x σ
      (fun a σ' => σ.Same σ' ∧ ∀ σ₁, Ends x σ₁ (fun b σ₂ => σ₁.Same σ₂ ∧ b = a) fun _ _ => False)
      fun _ _ => True) : Repeatable e s x := by
  intro σ hσ
  refine (h σ).mono ?_ fun _ _ h => h
  rintro a σ' ⟨hs, ha⟩
  refine ⟨hσ.of_same hs, by rw [hs.registry]; exact List.Subset.refl _, fun σf _ σ₁ h₁ => ?_⟩
  exact (ha σ₁).mono (fun b σ₂ hb => ⟨h₁.of_same hb.1, hb.2⟩) fun _ _ h => h

end Repeatable

theorem tell_repeatable (event : Event) : Repeatable e s (tell event) :=
  .of_same fun σ => Ends.modify ⟨.of_tell σ _, fun σ₁ => Ends.modify ⟨.of_tell σ₁ _, rfl⟩⟩

theorem ofExcept_repeatable (x : Except Failure α) :
    Repeatable e s (MonadExcept.ofExcept x : Typing α) := by
  cases x with
  | ok a => exact .pure a
  | error f => exact .throw f

theorem prepare_repeatable (he : e.Steady) (q : SourceQuery) :
    Repeatable e s (prepare e none q) := by
  refine .of_same fun σ => (prepare_spec none q).mono ?_ fun _ _ _ => trivial
  rintro st σ' ⟨hs, ha⟩
  refine ⟨hs, fun σ₁ => (prepare_spec none q).mono ?_ ?_⟩
  · rintro st₁ σ₂ ⟨hs₁, ha₁⟩
    rw [he.prepare σ₁.calls σ.calls, ha] at ha₁
    exact ⟨hs₁, (Except.ok.inj ha₁).symm⟩
  · rintro f σ₂ ⟨-, ⟨d, hd, -⟩ | ⟨fault, ha₁, -⟩⟩
    · exact nomatch hd
    · rw [he.prepare σ₁.calls σ.calls, ha] at ha₁
      exact nomatch ha₁

theorem fetch_repeats {t : CatalogType} (he : e.Steady) (hd : Catalog.Describes e t)
    (hσ : Agrees e s σf σ) :
    Ends (fetch e t.oid) σ
      (fun u σ' => Agrees e s σf σ' ∧ t ∈ σ'.cache.types ∧ u = t) fun _ _ => False := by
  refine fetch_ends ((Catalog.fetch_finds he hd hσ.valid.cache).mono ?_ fun _ _ h => h)
  rintro u c ⟨hc, hk, hu, rfl⟩
  exact ⟨⟨⟨hc, hσ.valid.registry.mono hk.subset⟩, hσ.claims⟩, hu, rfl⟩

theorem resolve_repeats {t : CatalogType} {target : TargetType} (hσ : Agrees e s σf σ)
    (ht : t ∈ σ.cache.types) (htarget : targetOf? s t = some target)
    (hheld : ∀ u ∈ Resolution.reached s t, ∀ c ∈ ownClaims s u, σf.registry.Holds c) :
    Ends (resolve s t) σ (fun a σ' => Agrees e s σf σ' ∧ a = target) fun _ _ => False := by
  have hsettles := resolve_settles hσ.valid.cache.coherent ht _ hσ.valid.registry
  refine resolve_ends (hsettles.mono ?_ ?_)
  · rintro a r ⟨hd, ha⟩
    refine ⟨⟨⟨hσ.valid.cache, hd.valid⟩, ?_⟩, ?_⟩
    · exact Registry.holds_of_extends hσ.claims hd.extends_ hheld
    · exact Option.some.inj (ha.symm.trans htarget)
  · intro f r hr
    exact Registry.not_refused hσ.claims
      (fun u hu => Resolution.targetOf?_of_mem_reached htarget hu) hheld hr

theorem typeOf_repeatable (he : e.Steady) (oid : Oid) : Repeatable e s (typeOf e s oid) := by
  intro σ hσ
  refine (typeOf_ends hσ).mono ?_ fun _ _ _ => trivial
  rintro ⟨t, target⟩ σ' ⟨hu, rfl, hd⟩
  have htypes (u : CatalogType) :
      u ∈ σ'.registry.types ↔ u ∈ σ.registry.types ∨ u ∈ Resolution.reached s t := by
    rw [hu.types, List.mem_eraseDups, List.mem_append]
    simp [Uses.reached]
  refine ⟨hu.valid, fun u h => (htypes u).2 (.inl h), fun σf hf σ₁ h₁ => ?_⟩
  refine Ends.bind (fetch_repeats he hd h₁) ?_ fun _ _ h => h
  rintro _ σ₂ ⟨h₂, ht, rfl⟩
  have htarget := hu.targets _ (List.mem_singleton_self _)
  have hheld (u : CatalogType) (hm : u ∈ Resolution.reached s _) := hf u ((htypes u).2 (.inr hm))
  refine Ends.bind (resolve_repeats h₂ ht htarget hheld) ?_ fun _ _ h => h
  rintro _ σ₃ ⟨h₃, rfl⟩
  exact Ends.pure ⟨h₃, rfl⟩

theorem typeParams_repeatable (he : e.Steady) (i : Nat) (used : List String)
    (params : List (String × Oid)) : Repeatable e s (typeParams e s i used params) := by
  induction params generalizing i used with
  | nil => exact .pure []
  | cons p params ih =>
    exact (typeOf_repeatable he p.2).bind fun _ => (ih _ _).bind fun _ => .pure _

theorem typeColumns_repeatable (he : e.Steady) (i : Nat) (idents names : List String)
    (columns : List Catalog.Column) : Repeatable e s (typeColumns e s i idents names columns) := by
  induction columns generalizing i idents names with
  | nil => exact .pure []
  | cons column columns ih =>
    exact (typeOf_repeatable he column.oid).bind fun _ => (ih _ _ _).bind fun _ => .pure _

theorem typeQuery_repeatable (he : e.Steady) (q : SourceQuery) :
    Repeatable e s (typeQuery e s none q) := by
  refine (prepare_repeatable he q).bind fun st => (tell_repeatable _).bind fun _ => ?_
  have hrest : Repeatable e s (do
      let columns ← MonadExcept.ofExcept (columnsFor q st.columns)
      let inputs ← typeParams e s 0 [] (q.paramNames.zip st.params)
      let outputs ← typeColumns e s 0 [] [] columns
      return (⟨q.name, q.sql, q.kind, inputs, outputs⟩ : TypedQuery)) := by
    refine (ofExcept_repeatable _).bind fun columns => ?_
    refine (typeParams_repeatable he 0 [] _).bind fun inputs => ?_
    exact (typeColumns_repeatable he 0 [] [] columns).bind fun outputs => .pure _
  dsimp only
  split
  · exact (Repeatable.throw _).bind fun _ => hrest
  · exact hrest

def Repeated (e : Engine) (s : Settings) (σf : Session) :
    List SourceQuery → List TypedQuery → Prop :=
  List.Forall₂ fun q t => Repeats e s σf (typeQuery e s none q) t

theorem typeQueries_repeated (he : e.Steady) (hl : s.deadline = none) (qs : List SourceQuery)
    (hσ : σ.Valid e s) :
    Ends (typeQueries e s qs) σ
      (fun ts σ' => σ'.Valid e s ∧ σ.registry.types ⊆ σ'.registry.types ∧
        ∀ σf, Covers s σf σ' → Repeated e s σf qs ts)
      fun _ _ => True := by
  induction qs generalizing σ with
  | nil => exact Ends.pure ⟨hσ, List.Subset.refl _, fun _ _ => .nil⟩
  | cons q qs ih =>
    rw [typeQueries, hl]
    refine Ends.bind (typeQuery_repeatable he q σ hσ) ?_ fun _ _ _ => trivial
    rintro t σ₁ ⟨h₁, hs₁, ht⟩
    refine Ends.bind (tell_repeatable _ σ₁ h₁) ?_ fun _ _ _ => trivial
    rintro _ σ₂ ⟨h₂, hs₂, -⟩
    refine Ends.bind (ih h₂) ?_ fun _ _ _ => trivial
    rintro ts σ₃ ⟨h₃, hs₃, hts⟩
    refine Ends.pure ⟨h₃, fun u hu => hs₃ (hs₂ (hs₁ hu)), fun σf hf => ?_⟩
    exact .cons (ht σf (hf.mono fun u hu => hs₃ (hs₂ hu))) (hts σf hf)

theorem typeQueries_repeats {qs : List SourceQuery} {f : SourceQuery → TypedQuery}
    (hl : s.deadline = none) (hf : ∀ q ∈ qs, Repeats e s σf (typeQuery e s none q) (f q)) :
    Repeats e s σf (typeQueries e s qs) (qs.map f) := by
  induction qs with
  | nil => exact .pure []
  | cons q qs ih =>
    rw [typeQueries, hl]
    refine (hf q (by simp)).bind ?_
    have htell (event : Event) : Repeats e s σf (tell event) () :=
      fun σ hσ => Ends.modify ⟨hσ.of_same (.of_tell σ _), rfl⟩
    refine (htell _).bind ?_
    exact (ih fun r hr => hf r (by simp [hr])).bind (.pure _)

theorem Repeated.exists_map {qs : List SourceQuery} {ts : List TypedQuery}
    (h : Repeated e s σf qs ts) : ∃ f : SourceQuery → TypedQuery, ts = qs.map f ∧
      ∀ q ∈ qs, Repeats e s σf (typeQuery e s none q) (f q) := by
  classical
  have hall (q : SourceQuery) : ∃ t : TypedQuery,
      (∃ t', Repeats e s σf (typeQuery e s none q) t') →
        Repeats e s σf (typeQuery e s none q) t := by
    by_cases hq : ∃ t', Repeats e s σf (typeQuery e s none q) t'
    · obtain ⟨t, ht⟩ := hq
      exact ⟨t, fun _ => ht⟩
    · exact ⟨⟨q.name, q.sql, q.kind, [], []⟩, fun h => absurd h hq⟩
  choose f hf using hall
  refine ⟨f, ?_, ?_⟩
  · induction h with
    | nil => rfl
    | cons ht _ ih => rw [List.map_cons, ← ih, (hf _ ⟨_, ht⟩).unique ht]
  · induction h with
    | nil => simp
    | cons ht _ ih => exact List.forall_mem_cons.2 ⟨hf _ ⟨_, ht⟩, ih⟩

end Typing

open Typing (Repeated Repeats)

variable {qs rs : List SourceQuery} {g g' : Generation}

theorem generate_repeated (he : e.Steady) (hl : s.deadline = none)
    (h : generate e s qs = .ok g σ) : Repeated e s σ qs g.queries := by
  have hends : Ends (generation e s qs) .empty (fun g σ => Repeated e s σ qs g.queries)
      fun _ _ => True := by
    have hempty := Session.valid_empty e s
    refine Ends.bind (Typing.typeQueries_repeated he hl qs hempty) ?_ fun _ _ _ => trivial
    rintro ts σ₁ ⟨h₁, -, hts⟩
    refine Ends.bind_get ?_
    refine Ends.bind (Typing.tell_ends _) ?_ fun _ _ _ => trivial
    intro _ σ₂ hs
    refine Ends.pure (hts σ₂ fun t ht c hc => ?_)
    rw [hs.registry]
    exact h₁.registry.held t ht c hc
  exact hends.of_ok h

theorem generate_of_repeats {ts : List TypedQuery}
    (h : Repeats e s σf (typeQueries e s rs) ts) :
    ∃ g σ, generate e s rs = .ok g σ ∧ g.queries = ts := by
  have hends : Ends (generation e s rs) .empty (fun g _ => g.queries = ts) fun _ _ => False := by
    refine Ends.bind (h _ (Session.agrees_empty e s σf)) ?_ fun _ _ h => h
    rintro _ σ₁ ⟨-, rfl⟩
    exact rfl
  exact hends.ok_of_not_fail

theorem Generation.Sound.mem_imports_iff {own : String} (h : g.Sound e s σ) :
    own ∈ g.imports ↔ ∃ t ∈ g.uses.reached s, ∃ target, targetOf? s t = some target ∧
      own ∈ target.packages s.packagePath := by
  rw [h.imports, Registry.imports, Text.mem_sortedSet, List.mem_flatMap]
  have hreg := h.valid.registry
  have htypes (t : CatalogType) : t ∈ σ.registry.types ↔ t ∈ g.uses.reached s := by
    rw [h.types, List.mem_eraseDups]
  constructor
  · rintro ⟨⟨t, target⟩, hm, hown⟩
    exact ⟨t, (htypes t).1 (Registry.mem_types_iff.2 ⟨target, hm⟩), target, hreg.target _ hm, hown⟩
  · rintro ⟨t, ht, target, htarget, hown⟩
    obtain ⟨target', hm⟩ := Registry.mem_types_iff.1 ((htypes t).2 ht)
    have heq : target' = target := Option.some.inj ((hreg.target _ hm).symm.trans htarget)
    exact ⟨(t, target'), hm, heq ▸ hown⟩

theorem Generation.uses_subset {f : SourceQuery → TypedQuery} (hg : g.queries = qs.map f)
    (hg' : g'.queries = rs.map f) (hr : rs ⊆ qs) : g'.uses ⊆ g.uses := by
  intro u hu
  rw [Generation.uses, hg', List.flatMap_map, List.mem_flatMap] at hu
  obtain ⟨q, hq, hu⟩ := hu
  rw [Generation.uses, hg, List.flatMap_map, List.mem_flatMap]
  exact ⟨q, hr hq, hu⟩

theorem Generation.needed_subset (h : g'.uses ⊆ g.uses) : g'.needed ⊆ g.needed := by
  intro d hd
  obtain ⟨hdec, t, ht, hdt⟩ := mem_needed_iff.1 hd
  exact mem_needed_iff.2 ⟨hdec, t, List.map_subset _ h ht, hdt⟩

theorem Generation.Sound.imports_subset {σ' : Session} (h : g.Sound e s σ) (h' : g'.Sound e s σ')
    (hu : g'.uses ⊆ g.uses) : g'.imports ⊆ g.imports := by
  intro i hi
  obtain ⟨t, ht, htarget⟩ := h'.mem_imports_iff.1 hi
  refine h.mem_imports_iff.2 ⟨t, ?_, htarget⟩
  obtain ⟨u, hm, ht⟩ := List.mem_flatMap.1 ht
  exact List.mem_flatMap.2 ⟨u, hu hm, ht⟩

theorem Generation.Sound.ascending_imports (h : g.Sound e s σ) :
    g.imports.Pairwise (· < ·) := by
  rw [h.imports]
  exact Text.ascending_sortedSet _

theorem generate_independent (he : e.Steady) (hl : s.deadline = none)
    (h : generate e s qs = .ok g σ) (hr : rs ⊆ qs) :
    ∃ f : SourceQuery → TypedQuery, g.queries = qs.map f ∧
      ∃ g' σ', generate e s rs = .ok g' σ' ∧ g'.queries = rs.map f ∧
        g'.declarations ⊆ g.declarations ∧ g'.imports ⊆ g.imports ∧
        (qs ⊆ rs → g'.declarations.Perm g.declarations ∧ g'.imports = g.imports) := by
  obtain ⟨f, hf, hrep⟩ := (generate_repeated he hl h).exists_map
  obtain ⟨g', σ', h', hf'⟩ :=
    generate_of_repeats (Typing.typeQueries_repeats hl fun q hq => hrep q (hr hq))
  have hs := generate_sound h
  have hs' := generate_sound h'
  have hu : g'.uses ⊆ g.uses := Generation.uses_subset hf hf' hr
  refine ⟨f, hf, g', σ', h', hf', ?_, hs.imports_subset hs' hu, fun hq => ?_⟩
  · rw [hs.declarations_eq, hs'.declarations_eq]
    exact Generation.needed_subset hu
  · have hu' : g.uses ⊆ g'.uses := Generation.uses_subset hf' hf hq
    constructor
    · rw [hs.declarations_eq, hs'.declarations_eq]
      refine (List.perm_ext_iff_of_nodup (nodup_eraseDups _) (nodup_eraseDups _)).2 fun d => ?_
      exact ⟨fun hd => Generation.needed_subset hu hd, fun hd => Generation.needed_subset hu' hd⟩
    · refine hs'.ascending_imports.eq_of_mem_iff hs.ascending_imports fun i => ?_
      exact ⟨fun hi => hs.imports_subset hs' hu hi, fun hi => hs'.imports_subset hs hu' hi⟩

theorem generate_independent_diary :
    ∃ g σ, generate Diary.snapshot.engine Diary.settings [Diary.days, Diary.mood] = .ok g σ ∧
      g.declarations = [Diary.moodTarget, Diary.dayTarget] ∧
      ∃ f : SourceQuery → TypedQuery, g.queries = [Diary.days, Diary.mood].map f ∧
        ∃ g' σ', generate Diary.snapshot.engine Diary.settings
            [Diary.mood, Diary.days, Diary.mood] = .ok g' σ' ∧
          g'.queries = [Diary.mood, Diary.days, Diary.mood].map f ∧
          g'.declarations.Perm g.declarations ∧ g'.imports = g.imports := by
  obtain ⟨g, σ, h, -, hdeclarations, -, -⟩ := Diary.generate_days_mood
  have he := Catalog.Snapshot.steady_engine (show Diary.snapshot.lostAfter = none from rfl)
  have hr : [Diary.mood, Diary.days, Diary.mood] ⊆ [Diary.days, Diary.mood] := by simp
  obtain ⟨f, hf, g', σ', h', hf', -, -, hall⟩ := generate_independent he rfl h hr
  exact ⟨g, σ, h, hdeclarations, f, hf, g', σ', h', hf', hall (by simp)⟩

end QueryTyping
