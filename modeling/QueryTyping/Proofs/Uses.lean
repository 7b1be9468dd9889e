import Mathlib
import QueryTyping.Catalog.Snapshot
import QueryTyping.Generation
import QueryTyping.Proofs.Resolution
import QueryTyping.Proofs.Visits

namespace QueryTyping

open Catalog (Engine Visited)
open Resolution (reached targetOf?)

abbrev Uses :=
  List (CatalogType × TargetType)

def InputParam.use (p : InputParam) : CatalogType × TargetType :=
  (p.catalogType, p.targetType)

def OutputColumn.use (c : OutputColumn) : CatalogType × TargetType :=
  (c.catalogType, c.targetType)

def TypedQuery.uses (q : TypedQuery) : Uses :=
  q.inputs.map InputParam.use ++ q.outputs.map OutputColumn.use

def Generation.uses (g : Generation) : Uses :=
  g.queries.flatMap TypedQuery.uses

def Uses.reached (s : Settings) (us : Uses) : List CatalogType :=
  us.flatMap fun u => Resolution.reached s u.1

def Uses.nodes (us : Uses) : List CatalogType :=
  us.flatMap fun u => u.1.nodes

def Generation.nodes (g : Generation) : List CatalogType :=
  g.uses.nodes

namespace Session

structure Valid (e : Engine) (s : Settings) (σ : Session) : Prop where
  cache : σ.cache.Valid e
  registry : σ.registry.Valid s σ.cache.types

structure Same (σ σ' : Session) : Prop where
  types : σ'.cache.types = σ.cache.types
  lookups : σ'.cache.lookups = σ.cache.lookups
  registry : σ'.registry = σ.registry

/-- The types of `us` are fetched and resolved, in this order. -/
structure Used (e : Engine) (s : Settings) (us : Uses) (σ σ' : Session) : Prop where
  valid : σ'.Valid e s
  targets : ∀ u ∈ us, targetOf? s u.1 = some u.2
  types : σ'.registry.types = (σ.registry.types ++ us.reached s).eraseDups
  visited : Visited [] us.nodes σ.cache σ'.cache

variable {e : Engine} {s : Settings} {us vs : Uses} {σ σ' σ'' : Session}

theorem valid_empty (e : Engine) (s : Settings) : Session.empty.Valid e s :=
  ⟨Catalog.Cache.valid_empty e, .empty s _⟩

theorem Same.refl (σ : Session) : σ.Same σ :=
  ⟨rfl, rfl, rfl⟩

theorem Same.of_tell (σ : Session) (events : List Event) : σ.Same (σ.tell events) :=
  ⟨rfl, rfl, rfl⟩

theorem Same.of_prepare (σ : Session) (sql : String) (clock : Clock) :
    σ.Same { σ with
      cache := { σ.cache with calls := σ.calls ++ [.prepare sql] }
      clock := clock } where
  types := rfl
  lookups := by simp [Catalog.Cache.lookups, Catalog.Call.isLookup, calls]
  registry := rfl

theorem Valid.of_same (h : σ.Valid e s) (hs : σ.Same σ') : σ'.Valid e s where
  cache := h.cache.of_types hs.types
  registry := by rw [hs.types, hs.registry]; exact h.registry

namespace Used

theorem nil (h : σ.Valid e s) (hs : σ.Same σ') : Used e s [] σ σ' where
  valid := h.of_same hs
  targets := by simp
  types := by
    rw [hs.registry, Uses.reached, List.flatMap_nil, List.append_nil,
      eraseDups_of_nodup h.registry.nodup]
  visited := .of_subset hs.lookups hs.types (List.nil_subset _)

theorem append (h : Used e s us σ σ') (h' : Used e s vs σ' σ'') :
    Used e s (us ++ vs) σ σ'' where
  valid := h'.valid
  targets u hu := (List.mem_append.1 hu).elim (h.targets u) (h'.targets u)
  types := by
    rw [h'.types, h.types, eraseDups_eraseDups_append, List.append_assoc, Uses.reached,
      Uses.reached, Uses.reached, List.flatMap_append]
  visited := by
    rw [Uses.nodes, List.flatMap_append]
    exact h.visited.append h'.visited

end Used

end Session

namespace Typing

open Session (Same Used)

variable {e : Engine} {s : Settings} {σ : Session} {α β : Type}

theorem fetch_ends {oid : Oid} {ok : CatalogType → Session → Prop} {fail : Failure → Session → Prop}
    (h : Ends (Catalog.fetch e oid) σ.cache
      (fun t c => ok t { σ.tell (c.eventsSince σ.cache) with cache := c })
      fun f c => fail f { σ.tell (c.eventsSince σ.cache) with cache := c }) :
    Ends (fetch e oid) σ ok fail := by
  unfold Ends fetch at *
  cases hx : Catalog.fetch e oid σ.cache with
  | ok t c => simpa only [hx] using h
  | error f c => simpa only [hx] using h

theorem resolve_ends {t : CatalogType} {ok : TargetType → Session → Prop}
    {fail : Failure → Session → Prop}
    (h : Ends (QueryTyping.resolve s t) σ.registry
      (fun target r =>
        ok target { σ.tell (r.eventsSince s.packagePath σ.registry) with registry := r })
      fun f r =>
        fail f { σ.tell (r.eventsSince s.packagePath σ.registry) with registry := r }) :
    Ends (resolve s t) σ ok fail := by
  unfold Ends resolve at *
  cases hx : QueryTyping.resolve s t σ.registry with
  | ok target r => simpa only [hx] using h
  | error f r => simpa only [hx] using h

section Yields

variable {J : Registry → Prop} {ok : TargetType → Prop} {fail : Failure → Prop}

theorem fetch_yields {ok : CatalogType → Prop} {oid : Oid}
    (h : Catalog.Finds (Catalog.fetch e oid) ok fail) :
    Yields (fun σ => J σ.registry) (fetch e oid) ok fail := by
  intro σ hσ
  refine fetch_ends ((h σ.cache trivial).mono ?_ ?_)
  · exact fun _ _ ht => ⟨hσ, ht.2⟩
  · exact fun _ _ hf => ⟨hσ, hf.2⟩

theorem resolve_yields {t : CatalogType} (h : Yields J (QueryTyping.resolve s t) ok fail) :
    Yields (fun σ => J σ.registry) (resolve s t) ok fail :=
  fun σ hσ => resolve_ends (h σ.registry hσ)

theorem typeOf_yields (hlookup : ∀ oid fault, fail (.ofLookup oid fault))
    (hcycle : ∀ chain, fail (.cycle chain))
    (h : ∀ t, Yields J (QueryTyping.resolve s t) ok fail) (oid : Oid) :
    Yields (fun σ => J σ.registry) (typeOf e s oid) (fun u => u.1.oid = oid ∧ ok u.2) fail := by
  refine Yields.bind (fetch_yields (Catalog.fetch_finds_oid oid hlookup hcycle)) fun t ht => ?_
  exact Yields.bind (resolve_yields (h t)) fun _ htarget => .pure ⟨ht, htarget⟩

end Yields

theorem prepare_spec (limit : Option Nat) (q : SourceQuery) :
    Ends (prepare e limit q) σ (fun st σ' => σ.Same σ' ∧ e.prepare σ.calls q.sql = .ok st)
      fun f σ' => σ.Same σ' ∧
        ((∃ d, limit = some d ∧ f = .deadlineExceeded d) ∨
          ∃ fault, e.prepare σ.calls q.sql = .error fault ∧ f = .ofPrepare q.name fault) := by
  unfold Ends prepare
  dsimp only
  cases limit with
  | none =>
    cases he : e.prepare σ.calls q.sql with
    | ok st => exact ⟨.of_prepare σ q.sql _, rfl⟩
    | error fault => exact ⟨.of_prepare σ q.sql _, .inr ⟨fault, rfl, rfl⟩⟩
  | some d =>
    dsimp only
    cases ((e.latency σ.calls q.sql).elim σ.clock σ.clock.sleep).exceeds d with
    | true => exact ⟨.of_prepare σ q.sql _, .inl ⟨d, rfl, rfl⟩⟩
    | false =>
      cases he : e.prepare σ.calls q.sql with
      | ok st => exact ⟨.of_prepare σ q.sql _, rfl⟩
      | error fault => exact ⟨.of_prepare σ q.sql _, .inr ⟨fault, rfl, rfl⟩⟩

theorem prepare_ends (limit : Option Nat) (q : SourceQuery) :
    Ends (prepare e limit q) σ (fun _ σ' => σ.Same σ') fun _ σ' => σ.Same σ' :=
  (prepare_spec limit q).mono (fun _ _ h => h.1) fun _ _ h => h.1

def Tracks (e : Engine) (s : Settings) (x : Typing α) (P : α → Uses → Prop) : Prop :=
  ∀ σ : Session, σ.Valid e s →
    Ends x σ (fun a σ' => ∃ us, P a us ∧ Used e s us σ σ') fun _ σ' => σ'.Valid e s

namespace Tracks

theorem pure {P : α → Uses → Prop} {a : α} (h : P a []) : Tracks e s (pure a) P :=
  fun _ hσ => Ends.pure ⟨[], h, .nil hσ (.refl _)⟩

theorem throw (P : α → Uses → Prop) (f : Failure) : Tracks e s (throw f) P :=
  fun _ hσ => Ends.throw hσ

theorem of_same {x : Typing α}
    (h : ∀ σ, Ends x σ (fun _ σ' => σ.Same σ') fun _ σ' => σ.Same σ') :
    Tracks e s x fun _ us => us = [] :=
  fun σ hσ => (h σ).mono (fun _ _ hs => ⟨[], rfl, .nil hσ hs⟩) fun _ _ hs => hσ.of_same hs

theorem bind {x : Typing α} {g : α → Typing β} {P : α → Uses → Prop} {Q : β → Uses → Prop}
    (hx : Tracks e s x P)
    (hg : ∀ a us, P a us → Tracks e s (g a) fun b vs => Q b (us ++ vs)) :
    Tracks e s (x >>= g) Q := by
  intro σ hσ
  refine Ends.bind (hx σ hσ) ?_ fun _ _ h => h
  rintro a σ' ⟨us, ha, hu⟩
  refine (hg a us ha σ' hu.valid).mono ?_ fun _ _ h => h
  rintro b σ'' ⟨vs, hb, hv⟩
  exact ⟨us ++ vs, hb, hu.append hv⟩

theorem after_same {x : Typing α} {g : α → Typing β} {Q : β → Uses → Prop}
    (h : ∀ σ, Ends x σ (fun _ σ' => σ.Same σ') fun _ σ' => σ.Same σ')
    (hg : ∀ a, Tracks e s (g a) Q) : Tracks e s (x >>= g) Q := by
  refine (of_same h).bind ?_
  rintro a _ rfl
  exact hg a

theorem of_map {x : Typing α} {f : α → β} {P : β → Uses → Prop} (h : Tracks e s (f <$> x) P) :
    Tracks e s x fun a us => P (f a) us :=
  fun σ hσ => Ends.of_map (h σ hσ)

end Tracks

theorem tell_ends (event : Event) :
    Ends (tell event) σ (fun _ σ' => σ.Same σ') fun _ σ' => σ.Same σ' :=
  Ends.modify (.of_tell σ _)

theorem ofExcept_ends (x : Except Failure α) :
    Ends (MonadExcept.ofExcept x : Typing α) σ (fun _ σ' => σ.Same σ') fun _ σ' => σ.Same σ' := by
  cases x with
  | ok a => exact Ends.pure (.refl _)
  | error f => exact Ends.throw (.refl _)

theorem fetch_valid {oid : Oid} (hσ : σ.Valid e s) :
    Ends (fetch e oid) σ
      (fun t σ' => σ'.Valid e s ∧ σ'.registry = σ.registry ∧ t ∈ σ'.cache.types ∧ t.oid = oid ∧
        Visited [] t.nodes σ.cache σ'.cache)
      fun _ σ' => σ'.Valid e s := by
  have hvisited := Catalog.fetch_visited hσ.cache oid
  refine fetch_ends (((Catalog.fetch_ends hσ.cache).and hvisited).mono ?_ ?_)
  · rintro t c ⟨⟨hc, hk, ht, ho⟩, hvisited⟩
    exact ⟨⟨hc, hσ.registry.mono hk.subset⟩, rfl, ht, ho, hvisited⟩
  · rintro f c ⟨⟨hc, hk⟩, -⟩
    exact ⟨hc, hσ.registry.mono hk.subset⟩

theorem resolve_used {t : CatalogType} (hσ : σ.Valid e s) (ht : t ∈ σ.cache.types) :
    Ends (resolve s t) σ (fun target σ' => Used e s [(t, target)] σ σ' ∧ σ'.cache = σ.cache)
      fun _ σ' => σ'.Valid e s := by
  refine resolve_ends ((resolve_settles hσ.cache.coherent ht _ hσ.registry).mono ?_ ?_)
  · rintro target r ⟨hd, htarget⟩
    refine ⟨⟨⟨hσ.cache, hd.valid⟩, by simpa using htarget, ?_, ?_⟩, rfl⟩
    · simpa [Uses.reached] using hd.types
    · refine .of_subset rfl rfl fun u hu => hσ.cache.coherent.nodes ht ?_
      simpa [Uses.nodes] using hu
  · exact fun f r hr => ⟨hσ.cache, hr.valid⟩

theorem typeOf_ends {oid : Oid} (hσ : σ.Valid e s) :
    Ends (typeOf e s oid) σ
      (fun u σ' => Used e s [u] σ σ' ∧ u.1.oid = oid ∧ Catalog.Describes e u.1)
      fun _ σ' => σ'.Valid e s := by
  refine Ends.bind (fetch_valid hσ) ?_ fun _ _ h => h
  rintro t σ₁ ⟨h₁, hr, ht, ho, hvisited⟩
  refine Ends.bind (resolve_used h₁ ht) ?_ fun _ _ h => h
  rintro target σ₂ ⟨h₂, hcache⟩
  have hnodes : Visited [] (Uses.nodes [(t, target)]) σ.cache σ₂.cache := by
    rw [hcache]
    simpa [Uses.nodes] using hvisited
  exact Ends.pure ⟨⟨h₂.valid, h₂.targets, hr ▸ h₂.types, hnodes⟩, ho, h₁.cache.described t ht⟩

theorem typeOf_tracks (oid : Oid) : Tracks e s (typeOf e s oid) fun u us => us = [u] :=
  fun _ hσ => (typeOf_ends hσ).mono (fun u _ h => ⟨[u], rfl, h.1⟩) fun _ _ h => h

theorem mapM_typeOf_tracks (oids : List Oid) :
    Tracks e s (oids.mapM (typeOf e s)) fun us us' => us' = us := by
  induction oids with
  | nil => exact .pure rfl
  | cons oid oids ih =>
    rw [List.mapM_cons]
    refine (typeOf_tracks oid).bind ?_
    rintro u _ rfl
    refine ih.bind ?_
    rintro us _ rfl
    exact .pure (by simp)

theorem map_use_typeParams (i : Nat) (used : List String) (params : List (String × Oid)) :
    List.map InputParam.use <$> typeParams e s i used params =
      (params.map Prod.snd).mapM (typeOf e s) := by
  induction params generalizing i used with
  | nil => simp [typeParams]
  | cons p params ih =>
    have hrest := ih (i + 1) (paramIdent s i used p.1 :: used)
    rw [typeParams, List.map_cons, List.mapM_cons, ← hrest]
    simp [InputParam.use]

theorem map_use_typeColumns (i : Nat) (idents names : List String)
    (columns : List Catalog.Column) :
    List.map OutputColumn.use <$> typeColumns e s i idents names columns =
      (columns.map Catalog.Column.oid).mapM (typeOf e s) := by
  induction columns generalizing i idents names with
  | nil => simp [typeColumns]
  | cons column columns ih =>
    have hrest := ih (i + 1) ((columnNames s i idents names column.name).1 :: idents)
      ((columnNames s i idents names column.name).2 :: names)
    rw [typeColumns, List.map_cons, List.mapM_cons, ← hrest]
    simp [OutputColumn.use]

def typeShape (e : Engine) (s : Settings) (q : SourceQuery) (params : List (String × Oid))
    (columns : List Catalog.Column) : Typing TypedQuery := do
  let inputs ← typeParams e s 0 [] params
  let outputs ← typeColumns e s 0 [] [] columns
  return ⟨q.name, q.sql, q.kind, inputs, outputs⟩

theorem uses_typeShape (q : SourceQuery) (params : List (String × Oid))
    (columns : List Catalog.Column) :
    TypedQuery.uses <$> typeShape e s q params columns =
      (params.map Prod.snd ++ columns.map Catalog.Column.oid).mapM (typeOf e s) := by
  rw [List.mapM_append, ← map_use_typeParams 0 [] params, ← map_use_typeColumns 0 [] [] columns]
  simp [typeShape, TypedQuery.uses]

theorem typeShape_tracks (q : SourceQuery) (params : List (String × Oid))
    (columns : List Catalog.Column) :
    Tracks e s (typeShape e s q params columns) fun t us => us = t.uses := by
  refine Tracks.of_map (P := fun us us' => us' = us) ?_
  rw [uses_typeShape]
  exact mapM_typeOf_tracks _

theorem typeQuery_tracks (limit : Option Nat) (q : SourceQuery) :
    Tracks e s (typeQuery e s limit q) fun t us => us = t.uses := by
  refine .after_same (fun _ => prepare_ends limit q) fun st => ?_
  refine .after_same (fun _ => tell_ends _) fun _ => ?_
  dsimp only
  split
  · refine (Tracks.throw (fun _ _ => False) _).bind ?_
    rintro _ _ ⟨⟩
  · refine .after_same (fun _ => ofExcept_ends _) fun columns => ?_
    exact typeShape_tracks q _ columns

theorem typeQueries_tracks (qs : List SourceQuery) :
    Tracks e s (typeQueries e s qs) fun ts us => us = ts.flatMap TypedQuery.uses := by
  induction qs with
  | nil => exact .pure rfl
  | cons q qs ih =>
    refine (typeQuery_tracks s.deadline q).bind ?_
    rintro t _ rfl
    refine .after_same (fun _ => tell_ends _) fun _ => ?_
    refine ih.bind ?_
    rintro ts _ rfl
    exact .pure (by simp)

end Typing

structure Generation.Sound (e : Engine) (s : Settings) (g : Generation) (σ : Session) : Prop where
  valid : σ.Valid e s
  targets : ∀ u ∈ g.uses, targetOf? s u.1 = some u.2
  types : σ.registry.types = (g.uses.reached s).eraseDups
  declarations : g.declarations = σ.registry.declarations
  imports : g.imports = σ.registry.imports s.packagePath
  visited : Visited [] g.nodes .empty σ.cache
  catalogTypes : g.stats.catalogTypes = σ.cache.types.length

variable {e : Engine} {s : Settings} {qs : List SourceQuery} {g : Generation} {σ : Session}

theorem generate_sound (h : generate e s qs = .ok g σ) : g.Sound e s σ := by
  have hends : Ends (generation e s qs) .empty (fun g σ => g.Sound e s σ) fun _ _ => True := by
    have hempty := Session.valid_empty e s
    refine Ends.bind (Typing.typeQueries_tracks qs _ hempty) ?_ fun _ _ _ => trivial
    rintro ts σ ⟨_, rfl, hu⟩
    refine Ends.bind_get ?_
    refine Ends.bind (Typing.tell_ends _) ?_ fun _ _ _ => trivial
    intro _ σ' hs
    have hall : Session.Used e s (ts.flatMap TypedQuery.uses) .empty σ' := by
      simpa using hu.append (.nil hu.valid hs)
    refine Ends.pure ⟨hall.valid, hall.targets, hall.types, ?_, ?_, hall.visited, ?_⟩
    · rw [hs.registry]
    · rw [hs.registry]
    · rw [hs.types]
      rfl
  exact hends.of_ok h

theorem targetOf?_of_generate (h : generate e s qs = .ok g σ) :
    ∀ q ∈ g.queries, (∀ p ∈ q.inputs, targetOf? s p.catalogType = some p.targetType) ∧
      ∀ c ∈ q.outputs, targetOf? s c.catalogType = some c.targetType := by
  intro q hq
  have htargets := (generate_sound h).targets
  have huses (u : CatalogType × TargetType) (hu : u ∈ q.uses) : u ∈ g.uses :=
    List.mem_flatMap.2 ⟨q, hq, hu⟩
  constructor
  · intro p hp
    exact htargets p.use (huses _ (List.mem_append_left _ (List.mem_map_of_mem hp)))
  · intro c hc
    exact htargets c.use (huses _ (List.mem_append_right _ (List.mem_map_of_mem hc)))

namespace Diary

def snapshot : Catalog.Snapshot where
  statements := [
    ⟨"SELECT days", ⟨[], [⟨"all", ⟨16403⟩, none⟩]⟩, none, none⟩,
    ⟨"SELECT mood", ⟨[⟨23⟩], [⟨"mood", ⟨16401⟩, none⟩]⟩, none, none⟩]
  types := [
    ⟨⟨16401⟩, ⟨"mood", some "public", .enum⟩, ["ok", "深"], [], none, none⟩,
    ⟨⟨16402⟩, ⟨"day", some "public", .composite⟩, [], [("felt", ⟨16401⟩), ("圳", ⟨23⟩)], none,
      none⟩,
    ⟨⟨16403⟩, ⟨"_day", some "public", .array ⟨16402⟩⟩, [], [], none, none⟩]
  lostAfter := none

def settings : Settings :=
  ⟨"app/db", .empty, .empty, none, .shenzhen⟩

def days : SourceQuery :=
  ⟨"Days", "SELECT days", [], .many⟩

def mood : SourceQuery :=
  ⟨"Mood", "SELECT mood", ["id"], .one⟩

def numberType : CatalogType :=
  .scalar ⟨⟨23⟩, "int4", some "pg_catalog"⟩

def moodType : CatalogType :=
  .enum ⟨⟨16401⟩, "mood", some "public"⟩ ["ok", "深"]

def dayType : CatalogType :=
  .composite ⟨⟨16402⟩, "day", some "public"⟩ [("felt", moodType), ("圳", numberType)]

def daysType : CatalogType :=
  .array ⟨⟨16403⟩, "_day", some "public"⟩ dayType

def moodTarget : TargetType :=
  .enum ⟨"app/db", "db", "Mood"⟩ ["MoodOk", "MoodShen"] ["ok", "深"] moodType

def dayTarget : TargetType :=
  .composite ⟨"app/db", "db", "Day"⟩ ["Felt", "Zhen"] [moodTarget, .builtin "int32"] dayType

def uses : Uses :=
  [(daysType, .array dayTarget), (numberType, .builtin "int32"), (moodType, moodTarget)]

def asked : List Catalog.Call :=
  [.prepare "SELECT days", .header ⟨16403⟩, .header ⟨16402⟩, .fields ⟨16402⟩, .header ⟨16401⟩,
    .labels ⟨16401⟩, .prepare "SELECT mood"]

set_option maxRecDepth 4000 in
theorem generate_days_mood :
    ∃ g σ, generate snapshot.engine settings [days, mood] = .ok g σ ∧ g.uses = uses ∧
      g.declarations = [moodTarget, dayTarget] ∧ g.imports = [] ∧ σ.calls = asked :=
  ⟨_, _, by cbv, by cbv, by cbv, by cbv, by cbv⟩

end Diary

theorem targetOf?_of_generate_diary :
    ∃ g σ, generate Diary.snapshot.engine Diary.settings [Diary.days, Diary.mood] = .ok g σ ∧
      g.uses = Diary.uses ∧
      ∀ q ∈ g.queries,
        (∀ p ∈ q.inputs, targetOf? Diary.settings p.catalogType = some p.targetType) ∧
          ∀ c ∈ q.outputs, targetOf? Diary.settings c.catalogType = some c.targetType := by
  obtain ⟨g, σ, h, huses, -⟩ := Diary.generate_days_mood
  exact ⟨g, σ, h, huses, targetOf?_of_generate h⟩

end QueryTyping
