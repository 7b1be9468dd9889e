import QueryTyping.Proofs.Lookups

namespace QueryTyping

open Catalog (Engine)

namespace Catalog

variable {e e' : Engine}

namespace Engine

structure SameButColumns (e e' : Engine) : Prop where
  latency : e.latency = e'.latency
  header : e.header = e'.header
  labels : e.labels = e'.labels
  fields : e.fields = e'.fields
  params : ∀ earlier sql, Statement.params <$> e.prepare earlier sql =
    Statement.params <$> e'.prepare earlier sql

def withColumns (e : Engine) (columns : List Call → String → List Column) : Engine :=
  { e with prepare := fun earlier sql =>
      (fun st => ⟨st.params, columns earlier sql⟩) <$> e.prepare earlier sql }

theorem sameButColumns_withColumns (e : Engine) (columns : List Call → String → List Column) :
    e.SameButColumns (e.withColumns columns) where
  latency := rfl
  header := rfl
  labels := rfl
  fields := rfl
  params earlier sql := by
    simp only [withColumns]
    cases e.prepare earlier sql with
    | ok | error => rfl

def SameFor (e e' : Engine) (q : SourceQuery) : Prop :=
  q.kind = .exec ∨ ∀ earlier, e.prepare earlier q.sql = e'.prepare earlier q.sql

end Engine

theorem fetch_congr (h : e.SameButColumns e') (oid : Oid) : fetch e oid = fetch e' oid := by
  have hlevel : fetchLevel e = fetchLevel e' := by
    funext next p oid
    simp only [fetchLevel, askHeader, askLabels, askFields, h.header, h.labels, h.fields]
  have hlt := Nat.lt_succ_self UInt32.size
  rw [← fetch_eq_iterate e (fetchIn e) hlt, hlevel, fetch_eq_iterate e' (fetchIn e) hlt]

end Catalog

def Event.withoutColumns : Event → Event
  | prepared query params _ => prepared query params 0
  | event => event

namespace Session

structure Alike (σ σ' : Session) : Prop where
  cache : σ.cache = σ'.cache
  registry : σ.registry = σ'.registry
  clock : σ.clock = σ'.clock
  events : σ.events.map Event.withoutColumns = σ'.events.map Event.withoutColumns

variable {σ σ' : Session} {events events' : List Event}

theorem Alike.refl (σ : Session) : σ.Alike σ :=
  ⟨rfl, rfl, rfl, rfl⟩

theorem Alike.tell (h : σ.Alike σ')
    (he : events.map Event.withoutColumns = events'.map Event.withoutColumns) :
    (σ.tell events).Alike (σ'.tell events') where
  cache := h.cache
  registry := h.registry
  clock := h.clock
  events := by rw [Session.tell, Session.tell, List.map_append, List.map_append, h.events, he]

end Session

namespace Typing

variable {e e' : Engine} {s : Settings} {q : SourceQuery} {α α' β β' : Type}

inductive EndAlike (R : α → β → Prop) :
    EStateM.Result Failure Session α → EStateM.Result Failure Session β → Prop where
  | ok {a : α} {b : β} {σ σ' : Session} : R a b → σ.Alike σ' → EndAlike R (.ok a σ) (.ok b σ')
  | error {f : Failure} {σ σ' : Session} : σ.Alike σ' → EndAlike R (.error f σ) (.error f σ')

def Parallel (R : α → β → Prop) (x : Typing α) (y : Typing β) : Prop :=
  ∀ σ σ' : Session, σ.Alike σ' → EndAlike R (x σ) (y σ')

namespace EndAlike

variable {x y : Typing α} {σ σ' : Session}

theorem outcome_eq (h : EndAlike (· = ·) (x σ) (y σ')) : outcome x σ = outcome y σ' := by
  unfold outcome
  generalize x σ = u at h
  generalize y σ' = v at h
  cases h with
  | ok hab => rw [hab]
  | error => rfl

theorem after (h : EndAlike (· = ·) (x σ) (y σ')) : (stateAfter x σ).Alike (stateAfter y σ') := by
  unfold stateAfter
  generalize x σ = u at h
  generalize y σ' = v at h
  cases h with
  | ok _ hσ | error hσ => exact hσ

end EndAlike

namespace Parallel

variable {R : α → β → Prop} {R' : α' → β' → Prop}

theorem pure {a : α} {b : β} (h : R a b) : Parallel R (pure a : Typing α) (pure b : Typing β) :=
  fun _ _ hσ => .ok h hσ

theorem throw (f : Failure) : Parallel R (throw f : Typing α) (throw f : Typing β) :=
  fun _ _ hσ => .error hσ

theorem bind {x : Typing α} {y : Typing β} {g : α → Typing α'} {g' : β → Typing β'}
    (hx : Parallel R x y) (hg : ∀ a b, R a b → Parallel R' (g a) (g' b)) :
    Parallel R' (x >>= g) (y >>= g') := by
  intro σ σ' hσ
  have hxy := hx σ σ' hσ
  generalize hu : x σ = u at hxy
  generalize hv : y σ' = v at hxy
  cases hxy with
  | ok hab hτ =>
    rw [bind_of_ok hu, bind_of_ok hv]
    exact hg _ _ hab _ _ hτ
  | error hτ =>
    rw [bind_of_error hu, bind_of_error hv]
    exact .error hτ

theorem get_bind {g g' : Session → Typing α'}
    (hg : ∀ σ σ' : Session, σ.Alike σ' → Parallel (· = ·) (g σ) (g' σ')) :
    Parallel (· = ·) (get >>= g) (get >>= g') :=
  fun σ σ' hσ => hg σ σ' hσ σ σ' hσ

end Parallel

theorem tell_parallel {event event' : Event}
    (h : event.withoutColumns = event'.withoutColumns) :
    Parallel (· = ·) (tell event) (tell event') :=
  fun _ _ hσ => .ok rfl (hσ.tell (congrArg (fun x => [x]) h))

theorem ofExcept_parallel (x : Except Failure α) :
    Parallel (· = ·) (MonadExcept.ofExcept x : Typing α) (MonadExcept.ofExcept x) := by
  cases x with
  | ok a => exact .pure rfl
  | error f => exact .throw f

theorem fetch_parallel (he : e.SameButColumns e') (oid : Oid) :
    Parallel (· = ·) (fetch e oid) (fetch e' oid) := by
  intro σ σ' hσ
  have htold (c : Catalog.Cache) : Session.Alike (σ.tell (c.eventsSince σ'.cache))
      (σ'.tell (c.eventsSince σ'.cache)) := hσ.tell rfl
  simp only [fetch, hσ.cache, Catalog.fetch_congr he]
  cases Catalog.fetch e' oid σ'.cache with
  | ok t c => exact .ok rfl ⟨rfl, hσ.registry, hσ.clock, (htold c).events⟩
  | error f c => exact .error ⟨rfl, hσ.registry, hσ.clock, (htold c).events⟩

theorem resolve_parallel (t : CatalogType) : Parallel (· = ·) (resolve s t) (resolve s t) := by
  intro σ σ' hσ
  have htold (r : Registry) : Session.Alike
      (σ.tell (r.eventsSince s.packagePath σ'.registry))
      (σ'.tell (r.eventsSince s.packagePath σ'.registry)) := hσ.tell rfl
  simp only [resolve, hσ.registry]
  cases QueryTyping.resolve s t σ'.registry with
  | ok target r => exact .ok rfl ⟨hσ.cache, rfl, hσ.clock, (htold r).events⟩
  | error f r => exact .error ⟨hσ.cache, rfl, hσ.clock, (htold r).events⟩

theorem typeOf_parallel (he : e.SameButColumns e') (oid : Oid) :
    Parallel (· = ·) (typeOf e s oid) (typeOf e' s oid) := by
  refine (fetch_parallel he oid).bind ?_
  rintro t _ rfl
  refine (resolve_parallel t).bind ?_
  rintro target _ rfl
  exact .pure rfl

theorem typeParams_parallel (he : e.SameButColumns e') (i : Nat) (used : List String)
    (params : List (String × Oid)) :
    Parallel (· = ·) (typeParams e s i used params) (typeParams e' s i used params) := by
  induction params generalizing i used with
  | nil => exact .pure rfl
  | cons p params ih =>
    rw [typeParams, typeParams]
    refine (typeOf_parallel he p.2).bind ?_
    rintro u _ rfl
    refine (ih _ _).bind ?_
    rintro inputs _ rfl
    exact .pure rfl

theorem typeColumns_parallel (he : e.SameButColumns e') (i : Nat) (idents names : List String)
    (columns : List Catalog.Column) :
    Parallel (· = ·) (typeColumns e s i idents names columns)
      (typeColumns e' s i idents names columns) := by
  induction columns generalizing i idents names with
  | nil => exact .pure rfl
  | cons c columns ih =>
    rw [typeColumns, typeColumns]
    refine (typeOf_parallel he c.oid).bind ?_
    rintro u _ rfl
    refine (ih _ _ _).bind ?_
    rintro outputs _ rfl
    exact .pure rfl

theorem prepared_alike (he : e.SameButColumns e') (hq : e.SameFor e' q)
    (earlier : List Catalog.Call) :
    (∃ fault, e.prepare earlier q.sql = .error fault ∧ e'.prepare earlier q.sql = .error fault) ∨
      ∃ st st', e.prepare earlier q.sql = .ok st ∧ e'.prepare earlier q.sql = .ok st' ∧
        st.params = st'.params ∧ columnsFor q st.columns = columnsFor q st'.columns := by
  have hparams := he.params earlier q.sql
  cases hst : e.prepare earlier q.sql with
  | error fault =>
    rw [hst] at hparams
    exact .inl ⟨fault, rfl, map_except_error hparams.symm⟩
  | ok st =>
    rw [hst] at hparams
    obtain ⟨st', hst', hparams'⟩ := exists_of_map_eq_ok hparams.symm
    refine .inr ⟨st, st', rfl, hst', hparams'.symm, ?_⟩
    rcases hq with hexec | hsame
    · rw [columnsFor, columnsFor, hexec]
    · rw [← hsame earlier, hst] at hst'
      rw [Except.ok.inj hst']

theorem prepare_parallel (he : e.SameButColumns e') (hq : e.SameFor e' q) (limit : Option Nat) :
    Parallel (fun st st' => st.params = st'.params ∧ columnsFor q st.columns =
      columnsFor q st'.columns) (prepare e limit q) (prepare e' limit q) := by
  intro σ σ' hσ
  have hcalls : σ.calls = σ'.calls := by rw [Session.calls, Session.calls, hσ.cache]
  have hafter (clock : Clock) : Session.Alike
      { σ with cache := { σ.cache with calls := σ'.calls ++ [.prepare q.sql] }, clock := clock }
      { σ' with
        cache := { σ'.cache with calls := σ'.calls ++ [.prepare q.sql] }, clock := clock } :=
    ⟨by rw [hσ.cache], hσ.registry, rfl, hσ.events⟩
  simp only [prepare, hcalls, hσ.clock, he.latency]
  rcases prepared_alike he hq σ'.calls with ⟨fault, hf, hf'⟩ | ⟨st, st', hst, hst', hsame⟩
  · rw [hf, hf']
    cases limit with
    | none => exact .error (hafter _)
    | some d =>
      dsimp only
      split <;> exact .error (hafter _)
  · rw [hst, hst']
    cases limit with
    | none => exact .ok hsame (hafter _)
    | some d =>
      dsimp only
      split
      · exact .error (hafter _)
      · exact .ok hsame (hafter _)

theorem typeQuery_parallel (he : e.SameButColumns e') (hq : e.SameFor e' q) (limit : Option Nat) :
    Parallel (· = ·) (typeQuery e s limit q) (typeQuery e' s limit q) := by
  refine (prepare_parallel he hq limit).bind ?_
  rintro st st' ⟨hparams, hcolumns⟩
  rw [hparams, hcolumns]
  have htell : Parallel (· = ·)
      (tell (.prepared q.name st'.params.length st.columns.length))
      (tell (.prepared q.name st'.params.length st'.columns.length)) := tell_parallel rfl
  refine htell.bind fun _ _ _ => ?_
  dsimp only
  split
  · exact (Parallel.throw (R := fun _ _ => False) _).bind fun _ _ h => h.elim
  · refine (ofExcept_parallel _).bind ?_
    rintro columns _ rfl
    refine (typeParams_parallel he 0 [] _).bind ?_
    rintro inputs _ rfl
    refine (typeColumns_parallel he 0 [] [] columns).bind ?_
    rintro outputs _ rfl
    exact .pure rfl

theorem typeQueries_parallel (he : e.SameButColumns e') {qs : List SourceQuery}
    (hqs : ∀ q ∈ qs, e.SameFor e' q) :
    Parallel (· = ·) (typeQueries e s qs) (typeQueries e' s qs) := by
  induction qs with
  | nil => exact .pure rfl
  | cons q qs ih =>
    obtain ⟨hq, hqs⟩ := List.forall_mem_cons.1 hqs
    refine (typeQuery_parallel he hq s.deadline).bind ?_
    rintro t _ rfl
    refine (tell_parallel rfl).bind fun _ _ _ => ?_
    refine (ih hqs).bind ?_
    rintro ts _ rfl
    exact .pure rfl

theorem generation_parallel (he : e.SameButColumns e') {qs : List SourceQuery}
    (hqs : ∀ q ∈ qs, e.SameFor e' q) :
    Parallel (· = ·) (generation e s qs) (generation e' s qs) := by
  refine (typeQueries_parallel he hqs).bind ?_
  rintro ts _ rfl
  refine Parallel.get_bind fun σ σ' hσ => ?_
  have hstats : σ.stats ts.length = σ'.stats ts.length := by
    rw [Session.stats, Session.stats, hσ.cache, hσ.registry]
  rw [hstats, hσ.registry]
  exact (tell_parallel rfl).bind fun _ _ _ => .pure rfl

theorem typeQuery_of_exec {limit : Option Nat} {st : Catalog.Statement} {σ σ₁ : Session}
    (hq : q.kind = .exec) (h : prepare e limit q σ = .ok st σ₁)
    (hl : st.params.length = q.paramNames.length) :
    typeQuery e s limit q σ =
      ((fun inputs => ⟨q.name, q.sql, q.kind, inputs, []⟩) <$>
        typeParams e s 0 [] (q.paramNames.zip st.params)) (told q st σ₁) := by
  have hcolumns : columnsFor q st.columns = .ok [] := columnsFor_eq_ok_iff.2 (.inl ⟨hq, rfl⟩)
  have hnil : typeColumns e s 0 [] [] [] = pure [] := rfl
  rw [typeQuery_of_prepare h, if_neg (not_not.2 hl), hcolumns, map_eq_pure_bind]
  simp only [typeShape, hnil, pure_bind]

end Typing

theorem generate_ignores_columns {e e' : Engine} (he : e.SameButColumns e') (s : Settings)
    {qs : List SourceQuery} (hqs : ∀ q ∈ qs, e.SameFor e' q) :
    Typing.EndAlike (· = ·) (generate e s qs) (generate e' s qs) :=
  Typing.generation_parallel he hqs .empty .empty (.refl _)

theorem exec_ignores_columns {e e' : Engine} (he : e.SameButColumns e') (s : Settings)
    (limit : Option Nat) {q : SourceQuery} (hq : q.kind = .exec) {σ σ' : Session}
    (hσ : σ.Alike σ') :
    outcome (typeQuery e s limit q) σ = outcome (typeQuery e' s limit q) σ' ∧
      (σ.after e s limit q).Alike (σ'.after e' s limit q) ∧
      ∀ st σ₁, Typing.prepare e limit q σ = .ok st σ₁ →
        st.params.length = q.paramNames.length →
          typeQuery e s limit q σ =
            ((fun inputs => ⟨q.name, q.sql, q.kind, inputs, []⟩) <$>
              Typing.typeParams e s 0 [] (q.paramNames.zip st.params)) (Typing.told q st σ₁) := by
  have hends := Typing.typeQuery_parallel he (s := s) (.inl hq) limit σ σ' hσ
  exact ⟨hends.outcome_eq, hends.after, fun st σ₁ => Typing.typeQuery_of_exec hq⟩

namespace Diary

def cleared : Catalog.Snapshot where
  statements := [⟨"DELETE day", ⟨[⟨16401⟩], [⟨"node", ⟨16421⟩, none⟩, ⟨"lost", ⟨16499⟩, none⟩]⟩,
    none, none⟩]
  types := circle.types
  lostAfter := none

def clear : SourceQuery :=
  ⟨"Clear", "DELETE day", ["felt"], .exec⟩

def bare : Engine :=
  cleared.engine.withColumns fun _ _ => []

set_option maxRecDepth 4000 in
theorem outcome_clear : outcome (typeQuery bare settings none clear) .empty =
    .ok ⟨"Clear", "DELETE day", .exec, [⟨"felt", "felt", moodType, moodTarget, false⟩], []⟩ := by
  cbv

end Diary

theorem exec_ignores_columns_clear :
    outcome (typeQuery Diary.cleared.engine Diary.settings none Diary.clear) .empty =
        .ok ⟨"Clear", "DELETE day", .exec,
          [⟨"felt", "felt", Diary.moodType, Diary.moodTarget, false⟩], []⟩ ∧
      Session.Alike
        (Session.after Diary.cleared.engine Diary.settings none .empty Diary.clear)
        (Session.after Diary.bare Diary.settings none .empty Diary.clear) := by
  have hsame := Diary.cleared.engine.sameButColumns_withColumns fun _ _ => []
  obtain ⟨houtcome, hafter, -⟩ :=
    exec_ignores_columns hsame Diary.settings none (q := Diary.clear) rfl (.refl .empty)
  exact ⟨houtcome.trans Diary.outcome_clear, hafter⟩

end QueryTyping
