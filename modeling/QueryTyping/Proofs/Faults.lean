import QueryTyping.Proofs.Uses

namespace QueryTyping

open Catalog (Call Engine EngineFault)

namespace Catalog

def Call.oid? : Call → Option Oid
  | prepare _ => none
  | header oid | labels oid | fields oid => some oid

def Call.sql? : Call → Option String
  | prepare sql => some sql
  | header _ | labels _ | fields _ => none

def prepared (calls : List Call) : List String :=
  calls.filterMap Call.sql?

def faultOf : Except EngineFault α → Option EngineFault
  | .ok _ => none
  | .error f => some f

def Engine.fault? (e : Engine) (earlier : List Call) : Call → Option EngineFault
  | .prepare sql => faultOf (e.prepare earlier sql)
  | .header oid => faultOf (e.header earlier oid)
  | .labels oid => faultOf (e.labels earlier oid)
  | .fields oid => faultOf (e.fields earlier oid)

inductive Answered (e : Engine) (earlier : List Call) : List Call → Prop where
  | refl : Answered e earlier earlier
  | call {later : List Call} {call : Call} : Answered e earlier later →
    e.fault? later call = none → Answered e earlier (later ++ [call])

namespace Answered

variable {e : Engine} {before calls calls' calls'' : List Call} {call : Call}

theorem trans (h : Answered e calls calls') (h' : Answered e calls' calls'') :
    Answered e calls calls'' := by
  induction h' with
  | refl => exact h
  | call _ hcall ih => exact ih.call hcall

theorem fault?_eq_none (h : Answered e [] calls) (hp : before ++ [call] <+: calls) :
    e.fault? before call = none := by
  induction h with
  | refl => simp at hp
  | @call calls last _ hlast ih =>
    rcases List.prefix_concat_iff.1 hp with heq | hp
    · obtain ⟨rfl, rfl⟩ : before = calls ∧ call = last := by simpa using heq
      exact hlast
    · exact ih hp

end Answered

end Catalog

open Catalog (Answered prepared)

def Failure.isEngine : Failure → Bool
  | connection _ | unprepared .. | unknownType .. => true
  | noRows .. | paramCount .. | unmapped _ | nameCollision .. | cycle _ | invalidOverride ..
  | invalidAcronym _ | deadlineExceeded _ => false

/-- What a run over the queries `qs` makes of the fault of a call. As many statements have been
prepared as there are queries before the one at hand. -/
inductive Blames (qs : List SourceQuery) (earlier : List Call) :
    Call → EngineFault → Failure → Prop where
  | connection (call : Call) (m : String) : Blames qs earlier call (.connection m) (.connection m)
  | unprepared {q : SourceQuery} (m : String) : qs[(prepared earlier).length]? = some q →
    Blames qs earlier (.prepare q.sql) (.rejected m) (.unprepared q.name m)
  | unknownType {call : Call} {oid : Oid} (m : String) : call.oid? = some oid →
    Blames qs earlier call (.rejected m) (.unknownType oid m)

inductive Verdict (e : Engine) (qs : List SourceQuery) (earlier : List Call) (f : Failure) :
    List Call → Prop where
  | own {later : List Call} : Answered e earlier later → f.isEngine = false →
    Verdict e qs earlier f later
  | fault {later : List Call} {call : Call} {fault : EngineFault} : Answered e earlier later →
    e.fault? later call = some fault → Blames qs later call fault f →
      Verdict e qs earlier f (later ++ [call])

theorem Verdict.after {e : Engine} {qs : List SourceQuery} {calls calls' calls'' : List Call}
    {f : Failure} (ha : Answered e calls calls') (h : Verdict e qs calls' f calls'') :
    Verdict e qs calls f calls'' := by
  cases h with
  | own h hf => exact .own (ha.trans h) hf
  | fault h hfault hblames => exact .fault (ha.trans h) hfault hblames

def Reports (e : Engine) (qs : List SourceQuery) (calls : σ → List Call) (I J : σ → Prop)
    (x : EStateM Failure σ α) : Prop :=
  ∀ s, I s → Ends x s (fun _ s' => J s' ∧ Answered e (calls s) (calls s'))
    fun f s' => J s' ∧ Verdict e qs (calls s) f (calls s')

namespace Reports

variable {σ α β : Type} {e : Engine} {qs : List SourceQuery} {calls : σ → List Call}
  {I J : σ → Prop} {x : EStateM Failure σ α}

theorem of_quiet (h : ∀ s, I s → Ends x s (fun _ s' => I s' ∧ calls s' = calls s)
    fun f s' => (I s' ∧ calls s' = calls s) ∧ f.isEngine = false) : Reports e qs calls I I x := by
  intro s hs
  refine (h s hs).mono ?_ ?_
  · rintro a s' ⟨hs', hcalls⟩
    rw [hcalls]
    exact ⟨hs', .refl⟩
  · rintro f s' ⟨⟨hs', hcalls⟩, hf⟩
    rw [hcalls]
    exact ⟨hs', .own .refl hf⟩

theorem pure (a : α) : Reports e qs calls I I (pure a) :=
  of_quiet fun _ hs => Ends.pure ⟨hs, rfl⟩

theorem throw {f : Failure} (hf : f.isEngine = false) :
    Reports e qs calls I I (throw f : EStateM Failure σ α) :=
  of_quiet fun _ hs => Ends.throw ⟨⟨hs, rfl⟩, hf⟩

theorem bind {g : α → EStateM Failure σ β} (hx : Reports e qs calls I J x)
    (hg : ∀ a, Reports e qs calls J J (g a)) : Reports e qs calls I J (x >>= g) := by
  intro s hs
  refine Ends.bind (hx s hs) ?_ fun _ _ h => h
  rintro a s₁ ⟨hs₁, ha⟩
  refine (hg a s₁ hs₁).mono ?_ ?_
  · rintro b s₂ ⟨hs₂, hb⟩
    exact ⟨hs₂, ha.trans hb⟩
  · rintro f s₂ ⟨hs₂, hf⟩
    exact ⟨hs₂, hf.after ha⟩

theorem bind_get {g : σ → EStateM Failure σ β} (hg : ∀ s, Reports e qs calls I J (g s)) :
    Reports e qs calls I J (get >>= g) :=
  fun s hs => Ends.bind_get (hg s s hs)

theorem mapM {f : α → EStateM Failure σ β} (hf : ∀ a, Reports e qs calls I I (f a))
    (l : List α) : Reports e qs calls I I (l.mapM f) := by
  induction l with
  | nil => exact .pure []
  | cons a l ih =>
    rw [List.mapM_cons]
    exact (hf a).bind fun b => ih.bind fun bs => .pure (b :: bs)

theorem of_map {f : α → β} (h : Reports e qs calls I J (f <$> x)) : Reports e qs calls I J x :=
  fun s hs => Ends.of_map (h s hs)

end Reports

namespace Catalog

variable {e : Engine} {qs : List SourceQuery} {sqls : List String} {oid : Oid}

def LooksUp (e : Engine) (qs : List SourceQuery) (sqls : List String) (x : Fetch α) : Prop :=
  Reports e qs Cache.calls (fun c => prepared c.calls = sqls) (fun c => prepared c.calls = sqls) x

theorem remember_looksUp (t : CatalogType) : LooksUp e qs sqls (remember t) :=
  .of_quiet fun _ hc => ⟨hc, rfl⟩

theorem ask_looksUp {call : Call} {answer : List Call → Except EngineFault α}
    (hoid : call.oid? = some oid) (hfault : ∀ calls, e.fault? calls call = faultOf (answer calls)) :
    LooksUp e qs sqls (ask call answer (.ofLookup oid)) := by
  intro c hc
  have hsql : call.sql? = none := by
    cases call with
    | prepare sql => exact nomatch hoid
    | header | labels | fields => rfl
  have hprepared : prepared (c.calls ++ [call]) = sqls := by
    rw [prepared, List.filterMap_append, List.filterMap_cons_none hsql, ← hc]
    simp [prepared]
  unfold Ends
  cases h : answer c.calls with
  | ok a =>
    rw [ask_of_ok h]
    exact ⟨hprepared, .call .refl (by rw [hfault, h]; rfl)⟩
  | error fault =>
    rw [ask_of_error h]
    refine ⟨hprepared, .fault .refl (by rw [hfault, h]; rfl) ?_⟩
    cases fault with
    | connection m => exact .connection call m
    | rejected m => exact .unknownType m hoid

theorem assemble_looksUp {next : Oid → Fetch CatalogType}
    (hnext : ∀ oid, LooksUp e qs sqls (next oid)) (head : Head) (shape : TypeClass) :
    LooksUp e qs sqls
      (assemble (askLabels e head.oid) (askFields e head.oid) next head shape) := by
  cases shape with
  | scalar => exact Reports.pure _
  | pseudo => exact Reports.pure _
  | enum => exact Reports.bind (ask_looksUp rfl fun _ => rfl) fun labels => .pure _
  | composite =>
    refine Reports.bind (ask_looksUp rfl fun _ => rfl) fun defs => ?_
    refine Reports.bind (Reports.mapM (fun d => ?_) defs) fun fields => .pure _
    exact Reports.bind (hnext d.2) fun t => .pure _
  | domain base => exact Reports.bind (hnext base) fun t => .pure _
  | array elem => exact Reports.bind (hnext elem) fun t => .pure _

theorem fetchIn_looksUp (e : Engine) (qs : List SourceQuery) (sqls : List String) (p : Path)
    (oid : Oid) : LooksUp e qs sqls (fetchIn e p oid) := by
  induction p using Path.induct generalizing oid with
  | h p ih =>
    rw [fetchIn_eq_fetchLevel, fetchLevel]
    refine Reports.bind_get fun c => ?_
    cases c.type? oid with
    | some t => exact Reports.pure t
    | none =>
      cases wellKnown? oid with
      | some t => exact remember_looksUp t
      | none =>
        refine Reports.bind (ask_looksUp rfl fun _ => rfl) fun h => ?_
        by_cases hseen : oid ∈ p.map Prod.fst
        · rw [if_pos hseen]
          exact Reports.throw rfl
        · rw [if_neg hseen]
          refine Reports.bind ?_ fun t => remember_looksUp t
          exact assemble_looksUp (ih oid h.name hseen) ⟨oid, h.name, h.schema⟩ h.shape

end Catalog

theorem Registry.Refuses.isEngine_eq_false {s : Settings} {r : Registry} {t : CatalogType}
    {f : Failure} (h : Refuses s r t f) : f.isEngine = false := by
  cases h with
  | override => rfl
  | unmapped => rfl
  | collision => rfl

structure Session.Prepared (e : Engine) (s : Settings) (sqls : List String) (σ : Session) :
    Prop where
  valid : σ.Valid e s
  prepared : prepared σ.calls = sqls

theorem Session.prepared_empty (e : Engine) (s : Settings) : Session.empty.Prepared e s [] :=
  ⟨valid_empty e s, rfl⟩

namespace Typing

open Session (Prepared)

variable {e : Engine} {s : Settings} {qs : List SourceQuery} {sqls : List String} {σ σ' : Session}
  {α : Type}

def LooksUp (e : Engine) (s : Settings) (qs : List SourceQuery) (sqls : List String)
    (x : Typing α) : Prop :=
  Reports e qs Session.calls (Prepared e s sqls) (Prepared e s sqls) x

theorem fetch_looksUp (oid : Oid) : LooksUp e s qs sqls (fetch e oid) := by
  intro σ hσ
  have hlooks := Catalog.fetchIn_looksUp e qs sqls [] oid σ.cache hσ.prepared
  have hends : Ends (fetch e oid) σ
      (fun _ σ' => prepared σ'.calls = sqls ∧ Answered e σ.calls σ'.calls)
      fun f σ' => prepared σ'.calls = sqls ∧ Verdict e qs σ.calls f σ'.calls := fetch_ends hlooks
  refine (hends.and (fetch_valid hσ.valid)).mono ?_ ?_
  · rintro t σ' ⟨⟨hp, ha⟩, hv, -⟩
    exact ⟨⟨hv, hp⟩, ha⟩
  · rintro f σ' ⟨⟨hp, hf⟩, hv⟩
    exact ⟨⟨hv, hp⟩, hf⟩

theorem typeOf_looksUp (oid : Oid) : LooksUp e s qs sqls (typeOf e s oid) := by
  intro σ hσ
  refine Ends.bind ((fetch_looksUp oid σ hσ).and (fetch_valid hσ.valid)) ?_ fun _ _ h => h.1
  rintro t σ₁ ⟨⟨hσ₁, ha⟩, -, -, ht, -⟩
  have hresolve : Ends (resolve s t) σ₁ (fun _ σ' => σ'.Prepared e s sqls ∧ σ'.calls = σ₁.calls)
      fun f σ' => (σ'.Prepared e s sqls ∧ σ'.calls = σ₁.calls) ∧ f.isEngine = false := by
    have hsettles := resolve_settles hσ₁.valid.cache.coherent ht _ hσ₁.valid.registry
    refine resolve_ends (hsettles.mono ?_ ?_)
    · rintro target r ⟨hd, -⟩
      exact ⟨⟨⟨hσ₁.valid.cache, hd.valid⟩, hσ₁.prepared⟩, rfl⟩
    · intro f r hr
      obtain ⟨u, -, hu⟩ := hr.reason
      exact ⟨⟨⟨⟨hσ₁.valid.cache, hr.valid⟩, hσ₁.prepared⟩, rfl⟩, hu.isEngine_eq_false⟩
  refine Ends.bind hresolve ?_ ?_
  · rintro target σ₂ ⟨hσ₂, hcalls⟩
    rw [← hcalls] at ha
    exact Ends.pure ⟨hσ₂, ha⟩
  · rintro f σ₂ ⟨⟨hσ₂, hcalls⟩, hf⟩
    rw [← hcalls] at ha
    exact ⟨hσ₂, .own ha hf⟩

theorem typeShape_looksUp (q : SourceQuery) (params : List (String × Oid))
    (columns : List Catalog.Column) : LooksUp e s qs sqls (typeShape e s q params columns) := by
  refine Reports.of_map (f := TypedQuery.uses) ?_
  rw [uses_typeShape]
  exact Reports.mapM typeOf_looksUp _

theorem tell_looksUp (event : Event) : LooksUp e s qs sqls (tell event) :=
  .of_quiet fun σ hσ => Ends.modify ⟨⟨hσ.valid.of_same (.of_tell σ _), hσ.prepared⟩, rfl⟩

theorem columnsFor_looksUp (q : SourceQuery) (columns : List Catalog.Column) :
    LooksUp e s qs sqls (MonadExcept.ofExcept (columnsFor q columns)) := by
  unfold columnsFor
  cases q.kind with
  | exec => exact Reports.pure _
  | _ =>
    dsimp only
    split
    · exact Reports.throw rfl
    · exact Reports.pure _

theorem prepare_reports {q : SourceQuery} (hq : qs[sqls.length]? = some q) :
    Reports e qs Session.calls (Prepared e s sqls) (Prepared e s (sqls ++ [q.sql]))
      (prepare e none q) := by
  intro σ hσ
  have hprepared : prepared (σ.calls ++ [.prepare q.sql]) = sqls ++ [q.sql] := by
    rw [← hσ.prepared]
    simp [prepared, Catalog.Call.sql?]
  have hafter (clock : Clock) : Prepared e s (sqls ++ [q.sql]) { σ with
      cache := { σ.cache with calls := σ.calls ++ [.prepare q.sql] }
      clock := clock } :=
    ⟨hσ.valid.of_same (.of_prepare σ q.sql clock), hprepared⟩
  unfold Ends prepare
  dsimp only
  cases he : e.prepare σ.calls q.sql with
  | ok st => exact ⟨hafter _, .call .refl (by rw [Engine.fault?, he]; rfl)⟩
  | error fault =>
    refine ⟨hafter _, .fault .refl (by rw [Engine.fault?, he]; rfl) ?_⟩
    cases fault with
    | connection m => exact .connection _ m
    | rejected m => exact .unprepared m (by rw [hσ.prepared]; exact hq)

theorem typeQuery_reports {q : SourceQuery} (hq : qs[sqls.length]? = some q) :
    Reports e qs Session.calls (Prepared e s sqls) (Prepared e s (sqls ++ [q.sql]))
      (typeQuery e s none q) := by
  refine (prepare_reports hq).bind fun st => ?_
  have hrest : LooksUp e s qs (sqls ++ [q.sql])
      (MonadExcept.ofExcept (columnsFor q st.columns) >>=
        typeShape e s q (q.paramNames.zip st.params)) :=
    Reports.bind (columnsFor_looksUp q st.columns) fun columns => typeShape_looksUp q _ columns
  refine Reports.bind (tell_looksUp _) fun _ => ?_
  dsimp only
  split
  · exact Reports.bind (Reports.throw rfl) fun _ => hrest
  · exact hrest

theorem getElem?_of_prefix {before : List SourceQuery} {q : SourceQuery}
    (h : before ++ [q] <+: qs) : qs[(before.map SourceQuery.sql).length]? = some q := by
  obtain ⟨rest, rfl⟩ := h
  simp

theorem typeQueries_answered (hd : s.deadline = none) (before now : List SourceQuery)
    (hqs : before ++ now <+: qs) (hσ : σ.Prepared e s (before.map SourceQuery.sql)) :
    Ends (typeQueries e s now) σ
      (fun _ σ' => σ'.Prepared e s ((before ++ now).map SourceQuery.sql) ∧
        Answered e σ.calls σ'.calls) fun _ _ => True := by
  induction now generalizing before σ with
  | nil =>
    rw [List.append_nil]
    exact Ends.pure ⟨hσ, .refl⟩
  | cons q now ih =>
    have hsqls : before.map SourceQuery.sql ++ [q.sql] = (before ++ [q]).map SourceQuery.sql := by
      simp
    have hnow : before ++ q :: now = (before ++ [q]) ++ now := by simp
    rw [hnow] at hqs ⊢
    have hq := getElem?_of_prefix ((List.prefix_append (before ++ [q]) now).trans hqs)
    have hreports := typeQuery_reports hq σ hσ
    rw [hsqls] at hreports
    rw [typeQueries, hd]
    refine Ends.bind hreports ?_ fun _ _ _ => trivial
    rintro t σ₁ ⟨hσ₁, ha₁⟩
    have htell : LooksUp e s qs ((before ++ [q]).map SourceQuery.sql)
        (tell (.typed q.name t.inputs.length t.outputs.length)) := tell_looksUp _
    refine Ends.bind (htell σ₁ hσ₁) ?_ fun _ _ _ => trivial
    rintro _ σ₂ ⟨hσ₂, ha₂⟩
    refine Ends.bind (ih (before ++ [q]) hqs hσ₂) ?_ fun _ _ _ => trivial
    rintro ts σ₃ ⟨hσ₃, ha₃⟩
    exact Ends.pure ⟨hσ₃, ha₁.trans (ha₂.trans ha₃)⟩

theorem typeQueries_eq_mapM (qs : List SourceQuery) :
    typeQueries e s qs = qs.mapM fun q => do
      let t ← typeQuery e s s.deadline q
      tell (.typed q.name t.inputs.length t.outputs.length)
      return t := by
  induction qs with
  | nil => rfl
  | cons q qs ih =>
    rw [typeQueries, ih, List.mapM_cons]
    simp

theorem typeQueries_eq_error {f : Failure} (h : typeQueries e s qs σ = .error f σ') :
    ∃ before q ts σ₁, before ++ [q] <+: qs ∧ typeQueries e s before σ = .ok ts σ₁ ∧
      typeQuery e s s.deadline q σ₁ = .error f σ' := by
  rw [typeQueries_eq_mapM] at h
  obtain ⟨before, q, ts, σ₁, hqs, hbefore, hq⟩ := mapM_eq_error h
  rw [← typeQueries_eq_mapM] at hbefore
  refine ⟨before, q, ts, σ₁, hqs, hbefore, ?_⟩
  rcases bind_eq_error.1 hq with hq | ⟨t, σ₂, -, hq⟩
  · exact hq
  · exact nomatch hq

end Typing

variable {e : Engine} {s : Settings} {qs : List SourceQuery} {g : Generation} {σ : Session}
  {f : Failure}

structure FailsAt (e : Engine) (s : Settings) (before : List SourceQuery) (q : SourceQuery)
    (f : Failure) (σ : Session) : Prop where
  fails : ∃ ts σ₁, typeQueries e s before .empty = .ok ts σ₁ ∧
    typeQuery e s s.deadline q σ₁ = .error f σ
  prepared : prepared σ.calls = (before ++ [q]).map SourceQuery.sql

theorem answered_of_generate (hd : s.deadline = none) (h : generate e s qs = .ok g σ) :
    Answered e [] σ.calls := by
  have hends : Ends (generation e s qs) .empty (fun _ σ => Answered e [] σ.calls)
      fun _ _ => True := by
    have htyped := Typing.typeQueries_answered hd [] qs (List.prefix_refl qs)
      (Session.prepared_empty e s)
    refine Ends.bind htyped ?_ fun _ _ _ => trivial
    rintro ts σ₁ ⟨-, ha⟩
    exact ha
  exact hends.of_ok h

theorem verdict_of_generate (hd : s.deadline = none) (h : generate e s qs = .error f σ) :
    Verdict e qs [] f σ.calls ∧ ∃ before q, before ++ [q] <+: qs ∧ FailsAt e s before q f σ := by
  rcases bind_eq_error.1 h with h | ⟨ts, σ₁, -, h⟩
  · obtain ⟨before, q, ts, σ₁, hqs, hbefore, hq⟩ := Typing.typeQueries_eq_error h
    have htyped := Typing.typeQueries_answered hd [] before
      ((List.prefix_append before [q]).trans hqs) (Session.prepared_empty e s)
    obtain ⟨hσ₁, ha⟩ := htyped.of_ok hbefore
    have hq' := hd ▸ hq
    obtain ⟨hσ, hverdict⟩ :=
      (Typing.typeQuery_reports (Typing.getElem?_of_prefix hqs) σ₁ hσ₁).of_error hq'
    refine ⟨hverdict.after ha, before, q, hqs, ⟨ts, σ₁, hbefore, hq⟩, ?_⟩
    rw [hσ.prepared]
    simp
  · exact nomatch h

theorem Verdict.last_of_fault {earlier calls : List Call} {call : Call} {fault : EngineFault}
    (h : Verdict e qs [] f calls) (hp : earlier ++ [call] <+: calls)
    (hf : e.fault? earlier call = some fault) :
    calls = earlier ++ [call] ∧ Blames qs earlier call fault f := by
  cases h with
  | own ha =>
    rw [ha.fault?_eq_none hp] at hf
    exact nomatch hf
  | @fault later last fault' ha hlast hblames =>
    rcases List.prefix_concat_iff.1 hp with heq | hp
    · obtain ⟨rfl, rfl⟩ : earlier = later ∧ call = last := by simpa using heq
      rw [hlast] at hf
      obtain rfl := Option.some.inj hf
      exact ⟨rfl, hblames⟩
    · rw [ha.fault?_eq_none hp] at hf
      exact nomatch hf

theorem Verdict.exists_fault {calls : List Call} (h : Verdict e qs [] f calls)
    (hf : f.isEngine = true) : ∃ earlier call fault, calls = earlier ++ [call] ∧
      e.fault? earlier call = some fault ∧ Blames qs earlier call fault f := by
  cases h with
  | own _ hown => simp [hown] at hf
  | fault _ hfault hblames => exact ⟨_, _, _, rfl, hfault, hblames⟩

structure FaultsReported (e : Engine) (s : Settings) (qs : List SourceQuery) : Prop where
  answered : ∀ g σ, generate e s qs = .ok g σ → ∀ earlier call, earlier ++ [call] <+: σ.calls →
    e.fault? earlier call = none
  last : ∀ f σ, generate e s qs = .error f σ → ∀ earlier call fault,
    earlier ++ [call] <+: σ.calls → e.fault? earlier call = some fault →
      σ.calls = earlier ++ [call] ∧ Blames qs earlier call fault f
  faulty : ∀ f σ, generate e s qs = .error f σ → f.isEngine = true → ∃ earlier call fault,
    σ.calls = earlier ++ [call] ∧ e.fault? earlier call = some fault ∧
      Blames qs earlier call fault f
  stops : ∀ f σ, generate e s qs = .error f σ → ∃ before q, before ++ [q] <+: qs ∧
    FailsAt e s before q f σ

theorem faultsReported_of_no_deadline (hd : s.deadline = none) : FaultsReported e s qs := by
  constructor
  · intro g σ h earlier call hp
    exact (answered_of_generate hd h).fault?_eq_none hp
  · intro f σ h earlier call fault hp hf
    exact (verdict_of_generate hd h).1.last_of_fault hp hf
  · intro f σ h hf
    exact (verdict_of_generate hd h).1.exists_fault hf
  · intro f σ h
    exact (verdict_of_generate hd h).2

namespace Diary

def sealed : Catalog.Snapshot where
  statements := snapshot.statements
  types := snapshot.types ++ [
    ⟨⟨16401⟩, ⟨"mood", some "public", .enum⟩, [], [], none, some (.rejected "permission denied")⟩]
  lostAfter := none

set_option maxRecDepth 4000 in
theorem generate_sealed : ∃ σ, generate sealed.engine settings [days, mood] =
    .error (.unknownType ⟨16401⟩ "permission denied") σ :=
  ⟨_, by cbv⟩

end Diary

theorem faultsReported_sealed :
    Diary.settings.deadline = none ∧
      FaultsReported Diary.sealed.engine Diary.settings [Diary.days, Diary.mood] ∧
      ∃ σ earlier call, generate Diary.sealed.engine Diary.settings [Diary.days, Diary.mood] =
          .error (.unknownType ⟨16401⟩ "permission denied") σ ∧
        σ.calls = earlier ++ [call] := by
  have hreported : FaultsReported Diary.sealed.engine Diary.settings [Diary.days, Diary.mood] :=
    faultsReported_of_no_deadline rfl
  obtain ⟨σ, h⟩ := Diary.generate_sealed
  obtain ⟨earlier, call, fault, hcalls, -, -⟩ := hreported.faulty _ σ h rfl
  exact ⟨rfl, hreported, σ, earlier, call, h, hcalls⟩

end QueryTyping
