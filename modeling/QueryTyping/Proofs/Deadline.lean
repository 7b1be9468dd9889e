import QueryTyping.Proofs.Entries
import QueryTyping.Proofs.Faults

namespace QueryTyping

open Catalog (Answered Call Engine prepared)

def Settings.withDeadline (s : Settings) (deadline : Option Nat) : Settings :=
  { s with deadline := deadline }

variable {e : Engine} {s : Settings} {deadline : Option Nat} {α β : Type}

namespace Resolution

theorem claimLabels_withDeadline (h : Catalog.Head) (enumName : String) (i : Nat)
    (labels : List String) : claimLabels (s.withDeadline deadline) h enumName i labels =
      claimLabels s h enumName i labels := by
  induction labels generalizing i with
  | nil => rfl
  | cons label labels ih =>
    rw [claimLabels, claimLabels, ih]
    rfl

theorem resolveFields_withDeadline {fields : List (String × CatalogType)}
    (h : ∀ f ∈ fields, ∀ visiting, resolveIn (s.withDeadline deadline) visiting f.2 =
      resolveIn s visiting f.2) (visiting : List (Oid × String)) (i : Nat) (used : List String) :
    resolveFields (s.withDeadline deadline) visiting i used fields =
      resolveFields s visiting i used fields := by
  induction fields generalizing i used with
  | nil => rw [resolveFields, resolveFields]
  | cons f fields ih =>
    obtain ⟨hf, hfields⟩ := List.forall_mem_cons.1 h
    rw [resolveFields, resolveFields, hf]
    simp only [ih hfields]
    rfl

theorem resolveIn_withDeadline (visiting : List (Oid × String)) (t : CatalogType) :
    resolveIn (s.withDeadline deadline) visiting t = resolveIn s visiting t := by
  induction t generalizing visiting with
  | scalar | pseudo =>
    rw [resolveIn, resolveIn]
    rfl
  | enum h labels =>
    rw [resolveIn, resolveIn]
    simp only [claimLabels_withDeadline]
    rfl
  | composite h fields ih =>
    rw [resolveIn, resolveIn]
    simp only [resolveFields_withDeadline ih]
    rfl
  | domain h base ih | array h base ih =>
    rw [resolveIn, resolveIn]
    simp only [ih]
    rfl

end Resolution

namespace Typing

theorem typeOf_withDeadline (oid : Oid) :
    typeOf e (s.withDeadline deadline) oid = typeOf e s oid := by
  have hresolve (t : CatalogType) : resolve (s.withDeadline deadline) t = resolve s t := by
    funext σ
    rw [resolve, resolve, QueryTyping.resolve, QueryTyping.resolve,
      Resolution.resolveIn_withDeadline]
    rfl
  simp only [typeOf, hresolve]

theorem typeParams_withDeadline (i : Nat) (used : List String) (params : List (String × Oid)) :
    typeParams e (s.withDeadline deadline) i used params = typeParams e s i used params := by
  induction params generalizing i used with
  | nil => rfl
  | cons p params ih =>
    rw [typeParams, typeParams, typeOf_withDeadline]
    simp only [ih]
    rfl

theorem typeColumns_withDeadline (i : Nat) (idents names : List String)
    (columns : List Catalog.Column) :
    typeColumns e (s.withDeadline deadline) i idents names columns =
      typeColumns e s i idents names columns := by
  induction columns generalizing i idents names with
  | nil => rfl
  | cons column columns ih =>
    rw [typeColumns, typeColumns]
    simp only [ih, typeOf_withDeadline]
    rfl

theorem typeQuery_withDeadline (limit : Option Nat) (q : SourceQuery) :
    typeQuery e (s.withDeadline deadline) limit q = typeQuery e s limit q := by
  simp only [typeQuery, typeParams_withDeadline, typeColumns_withDeadline]

end Typing

namespace Catalog

variable {earlier calls calls' : List Call}

def Engine.sleep (e : Engine) (earlier : List Call) : Call → Nat
  | .prepare sql => (e.latency earlier sql).getD 0
  | .header _ | .labels _ | .fields _ => 0

def Engine.slept (e : Engine) (earlier : List Call) : List Call → Nat
  | [] => 0
  | call :: calls => e.sleep earlier call + e.slept (earlier ++ [call]) calls

theorem slept_append : e.slept earlier (calls ++ calls') =
    e.slept earlier calls + e.slept (earlier ++ calls) calls' := by
  induction calls generalizing earlier with
  | nil => simp [Engine.slept]
  | cons call calls ih => simp [Engine.slept, ih, Nat.add_assoc]

theorem slept_of_prepared (h : prepared calls = []) : e.slept earlier calls = 0 := by
  induction calls generalizing earlier with
  | nil => rfl
  | cons call calls ih =>
    rw [prepared] at h
    cases call with
    | prepare sql => exact absurd h (List.cons_ne_nil _ _)
    | header | labels | fields => exact (Nat.zero_add _).trans (ih h)

theorem Answered.isPrefix (h : Answered e calls calls') : calls <+: calls' := by
  induction h with
  | refl => exact List.prefix_refl _
  | call _ _ ih => exact ih.trans (List.prefix_append _ _)

end Catalog

theorem Verdict.isPrefix {qs : List SourceQuery} {f : Failure} {calls calls' : List Call}
    (h : Verdict e qs calls f calls') : calls <+: calls' := by
  cases h with
  | own h _ => exact h.isPrefix
  | fault h _ _ => exact h.isPrefix.trans (List.prefix_append _ _)

def Leads {ε σ : Type} (R : σ → σ → Prop) (x : EStateM ε σ α) : Prop :=
  ∀ s, R s (stateAfter x s)

namespace Leads

variable {ε σ : Type} {R : σ → σ → Prop} {x : EStateM ε σ α} {f : α → EStateM ε σ β}

theorem of_map {g : α → β} (h : Leads R (g <$> x)) : Leads R x := by
  intro s
  have hs := h s
  rwa [stateAfter_map] at hs

variable [Std.Refl R]

theorem pure (a : α) : Leads R (pure a : EStateM ε σ α) :=
  Std.Refl.refl

theorem throw (fault : ε) : Leads R (throw fault : EStateM ε σ α) :=
  Std.Refl.refl

theorem after_bind (x : EStateM ε σ α) (hf : ∀ a, Leads R (f a)) (s : σ) :
    R (stateAfter x s) (stateAfter (x >>= f) s) := by
  cases hx : x s with
  | ok a s₁ =>
    rw [stateAfter_of_ok hx, stateAfter_bind_of_ok hx]
    exact hf a s₁
  | error fault s₁ =>
    rw [stateAfter_of_error hx, stateAfter_bind_of_error hx]
    exact Std.Refl.refl s₁

variable [Trans R R R]

theorem bind (hx : Leads R x) (hf : ∀ a, Leads R (f a)) : Leads R (x >>= f) :=
  fun s => Trans.trans (hx s) (after_bind x hf s)

theorem mapM (hf : ∀ a, Leads R (f a)) (l : List α) : Leads R (l.mapM f) := by
  induction l with
  | nil => exact .pure []
  | cons a l ih =>
    rw [List.mapM_cons]
    exact (hf a).bind fun b => ih.bind fun bs => .pure (b :: bs)

end Leads

namespace Session

variable {σ σ' σ'' : Session}

def Onward (e : Engine) (σ σ' : Session) : Prop :=
  ∃ calls, σ'.calls = σ.calls ++ calls ∧ σ'.clock.now = σ.clock.now + e.slept σ.calls calls

structure Idle (σ σ' : Session) : Prop where
  clock : σ'.clock = σ.clock
  calls : σ.calls <+: σ'.calls
  sqls : prepared σ'.calls = prepared σ.calls

theorem Onward.trans (h : Onward e σ σ') (h' : Onward e σ' σ'') : Onward e σ σ'' := by
  obtain ⟨calls, hcalls, hnow⟩ := h
  obtain ⟨calls', hcalls', hnow'⟩ := h'
  refine ⟨calls ++ calls', by rw [hcalls', hcalls, List.append_assoc], ?_⟩
  rw [hnow', hnow, hcalls, Catalog.slept_append, Nat.add_assoc]

theorem Onward.isPrefix (h : Onward e σ σ') : σ.calls <+: σ'.calls := by
  obtain ⟨calls, hcalls, -⟩ := h
  exact ⟨calls, hcalls.symm⟩

theorem Onward.now_le (h : Onward e σ σ') : σ.clock.now ≤ σ'.clock.now := by
  obtain ⟨calls, -, hnow⟩ := h
  omega

theorem Idle.refl (σ : Session) : σ.Idle σ :=
  ⟨rfl, List.prefix_refl _, rfl⟩

theorem Idle.trans (h : σ.Idle σ') (h' : σ'.Idle σ'') : σ.Idle σ'' :=
  ⟨h'.clock.trans h.clock, h.calls.trans h'.calls, h'.sqls.trans h.sqls⟩

instance : Std.Refl Idle :=
  ⟨Idle.refl⟩

instance : Trans Idle Idle Idle :=
  ⟨Idle.trans⟩

theorem Idle.onward (e : Engine) (h : σ.Idle σ') : Onward e σ σ' := by
  obtain ⟨calls, hcalls⟩ := h.calls
  have hprepared : prepared calls = [] := by
    have hp := h.sqls
    rw [← hcalls, prepared, prepared, List.filterMap_append] at hp
    exact List.append_right_eq_self.1 hp
  exact ⟨calls, hcalls.symm, by rw [h.clock, Catalog.slept_of_prepared hprepared]; rfl⟩

instance (e : Engine) : Std.Refl (Onward e) :=
  ⟨fun σ => (Idle.refl σ).onward e⟩

instance (e : Engine) : Trans (Onward e) (Onward e) (Onward e) :=
  ⟨Onward.trans⟩

end Session

namespace Typing

open Session (Idle Onward)

theorem fetch_idle (oid : Oid) : Leads Idle (fetch e oid) := by
  intro σ
  have hlooks := Catalog.fetchIn_looksUp e [] (prepared σ.cache.calls) [] oid σ.cache rfl
  refine Ends.after (fetch_ends (hlooks.mono ?_ ?_))
  · rintro t c ⟨hp, ha⟩
    exact ⟨rfl, ha.isPrefix, hp⟩
  · rintro f c ⟨hp, hf⟩
    exact ⟨rfl, hf.isPrefix, hp⟩

theorem resolve_idle (t : CatalogType) : Leads Idle (resolve s t) := by
  intro σ
  rw [stateAfter, resolve]
  dsimp only
  cases QueryTyping.resolve s t σ.registry with
  | ok target r => exact ⟨rfl, List.prefix_refl _, rfl⟩
  | error f r => exact ⟨rfl, List.prefix_refl _, rfl⟩

theorem typeOf_idle (oid : Oid) : Leads Idle (typeOf e s oid) :=
  (fetch_idle oid).bind fun t => (resolve_idle t).bind fun target => .pure (t, target)

theorem typeShape_idle (q : SourceQuery) (params : List (String × Oid))
    (columns : List Catalog.Column) : Leads Idle (typeShape e s q params columns) := by
  refine .of_map (g := TypedQuery.uses) ?_
  rw [uses_typeShape]
  exact .mapM typeOf_idle _

theorem tell_idle (event : Event) : Leads Idle (tell event) :=
  fun _ => ⟨rfl, List.prefix_refl _, rfl⟩

theorem ofExcept_idle (x : Except Failure α) :
    Leads Idle (MonadExcept.ofExcept x : Typing α) := by
  cases x with
  | ok a => exact .pure a
  | error f => exact .throw f

/-- What becomes of `x` in a run that has to end at the time `d`: it stays as it is, or it is cut
short there. -/
structure Limits (e : Engine) (d : Nat) (x y : Typing α) : Prop where
  onward : Leads (Onward e) x
  cut : ∀ σ, σ.clock.now ≤ d → y σ = x σ ∧ (stateAfter x σ).clock.now ≤ d ∨
    d ≤ (stateAfter x σ).clock.now ∧
      ∃ σ', y σ = .error (.deadlineExceeded d) σ' ∧ σ'.calls <+: (stateAfter x σ).calls

namespace Limits

variable {d : Nat} {x y : Typing α} {f g : α → Typing β}

theorem of_idle (h : Leads Idle x) : Limits e d x x where
  onward σ := (h σ).onward e
  cut σ hσ := .inl ⟨rfl, by rw [(h σ).clock]; exact hσ⟩

theorem pure (a : α) : Limits e d (pure a) (pure a) :=
  of_idle (.pure a)

theorem bind (h : Limits e d x y) (hf : ∀ a, Limits e d (f a) (g a)) :
    Limits e d (x >>= f) (y >>= g) where
  onward := h.onward.bind fun a => (hf a).onward
  cut σ hσ := by
    rcases h.cut σ hσ with ⟨hy, hnow⟩ | ⟨hd, σ', hy, hcalls⟩
    · cases hx : x σ with
      | ok a σ₁ =>
        rw [stateAfter_of_ok hx] at hnow
        rw [bind_of_ok hx, bind_of_ok (hy.trans hx), stateAfter_bind_of_ok hx]
        exact (hf a).cut σ₁ hnow
      | error fault σ₁ =>
        rw [stateAfter_of_error hx] at hnow
        rw [bind_of_error hx, bind_of_error (hy.trans hx), stateAfter_bind_of_error hx]
        exact .inl ⟨rfl, hnow⟩
    · -- without the limit the run goes on from here, which adds to its calls and to its time
      have hrest := Leads.after_bind x (fun a => (hf a).onward) σ
      exact .inr ⟨hd.trans hrest.now_le, σ', bind_of_error hy, hcalls.trans hrest.isPrefix⟩

end Limits

def afterPrepare (e : Engine) (q : SourceQuery) (σ : Session) : Session :=
  { σ with
    cache := { σ.cache with calls := σ.calls ++ [.prepare q.sql] }
    clock := (e.latency σ.calls q.sql).elim σ.clock σ.clock.sleep }

theorem onward_afterPrepare (e : Engine) (q : SourceQuery) (σ : Session) :
    Onward e σ (afterPrepare e q σ) := by
  refine ⟨[.prepare q.sql], rfl, ?_⟩
  rw [afterPrepare]
  dsimp only
  cases h : e.latency σ.calls q.sql with
  | none => simp [Engine.slept, Engine.sleep, h]
  | some ms => simp [Engine.slept, Engine.sleep, h]

theorem stateAfter_prepare (q : SourceQuery) (σ : Session) :
    stateAfter (prepare e none q) σ = afterPrepare e q σ := by
  rw [stateAfter, prepare]
  dsimp only
  cases e.prepare σ.calls q.sql <;> rfl

theorem prepare_some (d : Nat) (q : SourceQuery) (σ : Session) : prepare e (some d) q σ =
    if (afterPrepare e q σ).clock.exceeds d then .error (.deadlineExceeded d) (afterPrepare e q σ)
    else prepare e none q σ :=
  rfl

theorem prepare_limits {d : Nat} (q : SourceQuery) :
    Limits e d (prepare e none q) (prepare e (some d) q) where
  onward σ := by
    rw [stateAfter_prepare]
    exact onward_afterPrepare e q σ
  cut σ hσ := by
    rw [stateAfter_prepare, prepare_some]
    by_cases h : (afterPrepare e q σ).clock.exceeds d = true
    · rw [if_pos h]
      refine .inr ⟨Nat.le_of_not_lt fun hlt => ?_, _, rfl, List.prefix_refl _⟩
      rw [Clock.not_exceeds_of_lt hlt] at h
      exact nomatch h
    · rw [if_neg h]
      exact .inl ⟨rfl, Nat.le_of_not_lt fun hlt => h (Clock.exceeds_of_lt hlt)⟩

theorem typeQuery_limits {d : Nat} (q : SourceQuery) :
    Limits e d (typeQuery e s none q) (typeQuery e s (some d) q) := by
  refine (prepare_limits q).bind fun st => .of_idle ?_
  refine (tell_idle _).bind fun _ => ?_
  have hrest : Leads Idle (do
      let columns ← MonadExcept.ofExcept (columnsFor q st.columns)
      typeShape e s q (q.paramNames.zip st.params) columns) :=
    (ofExcept_idle _).bind fun columns => typeShape_idle q _ columns
  dsimp only
  split
  · exact (Leads.throw _).bind fun _ => hrest
  · exact hrest

theorem typeQueries_limits {d : Nat} (qs : List SourceQuery) :
    Limits e d (typeQueries e (s.withDeadline none) qs)
      (typeQueries e (s.withDeadline (some d)) qs) := by
  induction qs with
  | nil => exact .pure []
  | cons q qs ih =>
    rw [typeQueries, typeQueries, typeQuery_withDeadline, typeQuery_withDeadline]
    refine (typeQuery_limits q).bind fun t => (Limits.of_idle (tell_idle _)).bind fun _ => ?_
    exact ih.bind fun ts => .pure (t :: ts)

end Typing

theorem generation_limits (s : Settings) (qs : List SourceQuery) (d : Nat) :
    Typing.Limits e d (generation e (s.withDeadline none) qs)
      (generation e (s.withDeadline (some d)) qs) := by
  refine (Typing.typeQueries_limits qs).bind fun ts => .of_idle ?_
  refine Leads.bind (fun σ => .refl σ) fun σ => ?_
  exact (Typing.tell_idle _).bind fun _ => .pure _

/-- A run that sleeps for less time than the deadline gives it is what it is without a deadline. One
that would sleep longer fails with the deadline, and has asked nothing else until then. -/
theorem generate_withDeadline (e : Engine) (s : Settings) (qs : List SourceQuery) (d : Nat) :
    let calls := (sessionAfter e (s.withDeadline none) qs).calls
    (e.slept [] calls < d →
      generate e (s.withDeadline (some d)) qs = generate e (s.withDeadline none) qs) ∧
    (d < e.slept [] calls →
      ∃ σ, generate e (s.withDeadline (some d)) qs = .error (.deadlineExceeded d) σ ∧
        σ.calls <+: calls) := by
  intro calls
  have hlimits := generation_limits (e := e) s qs d
  obtain ⟨later, hlater, hnow⟩ := hlimits.onward .empty
  have hcalls : later = calls := (List.nil_append later).symm.trans hlater.symm
  have hslept : (stateAfter (generation e (s.withDeadline none) qs) .empty).clock.now =
      e.slept [] calls := by
    rw [← hcalls, hnow]
    exact Nat.zero_add _
  rcases hlimits.cut .empty (Nat.zero_le d) with ⟨hsame, hle⟩ | ⟨hle, hcut⟩
  · rw [hslept] at hle
    exact ⟨fun _ => hsame, fun hlt => absurd hlt (Nat.not_lt.2 hle)⟩
  · rw [hslept] at hle
    exact ⟨fun hlt => absurd hlt (Nat.not_lt.2 hle), fun _ => hcut⟩

namespace Diary

def slow : Catalog.Snapshot where
  statements := [
    ⟨"DELETE FROM days", ⟨[], []⟩, none, some 30⟩,
    ⟨"DELETE FROM moods WHERE id = $1", ⟨[⟨23⟩], []⟩, none, some 50⟩]
  types := []
  lostAfter := none

def forget : List SourceQuery :=
  [⟨"ForgetDays", "DELETE FROM days", [], .exec⟩,
    ⟨"ForgetMood", "DELETE FROM moods WHERE id = $1", ["id"], .exec⟩]

set_option maxRecDepth 4000 in
theorem slept_forget : slow.engine.slept []
    (sessionAfter slow.engine (settings.withDeadline none) forget).calls = 80 := by
  cbv

end Diary

theorem generate_withDeadline_forget :
    let e := Diary.slow.engine
    let s := Diary.settings
    let calls := (sessionAfter e (s.withDeadline none) Diary.forget).calls
    e.slept [] calls = 80 ∧
      generate e (s.withDeadline (some 81)) Diary.forget =
        generate e (s.withDeadline none) Diary.forget ∧
      ∃ σ, generate e (s.withDeadline (some 79)) Diary.forget =
        .error (.deadlineExceeded 79) σ ∧ σ.calls <+: calls := by
  intro e s calls
  have hslept : e.slept [] calls = 80 := Diary.slept_forget
  refine ⟨hslept, ?_, ?_⟩
  · exact (generate_withDeadline e s Diary.forget 81).1 (by rw [hslept]; decide)
  · exact (generate_withDeadline e s Diary.forget 79).2 (by rw [hslept]; decide)

end QueryTyping
