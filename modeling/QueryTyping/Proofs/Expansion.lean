import QueryTyping.Proofs.FetchHistory
import QueryTyping.Proofs.SteadyFetch

namespace QueryTyping.Catalog

open CatalogType (nodes parts)

variable {e : Engine} {p : Path} {oid : Oid} {name : String} {c : Cache} {t : CatalogType}
  {α β : Type}

def Engine.labels? (e : Engine) (oid : Oid) : Except Failure (List String) :=
  (e.labels [] oid).mapError (.ofLookup oid)

def Engine.fields? (e : Engine) (oid : Oid) : Except Failure (List (String × Oid)) :=
  (e.fields [] oid).mapError (.ofLookup oid)

def expandIn (e : Engine) (p : Path) (oid : Oid) : Except Failure CatalogType :=
  match wellKnown? oid with
  | some t => .ok t
  | none =>
    match e.header [] oid with
    | .error f => .error (.ofLookup oid f)
    | .ok h =>
      if _seen : oid ∈ p.map Prod.fst then .error (.cycle (h.name :: p.map Prod.snd).reverse)
      else
        assemble (e.labels? oid) (e.fields? oid) (expandIn e ((oid, h.name) :: p))
          ⟨oid, h.name, h.schema⟩ h.shape
termination_by p.room
decreasing_by exact Path.room_cons_lt _ _seen

def expand (e : Engine) (oid : Oid) : Except Failure CatalogType :=
  expandIn e [] oid

theorem expandIn_wellKnown (hw : wellKnown? oid = some t) : expandIn e p oid = .ok t := by
  rw [expandIn, hw]

theorem expandIn_refused {f : EngineFault} (hw : wellKnown? oid = none)
    (hh : e.header [] oid = .error f) : expandIn e p oid = .error (.ofLookup oid f) := by
  rw [expandIn, hw]
  simp only [hh]

theorem expandIn_seen {h : TypeHeader} (hw : wellKnown? oid = none)
    (hh : e.header [] oid = .ok h) (hseen : oid ∈ p.map Prod.fst) :
    expandIn e p oid = .error (.cycle (h.name :: p.map Prod.snd).reverse) := by
  rw [expandIn, hw]
  simp only [hh, hseen, dite_true]

theorem expandIn_told {h : TypeHeader} (hw : wellKnown? oid = none)
    (hh : e.header [] oid = .ok h) (hseen : oid ∉ p.map Prod.fst) :
    expandIn e p oid = assemble (e.labels? oid) (e.fields? oid)
      (expandIn e ((oid, h.name) :: p)) ⟨oid, h.name, h.schema⟩ h.shape := by
  rw [expandIn, hw]
  simp only [hh, hseen, dite_false]

theorem mapM_references {m : Type → Type} [Monad m] [LawfulMonad m] {next : Oid → m CatalogType}
    {fields : List (String × CatalogType)} (h : ∀ f ∈ fields, next f.2.oid = pure f.2) :
    ((references fields).mapM fun d => do return (d.1, ← next d.2)) = pure fields := by
  induction fields with
  | nil => rfl
  | cons f fields ih =>
    have hf : next f.2.oid = pure f.2 := h f (by simp)
    have hrest := ih fun g hg => h g (List.mem_cons_of_mem f hg)
    rw [references] at hrest
    rw [references, List.map_cons, List.mapM_cons, hrest]
    simp [hf]

theorem assemble_eq_pure {m : Type → Type} [Monad m] [LawfulMonad m] {labels : m (List String)}
    {fields : m (List (String × Oid))} {next : Oid → m CatalogType}
    (hlabels : ∀ h l, t = .enum h l → labels = pure l)
    (hfields : ∀ h f, t = .composite h f → fields = pure (references f))
    (hnext : ∀ u ∈ t.parts, next u.oid = pure u) :
    assemble labels fields next t.head t.shape = pure t := by
  cases t with
  | scalar | pseudo => rfl
  | enum h l => simp [CatalogType.shape, CatalogType.head, assemble, hlabels h l rfl]
  | composite h f =>
    have hf := mapM_references fun x hx => hnext x.2 (List.mem_map_of_mem hx)
    simp only [CatalogType.shape, CatalogType.head, assemble, hfields h f rfl, pure_bind, hf]
  | domain h base =>
    have hbase := hnext base (List.mem_singleton_self base)
    simp [CatalogType.shape, CatalogType.head, assemble, hbase]
  | array h elem =>
    have helem := hnext elem (List.mem_singleton_self elem)
    simp [CatalogType.shape, CatalogType.head, assemble, helem]

theorem expandIn_of_describes (he : e.Steady) {t : CatalogType} (hd : Describes e t) {p : Path}
    (hf : ∀ u ∈ t.nodes, u.oid ∉ p.map Prod.fst) : expandIn e p t.oid = .ok t := by
  cases hd with
  | wellKnown hw =>
    obtain rfl := oid_of_wellKnown? hw
    exact expandIn_wellKnown hw
  | @told _ a hn hh hdet hparts =>
    have hparts' (u : CatalogType) (hu : u ∈ t.parts) :
        expandIn e ((t.oid, t.head.name) :: p) u.oid = .ok u := by
      have hlt := CatalogType.sizeOf_lt_of_mem_parts hu
      -- The longer path is as free of numbers below `u`, since `t` does not occur there.
      refine expandIn_of_describes he (hparts u hu) fun v hv ho => ?_
      rcases List.mem_cons.1 ho with ho | ho
      · exact oid_ne_of_describes he (.told hn hh hdet hparts) hu hv ho
      · exact hf v (CatalogType.mem_nodes_iff.2 (.inr ⟨u, hu, hv⟩)) ho
    rw [he.header a []] at hh
    rw [expandIn_told hn hh (hf t (CatalogType.mem_nodes_self t))]
    refine assemble_eq_pure ?_ ?_ hparts'
    · rintro h labels rfl
      obtain ⟨b, hb⟩ := hdet
      rw [he.labels b []] at hb
      rw [Engine.labels?, show CatalogType.oid (.enum h labels) = h.oid from rfl, hb]
      rfl
    · rintro h fields rfl
      obtain ⟨b, hb⟩ := hdet
      rw [he.fields b []] at hb
      rw [Engine.fields?, show CatalogType.oid (.composite h fields) = h.oid from rfl, hb]
      rfl
termination_by sizeOf t

def Follows (e : Engine) (p : Path) (x : Fetch α) (r : Except Failure α) : Prop :=
  ∀ c : Cache, c.Valid e → p.Open c →
    Ends x c (fun a c' => Learnt e p c c' ∧ r = .ok a) fun f c' => Learnt e p c c' ∧ r = .error f

namespace Follows

theorem pure (a : α) : Follows e p (pure a) (pure a) :=
  fun _ hc hp => Ends.pure ⟨.refl hc hp, rfl⟩

theorem bind {x : Fetch α} {g : α → Fetch β} {r : Except Failure α} {k : α → Except Failure β}
    (hx : Follows e p x r) (hg : ∀ a, Follows e p (g a) (k a)) :
    Follows e p (x >>= g) (r >>= k) := by
  intro c hc hp
  refine Ends.bind (hx c hc hp) ?_ ?_
  · rintro a c₁ ⟨h₁, rfl⟩
    refine (hg a c₁ h₁.valid h₁.isOpen).mono ?_ ?_
    · exact fun b c₂ h => ⟨h₁.trans h.1, h.2⟩
    · exact fun f c₂ h => ⟨h₁.trans h.1, h.2⟩
  · rintro f c₁ ⟨h₁, rfl⟩
    exact ⟨h₁, rfl⟩

theorem mapM {g : α → Fetch β} {k : α → Except Failure β} (h : ∀ a, Follows e p (g a) (k a))
    (l : List α) : Follows e p (l.mapM g) (l.mapM k) := by
  induction l with
  | nil => exact .pure []
  | cons a l ih =>
    rw [List.mapM_cons, List.mapM_cons]
    exact (h a).bind fun b => ih.bind fun bs => .pure (b :: bs)

theorem ask {call : Call} {answer : List Call → Except EngineFault α}
    {blame : EngineFault → Failure} (h : ∀ calls, answer calls = answer []) :
    Follows e p (Catalog.ask call answer blame) ((answer []).mapError blame) := by
  intro c hc hp
  unfold Ends Catalog.ask
  rw [h c.calls]
  cases answer [] with
  | ok a => exact ⟨.of_types hc hp rfl, rfl⟩
  | error f => exact ⟨.of_types hc hp rfl, rfl⟩

theorem askLabels (he : e.Steady) (oid : Oid) :
    Follows e p (Catalog.askLabels e oid) (e.labels? oid) :=
  .ask fun calls => by rw [he.labels calls []]

theorem askFields (he : e.Steady) (oid : Oid) :
    Follows e p (Catalog.askFields e oid) (e.fields? oid) :=
  .ask fun calls => by rw [he.fields calls []]

theorem assemble {labels : Fetch (List String)} {fields : Fetch (List (String × Oid))}
    {next : Oid → Fetch CatalogType} {labels' : Except Failure (List String)}
    {fields' : Except Failure (List (String × Oid))} {next' : Oid → Except Failure CatalogType}
    (hlabels : Follows e p labels labels') (hfields : Follows e p fields fields')
    (hnext : ∀ oid, Follows e p (next oid) (next' oid)) (head : Head) (shape : TypeClass) :
    Follows e p (Catalog.assemble labels fields next head shape)
      (Catalog.assemble labels' fields' next' head shape) := by
  cases shape with
  | scalar => exact .pure _
  | pseudo => exact .pure _
  | enum => exact hlabels.bind fun l => .pure _
  | composite =>
    refine hfields.bind fun defs => ?_
    have hdefs : Follows e p (defs.mapM fun d => do return (d.1, ← next d.2))
        (defs.mapM fun d => do return (d.1, ← next' d.2)) :=
      .mapM (fun d => (hnext d.2).bind fun t => .pure (d.1, t)) defs
    exact hdefs.bind fun l => .pure _
  | domain base => exact (hnext base).bind fun t => .pure _
  | array elem => exact (hnext elem).bind fun t => .pure _

end Follows

theorem fetchIn_follows (he : e.Steady) (p : Path) (oid : Oid) :
    Follows e p (fetchIn e p oid) (expandIn e p oid) := by
  induction p using Path.induct generalizing oid with
  | h p ih =>
    intro c hc hp
    have hends : Ends (fetchIn e p oid) c (fun t _ => expandIn e p oid = .ok t)
        fun f _ => expandIn e p oid = .error f := by
      rw [fetchIn_eq_fetchLevel, fetchLevel]
      refine Ends.bind_get ?_
      cases hm : c.type? oid with
      | some t =>
        have hmem := Cache.mem_of_type? hm
        obtain rfl := Cache.oid_of_type? hm
        refine Ends.pure (expandIn_of_describes he (hc.described t hmem) fun u hu ho => ?_)
        exact (hp u.oid ho).2 u (hc.coherent.nodes hmem hu) rfl
      | none =>
        cases hw : wellKnown? oid with
        | some t => exact expandIn_wellKnown hw
        | none =>
          refine bind_ask ?_ ?_
          · intro h hh
            rw [he.header c.calls []] at hh
            by_cases hseen : oid ∈ p.map Prod.fst
            · rw [if_pos hseen]
              exact Ends.throw (expandIn_seen hw hh hseen)
            · rw [if_neg hseen, expandIn_told hw hh hseen]
              have hlevel := Follows.assemble (.askLabels he oid) (.askFields he oid)
                (ih oid h.name hseen) ⟨oid, h.name, h.schema⟩ h.shape
              have hopen : Path.Open ((oid, h.name) :: p) c := hp.cons hw hm
              refine Ends.bind (hlevel _ (hc.of_types rfl) (hopen.of_types rfl)) ?_ ?_
              · exact fun t c' h => h.2
              · exact fun f c' h => h.2
          · intro f hf
            rw [he.header c.calls []] at hf
            exact expandIn_refused hw hf
    refine ((fetchIn_knows e p oid c hc hp).and hends).mono ?_ ?_
    · exact fun t c' h => ⟨h.1.1, h.2⟩
    · exact fun f c' h => h

theorem fetch_follows (he : e.Steady) (hc : c.Valid e) :
    Ends (fetch e oid) c (fun t _ => expand e oid = .ok t) fun f _ => expand e oid = .error f := by
  refine (fetchIn_follows he [] oid c hc ?_).mono ?_ ?_
  · exact fun _ h => absurd h List.not_mem_nil
  · exact fun t c' h => h.2
  · exact fun f c' h => h.2

theorem fetch_finds (he : e.Steady) (hd : Describes e t) (hc : c.Valid e) :
    Ends (fetch e t.oid) c
      (fun u c' => c'.Valid e ∧ c.types <:+ c'.types ∧ u ∈ c'.types ∧ u = t) fun _ _ => False := by
  have hexpand : expand e t.oid = .ok t :=
    expandIn_of_describes he hd fun _ _ => List.not_mem_nil
  refine ((fetch_ends hc).and (fetch_follows he hc)).mono ?_ ?_
  · rintro u c' ⟨⟨hv, hk, hu, -⟩, hut⟩
    exact ⟨hv, hk, hu, Except.ok.inj (hut.symm.trans hexpand)⟩
  · rintro f c' ⟨-, hf⟩
    exact nomatch hf.symm.trans hexpand

theorem outcome_fetch (he : e.Steady) (hc : c.Valid e) (oid : Oid) :
    outcome (fetch e oid) c = expand e oid :=
  (fetch_follows he hc).outcome_eq

theorem outcome_fetch_after (he : e.Steady) (earlier : List Oid) (oid : Oid) :
    outcome (fetch e oid) (earlier.foldl (Cache.after e) .empty) =
      outcome (fetch e oid) .empty := by
  have hvalid := (Cache.valid_foldl_after (Cache.valid_empty e) earlier).1
  rw [outcome_fetch he hvalid, outcome_fetch he (Cache.valid_empty e)]

def circle : Snapshot where
  statements := []
  types := [
    ⟨⟨16401⟩, ⟨"mood", some "public", .enum⟩, ["ok"], [], none, none⟩,
    ⟨⟨16421⟩, ⟨"node", none, .composite⟩, [], [("id", ⟨20⟩), ("edge", ⟨16422⟩)], none, none⟩,
    ⟨⟨16422⟩, ⟨"edge", none, .composite⟩, [], [("felt", ⟨16401⟩), ("to", ⟨16421⟩)], none, none⟩]
  lostAfter := none

theorem outcome_fetch_after_node :
    circle.engine.Steady ∧
      outcome (fetch circle.engine ⟨16422⟩) ([⟨16421⟩].foldl (Cache.after circle.engine) .empty) =
        outcome (fetch circle.engine ⟨16422⟩) .empty :=
  have he := Snapshot.steady_engine (show circle.lostAfter = none from rfl)
  ⟨he, outcome_fetch_after he [⟨16421⟩] ⟨16422⟩⟩

end QueryTyping.Catalog
