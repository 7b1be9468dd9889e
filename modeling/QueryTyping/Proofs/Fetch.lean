import Mathlib.Data.List.Nodup
import QueryTyping.Proofs.CatalogTree
import QueryTyping.Proofs.FetchLevels
import QueryTyping.Proofs.Outcome

namespace QueryTyping

def CatalogType.shape : CatalogType → Catalog.TypeClass
  | scalar _ => .scalar
  | pseudo _ => .pseudo
  | enum .. => .enum
  | composite .. => .composite
  | domain _ base => .domain base.oid
  | array _ elem => .array elem.oid

def CatalogType.header (t : CatalogType) : Catalog.TypeHeader :=
  ⟨t.head.name, t.head.schema, t.shape⟩

namespace Catalog

open CatalogType (Coherent)

def references (fields : List (String × CatalogType)) : List (String × Oid) :=
  fields.map fun f => (f.1, f.2.oid)

def Detailed (e : Engine) : CatalogType → Prop
  | .enum h labels => ∃ calls, e.labels calls h.oid = .ok labels
  | .composite h fields => ∃ calls, e.fields calls h.oid = .ok (references fields)
  | .scalar _ | .pseudo _ | .domain .. | .array .. => True

inductive Describes (e : Engine) : CatalogType → Prop where
  | wellKnown {oid : Oid} {t : CatalogType} : wellKnown? oid = some t → Describes e t
  | told {t : CatalogType} {calls : List Call} : wellKnown? t.oid = none →
    e.header calls t.oid = .ok t.header → Detailed e t → (∀ u ∈ t.parts, Describes e u) →
      Describes e t

structure Cache.Valid (e : Engine) (c : Cache) : Prop where
  parts : ∀ t ∈ c.types, ∀ u ∈ t.parts, u ∈ c.types
  nodup : (c.types.map CatalogType.oid).Nodup
  described : ∀ t ∈ c.types, Describes e t

def Path.Open (p : Path) (c : Cache) : Prop :=
  ∀ o ∈ p.map Prod.fst, wellKnown? o = none ∧ ∀ t ∈ c.types, t.oid ≠ o

structure Learnt (e : Engine) (p : Path) (c c' : Cache) : Prop where
  valid : c'.Valid e
  kept : c.types <:+ c'.types
  isOpen : p.Open c'

@[elab_as_elim]
theorem Path.induct {P : Path → Prop}
    (h : ∀ p, (∀ oid name, oid ∉ p.map Prod.fst → P ((oid, name) :: p)) → P p) (p : Path) : P p :=
  h p fun oid name _ => Path.induct h ((oid, name) :: p)
termination_by p.room
decreasing_by exact Path.room_cons_lt name ‹_›

variable {e : Engine} {p : Path} {oid : Oid} {name : String} {c c' c'' : Cache} {t : CatalogType}

namespace Cache

theorem valid_empty (e : Engine) : Cache.empty.Valid e := by
  constructor <;> simp [Cache.empty]

theorem Valid.of_types (h : c.Valid e) (ht : c'.types = c.types) : c'.Valid e := by
  constructor
  · rw [ht]; exact h.parts
  · rw [ht]; exact h.nodup
  · rw [ht]; exact h.described

theorem Valid.coherent (h : c.Valid e) : Coherent c.types where
  parts := h.parts
  unique := fun _ ht _ hu => List.inj_on_of_nodup_map h.nodup ht hu

theorem mem_of_type? (h : c.type? oid = some t) : t ∈ c.types :=
  List.mem_of_find?_eq_some h

theorem oid_ne_of_type? (h : c.type? oid = none) : ∀ t ∈ c.types, t.oid ≠ oid := by
  simpa [type?] using h

end Cache

theorem Path.Open.of_types (h : p.Open c) (ht : c'.types = c.types) : p.Open c' := by
  unfold Path.Open
  rw [ht]
  exact h

theorem Path.Open.cons (h : p.Open c) (hw : wellKnown? oid = none) (hc : c.type? oid = none) :
    Path.Open ((oid, name) :: p) c := by
  intro o ho
  rcases List.mem_cons.1 ho with rfl | ho
  · exact ⟨hw, Cache.oid_ne_of_type? hc⟩
  · exact h o ho

theorem Path.Open.tail (h : Path.Open ((oid, name) :: p) c) : p.Open c :=
  fun o ho => h o (List.mem_cons_of_mem _ ho)

namespace Learnt

theorem refl (hc : c.Valid e) (hp : p.Open c) : Learnt e p c c :=
  ⟨hc, List.suffix_refl _, hp⟩

theorem trans (h : Learnt e p c c') (h' : Learnt e p c' c'') : Learnt e p c c'' :=
  ⟨h'.valid, h.kept.trans h'.kept, h'.isOpen⟩

theorem of_types (hc : c.Valid e) (hp : p.Open c) (ht : c'.types = c.types) : Learnt e p c c' :=
  ⟨hc.of_types ht, ht ▸ List.suffix_refl _, hp.of_types ht⟩

theorem tail (h : Learnt e ((oid, name) :: p) c c') : Learnt e p c c' :=
  ⟨h.valid, h.kept, h.isOpen.tail⟩

theorem mem (h : Learnt e p c c') (ht : t ∈ c.types) : t ∈ c'.types :=
  h.kept.subset ht

end Learnt

theorem learnt_add (hc : c.Valid e) (hp : p.Open c) (hn : ∀ u ∈ c.types, u.oid ≠ t.oid)
    (ho : t.oid ∉ p.map Prod.fst) (ht : ∀ u ∈ t.parts, u ∈ c.types) (hd : Describes e t) :
    Learnt e p c (c.add t) := by
  refine ⟨⟨?_, ?_, ?_⟩, List.suffix_cons _ _, ?_⟩
  · intro u hu v hv
    rcases List.mem_cons.1 hu with rfl | hu
    · exact List.mem_cons_of_mem _ (ht v hv)
    · exact List.mem_cons_of_mem _ (hc.parts u hu v hv)
  · refine List.nodup_cons.2 ⟨?_, hc.nodup⟩
    intro hm
    obtain ⟨u, hu, he⟩ := List.mem_map.1 hm
    exact hn u hu he
  · intro u hu
    rcases List.mem_cons.1 hu with rfl | hu
    · exact hd
    · exact hc.described u hu
  · intro o hm
    refine ⟨(hp o hm).1, fun u hu => ?_⟩
    rcases List.mem_cons.1 hu with rfl | hu
    · rintro rfl
      exact ho hm
    · exact (hp o hm).2 u hu

def Knows (e : Engine) (p : Path) (x : Fetch α) (P : α → Cache → Prop) : Prop :=
  ∀ c : Cache, c.Valid e → p.Open c →
    Ends x c (fun a c' => Learnt e p c c' ∧ P a c') fun _ c' => Learnt e p c c'

theorem ask_of_ok {call : Call} {answer : List Call → Except EngineFault α}
    {blame : EngineFault → Failure} {a : α} (h : answer c.calls = .ok a) :
    ask call answer blame c = .ok a { c with calls := c.calls ++ [call] } := by
  simp only [ask, h]

theorem ask_of_error {call : Call} {answer : List Call → Except EngineFault α}
    {blame : EngineFault → Failure} {f : EngineFault} (h : answer c.calls = .error f) :
    ask call answer blame c = .error (blame f) { c with calls := c.calls ++ [call] } := by
  simp only [ask, h]

theorem bind_ask {call : Call} {answer : List Call → Except EngineFault α}
    {blame : EngineFault → Failure} {f : α → Fetch β} {ok : β → Cache → Prop}
    {fail : Failure → Cache → Prop}
    (hok : ∀ a, answer c.calls = .ok a → Ends (f a) { c with calls := c.calls ++ [call] } ok fail)
    (hfail : ∀ f, answer c.calls = .error f →
      fail (blame f) { c with calls := c.calls ++ [call] }) :
    Ends (ask call answer blame >>= f) c ok fail := by
  unfold Ends
  cases h : answer c.calls with
  | ok a =>
    rw [bind_of_ok (ask_of_ok h)]
    exact hok a h
  | error f' =>
    rw [bind_of_error (ask_of_error h)]
    exact hfail f' h

theorem bind_knows {x : Fetch α} {g : α → Fetch β} {P : α → Cache → Prop} {Q : β → Cache → Prop}
    (hx : Knows e p x P)
    (hg : ∀ a c, c.Valid e → p.Open c → P a c →
      Ends (g a) c (fun b c' => Learnt e p c c' ∧ Q b c') fun _ c' => Learnt e p c c') :
    Knows e p (x >>= g) Q := by
  intro c hc hp
  refine Ends.bind (hx c hc hp) ?_ fun _ _ h => h
  rintro a c₁ ⟨h₁, ha⟩
  refine (hg a c₁ h₁.valid h₁.isOpen ha).mono ?_ ?_
  · exact fun b c₂ h => ⟨h₁.trans h.1, h.2⟩
  · exact fun f c₂ h => h₁.trans h

theorem ask_knows {call : Call} {answer : List Call → Except EngineFault α}
    {blame : EngineFault → Failure} :
    Knows e p (ask call answer blame) fun a _ => ∃ calls, answer calls = .ok a := by
  intro c hc hp
  unfold Ends ask
  cases h : answer c.calls with
  | ok a => exact ⟨.of_types hc hp rfl, c.calls, h⟩
  | error f => exact .of_types hc hp rfl

theorem mapM_knows {next : Oid → Fetch CatalogType}
    (hnext : ∀ oid, Knows e p (next oid) fun t c' => t ∈ c'.types ∧ t.oid = oid)
    (defs : List (String × Oid)) :
    Knows e p (defs.mapM fun d => return (d.1, ← next d.2)) fun fields c' =>
      references fields = defs ∧ ∀ f ∈ fields, f.2 ∈ c'.types := by
  induction defs with
  | nil => exact fun c hc hp => Ends.pure ⟨.refl hc hp, rfl, by simp⟩
  | cons d defs ih =>
    rw [List.mapM_cons]
    refine bind_knows (P := fun f c' => f.2 ∈ c'.types ∧ (f.1, f.2.oid) = d) ?_ ?_
    · refine bind_knows (hnext d.2) fun t c hc hp h => ?_
      exact Ends.pure ⟨.refl hc hp, h.1, by rw [h.2]⟩
    · rintro f c hc hp ⟨hf, rfl⟩
      refine Ends.bind (ih c hc hp) ?_ fun _ _ h => h
      rintro fields c' ⟨h, rfl, hfields⟩
      refine Ends.pure ⟨h, rfl, ?_⟩
      exact List.forall_mem_cons.2 ⟨h.mem hf, hfields⟩

theorem assemble_knows {next : Oid → Fetch CatalogType}
    (hnext : ∀ oid, Knows e p (next oid) fun t c' => t ∈ c'.types ∧ t.oid = oid)
    (head : Head) (shape : TypeClass) :
    Knows e p (assemble (askLabels e head.oid) (askFields e head.oid) next head shape) fun t c' =>
      (t.head = head ∧ t.shape = shape) ∧ Detailed e t ∧ ∀ u ∈ t.parts, u ∈ c'.types := by
  have hnone (c : Cache) : ∀ u ∈ ([] : List CatalogType), u ∈ c.types :=
    fun _ h => absurd h List.not_mem_nil
  cases shape with
  | scalar => exact fun c hc hp => Ends.pure ⟨.refl hc hp, ⟨rfl, rfl⟩, trivial, hnone c⟩
  | pseudo => exact fun c hc hp => Ends.pure ⟨.refl hc hp, ⟨rfl, rfl⟩, trivial, hnone c⟩
  | enum =>
    refine bind_knows ask_knows fun labels c hc hp hlabels => ?_
    exact Ends.pure ⟨.refl hc hp, ⟨rfl, rfl⟩, hlabels, hnone c⟩
  | composite =>
    refine bind_knows ask_knows fun defs c hc hp hdefs => ?_
    refine bind_knows (mapM_knows hnext defs) (fun fields c hc hp h => ?_) c hc hp
    obtain ⟨rfl, hfields⟩ := h
    refine Ends.pure ⟨.refl hc hp, ⟨rfl, rfl⟩, hdefs, fun u hu => ?_⟩
    obtain ⟨f, hf, rfl⟩ := List.mem_map.1 hu
    exact hfields f hf
  | domain base =>
    refine bind_knows (hnext base) fun t c hc hp h => ?_
    obtain ⟨ht, rfl⟩ := h
    exact Ends.pure ⟨.refl hc hp, ⟨rfl, rfl⟩, trivial, List.forall_mem_singleton.2 ht⟩
  | array elem =>
    refine bind_knows (hnext elem) fun t c hc hp h => ?_
    obtain ⟨ht, rfl⟩ := h
    exact Ends.pure ⟨.refl hc hp, ⟨rfl, rfl⟩, trivial, List.forall_mem_singleton.2 ht⟩

theorem parts_of_wellKnown? (hw : wellKnown? oid = some t) : t.parts = [] := by
  obtain ⟨name, -, rfl⟩ := Option.map_eq_some_iff.1 hw
  rfl

theorem fetchIn_knows (e : Engine) (p : Path) (oid : Oid) :
    Knows e p (fetchIn e p oid) fun t c' => t ∈ c'.types ∧ t.oid = oid := by
  induction p using Path.induct generalizing oid with
  | h p ih =>
    intro c hc hp
    rw [fetchIn_eq_fetchLevel, fetchLevel]
    refine Ends.bind_get ?_
    cases hm : c.type? oid with
    | some t => exact Ends.pure ⟨.refl hc hp, Cache.mem_of_type? hm, Cache.oid_of_type? hm⟩
    | none =>
      cases hw : wellKnown? oid with
      | some t =>
        obtain rfl := oid_of_wellKnown? hw
        have hn := Cache.oid_ne_of_type? hm
        have ho : t.oid ∉ p.map Prod.fst := fun ho => by simp [(hp _ ho).1] at hw
        have hparts : ∀ u ∈ t.parts, u ∈ c.types := by simp [parts_of_wellKnown? hw]
        exact ⟨learnt_add hc hp hn ho hparts (.wellKnown hw), List.mem_cons_self .., rfl⟩
      | none =>
        refine bind_ask ?_ fun f hf => .of_types hc hp rfl
        intro h hh
        by_cases hseen : oid ∈ p.map Prod.fst
        · rw [if_pos hseen]
          exact Ends.throw (.of_types hc hp rfl)
        · rw [if_neg hseen]
          have h₁ : Learnt e ((oid, h.name) :: p) c { c with calls := c.calls ++ [.header oid] } :=
            .of_types hc (hp.cons hw hm) rfl
          have hlevel := assemble_knows (ih oid h.name hseen) ⟨oid, h.name, h.schema⟩ h.shape
          refine Ends.bind (hlevel _ h₁.valid h₁.isOpen) ?_ fun f c₂ h₂ => (h₁.trans h₂).tail
          rintro t c₂ ⟨h₂, ⟨hhead, hshape⟩, hdet, hparts⟩
          have ho : t.oid = oid := by rw [CatalogType.oid, hhead]
          have hheader : t.header = h := by rw [CatalogType.header, hhead, hshape]
          subst ho hheader
          have hdesc : Describes e t :=
            .told hw hh hdet fun u hu => h₂.valid.described u (hparts u hu)
          have hn := (h₂.isOpen t.oid (List.mem_cons_self ..)).2
          have hadd := learnt_add h₂.valid h₂.isOpen.tail hn hseen hparts hdesc
          exact ⟨(h₁.trans h₂).tail.trans hadd, List.mem_cons_self .., rfl⟩

theorem fetch_ends (hc : c.Valid e) :
    Ends (fetch e oid) c
      (fun t c' => c'.Valid e ∧ c.types <:+ c'.types ∧ t ∈ c'.types ∧ t.oid = oid)
      fun _ c' => c'.Valid e ∧ c.types <:+ c'.types := by
  refine (fetchIn_knows e [] oid c hc ?_).mono ?_ ?_
  · intro o ho
    simp at ho
  · rintro t c' ⟨h, ht, ho⟩
    exact ⟨h.valid, h.kept, ht, ho⟩
  · exact fun f c' h => ⟨h.valid, h.kept⟩

theorem fetch_wellKnown (hw : wellKnown? oid = some t) (hc : c.type? oid = none) :
    fetch e oid c = .ok t (c.add t) := by
  rw [fetch, fetchIn_eq_fetchLevel, fetchLevel, get_bind, hc]
  simp only [hw]
  rfl

abbrev Finds (x : Fetch α) (ok : α → Prop) (fail : Failure → Prop) : Prop :=
  Yields (fun _ => True) x ok fail

structure Engine.Serves (e : Engine) (R : Oid → Prop) (S : Oid → TypeClass → Prop)
    (fail : Failure → Prop) : Prop where
  header : ∀ oid, R oid → Finds (askHeader e oid) (fun h => S oid h.shape) fail
  labels : ∀ oid, R oid → S oid .enum → Finds (askLabels e oid) (fun _ => True) fail
  fields : ∀ oid, R oid → S oid .composite →
    Finds (askFields e oid) (fun defs => ∀ f ∈ defs, R f.2) fail
  base : ∀ oid base, S oid (.domain base) → R base
  elem : ∀ oid elem, S oid (.array elem) → R elem
  cycle : ∀ chain, fail (.cycle chain)

section Serves

variable {α : Type} {R : Oid → Prop} {S : Oid → TypeClass → Prop} {fail : Failure → Prop}

theorem ask_finds {call : Call} {answer : List Call → Except EngineFault α}
    {blame : EngineFault → Failure} {ok : α → Prop}
    (hok : ∀ earlier a, answer earlier = .ok a → ok a)
    (hfail : ∀ earlier fault, answer earlier = .error fault → fail (blame fault)) :
    Finds (ask call answer blame) ok fail := by
  intro c _
  unfold Ends
  cases h : answer c.calls with
  | ok a =>
    rw [ask_of_ok h]
    exact ⟨trivial, hok c.calls a h⟩
  | error fault =>
    rw [ask_of_error h]
    exact ⟨trivial, hfail c.calls fault h⟩

theorem remember_finds (t : CatalogType) : Finds (remember t) (fun u => u = t) fail := by
  have hmodify : Finds (modify fun c : Cache => c.add t) (fun _ => True) fail :=
    Yields.modify (fun _ _ => trivial) trivial
  exact Yields.bind hmodify fun _ _ => .pure rfl

theorem assemble_finds (he : e.Serves R S fail) (ho : R oid) {next : Oid → Fetch CatalogType}
    (hnext : ∀ o, R o → Finds (next o) (fun t => t.oid = o) fail) (head : Head) {shape : TypeClass}
    (hs : S oid shape) :
    Finds (assemble (askLabels e oid) (askFields e oid) next head shape) (fun t => t.head = head)
      fail := by
  cases shape with
  | scalar => exact Yields.pure rfl
  | pseudo => exact Yields.pure rfl
  | enum => exact Yields.bind (he.labels oid ho hs) fun _ _ => .pure rfl
  | composite =>
    refine Yields.bind (he.fields oid ho hs) fun defs hdefs => ?_
    have hfield (f : String × Oid) (hf : f ∈ defs) :
        Finds (do return (f.1, ← next f.2)) (fun _ => True) fail :=
      Yields.bind (hnext f.2 (hdefs f hf)) fun _ _ => .pure trivial
    exact Yields.bind (Yields.mapM hfield) fun _ _ => .pure rfl
  | domain base => exact Yields.bind (hnext base (he.base oid base hs)) fun _ _ => .pure rfl
  | array elem => exact Yields.bind (hnext elem (he.elem oid elem hs)) fun _ _ => .pure rfl

theorem fetchIn_finds (he : e.Serves R S fail) (p : Path) (ho : R oid) :
    Finds (fetchIn e p oid) (fun t => t.oid = oid) fail := by
  induction p using Path.induct generalizing oid with
  | h p ih =>
    rw [fetchIn_eq_fetchLevel, fetchLevel]
    refine Yields.bind_get fun c _ => ?_
    cases hm : c.type? oid with
    | some t => exact Yields.pure (Cache.oid_of_type? hm)
    | none =>
      cases hw : wellKnown? oid with
      | some t =>
        refine (remember_finds t).mono ?_
        rintro u rfl
        exact oid_of_wellKnown? hw
      | none =>
        refine Yields.bind (he.header oid ho) fun h hs => ?_
        by_cases hseen : oid ∈ p.map Prod.fst
        · rw [if_pos hseen]
          exact Yields.throw (he.cycle _)
        · rw [if_neg hseen]
          have hnext (o : Oid) (ho : R o) := ih oid h.name hseen ho
          refine Yields.bind (assemble_finds he ho hnext ⟨oid, h.name, h.schema⟩ hs) ?_
          intro t ht
          refine (remember_finds t).mono ?_
          rintro u rfl
          rw [CatalogType.oid, ht]

theorem serves_any (e : Engine) (hlookup : ∀ oid fault, fail (.ofLookup oid fault))
    (hcycle : ∀ chain, fail (.cycle chain)) :
    e.Serves (fun _ => True) (fun _ _ => True) fail where
  header oid _ := ask_finds (fun _ _ _ => trivial) fun _ fault _ => hlookup oid fault
  labels oid _ _ := ask_finds (fun _ _ _ => trivial) fun _ fault _ => hlookup oid fault
  fields oid _ _ := ask_finds (fun _ _ _ _ _ => trivial) fun _ fault _ => hlookup oid fault
  base _ _ _ := trivial
  elem _ _ _ := trivial
  cycle := hcycle

theorem fetch_finds_oid (oid : Oid) (hlookup : ∀ oid fault, fail (.ofLookup oid fault))
    (hcycle : ∀ chain, fail (.cycle chain)) : Finds (fetch e oid) (fun t => t.oid = oid) fail :=
  fetchIn_finds (serves_any e hlookup hcycle) [] trivial

end Serves

end Catalog

end QueryTyping
