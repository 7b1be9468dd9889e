import Mathlib.Data.List.Chain
import Mathlib.Logic.Relation
import QueryTyping.Proofs.Expansion

namespace QueryTyping.Catalog

open CatalogType (nodes parts)
open Relation (ReflTransGen TransGen)

variable {e : Engine} {p : Path} {oid root : Oid} {name : String} {t : CatalogType} {f : Failure}
  {α β : Type}

def referencesOf (fields : Except Failure (List (String × Oid))) : TypeClass → List Oid
  | .composite => (fields.toOption.getD []).map Prod.snd
  | .domain base => [base]
  | .array elem => [elem]
  | .scalar | .pseudo | .enum => []

namespace Engine

def references (e : Engine) (oid : Oid) : List Oid :=
  match wellKnown? oid, e.header [] oid with
  | none, .ok h => referencesOf (e.fields? oid) h.shape
  | _, _ => []

def Refers (e : Engine) (a b : Oid) : Prop :=
  b ∈ e.references a

def Reaches (e : Engine) : Oid → Oid → Prop :=
  ReflTransGen e.Refers

def Cyclic (e : Engine) (oid : Oid) : Prop :=
  ∃ o, e.Reaches oid o ∧ TransGen e.Refers o o

def Answers (e : Engine) (oid : Oid) : Prop :=
  wellKnown? oid = none → ∃ h, e.header [] oid = .ok h ∧
    (h.shape = .enum → ∃ labels, e.labels [] oid = .ok labels) ∧
    (h.shape = .composite → ∃ fields, e.fields [] oid = .ok fields)

def name? (e : Engine) (oid : Oid) : Option String :=
  (e.header [] oid).toOption.map TypeHeader.name

def ClosedWalk (e : Engine) (root : Oid) (chain : List String) : Prop :=
  ∃ before last, (before ++ [last]).head? = some root ∧ (before ++ [last]).IsChain e.Refers ∧
    chain.map some = (before ++ [last]).map e.name? ∧ before.Nodup ∧ last ∈ before

def Defines (e : Engine) (t : CatalogType) : Prop :=
  wellKnown? t.oid = some t ∨ wellKnown? t.oid = none ∧ ∀ calls,
    e.header calls t.oid = .ok t.header ∧
    (∀ h labels, t = .enum h labels → e.labels calls t.oid = .ok labels) ∧
    ∀ h fields, t = .composite h fields →
      e.fields calls t.oid = .ok (Catalog.references fields)

end Engine

theorem references_of_told {h : TypeHeader} (hw : wellKnown? oid = none)
    (hh : e.header [] oid = .ok h) : e.references oid = referencesOf (e.fields? oid) h.shape := by
  rw [Engine.references, hw, hh]

theorem Engine.Answers.told {h : TypeHeader} (ha : e.Answers oid) (hw : wellKnown? oid = none)
    (hh : e.header [] oid = .ok h) :
    (h.shape = .enum → ∃ labels, e.labels [] oid = .ok labels) ∧
      (h.shape = .composite → ∃ fields, e.fields [] oid = .ok fields) := by
  obtain ⟨h', hh', hdetail⟩ := ha hw
  obtain rfl := Except.ok.inj (hh.symm.trans hh')
  exact hdetail

theorem defines_of_describes (he : e.Steady) (hd : Describes e t) : e.Defines t := by
  cases hd with
  | wellKnown hw =>
    obtain rfl := oid_of_wellKnown? hw
    exact .inl hw
  | @told _ a hn hh hdet _ =>
    refine .inr ⟨hn, fun calls => ⟨?_, ?_, ?_⟩⟩
    · rw [he.header calls a, hh]
    · rintro h labels rfl
      obtain ⟨b, hb⟩ := hdet
      exact (congrFun (he.labels calls b) _).trans hb
    · rintro h fields rfl
      obtain ⟨b, hb⟩ := hdet
      exact (congrFun (he.fields calls b) _).trans hb

theorem references_of_describes (he : e.Steady) (hd : Describes e t) :
    e.references t.oid = t.parts.map CatalogType.oid := by
  cases hd with
  | wellKnown hw =>
    obtain rfl := oid_of_wellKnown? hw
    rw [Engine.references, hw, parts_of_wellKnown? hw]
    rfl
  | @told _ a hn hh hdet hp =>
    obtain hw | ⟨-, hdef⟩ := defines_of_describes he (.told hn hh hdet hp)
    · exact nomatch hn.symm.trans hw
    · obtain ⟨hheader, -, hfields⟩ := hdef []
      rw [references_of_told hn hheader, CatalogType.header]
      cases t with
      | composite h fields =>
        rw [Engine.fields?, hfields h fields rfl]
        simp [CatalogType.shape, referencesOf, Catalog.references, parts, Except.mapError,
          Except.toOption]
      | scalar | pseudo | enum | domain | array => rfl

theorem exists_node_of_reaches {o : Oid} (he : e.Steady) (hd : Describes e t)
    (h : e.Reaches t.oid o) : ∃ u ∈ t.nodes, u.oid = o := by
  induction h with
  | refl => exact ⟨t, CatalogType.mem_nodes_self t, rfl⟩
  | tail _ hstep ih =>
    obtain ⟨u, hu, rfl⟩ := ih
    rw [Engine.Refers, references_of_describes he (describes_of_mem_nodes hd hu)] at hstep
    obtain ⟨v, hv, rfl⟩ := List.mem_map.1 hstep
    exact ⟨v, CatalogType.mem_nodes_of_mem_parts hu hv, rfl⟩

theorem not_cyclic_of_describes (he : e.Steady) (hd : Describes e t) : ¬ e.Cyclic t.oid := by
  rintro ⟨o, hreach, hcycle⟩
  obtain ⟨u, hu, rfl⟩ := exists_node_of_reaches he hd hreach
  have hdu : Describes e u := describes_of_mem_nodes hd hu
  obtain ⟨b, hstep, hback⟩ := TransGen.head'_iff.1 hcycle
  rw [Engine.Refers, references_of_describes he hdu] at hstep
  obtain ⟨v, hv, rfl⟩ := List.mem_map.1 hstep
  obtain ⟨w, hw, ho⟩ := exists_node_of_reaches he (describes_of_mem_parts hdu hv) hback
  exact oid_ne_of_describes he hdu hv hw ho

structure Path.Leads (e : Engine) (root : Oid) (p : Path) (oid : Oid) : Prop where
  starts : (oid :: p.map Prod.fst).getLast? = some root
  walk : (oid :: p.map Prod.fst).IsChain fun b a => e.Refers a b
  reaches : e.Reaches root oid
  names : ∀ x ∈ p, e.name? x.1 = some x.2
  nodup : (p.map Prod.fst).Nodup

theorem transGen_of_chain {r : α → α → Prop} {a b : α} {l : List α}
    (h : (a :: (l ++ [b])).IsChain r) : TransGen r a b := by
  induction l generalizing a with
  | nil => exact .single (List.isChain_cons_cons.1 h).1
  | cons c l ih =>
    obtain ⟨hac, h⟩ := List.isChain_cons_cons.1 h
    exact .head hac (ih h)

namespace Path.Leads

theorem nil (e : Engine) (root : Oid) : Path.Leads e root [] root :=
  ⟨rfl, .singleton root, .refl, by simp, List.nodup_nil⟩

theorem cons {h : TypeHeader} {o : Oid} (hp : p.Leads e root oid) (hw : wellKnown? oid = none)
    (hh : e.header [] oid = .ok h) (hseen : oid ∉ p.map Prod.fst)
    (ho : o ∈ referencesOf (e.fields? oid) h.shape) :
    Path.Leads e root ((oid, h.name) :: p) o := by
  have hstep : e.Refers oid o := by rwa [Engine.Refers, references_of_told hw hh]
  have hname : e.name? oid = some h.name := by rw [Engine.name?, hh]; rfl
  constructor
  · rw [List.map_cons, List.getLast?_cons_cons]
    exact hp.starts
  · exact List.isChain_cons_cons.2 ⟨hstep, hp.walk⟩
  · exact hp.reaches.tail hstep
  · exact List.forall_mem_cons.2 ⟨hname, hp.names⟩
  · exact List.nodup_cons.2 ⟨hseen, hp.nodup⟩

theorem cyclic (hp : p.Leads e root oid) (hseen : oid ∈ p.map Prod.fst) : e.Cyclic root := by
  obtain ⟨l₁, l₂, hl⟩ := List.append_of_mem hseen
  have hwalk := hp.walk
  rw [hl, ← List.cons_append, List.append_cons] at hwalk
  exact ⟨oid, hp.reaches, (transGen_of_chain hwalk.left_of_append).swap⟩

theorem closedWalk (hp : p.Leads e root oid) (hseen : oid ∈ p.map Prod.fst)
    (hname : e.name? oid = some name) :
    e.ClosedWalk root (name :: p.map Prod.snd).reverse := by
  refine ⟨(p.map Prod.fst).reverse, oid, ?_, ?_, ?_, ?_, ?_⟩
  · rw [← List.reverse_cons, List.head?_reverse]
    exact hp.starts
  · rw [← List.reverse_cons, List.isChain_reverse]
    exact hp.walk
  · have hnames : (p.map Prod.snd).map some = (p.map Prod.fst).map e.name? := by
      rw [List.map_map, List.map_map]
      exact List.map_congr_left fun x hx => (hp.names x hx).symm
    rw [← List.reverse_cons, List.map_reverse, List.map_reverse, List.map_cons, List.map_cons,
      hnames, hname]
  · exact List.nodup_reverse.2 hp.nodup
  · exact List.mem_reverse.2 hseen

end Path.Leads

inductive Blames (e : Engine) (root : Oid) : Failure → Prop where
  | lookup {o : Oid} (fault : EngineFault) : e.Reaches root o → ¬ e.Answers o →
    Blames e root (.ofLookup o fault)
  | cycle {chain : List String} : e.Cyclic root → e.ClosedWalk root chain →
    Blames e root (.cycle chain)

theorem Blames.closedWalk {chain : List String} (h : Blames e root (.cycle chain)) :
    e.ClosedWalk root chain := by
  generalize hf : Failure.cycle chain = f at h
  cases h with
  | lookup fault => cases fault <;> exact nomatch hf
  | cycle _ hwalk => exact Failure.cycle.inj hf ▸ hwalk

theorem assemble_error {labels : Except Failure (List String)}
    {fields : Except Failure (List (String × Oid))} {next : Oid → Except Failure CatalogType}
    {head : Head} {shape : TypeClass} (h : assemble labels fields next head shape = .error f) :
    shape = .enum ∧ labels = .error f ∨ shape = .composite ∧ fields = .error f ∨
      ∃ o ∈ referencesOf fields shape, next o = .error f := by
  cases shape with
  | scalar | pseudo => exact nomatch h
  | enum =>
    rw [assemble, bind_pure_comp] at h
    exact .inl ⟨rfl, map_except_error h⟩
  | composite =>
    cases hfields : fields with
    | error f' =>
      rw [assemble, hfields] at h
      cases h
      exact .inr (.inl ⟨rfl, rfl⟩)
    | ok defs =>
      rw [assemble, hfields] at h
      have hdefs := map_except_error (by rw [← bind_pure_comp]; exact h)
      obtain ⟨d, hd, hnext⟩ := mapM_except_error hdefs
      rw [bind_pure_comp] at hnext
      exact .inr (.inr ⟨d.2, List.mem_map_of_mem hd, map_except_error hnext⟩)
  | domain o =>
    rw [assemble, bind_pure_comp] at h
    exact .inr (.inr ⟨o, List.mem_singleton_self o, map_except_error h⟩)
  | array o =>
    rw [assemble, bind_pure_comp] at h
    exact .inr (.inr ⟨o, List.mem_singleton_self o, map_except_error h⟩)

theorem blames_of_expandIn (hp : p.Leads e root oid) (h : expandIn e p oid = .error f) :
    Blames e root f := by
  induction p using Path.induct generalizing oid with
  | h p ih =>
    cases hw : wellKnown? oid with
    | some t => exact nomatch (expandIn_wellKnown hw).symm.trans h
    | none =>
      cases hh : e.header [] oid with
      | error fault =>
        obtain rfl := Except.error.inj ((expandIn_refused hw hh).symm.trans h)
        refine .lookup fault hp.reaches fun ha => ?_
        obtain ⟨h', hh', -⟩ := ha hw
        exact nomatch hh.symm.trans hh'
      | ok header =>
        by_cases hseen : oid ∈ p.map Prod.fst
        · obtain rfl := Except.error.inj ((expandIn_seen hw hh hseen).symm.trans h)
          have hname : e.name? oid = some header.name := by rw [Engine.name?, hh]; rfl
          exact .cycle (hp.cyclic hseen) (hp.closedWalk hseen hname)
        · rw [expandIn_told hw hh hseen] at h
          rcases assemble_error h with ⟨hshape, hl⟩ | ⟨hshape, hl⟩ | ⟨o, ho, hnext⟩
          · obtain ⟨fault, hfault, rfl⟩ := mapError_eq_error hl
            refine .lookup fault hp.reaches fun ha => ?_
            obtain ⟨labels, hlabels⟩ := (ha.told hw hh).1 hshape
            exact nomatch hfault.symm.trans hlabels
          · obtain ⟨fault, hfault, rfl⟩ := mapError_eq_error hl
            refine .lookup fault hp.reaches fun ha => ?_
            obtain ⟨fields, hfields⟩ := (ha.told hw hh).2 hshape
            exact nomatch hfault.symm.trans hfields
          · exact ih oid header.name hseen (hp.cons hw hh hseen ho) hnext

theorem describes_of_expand (he : e.Steady) (h : expand e oid = .ok t) :
    t.oid = oid ∧ Describes e t := by
  have hempty := Cache.valid_empty e
  cases hx : fetch e oid .empty with
  | ok u c' =>
    obtain rfl := Except.ok.inj (((fetch_follows he hempty).of_ok hx).symm.trans h)
    obtain ⟨hv, -, hu, ho⟩ := (fetch_ends hempty).of_ok hx
    exact ⟨ho, hv.described u hu⟩
  | error f c' => exact nomatch ((fetch_follows he hempty).of_error hx).symm.trans h

theorem expand_eq_cycle_iff (he : e.Steady) (ha : ∀ o, e.Reaches oid o → e.Answers o) :
    (∃ chain, expand e oid = .error (.cycle chain)) ↔ e.Cyclic oid := by
  cases h : expand e oid with
  | ok t =>
    obtain ⟨rfl, hd⟩ := describes_of_expand he h
    exact iff_of_false (fun ⟨_, hchain⟩ => nomatch hchain) (not_cyclic_of_describes he hd)
  | error f =>
    cases blames_of_expandIn (.nil e oid) h with
    | lookup fault hreach hunanswered => exact absurd (ha _ hreach) hunanswered
    | @cycle chain hcyclic _ => exact iff_of_true ⟨chain, rfl⟩ hcyclic

theorem expand_eq_ok_of_not_cyclic (he : e.Steady) (ha : ∀ o, e.Reaches oid o → e.Answers o)
    (hc : ¬ e.Cyclic oid) :
    ∃ t, expand e oid = .ok t ∧ t.oid = oid ∧ ∀ u ∈ t.nodes, e.Defines u := by
  cases h : expand e oid with
  | ok t =>
    obtain ⟨ho, hd⟩ := describes_of_expand he h
    exact ⟨t, rfl, ho, fun u hu => defines_of_describes he (describes_of_mem_nodes hd hu)⟩
  | error f =>
    cases blames_of_expandIn (.nil e oid) h with
    | lookup fault hreach hunanswered => exact absurd (ha _ hreach) hunanswered
    | cycle hcyclic _ => exact absurd hcyclic hc

/-- No fetch goes deeper than `UInt32.size + 1` levels. If the engine gives one answer to one
question, a fetch reports a cycle exactly if there is one below the number, whatever was fetched
before, as long as nothing else below it fails. -/
theorem fetch_detects_cycles (e : Engine) (oid : Oid) :
    (∀ bottom n, UInt32.size < n → (fetchLevel e)^[n] bottom [] oid = fetch e oid) ∧
      (e.Steady → (∀ o, e.Reaches oid o → e.Answers o) → ∀ earlier : List Oid,
        let out := outcome (fetch e oid) (earlier.foldl (Cache.after e) .empty)
        ((∃ chain, out = .error (.cycle chain)) ↔ e.Cyclic oid) ∧
          (¬ e.Cyclic oid →
            ∃ t, out = .ok t ∧ t.oid = oid ∧ ∀ u ∈ t.nodes, e.Defines u) ∧
          ∀ chain, out = .error (.cycle chain) → e.ClosedWalk oid chain) := by
  refine ⟨fun bottom n hn => fetch_eq_iterate e bottom hn oid, fun he ha earlier => ?_⟩
  have hvalid := (Cache.valid_foldl_after (Cache.valid_empty e) earlier).1
  rw [outcome_fetch he hvalid]
  refine ⟨expand_eq_cycle_iff he ha, expand_eq_ok_of_not_cyclic he ha, fun chain h => ?_⟩
  exact (blames_of_expandIn (.nil e oid) h).closedWalk

theorem Engine.Reaches.mem_of_closed {known : List Oid} {o : Oid} (h : e.Reaches oid o)
    (hclosed : ∀ a ∈ known, ∀ b ∈ e.references a, b ∈ known) (ho : oid ∈ known) : o ∈ known := by
  induction h with
  | refl => exact ho
  | tail _ hstep ih => exact hclosed _ ih _ hstep

theorem fetch_detects_cycles_node :
    circle.engine.Steady ∧
      ∃ chain,
        outcome (fetch circle.engine ⟨16421⟩)
            ([⟨16421⟩, ⟨16401⟩].foldl (Cache.after circle.engine) .empty) =
          .error (.cycle chain) ∧
        circle.engine.ClosedWalk ⟨16421⟩ chain := by
  have he := Snapshot.steady_engine (show circle.lostAfter = none from rfl)
  have hnode : circle.engine.references ⟨16421⟩ = [⟨20⟩, ⟨16422⟩] := rfl
  have hedge : circle.engine.references ⟨16422⟩ = [⟨16401⟩, ⟨16421⟩] := rfl
  have hmood : circle.engine.references ⟨16401⟩ = [] := rfl
  have hint : circle.engine.references ⟨20⟩ = [] := rfl
  have ha (o : Oid) (ho : circle.engine.Reaches ⟨16421⟩ o) : circle.engine.Answers o := by
    have hmem : o ∈ [(⟨16421⟩ : Oid), ⟨16422⟩, ⟨16401⟩, ⟨20⟩] := by
      refine ho.mem_of_closed ?_ (by simp)
      simp [hnode, hedge, hmood, hint]
    simp only [List.mem_cons, List.not_mem_nil, or_false] at hmem
    rcases hmem with rfl | rfl | rfl | rfl
    · exact fun _ => ⟨_, rfl, fun _ => ⟨_, rfl⟩, fun _ => ⟨_, rfl⟩⟩
    · exact fun _ => ⟨_, rfl, fun _ => ⟨_, rfl⟩, fun _ => ⟨_, rfl⟩⟩
    · exact fun _ => ⟨_, rfl, fun _ => ⟨_, rfl⟩, fun _ => ⟨_, rfl⟩⟩
    · exact fun h => absurd h (by decide)
  have hcyclic : circle.engine.Cyclic ⟨16421⟩ := by
    refine ⟨⟨16421⟩, .refl, .head (b := ⟨16422⟩) ?_ (.single ?_)⟩
    · simp [Engine.Refers, hnode]
    · simp [Engine.Refers, hedge]
  obtain ⟨hiff, -, hwalk⟩ := (fetch_detects_cycles circle.engine ⟨16421⟩).2 he ha [⟨16421⟩, ⟨16401⟩]
  obtain ⟨chain, hchain⟩ := hiff.2 hcyclic
  exact ⟨he, chain, hchain, hwalk chain hchain⟩

end QueryTyping.Catalog
