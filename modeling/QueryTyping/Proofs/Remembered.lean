import Mathlib
import QueryTyping.Catalog.Described
import QueryTyping.Proofs.Fetch

namespace QueryTyping.Catalog

namespace Described

def parts : Described → List Described
  | composite _ _ fields => fields.map Prod.snd
  | domain _ _ inner | array _ _ inner | range _ _ inner => [inner]
  | simple _ _ | pseudo _ _ | enum _ _ _ => []

theorem sizeOf_lt_of_mem_parts {d p : Described} (h : p ∈ d.parts) : sizeOf p < sizeOf d := by
  cases d with
  | composite oid name fields =>
    obtain ⟨f, hf, rfl⟩ := List.mem_map.1 h
    have hlt := List.sizeOf_lt_of_mem hf
    obtain ⟨field, p⟩ := f
    simp only [composite.sizeOf_spec, Prod.mk.sizeOf_spec] at hlt ⊢
    omega
  | domain oid name inner | array oid name inner | range oid name inner =>
    obtain rfl := List.mem_singleton.1 h
    simp only [domain.sizeOf_spec, array.sizeOf_spec, range.sizeOf_spec]
    omega
  | simple | pseudo | enum => simp [parts] at h

theorem exists_part_of_shape {d : Described} {o : Oid}
    (h : d.shape = .ok (.domain o) ∨ d.shape = .ok (.array o)) : ∃ p ∈ d.parts, p.oid = .ok o := by
  cases d with
  | domain oid name base =>
    refine ⟨base, List.mem_singleton_self base, ?_⟩
    rcases h with h | h
    · obtain ⟨o', ho, h⟩ := exists_of_map_eq_ok h
      rw [ho, TypeClass.domain.inj h]
    · obtain ⟨o', -, h⟩ := exists_of_map_eq_ok h
      exact nomatch h
  | array oid name elem =>
    refine ⟨elem, List.mem_singleton_self elem, ?_⟩
    rcases h with h | h
    · obtain ⟨o', -, h⟩ := exists_of_map_eq_ok h
      exact nomatch h
    · obtain ⟨o', ho, h⟩ := exists_of_map_eq_ok h
      rw [ho, TypeClass.array.inj h]
  | simple | pseudo | enum | composite | range => rcases h with h | h <;> exact nomatch h

theorem eq_enum_of_shape {d : Described} (h : d.shape = .ok .enum) :
    ∃ oid name labels, d = .enum oid name labels := by
  cases d with
  | enum oid name labels => exact ⟨oid, name, labels, rfl⟩
  | domain | array =>
    obtain ⟨_, -, h⟩ := exists_of_map_eq_ok h
    exact nomatch h
  | simple | pseudo | composite | range => exact nomatch h

theorem eq_composite_of_shape {d : Described} (h : d.shape = .ok .composite) :
    ∃ oid name fields, d = .composite oid name fields := by
  cases d with
  | composite oid name fields => exact ⟨oid, name, fields, rfl⟩
  | domain | array =>
    obtain ⟨_, -, h⟩ := exists_of_map_eq_ok h
    exact nomatch h
  | simple | pseudo | enum | range => exact nomatch h

@[elab_as_elim]
theorem partsInduct {P : Described → Prop} (h : ∀ d, (∀ p ∈ d.parts, P p) → P d)
    (d : Described) : P d :=
  h d fun p _ => partsInduct h p
termination_by sizeOf d
decreasing_by exact sizeOf_lt_of_mem_parts ‹_›

end Described

namespace DescribedTypes

variable {r r' r'' : DescribedTypes} {d u : Described} {ds : List Described} {oid : Oid}
  {oids : List Oid}

def Records (r : DescribedTypes) (oid : Oid) : Prop :=
  ∃ d, r.get? oid = some d

def Knows (r : DescribedTypes) (d : Described) : Prop :=
  ∃ oid, d.oid = .ok oid ∧ r.Records oid

structure Grows (r r' : DescribedTypes) : Prop where
  kept : ∀ oid d, r.get? oid = some d → r'.get? oid = some d
  settled : ∀ oid d, r'.get? oid = some d → r.get? oid = some d ∨ ∀ p ∈ d.parts, r'.Knows p

theorem Knows.of_kept (h : r.Knows d) (hk : ∀ oid d, r.get? oid = some d → r'.get? oid = some d) :
    r'.Knows d := by
  obtain ⟨oid, ho, u, hu⟩ := h
  exact ⟨oid, ho, u, hk oid u hu⟩

theorem Grows.refl (r : DescribedTypes) : r.Grows r :=
  ⟨fun _ _ h => h, fun _ _ h => .inl h⟩

theorem Grows.trans (h : r.Grows r') (h' : r'.Grows r'') : r.Grows r'' where
  kept oid d hd := h'.kept oid d (h.kept oid d hd)
  settled oid d hd := by
    rcases h'.settled oid d hd with hd | hp
    · exact (h.settled oid d hd).imp_right fun hp p hm => (hp p hm).of_kept h'.kept
    · exact .inr hp

theorem get?_cons (r : DescribedTypes) (oid o : Oid) (d : Described) :
    get? ⟨(oid, d) :: r.types⟩ o = if o = oid then some d else r.get? o := by
  unfold get?
  rw [List.lookup_cons]
  by_cases h : o = oid
  · simp [h]
  · simp [h, beq_eq_false_iff_ne.2 h]

theorem Grows.of_cons (hn : r.get? oid = none) (h : Grows ⟨(oid, d) :: r.types⟩ r')
    (hp : ∀ p ∈ d.parts, r'.Knows p) : r.Grows r' := by
  have hcons := get?_cons r oid (d := d)
  constructor
  · intro o u hu
    have hne : o ≠ oid := by
      rintro rfl
      exact nomatch hn.symm.trans hu
    exact h.kept o u (by rw [hcons, if_neg hne, hu])
  · intro o u hu
    rcases h.settled o u hu with hold | hparts
    · rw [hcons] at hold
      split at hold
      · cases hold
        exact .inr hp
      · exact .inl hold
    · exact .inr hparts

structure Remembered (ds : List Described) (r r' : DescribedTypes) : Prop where
  grows : r.Grows r'
  known : ∀ d ∈ ds, r'.Knows d

theorem Remembered.nil (r : DescribedTypes) : Remembered [] r r :=
  ⟨.refl r, fun _ h => absurd h List.not_mem_nil⟩

theorem Remembered.cons (h : Remembered [d] r r') (h' : Remembered ds r' r'') :
    Remembered (d :: ds) r r'' where
  grows := h.grows.trans h'.grows
  known u hu := by
    rcases List.mem_cons.1 hu with rfl | hu
    · exact (h.known u (by simp)).of_kept h'.grows.kept
    · exact h'.known u hu

def rememberAll : List Described → Remember Unit
  | [] => return ()
  | d :: ds => do
    let _ ← remember d
    rememberAll ds

theorem rememberFields_eq (fields : List (String × Described)) :
    rememberFields fields = rememberAll (fields.map Prod.snd) := by
  induction fields with
  | nil => rfl
  | cons f fields ih =>
    rw [rememberFields, ih]
    rfl

theorem remember_of_known (ho : d.oid = .ok oid) (hd : r.get? oid = some u) :
    remember d r = .ok oid r := by
  have hoid : (MonadExcept.ofExcept (.ok oid) : Remember Oid) r = .ok oid r := rfl
  rw [remember.eq_def, ho]
  refine (bind_of_ok hoid).trans ?_
  rw [get_bind, hd]
  rfl

theorem remember_of_new (ho : d.oid = .ok oid) (hn : r.get? oid = none) :
    remember d r = (do rememberAll d.parts; return oid) ⟨(oid, d) :: r.types⟩ := by
  have hoid : (MonadExcept.ofExcept (.ok oid) : Remember Oid) r = .ok oid r := rfl
  have hadd : (modify fun r => ⟨(oid, d) :: r.types⟩ : Remember Unit) r =
      .ok () ⟨(oid, d) :: r.types⟩ := rfl
  rw [remember.eq_def, ho]
  refine (bind_of_ok hoid).trans ?_
  rw [get_bind, hn]
  refine (bind_of_ok hadd).trans ?_
  cases d with
  | simple | pseudo | enum => rfl
  | composite o name fields =>
    dsimp only
    rw [rememberFields_eq]
    rfl
  | domain | array | range => simp [Described.parts, rememberAll]

theorem rememberAll_ends
    (h : ∀ d ∈ ds, ∀ r, Ends (remember d) r (fun _ r' => Remembered [d] r r') fun _ _ => True)
    (r : DescribedTypes) :
    Ends (rememberAll ds) r (fun _ r' => Remembered ds r r') fun _ _ => True := by
  induction ds generalizing r with
  | nil => exact Ends.pure (.nil r)
  | cons d ds ih =>
    rw [rememberAll]
    refine Ends.bind (h d (by simp) r) ?_ fun _ _ _ => trivial
    intro _ r₁ h₁
    exact (ih (fun u hu => h u (by simp [hu])) r₁).mono (fun _ _ h₂ => h₁.cons h₂)
      fun _ _ _ => trivial

theorem remember_ends (d : Described) (r : DescribedTypes) :
    Ends (remember d) r (fun oid r' => d.oid = .ok oid ∧ Remembered [d] r r') fun _ _ => True := by
  induction d using Described.partsInduct generalizing r with
  | h d ih =>
    unfold Ends
    cases ho : d.oid with
    | error f =>
      rw [remember.eq_def, ho]
      trivial
    | ok oid =>
      cases hm : r.get? oid with
      | some u =>
        rw [remember_of_known ho hm]
        exact ⟨rfl, .refl r, List.forall_mem_singleton.2 ⟨oid, ho, u, hm⟩⟩
      | none =>
        rw [remember_of_new ho hm]
        have hparts := rememberAll_ends
          (fun p hp r => (ih p hp r).mono (fun _ _ h => h.2) fun _ _ _ => trivial)
          ⟨(oid, d) :: r.types⟩
        refine Ends.bind hparts ?_ fun _ _ _ => trivial
        intro _ r' h
        have hself : r'.get? oid = some d := h.grows.kept oid d (by rw [get?_cons, if_pos rfl])
        have hgrows : r.Grows r' := h.grows.of_cons hm h.known
        exact Ends.pure ⟨rfl, hgrows, List.forall_mem_singleton.2 ⟨oid, ho, d, hself⟩⟩

theorem mapM_remember_ends (ds : List Described) (r : DescribedTypes) :
    Ends (ds.mapM remember) r
      (fun oids r' => Remembered ds r r' ∧ ds.map Described.oid = oids.map .ok)
      fun _ _ => True := by
  induction ds generalizing r with
  | nil => exact Ends.pure ⟨.nil r, rfl⟩
  | cons d ds ih =>
    rw [List.mapM_cons]
    refine Ends.bind (remember_ends d r) ?_ fun _ _ _ => trivial
    rintro oid r₁ ⟨ho, h₁⟩
    refine Ends.bind (ih r₁) ?_ fun _ _ _ => trivial
    rintro oids r₂ ⟨h₂, hoids⟩
    exact Ends.pure ⟨h₁.cons h₂, by rw [List.map_cons, List.map_cons, ho, hoids]⟩

theorem Remembered.records (h : Remembered ds r r') (ho : ds.map Described.oid = oids.map .ok) :
    ∀ oid ∈ oids, r'.Records oid := by
  intro oid hm
  have hok : (.ok oid : Except EngineFault Oid) ∈ ds.map Described.oid := by
    rw [ho]
    exact List.mem_map_of_mem hm
  obtain ⟨d, hd, hdo⟩ := List.mem_map.1 hok
  obtain ⟨o, ho', hrec⟩ := h.known d hd
  obtain rfl := Except.ok.inj (hdo.symm.trans ho')
  exact hrec

structure Closed (r : DescribedTypes) : Prop where
  shape : ∀ oid, r.Records oid → ∃ shape, r.shape oid = .ok shape
  base : ∀ oid base, r.shape oid = .ok (.domain base) → r.Records base
  elem : ∀ oid elem, r.shape oid = .ok (.array elem) → r.Records elem
  labels : ∀ oid, r.shape oid = .ok .enum → ∃ labels, r.labels oid = .ok labels
  fields : ∀ oid, r.shape oid = .ok .composite →
    ∃ fields, r.fields oid = .ok fields ∧ ∀ f ∈ fields, r.Records f.2

theorem fieldOids_ok {fields : List (String × Described)} (h : ∀ f ∈ fields, r.Knows f.2) :
    ∃ defs, Described.fieldOids fields = .ok defs ∧ ∀ f ∈ defs, r.Records f.2 := by
  induction fields with
  | nil => exact ⟨[], rfl, fun _ h => absurd h List.not_mem_nil⟩
  | cons f fields ih =>
    obtain ⟨oid, ho, hrec⟩ := h f (by simp)
    obtain ⟨defs, hdefs, hall⟩ := ih fun g hg => h g (by simp [hg])
    refine ⟨(f.1, oid) :: defs, ?_, List.forall_mem_cons.2 ⟨hrec, hall⟩⟩
    rw [Described.fieldOids, ho, hdefs]
    rfl

theorem lookup_of_get? (h : r.get? oid = some d) : r.lookup oid = .ok d := by
  rw [lookup, h]

theorem shape_of_get? (h : r.get? oid = some d) : r.shape oid = d.shape := by
  rw [DescribedTypes.shape, lookup_of_get? h]
  rfl

theorem get?_of_shape {shape : TypeClass} (h : r.shape oid = .ok shape) :
    ∃ d, r.get? oid = some d ∧ d.shape = .ok shape := by
  cases hd : r.get? oid with
  | some d => exact ⟨d, rfl, (shape_of_get? hd).symm.trans h⟩
  | none =>
    rw [DescribedTypes.shape, lookup, hd] at h
    exact nomatch h

theorem closed_of_settled (h : ∀ oid d, r.get? oid = some d → ∀ p ∈ d.parts, r.Knows p) :
    r.Closed := by
  have hrefers (oid o : Oid)
      (hs : r.shape oid = .ok (.domain o) ∨ r.shape oid = .ok (.array o)) : r.Records o := by
    obtain ⟨d, hd, hs⟩ : ∃ d, r.get? oid = some d ∧
        (d.shape = .ok (.domain o) ∨ d.shape = .ok (.array o)) := by
      rcases hs with hs | hs
      · obtain ⟨d, hd, hs⟩ := get?_of_shape hs
        exact ⟨d, hd, .inl hs⟩
      · obtain ⟨d, hd, hs⟩ := get?_of_shape hs
        exact ⟨d, hd, .inr hs⟩
    obtain ⟨p, hp, ho⟩ := Described.exists_part_of_shape hs
    obtain ⟨o', ho', hrec⟩ := h oid d hd p hp
    obtain rfl := Except.ok.inj (ho.symm.trans ho')
    exact hrec
  constructor
  · rintro oid ⟨d, hd⟩
    rw [shape_of_get? hd]
    cases d with
    | domain o name inner | array o name inner =>
      obtain ⟨oid', ho, -⟩ := h oid _ hd inner (List.mem_singleton_self inner)
      exact ⟨_, by rw [Described.shape, ho]; rfl⟩
    | simple | pseudo | enum | composite | range => exact ⟨_, rfl⟩
  · exact fun oid base hs => hrefers oid base (.inl hs)
  · exact fun oid elem hs => hrefers oid elem (.inr hs)
  · intro oid hs
    obtain ⟨d, hd, hs⟩ := get?_of_shape hs
    obtain ⟨o, name, labels, rfl⟩ := Described.eq_enum_of_shape hs
    refine ⟨labels, ?_⟩
    rw [DescribedTypes.labels, lookup_of_get? hd]
    rfl
  · intro oid hs
    obtain ⟨d, hd, hs⟩ := get?_of_shape hs
    obtain ⟨o, name, fields, rfl⟩ := Described.eq_composite_of_shape hs
    obtain ⟨defs, hdefs, hall⟩ := fieldOids_ok fun f hf => h oid _ hd f.2 (List.mem_map_of_mem hf)
    refine ⟨defs, ?_, hall⟩
    rw [DescribedTypes.fields, lookup_of_get? hd]
    exact hdefs

theorem closed_of_remembered (h : Remembered ds .empty r) : r.Closed :=
  closed_of_settled fun oid d hd =>
    (h.grows.settled oid d hd).resolve_left fun hnone => nomatch hnone

structure Answers (r : DescribedTypes) (e : Engine) : Prop where
  header : ∀ earlier oid, r.Records oid → ∃ schemaOf, e.header earlier oid = r.header schemaOf oid
  labels : ∀ earlier oid, r.Records oid → e.labels earlier oid = r.labels oid
  fields : ∀ earlier oid, r.Records oid → e.fields earlier oid = r.fields oid

theorem header_of_shape {shape : TypeClass} (h : r.shape oid = .ok shape)
    (schemaOf : Oid → Option String) :
    ∃ header, r.header schemaOf oid = .ok header ∧ header.shape = shape := by
  obtain ⟨d, hd, -⟩ := get?_of_shape h
  rw [DescribedTypes.header, h, lookup_of_get? hd]
  exact ⟨_, rfl, rfl⟩

end DescribedTypes

variable {r : DescribedTypes} {e : Engine} {oid : Oid}

theorem DescribedTypes.Closed.serves (hr : r.Closed) (he : r.Answers e) :
    e.Serves r.Records (fun oid shape => r.shape oid = .ok shape)
      fun f => ∃ chain, f = .cycle chain where
  header oid ho := by
    obtain ⟨shape, hs⟩ := hr.shape oid ho
    have hheader (earlier : List Call) :
        ∃ h, e.header earlier oid = .ok h ∧ h.shape = shape := by
      obtain ⟨schemaOf, hh⟩ := he.header earlier oid ho
      rw [hh]
      exact DescribedTypes.header_of_shape hs schemaOf
    refine ask_finds (fun earlier h hh => ?_) fun earlier fault hfault => ?_
    · obtain ⟨h', hh', hshape⟩ := hheader earlier
      obtain rfl := Except.ok.inj (hh'.symm.trans hh)
      rw [hshape]
      exact hs
    · obtain ⟨h', hh', -⟩ := hheader earlier
      exact nomatch hh'.symm.trans hfault
  labels oid ho hs := by
    obtain ⟨labels, hl⟩ := hr.labels oid hs
    refine ask_finds (fun _ _ _ => trivial) fun earlier fault hfault => ?_
    exact nomatch ((he.labels earlier oid ho).trans hl).symm.trans hfault
  fields oid ho hs := by
    obtain ⟨fields, hf, hall⟩ := hr.fields oid hs
    refine ask_finds (fun earlier defs hdefs => ?_) fun earlier fault hfault => ?_
    · obtain rfl := Except.ok.inj (((he.fields earlier oid ho).trans hf).symm.trans hdefs)
      exact hall
    · exact nomatch ((he.fields earlier oid ho).trans hf).symm.trans hfault
  base := hr.base
  elem := hr.elem
  cycle chain := ⟨chain, rfl⟩

theorem fetch_found_or_cycle (hr : r.Closed) (he : r.Answers e) (ho : r.Records oid) (c : Cache) :
    (∃ t, outcome (fetch e oid) c = .ok t) ∨
      ∃ chain, outcome (fetch e oid) c = .error (.cycle chain) := by
  have h := fetchIn_finds (hr.serves he) [] ho c trivial
  unfold Ends at h
  unfold outcome fetch
  cases hx : fetchIn e [] oid c with
  | ok t c' => exact .inl ⟨t, rfl⟩
  | error f c' =>
    rw [hx] at h
    obtain ⟨-, chain, rfl⟩ := h
    exact .inr ⟨chain, rfl⟩

theorem described_of_remembered {ds : List Described} {oids : List Oid}
    (h : ds.mapM DescribedTypes.remember .empty = .ok oids r) :
    r.Closed ∧ ∀ e, r.Answers e → ∀ oid ∈ oids, ∀ c,
      (∃ t, outcome (fetch e oid) c = .ok t) ∨
        ∃ chain, outcome (fetch e oid) c = .error (.cycle chain) := by
  obtain ⟨hremembered, hoids⟩ := (DescribedTypes.mapM_remember_ends ds .empty).of_ok h
  have hclosed : r.Closed := DescribedTypes.closed_of_remembered hremembered
  refine ⟨hclosed, fun e he oid hm c => ?_⟩
  exact fetch_found_or_cycle hclosed he (hremembered.records hoids oid hm) c

def DescribedTypes.engine (r : DescribedTypes) (schemaOf : Oid → Option String) : Engine where
  latency _ _ := none
  prepare _ _ := .error (.rejected "unknown statement")
  header _ oid := r.header schemaOf oid
  labels _ oid := r.labels oid
  fields _ oid := r.fields oid

theorem DescribedTypes.answers_engine (r : DescribedTypes) (schemaOf : Oid → Option String) :
    r.Answers (r.engine schemaOf) where
  header _ _ _ := ⟨schemaOf, rfl⟩
  labels _ _ _ := rfl
  fields _ _ _ := rfl

namespace Described

def mood : Described :=
  .enum (some ⟨16401⟩) "mood" ["ok"]

def day : Described :=
  .composite (some ⟨16402⟩) "day" [("felt", mood)]

def days : Described :=
  .array (some ⟨16403⟩) "_day" day

def link : Described :=
  .domain (some ⟨16421⟩) "link" (.simple (some ⟨16420⟩) "node")

def node : Described :=
  .composite (some ⟨16420⟩) "node" [("next", link)]

def memory : DescribedTypes :=
  ⟨[(⟨16421⟩, link), (⟨16420⟩, node), (⟨16401⟩, mood), (⟨16402⟩, day), (⟨16403⟩, days)]⟩

theorem remember_days_node :
    [days, node].mapM DescribedTypes.remember .empty = .ok [⟨16403⟩, ⟨16420⟩] memory := by
  cbv

end Described

theorem described_of_remembered_node :
    let e := Described.memory.engine fun _ => some "public"
    [Described.days, Described.node].mapM DescribedTypes.remember .empty =
        .ok [⟨16403⟩, ⟨16420⟩] Described.memory ∧
      Described.memory.Closed ∧ Described.memory.Answers e ∧
      ((∃ t, outcome (fetch e ⟨16420⟩) .empty = .ok t) ∨
        ∃ chain, outcome (fetch e ⟨16420⟩) .empty = .error (.cycle chain)) ∧
      outcome (fetch e ⟨16420⟩) .empty = .error (.cycle ["node", "link", "node"]) ∧
      ∃ t, outcome (fetch e ⟨16403⟩) .empty = .ok t := by
  obtain ⟨hclosed, hfetch⟩ := described_of_remembered Described.remember_days_node
  have he := Described.memory.answers_engine fun _ => some "public"
  exact ⟨Described.remember_days_node, hclosed, he, hfetch _ he ⟨16420⟩ (by simp) .empty, by cbv,
    _, by cbv⟩

end QueryTyping.Catalog
