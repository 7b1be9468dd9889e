import QueryTyping.Proofs.Expansion
import QueryTyping.Proofs.Uses

namespace QueryTyping

open Catalog (Engine returned)

def Catalog.Statement.oids (st : Catalog.Statement) : List Oid :=
  st.params ++ st.columns.map Catalog.Column.oid

namespace Typing

variable {e : Engine} {s : Settings} {limit : Option Nat} {q : SourceQuery} {σ σ' σ₁ : Session}
  {st : Catalog.Statement} {f : Failure} {chain : List String}

def told (q : SourceQuery) (st : Catalog.Statement) (σ : Session) : Session :=
  σ.tell [.prepared q.name st.params.length st.columns.length]

def FetchFails (e : Engine) (s : Settings) (limit : Option Nat) (q : SourceQuery) (σ : Session)
    (f : Failure) (σ' : Session) : Prop :=
  ∃ st σ₁ before oid us σ₂, prepare e limit q σ = .ok st σ₁ ∧ before ++ [oid] <+: st.oids ∧
    before.mapM (typeOf e s) (told q st σ₁) = .ok us σ₂ ∧ fetch e oid σ₂ = .error f σ'

inductive Fails (e : Engine) (s : Settings) (limit : Option Nat) (q : SourceQuery) (σ : Session) :
    Failure → Session → Prop where
  | prepare {f : Failure} {σ' : Session} : prepare e limit q σ = .error f σ' →
    Fails e s limit q σ f σ'
  | paramCount {st : Catalog.Statement} {σ₁ : Session} : Typing.prepare e limit q σ = .ok st σ₁ →
    st.params.length ≠ q.paramNames.length →
      Fails e s limit q σ (.paramCount q.name q.paramNames.length st.params.length) (told q st σ₁)
  | columns {st : Catalog.Statement} {σ₁ : Session} {f : Failure} :
    Typing.prepare e limit q σ = .ok st σ₁ → st.params.length = q.paramNames.length →
      columnsFor q st.columns = .error f → Fails e s limit q σ f (told q st σ₁)
  | types {st : Catalog.Statement} {σ₁ σ' : Session} {f : Failure} {columns : List Catalog.Column} :
    Typing.prepare e limit q σ = .ok st σ₁ → st.params.length = q.paramNames.length →
      columnsFor q st.columns = .ok columns →
      (st.params ++ columns.map Catalog.Column.oid).mapM (typeOf e s) (told q st σ₁) = .error f σ' →
      Fails e s limit q σ f σ'

theorem typeQuery_of_prepare (h : prepare e limit q σ = .ok st σ₁) :
    typeQuery e s limit q σ =
      if st.params.length ≠ q.paramNames.length then
        .error (.paramCount q.name q.paramNames.length st.params.length) (told q st σ₁)
      else match columnsFor q st.columns with
        | .error f => .error f (told q st σ₁)
        | .ok columns => typeShape e s q (q.paramNames.zip st.params) columns (told q st σ₁) := by
  have htell : tell (.prepared q.name st.params.length st.columns.length) σ₁ =
      .ok ⟨⟩ (told q st σ₁) :=
    rfl
  unfold typeQuery
  rw [bind_of_ok h, bind_of_ok htell]
  dsimp only
  split
  · rfl
  · cases columnsFor q st.columns with
    | ok columns => rfl
    | error f => rfl

theorem columnsFor_eq_error_iff {columns : List Catalog.Column} {f : Failure} :
    columnsFor q columns = .error f ↔
      q.kind ≠ .exec ∧ columns = [] ∧ f = .noRows q.name q.kind := by
  unfold columnsFor
  cases hk : q.kind <;> cases columns <;> simp [eq_comm]

theorem columnsFor_eq_ok_iff {columns columns' : List Catalog.Column} :
    columnsFor q columns = .ok columns' ↔
      q.kind = .exec ∧ columns' = [] ∨ q.kind ≠ .exec ∧ columns ≠ [] ∧ columns' = columns := by
  unfold columnsFor
  cases hk : q.kind <;> cases columns <;> simp [eq_comm]

theorem fails_of_typeQuery (h : typeQuery e s limit q σ = .error f σ') :
    Fails e s limit q σ f σ' := by
  cases hst : prepare e limit q σ with
  | error g σ₁ =>
    rw [typeQuery, bind_of_error hst] at h
    cases h
    exact .prepare hst
  | ok st σ₁ =>
    rw [typeQuery_of_prepare hst] at h
    split at h
    · rename_i hlength
      cases h
      exact .paramCount hst hlength
    · rename_i hlength
      have hlength := Decidable.not_not.1 hlength
      cases hc : columnsFor q st.columns with
      | error g =>
        rw [hc] at h
        cases h
        exact .columns hst hlength hc
      | ok columns =>
        rw [hc] at h
        have hparams : (q.paramNames.zip st.params).map Prod.snd = st.params :=
          List.map_snd_zip (Nat.le_of_eq hlength)
        have hshape := uses_typeShape (e := e) (s := s) q (q.paramNames.zip st.params) columns
        rw [hparams] at hshape
        exact .types hst hlength hc
          ((congrFun hshape _).symm.trans (map_eq_error (f := TypedQuery.uses) h))

theorem prefix_of_columnsFor {columns columns' : List Catalog.Column}
    (h : columnsFor q columns = .ok columns') : columns' <+: columns := by
  rcases columnsFor_eq_ok_iff.1 h with ⟨-, rfl⟩ | ⟨-, -, rfl⟩
  · exact List.nil_prefix
  · exact List.prefix_refl _

theorem columnsFor_ne_cycle {columns : List Catalog.Column} :
    columnsFor q columns ≠ .error (.cycle chain) := by
  intro h
  obtain ⟨-, -, hf⟩ := columnsFor_eq_error_iff.1 h
  cases hf

theorem prepare_ne_cycle : prepare e limit q σ ≠ .error (.cycle chain) σ' := by
  intro h
  rcases ((prepare_spec limit q).of_error h).2 with ⟨d, -, hf⟩ | ⟨fault, -, hf⟩
  · exact nomatch hf
  · cases fault with
    | connection => exact nomatch hf
    | rejected => exact nomatch hf

theorem fetch_of_typeOf_cycle {oid : Oid} (hσ : σ.Valid e s)
    (h : typeOf e s oid σ = .error (.cycle chain) σ') :
    fetch e oid σ = .error (.cycle chain) σ' := by
  rcases bind_eq_error.1 h with h | ⟨t, σ₁, ht, h⟩
  · exact h
  · rcases bind_eq_error.1 h with h | ⟨target, σ₂, -, h⟩
    · obtain ⟨h₁, -, hmem, -⟩ := (fetch_valid hσ).of_ok ht
      have hends : Ends (resolve s t) σ₁ (fun _ _ => True) fun f _ => f ≠ .cycle chain := by
        refine resolve_ends ((resolve_settles h₁.cache.coherent hmem _ h₁.registry).mono ?_ ?_)
        · exact fun _ _ _ => trivial
        · rintro f r ⟨-, -, u, -, hu⟩
          exact hu.ne_cycle
      exact absurd rfl (hends.of_error h)
    · exact nomatch h

theorem fetchFails_of_cycle (hσ : σ.Valid e s)
    (h : typeQuery e s limit q σ = .error (.cycle chain) σ') :
    FetchFails e s limit q σ (.cycle chain) σ' := by
  cases fails_of_typeQuery h with
  | prepare hst => exact absurd hst prepare_ne_cycle
  | columns _ _ hcolumns => exact absurd hcolumns columnsFor_ne_cycle
  | @types st σ₁ _ _ columns hst _ hcolumns htypes =>
    obtain ⟨before, oid, us, σ₂, hbefore, hus, hoid⟩ := mapM_eq_error htypes
    have htold : (told q st σ₁).Valid e s :=
      (hσ.of_same ((prepare_ends limit q).of_ok hst)).of_same (.of_tell σ₁ _)
    have hσ₂ : σ₂.Valid e s := by
      obtain ⟨_, -, hused⟩ := (mapM_typeOf_tracks before _ htold).of_ok hus
      exact hused.valid
    have hoids : st.params ++ columns.map Catalog.Column.oid <+: st.oids :=
      (List.prefix_append_right_inj _).2 ((prefix_of_columnsFor hcolumns).map _)
    exact ⟨st, σ₁, before, oid, us, σ₂, hst, hbefore.trans hoids, hus,
      fetch_of_typeOf_cycle hσ₂ hoid⟩

end Typing

def Session.after (e : Engine) (s : Settings) (limit : Option Nat) (σ : Session) (q : SourceQuery) :
    Session :=
  stateAfter (typeQuery e s limit q) σ

variable {e : Engine} {s : Settings} {limit : Option Nat} {σ : Session}

theorem Session.valid_foldl_after (hσ : σ.Valid e s) (qs : List SourceQuery) :
    (qs.foldl (Session.after e s limit) σ).Valid e s := by
  induction qs generalizing σ with
  | nil => exact hσ
  | cons q qs ih =>
    refine ih (Ends.after ((Typing.typeQuery_tracks limit q σ hσ).mono ?_ fun _ _ h => h))
    rintro t σ' ⟨us, -, hused⟩
    exact hused.valid

theorem fetches_acyclic (e : Engine) (oids : List Oid) :
    CatalogType.Consistent (returned e .empty oids) ∧
      (∀ t ∈ returned e .empty oids, ∀ path, CatalogType.IsDescent (t :: path) →
        ((t :: path).map CatalogType.oid).Nodup) ∧
      (∀ s us, us ⊆ returned e .empty oids → ∀ t ∈ returned e .empty oids, ∀ chain r,
        resolve s t (us.foldl (Registry.after s) .empty) ≠ .error (.cycle chain) r) ∧
      ∀ s limit (qs : List SourceQuery) q chain σ',
        typeQuery e s limit q (qs.foldl (Session.after e s limit) .empty) =
            .error (.cycle chain) σ' →
          Typing.FetchFails e s limit q (qs.foldl (Session.after e s limit) .empty)
            (.cycle chain) σ' := by
  refine ⟨Catalog.consistent_returned e oids, ?_, ?_, ?_⟩
  · intro t ht path hpath
    exact Catalog.nodup_descent_of_returned ht hpath
  · intro s us hus t ht chain r
    exact Registry.resolve_returned_ne_cycle hus ht chain r
  · intro s limit qs q chain σ' h
    exact Typing.fetchFails_of_cycle (Session.valid_foldl_after (Session.valid_empty e s) qs) h

namespace Diary

def circle : Catalog.Snapshot where
  statements := ⟨"SELECT node", ⟨[], [⟨"node", ⟨16421⟩, none⟩]⟩, none, none⟩ :: snapshot.statements
  types := Catalog.circle.types ++ snapshot.types
  lostAfter := none

def node : SourceQuery :=
  ⟨"Node", "SELECT node", [], .one⟩

theorem returned_circle :
    returned circle.engine .empty [⟨16403⟩, ⟨16421⟩, ⟨16402⟩] = [daysType, dayType] := by
  cbv

set_option maxRecDepth 4000 in
theorem typeQuery_node :
    ∃ σ, typeQuery circle.engine settings none node
      ([days].foldl (Session.after circle.engine settings none) .empty) =
        .error (.cycle ["node", "edge", "node"]) σ :=
  ⟨_, by cbv⟩

end Diary

theorem fetches_acyclic_circle :
    CatalogType.Consistent [Diary.daysType, Diary.dayType] ∧
      ((Diary.daysType :: [Diary.dayType, Diary.moodType]).map CatalogType.oid).Nodup ∧
      (∀ chain r, resolve Diary.settings Diary.dayType
        ([Diary.daysType].foldl (Registry.after Diary.settings) .empty) ≠
          .error (.cycle chain) r) ∧
      ∃ σ, Typing.FetchFails Diary.circle.engine Diary.settings none Diary.node
        ([Diary.days].foldl (Session.after Diary.circle.engine Diary.settings none) .empty)
        (.cycle ["node", "edge", "node"]) σ := by
  obtain ⟨hone, hdescent, hresolve, hquery⟩ :=
    fetches_acyclic Diary.circle.engine [⟨16403⟩, ⟨16421⟩, ⟨16402⟩]
  rw [Diary.returned_circle] at hone hdescent hresolve
  obtain ⟨σ, hσ⟩ := Diary.typeQuery_node
  refine ⟨hone, ?_, ?_, σ, hquery _ _ _ _ _ _ hσ⟩
  · refine hdescent Diary.daysType (by simp) _ ?_
    simp [CatalogType.IsDescent, Diary.daysType, Diary.dayType, CatalogType.parts]
  · exact hresolve _ _ (by simp) Diary.dayType (by simp)

end QueryTyping
