import QueryTyping.Proofs.Spelling

namespace QueryTyping

open Catalog (Engine)
open Resolution

theorem isSettings_ofLookup (oid : Oid) (fault : Catalog.EngineFault) :
    (Failure.ofLookup oid fault).isSettings = false := by
  cases fault with
  | connection | rejected => rfl

theorem isSettings_ofPrepare (query : String) (fault : Catalog.EngineFault) :
    (Failure.ofPrepare query fault).isSettings = false := by
  cases fault with
  | connection | rejected => rfl

namespace Typing

variable {e : Engine} {s : Settings} {α β : Type}

def Spares (s : Settings) (x : Typing α) : Prop :=
  Yields (fun σ => σ.registry.Formed s) x (fun _ => True) fun f =>
    f.isSettings = false ∨ s.Unreadable

namespace Spares

variable {x : Typing α} {g : α → Typing β}

theorem of_same (h : ∀ σ, Ends x σ (fun _ σ' => σ.Same σ')
    fun f σ' => σ.Same σ' ∧ f.isSettings = false) : Spares s x := by
  intro σ hσ
  have hformed (σ' : Session) (hs : σ.Same σ') : σ'.registry.Formed s := by
    rw [hs.registry]
    exact hσ
  refine (h σ).mono ?_ ?_
  · exact fun _ σ' hs => ⟨hformed σ' hs, trivial⟩
  · rintro f σ' ⟨hs, hf⟩
    exact ⟨hformed σ' hs, .inl hf⟩

theorem pure (a : α) : Spares s (pure a) :=
  Yields.pure trivial

theorem throw {f : Failure} (hf : f.isSettings = false) : Spares s (throw f : Typing α) :=
  of_same fun _ => Ends.throw ⟨.refl _, hf⟩

theorem bind (hx : Spares s x) (hg : ∀ a, Spares s (g a)) : Spares s (x >>= g) :=
  Yields.bind hx fun a _ => hg a

theorem mapM {f : α → Typing β} (hf : ∀ a, Spares s (f a)) (l : List α) : Spares s (l.mapM f) :=
  Yields.mono (Yields.mapM fun a _ => hf a) fun _ _ => trivial

end Spares

theorem typeOf_spares (oid : Oid) : Spares s (typeOf e s oid) := by
  have hlookup (o : Oid) (fault : Catalog.EngineFault) := isSettings_ofLookup o fault
  have h := typeOf_yields (e := e) (fun o fault => .inl (hlookup o fault)) (fun _ => .inl rfl)
    (resolveIn_forms s []) oid
  exact h.mono fun _ _ => trivial

theorem typeShape_spares (q : SourceQuery) (params : List (String × Oid))
    (columns : List Catalog.Column) : Spares s (typeShape e s q params columns) := by
  have huses : Spares s (TypedQuery.uses <$> typeShape e s q params columns) := by
    rw [uses_typeShape]
    exact .mapM typeOf_spares _
  exact Yields.of_map huses

theorem tell_spares (event : Event) : Spares s (tell event) :=
  .of_same fun _ => Ends.modify (.of_tell _ _)

theorem prepare_spares (limit : Option Nat) (q : SourceQuery) : Spares s (prepare e limit q) := by
  refine .of_same fun σ => (prepare_spec limit q).mono (fun _ _ h => h.1) ?_
  rintro f σ' ⟨hs, ⟨d, -, rfl⟩ | ⟨fault, -, rfl⟩⟩
  · exact ⟨hs, rfl⟩
  · exact ⟨hs, isSettings_ofPrepare q.name fault⟩

theorem columnsFor_spares (q : SourceQuery) (columns : List Catalog.Column) :
    Spares s (MonadExcept.ofExcept (columnsFor q columns)) := by
  unfold columnsFor
  cases q.kind with
  | exec => exact .pure _
  | _ =>
    dsimp only
    split
    · exact .throw rfl
    · exact .pure _

theorem typeQuery_spares (limit : Option Nat) (q : SourceQuery) :
    Spares s (typeQuery e s limit q) := by
  refine (prepare_spares limit q).bind fun st => ?_
  have hrest : Spares s (MonadExcept.ofExcept (columnsFor q st.columns) >>=
      typeShape e s q (q.paramNames.zip st.params)) :=
    (columnsFor_spares q st.columns).bind fun columns => typeShape_spares q _ columns
  refine (tell_spares _).bind fun _ => ?_
  dsimp only
  split
  · exact Spares.bind (.throw rfl) fun _ => hrest
  · exact hrest

theorem typeQueries_spares (qs : List SourceQuery) : Spares s (typeQueries e s qs) := by
  induction qs with
  | nil => exact .pure []
  | cons q qs ih =>
    refine (typeQuery_spares s.deadline q).bind fun t => ?_
    refine (tell_spares _).bind fun _ => ?_
    exact ih.bind fun _ => .pure _

end Typing

theorem isSettings_of_generate {e : Engine} {s : Settings} {qs : List SourceQuery} {f : Failure}
    {σ : Session} (h : generate e s qs = .error f σ) : f.isSettings = false ∨ s.Unreadable := by
  have hspares : Typing.Spares s (generation e s qs) := by
    refine (Typing.typeQueries_spares qs).bind fun ts => ?_
    refine Yields.bind_get fun σ _ => ?_
    exact (Typing.tell_spares _).bind fun _ => .pure _
  exact ((hspares .empty (Registry.formed_empty s)).of_error h).2

end QueryTyping
