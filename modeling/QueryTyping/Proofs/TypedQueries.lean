import QueryTyping.Proofs.FreshName
import QueryTyping.Proofs.Lookups
import QueryTyping.Proofs.ResolutionSteps

namespace QueryTyping

open Catalog (Engine Statement)
open Naming (inTurn)
open Resolution (Keeps)

namespace Failure

def isCheck : Failure → Bool
  | noRows .. | paramCount .. => true
  | connection _ | unprepared .. | unmapped _ | unknownType .. | nameCollision .. | cycle _
  | invalidOverride .. | invalidAcronym _ | deadlineExceeded _ => false

theorem isCheck_ofLookup (oid : Oid) (fault : Catalog.EngineFault) :
    (ofLookup oid fault).isCheck = false := by
  cases fault with
  | connection | rejected => rfl

end Failure

structure TypedQuery.Fits (t : TypedQuery) (q : SourceQuery) (st : Statement) : Prop where
  names : t.inputs.map InputParam.name = q.paramNames
  params : t.inputs.map (fun p => p.catalogType.oid) = st.params
  given : ∀ p ∈ t.inputs, p.nullable = false
  exec : q.kind = .exec → t.outputs = []
  rows : q.kind ≠ .exec → t.outputs ≠ []
  columns : q.kind ≠ .exec →
    t.outputs.map (fun c => (c.catalogName, c.catalogType.oid, c.nullable)) =
      st.columns.map fun c => (c.name, c.oid, c.nullable.getD true)

theorem Resolution.keeps_unchecked (s : Settings) :
    Keeps s (fun _ => True) (fun _ => True) fun f => f.isCheck = false := by
  constructor <;> intros <;> trivial

namespace Typing

variable {e : Engine} {s : Settings} {limit : Option Nat} {q : SourceQuery} {st : Statement}
  {σ σ' σ₁ : Session} {t : TypedQuery} {α : Type}

abbrev Gives (x : Typing α) (ok : α → Prop) : Prop :=
  Yields (fun _ => True) x ok fun f => f.isCheck = false

theorem typeOf_gives (oid : Oid) : Gives (typeOf e s oid) fun u => u.1.oid = oid := by
  have h := typeOf_yields (e := e) Failure.isCheck_ofLookup (fun _ => rfl)
    ((Resolution.keeps_unchecked s).resolveIn_yields []) oid
  exact h.mono fun _ hu => hu.1

structure InputsFor (s : Settings) (i : Nat) (used : List String) (params : List (String × Oid))
    (inputs : List InputParam) : Prop where
  pairs : inputs.map (fun p => (p.name, p.catalogType.oid)) = params
  given : ∀ p ∈ inputs, p.nullable = false
  idents : inputs.map InputParam.ident = inTurn (paramIdent s) i used (params.map Prod.fst)

theorem typeParams_gives (i : Nat) (used : List String) (params : List (String × Oid)) :
    Gives (typeParams e s i used params) (InputsFor s i used params) := by
  induction params generalizing i used with
  | nil => exact Yields.pure ⟨rfl, by simp, rfl⟩
  | cons p params ih =>
    rw [typeParams]
    refine Yields.bind (typeOf_gives p.2) fun u hu => ?_
    refine Yields.bind (ih (i + 1) (paramIdent s i used p.1 :: used)) fun inputs h => ?_
    refine Yields.pure ⟨?_, List.forall_mem_cons.2 ⟨rfl, h.given⟩, ?_⟩
    · rw [List.map_cons, h.pairs, hu]
    · rw [List.map_cons, h.idents, List.map_cons, inTurn]

def namesAfter (s : Settings) (i : Nat) (earlier : List (String × String)) (name : String) :
    String × String :=
  columnNames s i (earlier.map Prod.fst) (earlier.map Prod.snd) name

structure OutputsFor (s : Settings) (i : Nat) (earlier : List (String × String))
    (columns : List Catalog.Column) (outputs : List OutputColumn) : Prop where
  reported : outputs.map (fun c => (c.catalogName, c.catalogType.oid, c.nullable)) =
    columns.map fun c => (c.name, c.oid, c.nullable.getD true)
  names : outputs.map (fun c => (c.ident, c.name)) =
    inTurn (namesAfter s) i earlier (columns.map Catalog.Column.name)

theorem typeColumns_cons (i : Nat) (earlier : List (String × String)) (c : Catalog.Column)
    (columns : List Catalog.Column) :
    typeColumns e s i (earlier.map Prod.fst) (earlier.map Prod.snd) (c :: columns) = do
      let names := namesAfter s i earlier c.name
      let u ← typeOf e s c.oid
      let outputs ← typeColumns e s (i + 1) ((names :: earlier).map Prod.fst)
        ((names :: earlier).map Prod.snd) columns
      return ⟨c.name, names.2, names.1, u.1, u.2, c.nullable.getD true⟩ :: outputs := by
  rw [typeColumns]
  rfl

theorem typeColumns_gives (i : Nat) (earlier : List (String × String))
    (columns : List Catalog.Column) :
    Gives (typeColumns e s i (earlier.map Prod.fst) (earlier.map Prod.snd) columns)
      (OutputsFor s i earlier columns) := by
  induction columns generalizing i earlier with
  | nil => exact Yields.pure ⟨rfl, rfl⟩
  | cons c columns ih =>
    rw [typeColumns_cons]
    refine Yields.bind (typeOf_gives c.oid) fun u hu => ?_
    refine Yields.bind (ih (i + 1) _) fun outputs h => ?_
    refine Yields.pure ⟨?_, ?_⟩
    · rw [List.map_cons, h.reported, hu, List.map_cons]
    · rw [List.map_cons, h.names, List.map_cons, inTurn]

structure Typed (s : Settings) (params : List (String × Oid)) (columns : List Catalog.Column)
    (t : TypedQuery) : Prop where
  inputs : InputsFor s 0 [] params t.inputs
  outputs : OutputsFor s 0 [] columns t.outputs

theorem typeShape_gives (params : List (String × Oid)) (columns : List Catalog.Column) :
    Gives (typeShape e s q params columns) (Typed s params columns) := by
  refine Yields.bind (typeParams_gives 0 [] params) fun inputs hi => ?_
  refine Yields.bind (typeColumns_gives 0 [] columns) fun outputs ho => ?_
  exact Yields.pure ⟨hi, ho⟩

theorem Typed.fits {columns : List Catalog.Column} (hl : st.params.length = q.paramNames.length)
    (hc : columnsFor q st.columns = .ok columns)
    (h : Typed s (q.paramNames.zip st.params) columns t) : t.Fits q st := by
  have hnames := congrArg (List.map Prod.fst) h.inputs.pairs
  have hparams := congrArg (List.map Prod.snd) h.inputs.pairs
  rw [List.map_map, List.map_fst_zip (Nat.le_of_eq hl.symm)] at hnames
  rw [List.map_map, List.map_snd_zip (Nat.le_of_eq hl)] at hparams
  have houtputs := h.outputs.reported
  rcases columnsFor_eq_ok_iff.1 hc with ⟨hk, rfl⟩ | ⟨hk, hne, rfl⟩
  · have hnil : t.outputs = [] := List.map_eq_nil_iff.1 houtputs
    exact ⟨hnames, hparams, h.inputs.given, fun _ => hnil, (absurd hk ·), (absurd hk ·)⟩
  · refine ⟨hnames, hparams, h.inputs.given, (absurd · hk), fun _ hnil => ?_, fun _ => houtputs⟩
    rw [hnil] at houtputs
    exact hne (List.map_eq_nil_iff.1 houtputs.symm)

inductive Decided (e : Engine) (s : Settings) (limit : Option Nat) (q : SourceQuery)
    (st : Statement) (σ σ₁ : Session) : Prop where
  | paramCount : st.params.length ≠ q.paramNames.length →
    typeQuery e s limit q σ =
      .error (.paramCount q.name q.paramNames.length st.params.length) (told q st σ₁) →
        Decided e s limit q st σ σ₁
  | noRows : st.params.length = q.paramNames.length → q.kind ≠ .exec → st.columns = [] →
    typeQuery e s limit q σ = .error (.noRows q.name q.kind) (told q st σ₁) →
      Decided e s limit q st σ σ₁
  | types {columns : List Catalog.Column} : st.params.length = q.paramNames.length →
    columnsFor q st.columns = .ok columns →
      Ends (typeQuery e s limit q) σ (fun t _ => Typed s (q.paramNames.zip st.params) columns t)
        (fun f _ => f.isCheck = false) →
      Decided e s limit q st σ σ₁

theorem decided_of_prepare (h : prepare e limit q σ = .ok st σ₁) :
    Decided e s limit q st σ σ₁ := by
  have heq := typeQuery_of_prepare (s := s) h
  by_cases hl : st.params.length = q.paramNames.length
  · rw [if_neg (not_not.2 hl)] at heq
    cases hc : columnsFor q st.columns with
    | error f =>
      rw [hc] at heq
      obtain ⟨hk, hcolumns, rfl⟩ := columnsFor_eq_error_iff.1 hc
      exact .noRows hl hk hcolumns heq
    | ok columns =>
      rw [hc] at heq
      have hgives := typeShape_gives (e := e) (s := s) (q := q) (q.paramNames.zip st.params)
        columns (told q st σ₁) trivial
      have hends := hgives.of_eq heq
      exact .types hl hc (hends.mono (fun _ _ ht => ht.2) fun _ _ hf => hf.2)
  · rw [if_pos hl] at heq
    exact .paramCount hl heq

theorem typed_of_typeQuery (h : typeQuery e s limit q σ = .ok t σ') :
    ∃ params columns, params.map Prod.fst = q.paramNames ∧ Typed s params columns t := by
  cases hp : prepare e limit q σ with
  | error f σ₁ =>
    rw [typeQuery, bind_of_error hp] at h
    cases h
  | ok st σ₁ =>
    cases decided_of_prepare (s := s) hp with
    | paramCount _ herror => cases herror.symm.trans h
    | noRows _ _ _ herror => cases herror.symm.trans h
    | types hl _ hends =>
      exact ⟨_, _, List.map_fst_zip (Nat.le_of_eq hl.symm), hends.of_ok h⟩

structure Validated (e : Engine) (s : Settings) (limit : Option Nat) (q : SourceQuery)
    (st : Statement) (σ : Session) : Prop where
  paramCount : ∀ name declared actual,
    outcome (typeQuery e s limit q) σ = .error (.paramCount name declared actual) ↔
      st.params.length ≠ q.paramNames.length ∧
        (name = q.name ∧ declared = q.paramNames.length ∧ actual = st.params.length)
  noRows : ∀ name kind,
    outcome (typeQuery e s limit q) σ = .error (.noRows name kind) ↔
      st.params.length = q.paramNames.length ∧ (q.kind ≠ .exec ∧ st.columns = []) ∧
        (name = q.name ∧ kind = q.kind)
  unchanged : ∀ f, outcome (typeQuery e s limit q) σ = .error f → f.isCheck = true →
    σ.Same (stateAfter (typeQuery e s limit q) σ)
  fits : ∀ t, outcome (typeQuery e s limit q) σ = .ok t → t.Fits q st

theorem validated_of_prepare (h : prepare e limit q σ = .ok st σ₁) :
    Validated e s limit q st σ := by
  have hsame : σ.Same (told q st σ₁) := by
    have hprepare := (prepare_ends limit q).of_ok h
    exact ⟨hprepare.types, hprepare.lookups, hprepare.registry⟩
  cases decided_of_prepare (s := s) h with
  | paramCount hl heq =>
    constructor
    · simp [outcome, heq, hl, eq_comm]
    · simp [outcome, heq, hl]
    · intro f _ _
      rwa [stateAfter_of_error heq]
    · simp [outcome, heq]
  | noRows hl hk hc heq =>
    constructor
    · simp [outcome, heq, hl]
    · simp [outcome, heq, hl, hk, hc, eq_comm]
    · intro f _ _
      rwa [stateAfter_of_error heq]
    · simp [outcome, heq]
  | types hl hc hends =>
    have hcheck (f : Failure) (hf : outcome (typeQuery e s limit q) σ = .error f) :
        f.isCheck = false :=
      hends.of_error (eq_error_of_outcome hf)
    constructor
    · intro name declared actual
      constructor
      · intro hf
        exact nomatch hcheck _ hf
      · intro hne
        exact absurd hl hne.1
    · intro name kind
      constructor
      · intro hf
        exact nomatch hcheck _ hf
      · rintro ⟨-, hno, -⟩
        have herror := columnsFor_eq_error_iff.2 ⟨hno.1, hno.2, rfl⟩
        exact nomatch hc.symm.trans herror
    · intro f hf htrue
      rw [hcheck f hf] at htrue
      exact nomatch htrue
    · intro t ht
      exact (hends.of_ok (eq_ok_of_outcome ht)).fits hl hc

set_option maxRecDepth 4000 in
theorem validated_of_prepare_mood :
    let e := Diary.snapshot.engine
    let unnamed := { Diary.mood with paramNames := [] }
    let st : Statement := ⟨[⟨23⟩], [⟨"mood", ⟨16401⟩, none⟩]⟩
    Validated e Diary.settings none unnamed st .empty ∧
      outcome (typeQuery e Diary.settings none unnamed) .empty = .error (.paramCount "Mood" 0 1) ∧
      Validated e Diary.settings none Diary.mood st .empty ∧
      ∃ t, outcome (typeQuery e Diary.settings none Diary.mood) .empty = .ok t ∧
        t.Fits Diary.mood st := by
  intro e unnamed st
  obtain ⟨σ₁, h₁⟩ : ∃ σ₁, prepare e none unnamed .empty = .ok st σ₁ := ⟨_, rfl⟩
  obtain ⟨σ₂, h₂⟩ : ∃ σ₂, prepare e none Diary.mood .empty = .ok st σ₂ := ⟨_, rfl⟩
  have hunnamed := validated_of_prepare (s := Diary.settings) h₁
  have hmood := validated_of_prepare (s := Diary.settings) h₂
  obtain ⟨t, ht⟩ : ∃ t, outcome (typeQuery e Diary.settings none Diary.mood) .empty = .ok t :=
    ⟨_, by cbv⟩
  refine ⟨hunnamed, ?_, hmood, t, ht, hmood.fits t ht⟩
  exact (hunnamed.paramCount _ _ _).2 ⟨by decide, rfl, rfl, rfl⟩

end Typing

end QueryTyping
