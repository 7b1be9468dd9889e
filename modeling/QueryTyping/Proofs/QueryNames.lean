import QueryTyping.Proofs.Formed
import QueryTyping.Proofs.RowNames
import QueryTyping.Proofs.TypedQueries

namespace QueryTyping

open Catalog (Engine)
open Naming

namespace Settings

variable (s : Settings) (i : Nat) (name : String)

def paramBase : Nat → String → String :=
  rowBase s.caser.lowerIdent "unnamedParam"

def columnBase : Nat → String → String :=
  rowBase s.caser.upperIdent "UnnamedColumn"

def fieldBase : Nat → String → String :=
  rowBase s.caser.upperIdent "UnnamedField"

theorem isIdentifier_paramBase : IsIdentifier (s.paramBase i name) :=
  isIdentifier_rowBase (isIdentifier_of_isAlpha (by simp) (by simp)) i
    ((s.caser.lowerIdent_eq_empty_or name).imp_right And.left)

theorem isIdentifier_columnBase : IsIdentifier (s.columnBase i name) :=
  isIdentifier_rowBase (isIdentifier_of_isAlpha (by simp) (by simp)) i
    (s.caser.upperIdent_eq_empty_or name)

theorem isIdentifier_fieldBase : IsIdentifier (s.fieldBase i name) :=
  isIdentifier_rowBase (isIdentifier_of_isAlpha (by simp) (by simp)) i
    (s.caser.upperIdent_eq_empty_or name)

theorem paramBase_not_mem : s.paramBase i name ∉ reservedWords := by
  unfold paramBase rowBase Resolution.orElse
  split
  · exact not_mem_reservedWords (c := 'P') (by simp [fallbackName]) rfl
  · rename_i hne
    exact ((s.caser.lowerIdent_eq_empty_or name).resolve_left hne).2

end Settings

namespace Typing

variable {e : Engine} {s : Settings} {limit : Option Nat} {q : SourceQuery} {σ σ' : Session}
  {t : TypedQuery}

theorem inTurn_paramIdent (s : Settings) : inTurn (paramIdent s) 0 [] = freshRow s.paramBase :=
  rfl

theorem columnNames_eq (s : Settings) (i : Nat) (idents names : List String) (name : String) :
    columnNames s i idents names name =
      if s.columnBase i name ∈ idents then
        (fresh (s.columnBase i name) "" i idents, fresh (name ++ "_" ++ i.repr) "_" i names)
      else (s.columnBase i name, name) :=
  rfl

theorem namesAfter_fst (s : Settings) (i : Nat) (earlier : List (String × String)) (name : String) :
    (namesAfter s i earlier name).1 =
      fresh (s.columnBase i name) "" i (earlier.map Prod.fst) := by
  rw [namesAfter, columnNames_eq]
  by_cases hm : s.columnBase i name ∈ earlier.map Prod.fst
  · rw [if_pos hm]
  · rw [if_neg hm, fresh_eq_base_iff.2 hm]

theorem map_fst_inTurn_namesAfter (s : Settings) (names : List String) :
    (inTurn (namesAfter s) 0 [] names).map Prod.fst = freshRow s.columnBase names :=
  map_inTurn (namesAfter_fst s) 0 [] names

theorem paramsNamed_of_typeQuery (h : typeQuery e s limit q σ = .ok t σ') :
    RowNamed s.paramBase q.paramNames (t.inputs.map InputParam.ident) ∧
      ∀ p ∈ t.inputs, p.ident ∉ reservedWords := by
  obtain ⟨params, columns, hnames, ht⟩ := typed_of_typeQuery h
  have hidents : t.inputs.map InputParam.ident = freshRow s.paramBase q.paramNames := by
    rw [ht.inputs.idents, hnames, inTurn_paramIdent]
  refine ⟨?_, fun p hp => ?_⟩
  · rw [hidents]
    exact rowNamed_freshRow s.isIdentifier_paramBase
  · have hm : p.ident ∈ freshRow s.paramBase q.paramNames := by
      rw [← hidents]
      exact List.mem_map_of_mem hp
    obtain ⟨j, name, used, hident⟩ := exists_of_mem_freshRow hm
    rw [hident]
    exact fresh_not_mem_reservedWords (s.paramBase_not_mem j name) j used

namespace OutputsFor

variable {columns : List Catalog.Column} {outputs : List OutputColumn}

theorem catalogNames (h : OutputsFor s 0 [] columns outputs) :
    outputs.map OutputColumn.catalogName = columns.map Catalog.Column.name := by
  have hreported := congrArg (List.map Prod.fst) h.reported
  rw [List.map_map, List.map_map] at hreported
  exact hreported

theorem idents (h : OutputsFor s 0 [] columns outputs) :
    outputs.map OutputColumn.ident =
      freshRow s.columnBase (outputs.map OutputColumn.catalogName) := by
  have hidents := congrArg (List.map Prod.fst) h.names
  rw [List.map_map, map_fst_inTurn_namesAfter, ← h.catalogNames] at hidents
  exact hidents

end OutputsFor

theorem columnsNamed_of_typeQuery (h : typeQuery e s limit q σ = .ok t σ') :
    RowNamed s.columnBase (t.outputs.map OutputColumn.catalogName)
      (t.outputs.map OutputColumn.ident) := by
  obtain ⟨params, columns, -, ht⟩ := typed_of_typeQuery h
  rw [ht.outputs.idents]
  exact rowNamed_freshRow s.isIdentifier_columnBase

end Typing

theorem Resolution.fieldIdents_eq_freshRow (s : Settings) (names : List String) :
    fieldIdents s 0 [] names = freshRow s.fieldBase names := by
  have hturn (i : Nat) (used : List String) :
      fieldIdents s i used names = inTurn (fieldIdent s) i used names := by
    induction names generalizing i used with
    | nil => rfl
    | cons name names ih => rw [fieldIdents_cons, ih, inTurn]
  rw [hturn]
  rfl

def TargetType.FieldsNamed (s : Settings) : TargetType → Prop
  | .composite _ fieldNames _ source => ∃ h fields, source = .composite h fields ∧
    RowNamed s.fieldBase (fields.map Prod.fst) fieldNames
  | .builtin _ | .named _ | .enum .. | .array _ => True

def Registry.FieldsNamed (s : Settings) (r : Registry) : Prop :=
  (∀ p ∈ r.resolved, p.2.FieldsNamed s) ∧ ∀ d ∈ r.declarations, d.FieldsNamed s

theorem Resolution.keeps_fieldsNamed (s : Settings) :
    Keeps s (Registry.FieldsNamed s) (TargetType.FieldsNamed s) fun _ => True where
  known r hr p hp := hr.1 p hp
  claim r c hr := hr
  learn r t target hr ht := ⟨List.forall_mem_cons.2 ⟨ht, hr.1⟩, hr.2⟩
  declare r target hr ht :=
    ⟨hr.1, List.forall_mem_append.2 ⟨hr.2, List.forall_mem_singleton.2 ht⟩⟩
  scalar h :=
    Target.forall_ofScalar (by simp [Target.builtins, TargetType.FieldsNamed]) (fun _ => trivial) h
  override _ _ _ := trivial
  enum _ _ _ := trivial
  composite h fields ts _ := by
    rw [fieldIdents_eq_freshRow]
    exact ⟨h, fields, rfl, rowNamed_freshRow s.isIdentifier_fieldBase⟩
  array _ _ := trivial
  collision _ _ _ _ := trivial
  cycle _ := trivial
  unmapped _ := trivial
  invalid _ _ _ _ _ _ := trivial

theorem fieldsNamed_of_mem_history {s : Settings} {r : Registry} {ts : List CatalogType}
    (h : r ∈ Registry.empty.history s ts) : ∀ d ∈ r.declarations, d.FieldsNamed s := by
  have hempty : Registry.empty.FieldsNamed s := by simp [Registry.FieldsNamed, Registry.empty]
  exact ((Resolution.keeps_fieldsNamed s).of_mem_history hempty h).2

namespace Likenesses

def params : List String :=
  ["go", "Go", "?", "深", "深"]

def names : List String :=
  ["a2", "a", "A", "深", "深"]

def snapshot : Catalog.Snapshot where
  statements := [
    ⟨"UPDATE t", ⟨[⟨25⟩, ⟨25⟩, ⟨25⟩, ⟨25⟩, ⟨25⟩], []⟩, none, none⟩,
    ⟨"SELECT a", ⟨[], names.map fun name => ⟨name, ⟨23⟩, none⟩⟩, none, none⟩]
  types := []
  lostAfter := none

def settings : Settings :=
  ⟨"app/db", .empty, .empty, none, .shenzhen⟩

def update : SourceQuery :=
  ⟨"Update", "UPDATE t", params, .exec⟩

def select : SourceQuery :=
  ⟨"Select", "SELECT a", [], .many⟩

def integer : CatalogType :=
  .scalar ⟨⟨23⟩, "int4", some "pg_catalog"⟩

def row : CatalogType :=
  .composite ⟨⟨16402⟩, "row", some "public"⟩ (names.map fun name => (name, integer))

set_option maxRecDepth 4000 in
theorem typeQuery_update : ∃ t σ, typeQuery snapshot.engine settings none update .empty = .ok t σ ∧
    t.inputs.map InputParam.ident = ["go_", "go_1", "unnamedParam2", "shen", "shen4"] :=
  ⟨_, _, by cbv, by cbv⟩

set_option maxRecDepth 4000 in
theorem typeQuery_select : ∃ t σ, typeQuery snapshot.engine settings none select .empty = .ok t σ ∧
    t.outputs.map OutputColumn.ident = ["A2", "A", "A2_2", "Shen", "Shen4"] :=
  ⟨_, _, by cbv, by cbv⟩

set_option maxRecDepth 4000 in
theorem declarations_row :
    (Registry.empty.after settings row).declarations =
      [.composite (.inPackage "app/db" "Row") ["A2", "A", "A2_2", "Shen", "Shen4"]
        (List.replicate 5 (.builtin "int32")) row] := by
  cbv

end Likenesses

theorem Typing.paramsNamed_of_typeQuery_likenesses :
    ∃ t σ, typeQuery Likenesses.snapshot.engine Likenesses.settings none Likenesses.update .empty =
        .ok t σ ∧
      t.inputs.map InputParam.ident = ["go_", "go_1", "unnamedParam2", "shen", "shen4"] ∧
      RowNamed Likenesses.settings.paramBase Likenesses.params (t.inputs.map InputParam.ident) ∧
      ∀ p ∈ t.inputs, p.ident ∉ reservedWords := by
  obtain ⟨t, σ, h, hidents⟩ := Likenesses.typeQuery_update
  obtain ⟨hnamed, hreserved⟩ := Typing.paramsNamed_of_typeQuery h
  exact ⟨t, σ, h, hidents, hnamed, hreserved⟩

theorem rowsNamed (s : Settings) :
    (∀ e limit q σ t σ', typeQuery e s limit q σ = .ok t σ' →
      RowNamed s.columnBase (t.outputs.map OutputColumn.catalogName)
        (t.outputs.map OutputColumn.ident)) ∧
    ∀ ts, ∀ r ∈ Registry.empty.history s ts, ∀ d ∈ r.declarations, d.FieldsNamed s :=
  ⟨fun _ _ _ _ _ _ h => Typing.columnsNamed_of_typeQuery h,
    fun _ _ h => fieldsNamed_of_mem_history h⟩

theorem rowsNamed_likenesses :
    (∃ t σ, typeQuery Likenesses.snapshot.engine Likenesses.settings none Likenesses.select .empty =
        .ok t σ ∧
      t.outputs.map OutputColumn.ident = ["A2", "A", "A2_2", "Shen", "Shen4"] ∧
      RowNamed Likenesses.settings.columnBase (t.outputs.map OutputColumn.catalogName)
        ["A2", "A", "A2_2", "Shen", "Shen4"]) ∧
    RowNamed Likenesses.settings.fieldBase Likenesses.names
      ["A2", "A", "A2_2", "Shen", "Shen4"] := by
  constructor
  · obtain ⟨t, σ, h, hidents⟩ := Likenesses.typeQuery_select
    have hnamed := (rowsNamed Likenesses.settings).1 _ _ _ _ _ _ h
    rw [hidents] at hnamed
    exact ⟨t, σ, h, hidents, hnamed⟩
  · have hfields := (rowsNamed Likenesses.settings).2 [Likenesses.row] _ (List.mem_singleton_self _)
    rw [Likenesses.declarations_row, List.forall_mem_singleton] at hfields
    obtain ⟨h, fields, hsource, hnamed⟩ := hfields
    cases hsource
    exact hnamed

end QueryTyping
