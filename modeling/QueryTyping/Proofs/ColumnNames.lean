import QueryTyping.Proofs.QueryNames

namespace QueryTyping

open Catalog (Engine)
open Naming

namespace OutputColumn

def numbered (j : Nat) (c : OutputColumn) : String :=
  c.catalogName ++ "_" ++ j.repr

def Taken (s : Settings) (outputs : List OutputColumn) (j : Nat) (c : OutputColumn) : Prop :=
  s.columnBase j c.catalogName ∈ (outputs.take j).map ident

end OutputColumn

open OutputColumn (Taken)

structure ColumnsCalled (s : Settings) (outputs : List OutputColumn) : Prop where
  kept : ∀ j c, outputs[j]? = some c → ¬ Taken s outputs j c → c.name = c.catalogName
  numbered : ∀ j c, outputs[j]? = some c → Taken s outputs j c →
    (c.numbered j).toList <+: c.name.toList ∧ c.name ∉ (outputs.take j).map OutputColumn.name
  alike : ∀ j k c d, j < k → outputs[j]? = some c → outputs[k]? = some d → c.name = d.name →
    ¬ Taken s outputs k d ∧
      (¬ Taken s outputs j c ∧ c.catalogName = d.catalogName ∧
          s.caser.upperIdent d.catalogName = "" ∨
        Taken s outputs j c ∧ (c.numbered j).toList <+: d.catalogName.toList)

namespace Typing

variable {e : Engine} {s : Settings} {limit : Option Nat} {q : SourceQuery} {σ σ' : Session}
  {t : TypedQuery} {columns : List Catalog.Column} {outputs : List OutputColumn} {j k : Nat}
  {c d : OutputColumn}

namespace OutputsFor

theorem ident_name (h : OutputsFor s 0 [] columns outputs) (hc : outputs[j]? = some c) :
    (c.ident, c.name) = columnNames s j ((outputs.take j).map OutputColumn.ident).reverse
      ((outputs.take j).map OutputColumn.name).reverse c.catalogName := by
  have hat := getElem?_inTurn (namesAfter s) 0 [] (columns.map Catalog.Column.name) j
  rw [← h.names, ← h.catalogNames] at hat
  simp only [List.getElem?_map, hc, Option.map_some, ← List.map_take, Nat.zero_add,
    List.append_nil, namesAfter, List.map_reverse, List.map_map] at hat
  exact Option.some.inj hat

theorem of_not_taken (h : OutputsFor s 0 [] columns outputs) (hc : outputs[j]? = some c)
    (hn : ¬ Taken s outputs j c) :
    c.ident = s.columnBase j c.catalogName ∧ c.name = c.catalogName := by
  have heq := h.ident_name hc
  rw [columnNames_eq, if_neg (mt List.mem_reverse.1 hn)] at heq
  exact Prod.mk.inj heq

theorem name_of_taken (h : OutputsFor s 0 [] columns outputs) (hc : outputs[j]? = some c)
    (ht : Taken s outputs j c) :
    c.name = fresh (c.numbered j) "_" j ((outputs.take j).map OutputColumn.name).reverse := by
  have heq := h.ident_name hc
  rw [columnNames_eq, if_pos (List.mem_reverse.2 ht)] at heq
  exact (Prod.mk.inj heq).2

theorem numbered (h : OutputsFor s 0 [] columns outputs) (hc : outputs[j]? = some c)
    (ht : Taken s outputs j c) :
    (c.numbered j).toList <+: c.name.toList ∧ c.name ∉ (outputs.take j).map OutputColumn.name := by
  rw [h.name_of_taken hc ht]
  refine ⟨base_isPrefix_fresh, fun hm => ?_⟩
  exact fresh_not_mem (List.mem_reverse.2 hm)

theorem columnsCalled (h : OutputsFor s 0 [] columns outputs) : ColumnsCalled s outputs where
  kept j c hc hn := (h.of_not_taken hc hn).2
  numbered j c hc ht := h.numbered hc ht
  alike j k c d hjk hc hd hname := by
    have hmem : c ∈ outputs.take k := mem_take_of_getElem? hjk hc
    have hfree : ¬ Taken s outputs k d := by
      intro ht
      refine (h.numbered hd ht).2 ?_
      rw [← hname]
      exact List.mem_map_of_mem hmem
    have hd' := h.of_not_taken hd hfree
    refine ⟨hfree, ?_⟩
    by_cases ht : Taken s outputs j c
    · right
      rw [← hd'.2, ← hname]
      exact ⟨ht, (h.numbered hc ht).1⟩
    · have hc' := h.of_not_taken hc ht
      have hreported : c.catalogName = d.catalogName := by rw [← hc'.2, ← hd'.2, hname]
      refine .inl ⟨ht, hreported, ?_⟩
      -- A name that is cased to something is cased to the same at every position.
      by_contra hne
      have hbase : s.columnBase k d.catalogName = s.columnBase j c.catalogName := by
        rw [hreported, Settings.columnBase, rowBase_of_ne hne, rowBase_of_ne hne]
      refine hfree ?_
      rw [Taken, hbase, ← hc'.1]
      exact List.mem_map_of_mem hmem

end OutputsFor

theorem columnsCalled_of_typeQuery (h : typeQuery e s limit q σ = .ok t σ') :
    ColumnsCalled s t.outputs := by
  obtain ⟨params, columns, -, ht⟩ := typed_of_typeQuery h
  exact ht.outputs.columnsCalled

end Typing

namespace Alike

def column (name : String) : Catalog.Column :=
  ⟨name, ⟨23⟩, none⟩

def snapshot : Catalog.Snapshot where
  statements := [
    ⟨"SELECT 1, 2", ⟨[], [column "?", column "?"]⟩, none, none⟩,
    ⟨"SELECT *", ⟨[], ["a", "A", "?", "?", "深", "深"].map column⟩, none, none⟩]
  types := []
  lostAfter := none

def settings : Settings :=
  ⟨"app/db", .empty, .empty, none, .shenzhen⟩

def pair : SourceQuery :=
  ⟨"Pair", "SELECT 1, 2", [], .one⟩

def pairs : SourceQuery :=
  ⟨"Pairs", "SELECT *", [], .many⟩

set_option maxRecDepth 4000 in
theorem typeQuery_pair : ∃ t σ, typeQuery snapshot.engine settings none pair .empty = .ok t σ ∧
    t.outputs.map OutputColumn.name = ["?", "?"] :=
  ⟨_, _, by cbv, by cbv⟩

set_option maxRecDepth 4000 in
theorem typeQuery_pairs : ∃ t σ, typeQuery snapshot.engine settings none pairs .empty = .ok t σ ∧
    t.outputs.map OutputColumn.name = ["a", "A_1", "?", "?", "深", "深_5"] :=
  ⟨_, _, by cbv, by cbv⟩

end Alike

theorem names_not_nodup : ∃ t σ,
    typeQuery Alike.snapshot.engine Alike.settings none Alike.pair .empty = .ok t σ ∧
      ¬ (t.outputs.map OutputColumn.name).Nodup := by
  obtain ⟨t, σ, h, hnames⟩ := Alike.typeQuery_pair
  refine ⟨t, σ, h, ?_⟩
  rw [hnames]
  decide

theorem Typing.columnsCalled_of_typeQuery_alike : ∃ t σ,
    typeQuery Alike.snapshot.engine Alike.settings none Alike.pairs .empty = .ok t σ ∧
      t.outputs.map OutputColumn.name = ["a", "A_1", "?", "?", "深", "深_5"] ∧
        ColumnsCalled Alike.settings t.outputs := by
  obtain ⟨t, σ, h, hnames⟩ := Alike.typeQuery_pairs
  exact ⟨t, σ, h, hnames, Typing.columnsCalled_of_typeQuery h⟩

end QueryTyping
