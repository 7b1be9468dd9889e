import QueryTyping.Proofs.Uses

namespace QueryTyping

open Catalog (Call Engine)

namespace Catalog.Call

def header? : Call → Option Oid
  | header oid => some oid
  | prepare _ | labels _ | fields _ => none

def labels? : Call → Option Oid
  | labels oid => some oid
  | prepare _ | header _ | fields _ => none

def fields? : Call → Option Oid
  | fields oid => some oid
  | prepare _ | header _ | labels _ => none

end Catalog.Call

namespace CatalogType

def isWellKnown (t : CatalogType) : Bool :=
  (Catalog.wellKnown? t.oid).isSome

def isEnum : CatalogType → Bool
  | enum .. => true
  | scalar _ | pseudo _ | composite .. | domain .. | array .. => false

def isComposite : CatalogType → Bool
  | composite .. => true
  | scalar _ | pseudo _ | enum .. | domain .. | array .. => false

variable (t : CatalogType)

theorem header?_details : (t.shape.details t.oid).filterMap Call.header? = [] := by
  cases t <;> rfl

theorem labels?_details : (t.shape.details t.oid).filterMap Call.labels? =
    if t.isEnum then [t.oid] else [] := by
  cases t <;> rfl

theorem fields?_details : (t.shape.details t.oid).filterMap Call.fields? =
    if t.isComposite then [t.oid] else [] := by
  cases t <;> rfl

theorem lookups_of_isWellKnown {t : CatalogType} (h : t.isWellKnown = true) : t.lookups = [] :=
  if_pos h

theorem lookups_of_not_isWellKnown {t : CatalogType} (h : t.isWellKnown = false) :
    t.lookups = .header t.oid :: t.shape.details t.oid :=
  if_neg (ne_true_of_eq_false h)

theorem header?_lookups : t.lookups.filterMap Call.header? =
    if !t.isWellKnown then [t.oid] else [] := by
  cases hw : t.isWellKnown with
  | true => simp [lookups_of_isWellKnown hw]
  | false =>
    have hheader : Call.header? (.header t.oid) = some t.oid := rfl
    rw [lookups_of_not_isWellKnown hw, List.filterMap_cons_some hheader, header?_details]
    simp

theorem labels?_lookups : t.lookups.filterMap Call.labels? =
    if !t.isWellKnown && t.isEnum then [t.oid] else [] := by
  cases hw : t.isWellKnown with
  | true => simp [lookups_of_isWellKnown hw]
  | false =>
    rw [lookups_of_not_isWellKnown hw, List.filterMap_cons_none rfl, labels?_details]
    simp

theorem fields?_lookups : t.lookups.filterMap Call.fields? =
    if !t.isWellKnown && t.isComposite then [t.oid] else [] := by
  cases hw : t.isWellKnown with
  | true => simp [lookups_of_isWellKnown hw]
  | false =>
    rw [lookups_of_not_isWellKnown hw, List.filterMap_cons_none rfl, fields?_details]
    simp

end CatalogType

def numbers (keep : CatalogType → Bool) (ts : List CatalogType) : List Oid :=
  ((ts.filter keep).map CatalogType.oid).eraseDups

variable {e : Engine} {s : Settings} {qs : List SourceQuery} {g : Generation} {σ : Session}

theorem filterMap_lookups {pick : Call → Option Oid} (hpick : ∀ sql, pick (.prepare sql) = none)
    (c : Catalog.Cache) : c.lookups.filterMap pick = c.calls.filterMap pick := by
  rw [Catalog.Cache.lookups, List.filterMap_filter]
  refine List.filterMap_congr fun call _ => ?_
  cases call with
  | prepare sql => exact (hpick sql).symm
  | header | labels | fields => rfl

namespace Generation.Sound

theorem lookups_eq (h : g.Sound e s σ) :
    σ.cache.lookups = g.nodes.eraseDups.flatMap CatalogType.lookups := by
  rw [h.visited.lookups]
  simp [unmet_nil_known, Catalog.Cache.lookups, Catalog.Cache.empty]

theorem mem_types_iff (h : g.Sound e s σ) {t : CatalogType} :
    t ∈ σ.cache.types ↔ t ∈ g.nodes := by
  rw [h.visited.mem_types]
  simp [Catalog.Cache.empty]

theorem filterMap_calls (h : g.Sound e s σ) {pick : Call → Option Oid} {keep : CatalogType → Bool}
    (hpick : ∀ sql, pick (.prepare sql) = none)
    (hkeep : ∀ t : CatalogType, t.lookups.filterMap pick = if keep t then [t.oid] else []) :
    σ.calls.filterMap pick = numbers keep g.nodes := by
  have hone (t : CatalogType) : t.lookups.filterMap pick =
      (if keep t then some t.oid else none).toList := by
    rw [hkeep]
    split <;> rfl
  have hinj : ∀ t ∈ g.nodes, ∀ u ∈ g.nodes, ∀ o, (if keep t then some t.oid else none) = some o →
      (if keep u then some u.oid else none) = some o → t = u := by
    intro t ht u hu o hto huo
    obtain ⟨-, ht'⟩ := Option.ite_none_right_eq_some.1 hto
    obtain ⟨-, hu'⟩ := Option.ite_none_right_eq_some.1 huo
    refine h.valid.cache.coherent.unique t (h.mem_types_iff.2 ht) u (h.mem_types_iff.2 hu) ?_
    exact Option.some.inj (ht'.trans hu'.symm)
  calc σ.calls.filterMap pick
      = (g.nodes.eraseDups.flatMap CatalogType.lookups).filterMap pick := by
        rw [← h.lookups_eq, filterMap_lookups hpick]
        rfl
    _ = g.nodes.eraseDups.filterMap fun t => if keep t then some t.oid else none := by
        rw [List.filterMap_flatMap, List.filterMap_eq_flatMap_toList]
        simp only [hone]
    _ = (g.nodes.filterMap fun t => if keep t then some t.oid else none).eraseDups :=
        (eraseDups_filterMap hinj).symm
    _ = numbers keep g.nodes := by
        rw [numbers, ← List.filterMap_eq_map, List.filterMap_filter]
        rfl

theorem catalogTypes_eq (h : g.Sound e s σ) :
    g.stats.catalogTypes = (numbers (fun _ => true) g.nodes).length := by
  have hperm : (σ.cache.types.map CatalogType.oid).Perm (numbers (fun _ => true) g.nodes) := by
    refine (List.perm_ext_iff_of_nodup h.valid.cache.nodup (nodup_eraseDups _)).2 fun o => ?_
    simp [h.mem_types_iff]
  rw [h.catalogTypes, ← hperm.length_eq, List.length_map]

end Generation.Sound

structure AskedOnce (g : Generation) (σ : Session) : Prop where
  headers : σ.calls.filterMap Call.header? = numbers (fun t => !t.isWellKnown) g.nodes
  labels : σ.calls.filterMap Call.labels? = numbers (fun t => !t.isWellKnown && t.isEnum) g.nodes
  fields : σ.calls.filterMap Call.fields? =
    numbers (fun t => !t.isWellKnown && t.isComposite) g.nodes
  catalogTypes : g.stats.catalogTypes = (numbers (fun _ => true) g.nodes).length

theorem askedOnce_of_generate (h : generate e s qs = .ok g σ) : AskedOnce g σ := by
  have hs := generate_sound h
  exact ⟨hs.filterMap_calls (fun _ => rfl) CatalogType.header?_lookups,
    hs.filterMap_calls (fun _ => rfl) CatalogType.labels?_lookups,
    hs.filterMap_calls (fun _ => rfl) CatalogType.fields?_lookups, hs.catalogTypes_eq⟩

theorem askedOnce_of_generate_diary :
    ∃ g σ, generate Diary.snapshot.engine Diary.settings [Diary.days, Diary.mood] = .ok g σ ∧
      σ.calls = Diary.asked ∧ AskedOnce g σ := by
  obtain ⟨g, σ, h, -, -, -, hcalls⟩ := Diary.generate_days_mood
  exact ⟨g, σ, h, hcalls, askedOnce_of_generate h⟩

end QueryTyping
