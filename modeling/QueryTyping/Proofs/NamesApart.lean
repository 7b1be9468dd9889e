import Mathlib.Data.List.Nodup
import QueryTyping.Proofs.Resolution

namespace QueryTyping

open CatalogType (Coherent)
open Resolution

def CatalogType.Consistent (ts : List CatalogType) : Prop :=
  ∀ t ∈ ts.flatMap nodes, ∀ u ∈ ts.flatMap nodes, t.oid = u.oid → t = u

instance : DecidablePred CatalogType.Consistent :=
  fun ts => inferInstanceAs (Decidable (∀ t ∈ ts.flatMap CatalogType.nodes,
    ∀ u ∈ ts.flatMap CatalogType.nodes, t.oid = u.oid → t = u))

namespace Registry

variable {s : Settings} {known ts : List CatalogType} {r : Registry} {t u : CatalogType}

def after (s : Settings) (r : Registry) (t : CatalogType) : Registry :=
  match resolve s t r with
  | .ok _ r' => r'
  | .error _ r' => r'

def history (s : Settings) (r : Registry) : List CatalogType → List Registry
  | [] => []
  | t :: ts => r.after s t :: (r.after s t).history s ts

structure Overridden (s : Settings) (r : Registry) (t : CatalogType) (n : Target.Name) : Prop where
  resolved : (t, .named n) ∈ r.resolved
  inPackage : n.path ≠ ""
  override : ∃ key value, override? s t.head = some (key, value) ∧
    Target.Name.parse value = .ok n

theorem Overridden.mem_types {n : Target.Name} (h : r.Overridden s t n) : t ∈ r.types :=
  mem_types_iff.2 ⟨_, h.resolved⟩

theorem Overridden.mem_ownClaims {n : Target.Name} (h : r.Overridden s t n) :
    ((n.path, n.name), Claimant.type t.head) ∈ ownClaims s t := by
  obtain ⟨key, value, ho, hn⟩ := h.override
  simp [ownClaims_of_parse ho hn h.inPackage]

structure NamesApart (s : Settings) (r : Registry) : Prop where
  identifiers : (r.declarations.flatMap TargetType.identifiers).Nodup
  inPackage : ∀ d ∈ r.declarations, d.packagePath = s.packagePath
  sources : (r.declarations.map fun d => d.source?.map CatalogType.oid).Nodup
  overrides : ∀ t n u m, r.Overridden s t n → r.Overridden s u m → t.oid ≠ u.oid →
    (n.path, n.name) ≠ (m.path, m.name)
  override_identifier : ∀ t n, r.Overridden s t n → ∀ d ∈ r.declarations, ∀ i ∈ d.identifiers,
    (n.path, n.name) ≠ (d.packagePath, i)

theorem after_eq_stateAfter (s : Settings) (r : Registry) (t : CatalogType) :
    r.after s t = stateAfter (resolve s t) r := by
  unfold Registry.after stateAfter
  cases resolve s t r <;> rfl

theorem of_mem_history {P : Registry → Prop} (hstep : ∀ r, ∀ t ∈ ts, P r → P (r.after s t))
    (hr : P r) {r' : Registry} (h : r' ∈ r.history s ts) : P r' := by
  induction ts generalizing r with
  | nil => simp [history] at h
  | cons t ts ih =>
    have hafter : P (r.after s t) := hstep r t (by simp) hr
    rcases List.mem_cons.1 h with rfl | h
    · exact hafter
    · exact ih (fun r u hu => hstep r u (by simp [hu])) hafter h

theorem valid_after (hk : Coherent known) (hr : r.Valid s known) (ht : t ∈ known) :
    (r.after s t).Valid s known := by
  rw [after_eq_stateAfter]
  exact Ends.after ((resolve_settles hk ht r hr).mono (fun _ _ h => h.1.valid) fun _ _ h => h.valid)

theorem valid_of_mem_history (hk : Coherent known) (hr : r.Valid s known)
    (hts : ∀ t ∈ ts, t ∈ known) {r' : Registry} (h : r' ∈ r.history s ts) : r'.Valid s known :=
  of_mem_history (P := fun r => r.Valid s known)
    (fun _ t ht hv => valid_after hk hv (hts t ht)) hr h

namespace Valid

theorem describe_eq_of_name_eq (h : r.Valid s known) (ht : t ∈ r.types) (hu : u ∈ r.types)
    {c d : Claim} (hc : c ∈ ownClaims s t) (hd : d ∈ ownClaims s u) (he : c.1 = d.1) :
    c.2.describe = d.2.describe := by
  obtain ⟨a, ha, hac⟩ := h.held t ht c hc
  obtain ⟨b, hb, hbd⟩ := h.held u hu d hd
  rw [he, hb] at ha
  obtain rfl := Option.some.inj ha
  rw [← hac, hbd]

theorem eq_of_name_eq (h : r.Valid s known) (hk : Coherent known) (ht : t ∈ r.types)
    (hu : u ∈ r.types) {c d : Claim} (hc : c ∈ ownClaims s t) (hd : d ∈ ownClaims s u)
    (he : c.1 = d.1) : t = u := by
  have ho := (Claimant.describe_inj (h.describe_eq_of_name_eq ht hu hc hd he)).2
  rw [head_of_mem_ownClaims hc, head_of_mem_ownClaims hd] at ho
  exact hk.unique t (h.known t ht) u (h.known u hu) ho

theorem nodup_names_of_mem (h : r.Valid s known) (ht : t ∈ r.types) (hl : t.labels.Nodup) :
    ((ownClaims s t).map Prod.fst).Nodup := by
  -- The registry maps the names to the descriptions, and those are distinct.
  have hd := nodup_descriptions (s := s) hl
  refine .of_map (fun k => (r.claims.lookup k).map Claimant.describe) ?_
  have hmap : ((ownClaims s t).map Prod.fst).map
      (fun k => (r.claims.lookup k).map Claimant.describe) =
        ((ownClaims s t).map fun c => c.2.describe).map some := by
    rw [List.map_map, List.map_map]
    refine List.map_congr_left fun c hc => ?_
    obtain ⟨a, ha, hac⟩ := h.held t ht c hc
    simp [ha, hac]
  rw [hmap]
  exact hd.map fun _ _ => Option.some.inj

theorem nodup_names (h : r.Valid s known) (hk : Coherent known)
    (hl : ∀ t ∈ known, t.labels.Nodup) :
    (r.types.flatMap fun t => (ownClaims s t).map Prod.fst).Nodup := by
  refine List.nodup_flatMap.2 ⟨fun t ht => h.nodup_names_of_mem ht (hl t (h.known t ht)), ?_⟩
  refine h.nodup.imp_of_mem fun ht hu hne k hkt hku => ?_
  obtain ⟨c, hc, rfl⟩ := List.mem_map.1 hkt
  obtain ⟨d, hd, hdk⟩ := List.mem_map.1 hku
  exact hne (h.eq_of_name_eq hk ht hu hc hd hdk.symm)

theorem mem_declarations_iff (h : r.Valid s known) {d : TargetType} :
    d ∈ r.declarations ↔ ∃ t ∈ r.types, declaration? s t = some d := by
  rw [h.declarations, List.mem_filterMap]

theorem nodup_identifiers (h : r.Valid s known) (hk : Coherent known)
    (hl : ∀ t ∈ known, t.labels.Nodup) :
    (r.declarations.flatMap TargetType.identifiers).Nodup := by
  have hsub (l : List CatalogType) :
      (((l.filterMap (declaration? s)).flatMap TargetType.identifiers).map
        (s.packagePath, ·)).Sublist (l.flatMap fun t => (ownClaims s t).map Prod.fst) := by
    induction l with
    | nil => simp
    | cons t l ih =>
      cases hd : declaration? s t with
      | none =>
        rw [List.filterMap_cons_none hd, List.flatMap_cons]
        exact ih.trans (List.sublist_append_right _ _)
      | some d =>
        rw [List.filterMap_cons_some hd, List.flatMap_cons, List.flatMap_cons, List.map_append,
          names_of_declaration? hd]
        exact (List.Sublist.refl _).append ih
  rw [h.declarations]
  exact ((h.nodup_names hk hl).sublist (hsub r.types)).of_map _

theorem nodup_sources (h : r.Valid s known) (hk : Coherent known) :
    (r.declarations.map fun d => d.source?.map CatalogType.oid).Nodup := by
  rw [h.declarations, List.Nodup, List.pairwise_map, List.pairwise_filterMap]
  refine h.nodup.imp_of_mem fun ht hu hne d hd e he heq => hne ?_
  rw [source?_of_declaration? hd, source?_of_declaration? he] at heq
  exact hk.unique _ (h.known _ ht) _ (h.known _ hu) (Option.some.inj heq)

theorem namesApart (h : r.Valid s known) (hk : Coherent known)
    (hl : ∀ t ∈ known, t.labels.Nodup) : r.NamesApart s where
  identifiers := h.nodup_identifiers hk hl
  inPackage d hd := by
    obtain ⟨t, -, hd⟩ := h.mem_declarations_iff.1 hd
    exact packagePath_of_declaration? hd
  sources := h.nodup_sources hk
  overrides t n u m ht hu hne he :=
    hne (congrArg CatalogType.oid
      (h.eq_of_name_eq hk ht.mem_types hu.mem_types ht.mem_ownClaims hu.mem_ownClaims he))
  override_identifier t n ht d hd i hi he := by
    obtain ⟨u, hu, hd⟩ := h.mem_declarations_iff.1 hd
    have hname : (s.packagePath, i) ∈ (ownClaims s u).map Prod.fst := by
      rw [names_of_declaration? hd]
      exact List.mem_map_of_mem hi
    obtain ⟨c, hc, hci⟩ := List.mem_map.1 hname
    rw [packagePath_of_declaration? hd, ← hci] at he
    obtain rfl := h.eq_of_name_eq hk ht.mem_types hu ht.mem_ownClaims hc he
    obtain ⟨key, value, ho, -⟩ := ht.override
    rw [(declaration?_cases hd).1] at ho
    exact absurd ho (by simp)

end Valid

theorem namesApart_of_mem_history (s : Settings) {ts : List CatalogType}
    (hone : CatalogType.Consistent ts) (hl : ∀ t ∈ ts.flatMap CatalogType.nodes, t.labels.Nodup) :
    ∀ r ∈ Registry.empty.history s ts, r.NamesApart s := by
  intro r hr
  have hk := Coherent.of_nodes hone
  have hts (t : CatalogType) (ht : t ∈ ts) : t ∈ ts.flatMap CatalogType.nodes :=
    List.mem_flatMap.2 ⟨t, ht, CatalogType.mem_nodes_self t⟩
  exact (valid_of_mem_history hk (.empty s _) hts hr).namesApart hk hl

namespace Moods

def mood : CatalogType :=
  .enum ⟨⟨17001⟩, "mood", some "public"⟩ ["a深", "a圳"]

def other : CatalogType :=
  .enum ⟨⟨17002⟩, "mood", some "other"⟩ ["ok"]

def day : CatalogType :=
  .composite ⟨⟨17003⟩, "day", none⟩ [("felt", mood), ("id", .scalar ⟨⟨2950⟩, "uuid", none⟩)]

def settings : Settings :=
  ⟨"app/db", ⟨[("uuid", "app/ids.UUID")]⟩, .empty, none, .shenzhen⟩

theorem identifiers_mood :
    (Registry.empty.after settings mood).declarations.flatMap TargetType.identifiers =
      ["Mood", "MoodAShen", "MoodAZhen"] := by
  decide +kernel

end Moods

theorem namesApart_two_moods :
    CatalogType.Consistent [Moods.mood, Moods.other, Moods.day, Moods.other] ∧
      (Registry.empty.after Moods.settings Moods.mood).declarations.flatMap
        TargetType.identifiers = ["Mood", "MoodAShen", "MoodAZhen"] ∧
      ∀ r ∈ Registry.empty.history Moods.settings [Moods.mood, Moods.other, Moods.day, Moods.other],
        r.NamesApart Moods.settings := by
  have hone : CatalogType.Consistent [Moods.mood, Moods.other, Moods.day, Moods.other] := by
    decide
  exact ⟨hone, Moods.identifiers_mood,
    namesApart_of_mem_history Moods.settings hone (by decide)⟩

end Registry

end QueryTyping
