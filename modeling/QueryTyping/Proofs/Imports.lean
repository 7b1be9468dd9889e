import QueryTyping.Proofs.Independence

namespace QueryTyping

open Catalog (Engine)
open Resolution (override? reached targetOf?)

namespace TargetType

variable {own path : String} {t u : TargetType}

def Mentions (t : TargetType) (path : String) : Prop :=
  ∃ u ∈ t.components, u.packagePath = path

theorem mentions_iff :
    t.Mentions path ↔ t.packagePath = path ∨ ∃ p ∈ t.parts, p.Mentions path := by
  constructor
  · rintro ⟨u, hu, hpath⟩
    rcases mem_components_iff.1 hu with rfl | ⟨p, hp, hu⟩
    · exact .inl hpath
    · exact .inr ⟨p, hp, u, hu, hpath⟩
  · rintro (hpath | ⟨p, hp, u, hu, hpath⟩)
    · exact ⟨t, mem_components_self t, hpath⟩
    · exact ⟨u, mem_components_iff.2 (.inr ⟨p, hp, hu⟩), hpath⟩

theorem mentions_iff_of_no_parts (h : t.parts = []) :
    t.Mentions path ↔ t.packagePath = path := by
  rw [mentions_iff, h]
  simp only [List.not_mem_nil, false_and, exists_false, or_false]

theorem mem_foreign_iff {defining : String} :
    path ∈ foreign own defining ↔ (path ≠ "" ∧ path ≠ own) ∧ defining = path := by
  unfold foreign
  split
  · rename_i h
    constructor
    · exact fun hm => absurd hm List.not_mem_nil
    · rintro ⟨hne, rfl⟩
      exact absurd h (not_or.2 hne)
  · rename_i h
    rw [List.mem_singleton]
    constructor
    · rintro rfl
      exact ⟨not_or.1 h, rfl⟩
    · exact fun h => h.2.symm

theorem mem_packages_iff :
    path ∈ t.packages own ↔ (path ≠ "" ∧ path ≠ own) ∧ t.Mentions path := by
  induction t with
  | builtin name =>
    rw [mentions_iff_of_no_parts rfl]
    constructor
    · exact fun h => absurd h List.not_mem_nil
    · rintro ⟨⟨hne, -⟩, hpath⟩
      exact absurd hpath.symm hne
  | named name => rw [mentions_iff_of_no_parts rfl, packages, mem_foreign_iff, packagePath]
  | enum name labels values source =>
    rw [mentions_iff_of_no_parts rfl, packages, mem_foreign_iff, packagePath]
  | composite name fieldNames ts source ih =>
    have hts : path ∈ packagesOfList own ts ↔
        (path ≠ "" ∧ path ≠ own) ∧ ∃ t ∈ ts, t.Mentions path := by
      rw [packagesOfList_eq_flatMap, List.mem_flatMap]
      constructor
      · rintro ⟨t, ht, hm⟩
        obtain ⟨hne, hm⟩ := (ih t ht).1 hm
        exact ⟨hne, t, ht, hm⟩
      · rintro ⟨hne, t, ht, hm⟩
        exact ⟨t, ht, (ih t ht).2 ⟨hne, hm⟩⟩
    rw [packages, List.mem_append, hts, mem_foreign_iff, mentions_iff, ← and_or_left, or_comm]
    rfl
  | array t ih =>
    -- The element already mentions the package that the array is said to be defined in.
    have helem : t.array.Mentions path ↔ t.Mentions path := by
      rw [mentions_iff]
      constructor
      · rintro (hpath | ⟨p, hp, hm⟩)
        · exact ⟨t, mem_components_self t, hpath⟩
        · obtain rfl := List.mem_singleton.1 hp
          exact hm
      · exact fun hm => .inr ⟨t, List.mem_singleton_self t, hm⟩
    rw [packages, ih, helem]

end TargetType

namespace Resolution

variable {s : Settings} {a b : TargetType}

theorem mem_components_of_mem_parts {t p : CatalogType} (ho : override? s t.head = none)
    (ht : targetOf? s t = some a) (hp : p ∈ t.parts) (hb : targetOf? s p = some b) :
    b ∈ a.components := by
  cases t with
  | composite h fields =>
    rw [targetOf?_composite (h := h) ho] at ht
    obtain ⟨ts, hts, rfl⟩ := Option.map_eq_some_iff.1 ht
    obtain ⟨f, hf, rfl⟩ := List.mem_map.1 hp
    have hm : targetOf? s f.2 ∈ ts.map some := by
      rw [← targetsOf?_eq_some_iff.1 hts]
      exact List.mem_map_of_mem hf
    rw [hb] at hm
    obtain ⟨c, hc, hcb⟩ := List.mem_map.1 hm
    obtain rfl := Option.some.inj hcb
    exact TargetType.mem_components_iff.2 (.inr ⟨c, hc, TargetType.mem_components_self c⟩)
  | domain h base =>
    obtain rfl := List.mem_singleton.1 hp
    rw [targetOf?_domain (h := h) ho, hb] at ht
    obtain rfl := Option.some.inj ht
    exact TargetType.mem_components_self b
  | array h elem =>
    obtain rfl := List.mem_singleton.1 hp
    rw [targetOf?_array (h := h) ho, hb] at ht
    obtain rfl := Option.some.inj ht
    exact TargetType.mem_components_iff.2
      (.inr ⟨b, List.mem_singleton_self b, TargetType.mem_components_self b⟩)
  | scalar | pseudo | enum => simp [CatalogType.parts] at hp

theorem mem_components_of_mem_reached {t u : CatalogType} {a b : TargetType}
    (ht : targetOf? s t = some a) (hu : u ∈ reached s t) (hb : targetOf? s u = some b) :
    b ∈ a.components := by
  rcases mem_reached_iff.1 hu with rfl | ⟨ho, p, hp, hu⟩
  · obtain rfl := Option.some.inj (ht.symm.trans hb)
    exact TargetType.mem_components_self a
  · obtain ⟨c, hc⟩ := targetOf?_of_mem_parts ho ht hp
    have hlt := CatalogType.sizeOf_lt_of_mem_parts hp
    have hca : c ∈ a.components := mem_components_of_mem_parts ho ht hp hc
    exact TargetType.mem_components_trans hca (mem_components_of_mem_reached hc hu hb)
termination_by sizeOf t

end Resolution

variable {e : Engine} {s : Settings} {qs : List SourceQuery} {g : Generation} {σ : Session}
  {path : String}

theorem Generation.Sound.mem_imports_iff_mentions (h : g.Sound e s σ) :
    path ∈ g.imports ↔
      (path ≠ "" ∧ path ≠ s.packagePath) ∧ ∃ t ∈ g.targets, t.Mentions path := by
  rw [h.mem_imports_iff]
  constructor
  · rintro ⟨c, hc, b, hb, hpath⟩
    obtain ⟨⟨d, a⟩, hu, hc⟩ := List.mem_flatMap.1 hc
    have hba : b ∈ a.components :=
      Resolution.mem_components_of_mem_reached (h.targets (d, a) hu) hc hb
    obtain ⟨hne, v, hv, hpath⟩ := TargetType.mem_packages_iff.1 hpath
    exact ⟨hne, a, List.mem_map_of_mem hu, v, TargetType.mem_components_trans hba hv, hpath⟩
  · rintro ⟨hne, a, ha, hm⟩
    obtain ⟨⟨d, a⟩, hu, rfl⟩ := List.mem_map.1 ha
    have hself : d ∈ g.uses.reached s :=
      List.mem_flatMap.2 ⟨(d, a), hu, Resolution.mem_reached_self s d⟩
    exact ⟨d, hself, a, h.targets (d, a) hu, TargetType.mem_packages_iff.2 ⟨hne, hm⟩⟩

theorem generate_imports (h : generate e s qs = .ok g σ) :
    g.imports.Pairwise (· < ·) ∧
      ∀ path, path ∈ g.imports ↔
        (path ≠ "" ∧ path ≠ s.packagePath) ∧ ∃ t ∈ g.targets, t.Mentions path := by
  have hs : g.Sound e s σ := generate_sound h
  constructor
  · exact hs.ascending_imports
  · intro path
    exact hs.mem_imports_iff_mentions

namespace Diary

def datedSnapshot : Catalog.Snapshot where
  statements := [⟨"SELECT notes", ⟨[], [⟨"all", ⟨16412⟩, none⟩]⟩, none, none⟩]
  types := [
    ⟨⟨16411⟩, ⟨"note", some "public", .composite⟩, [], [("id", ⟨20⟩), ("at", ⟨1184⟩)], none, none⟩,
    ⟨⟨16412⟩, ⟨"_note", some "public", .array ⟨16411⟩⟩, [], [], none, none⟩]
  lostAfter := none

def notes : SourceQuery :=
  ⟨"Notes", "SELECT notes", [], .many⟩

set_option maxRecDepth 4000 in
theorem generate_notes : ∃ g σ, generate datedSnapshot.engine settings [notes] = .ok g σ ∧
    g.imports = ["time"] :=
  ⟨_, _, by cbv, by cbv⟩

end Diary

theorem generate_imports_notes :
    ∃ g σ, generate Diary.datedSnapshot.engine Diary.settings [Diary.notes] = .ok g σ ∧
      g.imports = ["time"] ∧ g.imports.Pairwise (· < ·) ∧
      ∀ path, path ∈ g.imports ↔
        (path ≠ "" ∧ path ≠ "app/db") ∧ ∃ t ∈ g.targets, t.Mentions path := by
  obtain ⟨g, σ, h, himports⟩ := Diary.generate_notes
  exact ⟨g, σ, h, himports, generate_imports h⟩

end QueryTyping
