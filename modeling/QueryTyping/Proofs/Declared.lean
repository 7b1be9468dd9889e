import QueryTyping.Proofs.Uses

namespace QueryTyping

open Catalog (Engine)
open Resolution (declaration? declaration?_inj declared_of_targetOf? targetOf?)

variable {e : Engine} {s : Settings} {qs : List SourceQuery} {g : Generation} {σ : Session}
  {us : Uses}

def Generation.targets (g : Generation) : List TargetType :=
  g.uses.map Prod.snd

def Generation.needed (g : Generation) : List TargetType :=
  (g.targets.flatMap TargetType.declared).eraseDups

theorem Uses.filterMap_reached (h : ∀ u ∈ us, targetOf? s u.1 = some u.2) :
    (us.reached s).filterMap (declaration? s) =
      (us.map Prod.snd).flatMap TargetType.declared := by
  induction us with
  | nil => rfl
  | cons u us ih =>
    have hu : u.2.declared = (Resolution.reached s u.1).filterMap (declaration? s) :=
      declared_of_targetOf? (h u (by simp))
    have hus := ih fun v hv => h v (by simp [hv])
    rw [Uses.reached] at hus ⊢
    rw [List.flatMap_cons, List.filterMap_append, hus, ← hu, List.map_cons, List.flatMap_cons]

theorem Generation.Sound.declarations_eq (h : g.Sound e s σ) : g.declarations = g.needed := by
  have hinj : ∀ t ∈ g.uses.reached s, ∀ u ∈ g.uses.reached s, ∀ d,
      declaration? s t = some d → declaration? s u = some d → t = u :=
    fun t _ u _ d ht hu => declaration?_inj ht hu
  calc g.declarations
      = σ.registry.types.filterMap (declaration? s) := by
        rw [h.declarations, h.valid.registry.declarations]
    _ = (g.uses.reached s).eraseDups.filterMap (declaration? s) := by rw [h.types]
    _ = ((g.uses.reached s).filterMap (declaration? s)).eraseDups :=
        (eraseDups_filterMap hinj).symm
    _ = g.needed := by
        rw [Uses.filterMap_reached h.targets, Generation.needed, Generation.targets]

namespace Generation

theorem mem_needed_iff {d : TargetType} :
    d ∈ g.needed ↔ d.isDeclared = true ∧ ∃ t ∈ g.targets, d ∈ t.components := by
  simp only [needed, List.mem_eraseDups, List.mem_flatMap, TargetType.declared, List.mem_filter]
  constructor
  · rintro ⟨t, ht, hd, hdec⟩
    exact ⟨hdec, t, ht, hd⟩
  · rintro ⟨hdec, t, ht, hd⟩
    exact ⟨t, ht, hd, hdec⟩

theorem led_needed (g : Generation) : Led TargetType.partsDeclared g.needed :=
  (Led.flatMap fun t _ => t.led_declared).eraseDups

structure DeclaresNeeded (g : Generation) : Prop where
  declarations : g.declarations = g.needed
  once : ∀ t ∈ g.targets, ∀ d ∈ t.components, d.isDeclared = true → g.declarations.count d = 1
  used : ∀ d ∈ g.declarations, d.isDeclared = true ∧ ∃ t ∈ g.targets, d ∈ t.components
  led : Led TargetType.partsDeclared g.declarations

end Generation

theorem generate_declaresNeeded (h : generate e s qs = .ok g σ) : g.DeclaresNeeded := by
  have heq : g.declarations = g.needed := (generate_sound h).declarations_eq
  refine ⟨heq, ?_, ?_, ?_⟩
  · intro t ht d hd hdec
    have hmem : d ∈ g.needed := Generation.mem_needed_iff.2 ⟨hdec, t, ht, hd⟩
    rw [heq]
    exact List.count_eq_one_of_mem (nodup_eraseDups _) hmem
  · intro d hd
    rw [heq] at hd
    exact Generation.mem_needed_iff.1 hd
  · rw [heq]
    exact g.led_needed

theorem generate_declaresNeeded_diary :
    ∃ g σ, generate Diary.snapshot.engine Diary.settings [Diary.days, Diary.mood] = .ok g σ ∧
      g.declarations = [Diary.moodTarget, Diary.dayTarget] ∧ g.DeclaresNeeded := by
  obtain ⟨g, σ, h, -, hdeclarations, -, -⟩ := Diary.generate_days_mood
  exact ⟨g, σ, h, hdeclarations, generate_declaresNeeded h⟩

end QueryTyping
