import QueryTyping.Proofs.ResolutionSteps

namespace QueryTyping

open Resolution

def Failure.isSettings : Failure → Bool
  | invalidOverride .. | invalidAcronym _ => true
  | connection _ | unprepared .. | noRows .. | paramCount .. | unmapped _ | unknownType ..
  | nameCollision .. | cycle _ | deadlineExceeded _ => false

def Settings.Unreadable (s : Settings) : Prop :=
  ∃ h key value fault, override? s h = some (key, value) ∧ Target.Name.parse value = .error fault

inductive TargetType.Formed (s : Settings) : TargetType → Prop where
  | scalar (h : Catalog.Head) : Formed s (Target.ofScalar h)
  | override {value : String} {n : Target.Name} : Target.Name.parse value = .ok n →
    Formed s (.named n)
  | enum (h : Catalog.Head) (labels values : List String) (source : CatalogType) :
    Formed s (.enum (generatedName s (typeName s "UnnamedEnum" h)) labels values source)
  | composite (h : Catalog.Head) (fieldNames : List String) {ts : List TargetType}
    (source : CatalogType) : (∀ t ∈ ts, Formed s t) →
      Formed s (.composite (generatedName s (typeName s "UnnamedComposite" h)) fieldNames ts source)
  | array {t : TargetType} : Formed s t → Formed s t.array

def Registry.Formed (s : Settings) (r : Registry) : Prop :=
  ∀ p ∈ r.resolved, p.2.Formed s

theorem Target.forall_ofScalar {P : TargetType → Prop} (table : ∀ p ∈ builtins, P p.2)
    (bare : ∀ name, P (.named (.bare name))) (h : Catalog.Head) : P (ofScalar h) := by
  unfold ofScalar builtin?
  cases hb : builtins.lookup h.oid with
  | none => exact bare h.name
  | some t => exact table (h.oid, t) (mem_of_lookup hb)

namespace TargetType

variable {s : Settings} {t u : TargetType}

theorem no_parts_ofScalar (h : Catalog.Head) : (Target.ofScalar h).parts = [] :=
  Target.forall_ofScalar (P := fun t => t.parts = []) (by decide) (fun _ => rfl) h

theorem Formed.of_mem_parts (h : t.Formed s) (hu : u ∈ t.parts) : u.Formed s := by
  cases h with
  | scalar h => simp [no_parts_ofScalar] at hu
  | override | enum => simp [parts] at hu
  | composite h fieldNames source hts => exact hts u hu
  | array ht =>
    obtain rfl := List.mem_singleton.1 hu
    exact ht

theorem Formed.of_mem_components {t u : TargetType} (h : t.Formed s) (hu : u ∈ t.components) :
    u.Formed s := by
  rcases mem_components_iff.1 hu with rfl | ⟨p, hp, hu⟩
  · exact h
  · have hlt := sizeOf_lt_of_mem_parts hp
    exact (h.of_mem_parts hp).of_mem_components hu
termination_by sizeOf t

end TargetType

namespace Resolution

variable {s : Settings} {fields : List (String × CatalogType)} {α : Type}

theorem forall_of_targetsOf? {P : TargetType → Prop} {ts : List TargetType}
    (h : targetsOf? s fields = some ts)
    (hf : ∀ f ∈ fields, ∀ target, targetOf? s f.2 = some target → P target) : ∀ t ∈ ts, P t := by
  intro t ht
  have hm : some t ∈ fields.map fun f => targetOf? s f.2 := by
    rw [targetsOf?_eq_some_iff.1 h]
    exact List.mem_map_of_mem ht
  obtain ⟨f, hfm, hft⟩ := List.mem_map.1 hm
  exact hf f hfm t hft

theorem formed_of_targetOf? {t : CatalogType} {target : TargetType}
    (h : targetOf? s t = some target) : target.Formed s := by
  have ih (p : CatalogType) (hp : p ∈ t.parts) {target' : TargetType}
      (h' : targetOf? s p = some target') : target'.Formed s := by
    have hlt := CatalogType.sizeOf_lt_of_mem_parts hp
    exact formed_of_targetOf? h'
  cases ho : override? s t.head with
  | some o =>
    rw [targetOf?_of_override ho] at h
    obtain ⟨n, hn, rfl⟩ := Option.map_eq_some_iff.1 h
    exact .override (eq_ok_of_toOption hn)
  | none =>
    cases t with
    | scalar head =>
      rw [targetOf?_scalar (h := head) ho] at h
      obtain rfl := Option.some.inj h
      exact .scalar head
    | pseudo head => simp [targetOf?_pseudo (h := head) ho] at h
    | enum head labels =>
      rw [targetOf?_enum (h := head) ho] at h
      obtain rfl := Option.some.inj h
      exact .enum head _ _ _
    | composite head fields =>
      rw [targetOf?_composite (h := head) ho] at h
      obtain ⟨ts, hts, rfl⟩ := Option.map_eq_some_iff.1 h
      refine .composite head _ _ (forall_of_targetsOf? hts fun f hf target' h' => ?_)
      exact ih f.2 (List.mem_map_of_mem hf) h'
    | domain head base =>
      rw [targetOf?_domain (h := head) ho] at h
      exact ih base (List.mem_singleton_self base) h
    | array head elem =>
      rw [targetOf?_array (h := head) ho] at h
      obtain ⟨target', h', rfl⟩ := Option.map_eq_some_iff.1 h
      exact .array (ih elem (List.mem_singleton_self elem) h')
termination_by sizeOf t

abbrev Forms (s : Settings) (x : Resolve α) (ok : α → Prop) : Prop :=
  Yields (Registry.Formed s) x ok fun f => f.isSettings = false ∨ s.Unreadable

theorem keeps_formed (s : Settings) : Keeps s (Registry.Formed s) (TargetType.Formed s)
    fun f => f.isSettings = false ∨ s.Unreadable where
  known _ hr := hr
  claim _ _ hr := hr
  learn _ _ _ hr ht := List.forall_mem_cons.2 ⟨ht, hr⟩
  declare _ _ hr _ := hr
  scalar h := .scalar h
  override _ _ hn := .override hn
  enum h _ _ := .enum h _ _ _
  composite h _ _ hts := .composite h _ _ hts
  array _ ht := .array ht
  collision _ _ _ _ := .inl rfl
  cycle _ := .inl rfl
  unmapped _ := .inl rfl
  invalid h key value fault ho hn := .inr ⟨h, key, value, fault, ho, hn⟩

theorem resolveIn_forms (s : Settings) (visiting : List (Oid × String)) (t : CatalogType) :
    Forms s (resolveIn s visiting t) (TargetType.Formed s) :=
  (keeps_formed s).resolveIn_yields visiting t

end Resolution

end QueryTyping
