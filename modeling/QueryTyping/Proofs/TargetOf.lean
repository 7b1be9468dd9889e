import QueryTyping.Proofs.TargetTree
import QueryTyping.Resolution

namespace QueryTyping.Resolution

open CatalogType (nodes parts)
open Naming (fallbackName fresh)

def overrideValue? (s : Settings) (h : Catalog.Head) : Option String :=
  (s.overrides.get? h.qualified).or (s.overrides.get? h.name)

def scalarTarget (h : Catalog.Head) : TargetType :=
  match Target.builtins.lookup h.oid with
  | some target => target
  | none => .named ⟨"", "", h.name⟩

def casedName (s : Settings) (stem : String) (h : Catalog.Head) : String :=
  let cased := s.caser.upperIdent h.name
  if cased = "" then fallbackName stem h.name else cased

def enumTarget (s : Settings) (h : Catalog.Head) (labels : List String) : TargetType :=
  let name := casedName s "UnnamedEnum" h
  let constants := labels.mapIdx fun i label =>
    let cased := s.caser.upperSuffix label
    name ++ if cased = "" then fallbackName ("UnnamedLabel" ++ i.repr) label else cased
  .enum (.inPackage s.packagePath name) constants labels (.enum h labels)

def fieldIdents (s : Settings) (i : Nat) (used : List String) : List String → List String
  | [] => []
  | field :: fields =>
    let cased := s.caser.upperIdent field
    let name := if cased = "" then fallbackName ("UnnamedField" ++ i.repr) field else cased
    let ident := fresh name "" i used
    ident :: fieldIdents s (i + 1) (ident :: used) fields

def compositeTarget (s : Settings) (h : Catalog.Head) (fields : List (String × CatalogType))
    (ts : List TargetType) : TargetType :=
  .composite (.inPackage s.packagePath (casedName s "UnnamedComposite" h))
    (fieldIdents s 0 [] (fields.map Prod.fst)) ts (.composite h fields)

mutual

def targetOf? (s : Settings) (t : CatalogType) : Option TargetType :=
  match overrideValue? s t.head with
  | some value => (Target.Name.parse value).toOption.map .named
  | none =>
    match t with
    | .scalar h => some (scalarTarget h)
    | .pseudo _ => none
    | .enum h labels => some (enumTarget s h labels)
    | .composite h fields => (targetsOf? s fields).map (compositeTarget s h fields)
    | .domain _ base => targetOf? s base
    | .array _ elem => (targetOf? s elem).map .array

def targetsOf? (s : Settings) : List (String × CatalogType) → Option (List TargetType)
  | [] => some []
  | (_, t) :: fields =>
    match targetOf? s t, targetsOf? s fields with
    | some target, some targets => some (target :: targets)
    | _, _ => none

end

theorem map_snd_override? (s : Settings) (h : Catalog.Head) :
    (override? s h).map Prod.snd = overrideValue? s h := by
  unfold override? overrideValue?
  cases s.overrides.get? h.qualified with
  | some value => rfl
  | none => cases s.overrides.get? h.name <;> rfl

theorem overrideValue?_eq_some {s : Settings} {h : Catalog.Head} {key value : String}
    (ho : override? s h = some (key, value)) : overrideValue? s h = some value := by
  rw [← map_snd_override?, ho, Option.map_some]

theorem overrideValue?_eq_none {s : Settings} {h : Catalog.Head} (ho : override? s h = none) :
    overrideValue? s h = none := by
  rw [← map_snd_override?, ho, Option.map_none]

theorem scalarTarget_eq (h : Catalog.Head) : scalarTarget h = Target.ofScalar h := by
  unfold scalarTarget Target.ofScalar Target.builtin?
  cases Target.builtins.lookup h.oid <;> rfl

theorem enumTarget_eq (s : Settings) (h : Catalog.Head) (labels : List String) :
    enumTarget s h labels = .enum (generatedName s (typeName s "UnnamedEnum" h))
      (labels.mapIdx (constantName s (typeName s "UnnamedEnum" h))) labels (.enum h labels) := rfl

theorem fieldIdents_cons (s : Settings) (i : Nat) (used : List String) (field : String)
    (fields : List String) :
    fieldIdents s i used (field :: fields) =
      fieldIdent s i used field ::
        fieldIdents s (i + 1) (fieldIdent s i used field :: used) fields :=
  rfl

theorem compositeTarget_eq (s : Settings) (h : Catalog.Head)
    (fields : List (String × CatalogType)) (ts : List TargetType) :
    compositeTarget s h fields ts =
      .composite (generatedName s (typeName s "UnnamedComposite" h))
        (fieldIdents s 0 [] (fields.map Prod.fst)) ts (.composite h fields) := rfl

theorem targetOf?_of_override {s : Settings} {t : CatalogType} {key value : String}
    (ho : override? s t.head = some (key, value)) :
    targetOf? s t = (Target.Name.parse value).toOption.map .named := by
  rw [targetOf?.eq_def, overrideValue?_eq_some ho]

theorem targetOf?_scalar {s : Settings} {h : Catalog.Head} (ho : override? s h = none) :
    targetOf? s (.scalar h) = some (Target.ofScalar h) := by
  rw [targetOf?.eq_def, ← scalarTarget_eq]
  simp only [CatalogType.head, overrideValue?_eq_none ho]

theorem targetOf?_pseudo {s : Settings} {h : Catalog.Head} (ho : override? s h = none) :
    targetOf? s (.pseudo h) = none := by
  rw [targetOf?.eq_def]
  simp only [CatalogType.head, overrideValue?_eq_none ho]

theorem targetOf?_enum {s : Settings} {h : Catalog.Head} {labels : List String}
    (ho : override? s h = none) : targetOf? s (.enum h labels) = some (enumTarget s h labels) := by
  rw [targetOf?.eq_def]
  simp only [CatalogType.head, overrideValue?_eq_none ho]

theorem targetOf?_composite {s : Settings} {h : Catalog.Head}
    {fields : List (String × CatalogType)} (ho : override? s h = none) :
    targetOf? s (.composite h fields) = (targetsOf? s fields).map (compositeTarget s h fields) := by
  rw [targetOf?.eq_def]
  simp only [CatalogType.head, overrideValue?_eq_none ho]

theorem targetOf?_domain {s : Settings} {h : Catalog.Head} {base : CatalogType}
    (ho : override? s h = none) : targetOf? s (.domain h base) = targetOf? s base := by
  rw [targetOf?.eq_def]
  simp only [CatalogType.head, overrideValue?_eq_none ho]

theorem targetOf?_array {s : Settings} {h : Catalog.Head} {elem : CatalogType}
    (ho : override? s h = none) :
    targetOf? s (.array h elem) = (targetOf? s elem).map .array := by
  rw [targetOf?.eq_def]
  simp only [CatalogType.head, overrideValue?_eq_none ho]

theorem targetsOf?_eq_some_iff {s : Settings} {fields : List (String × CatalogType)}
    {ts : List TargetType} :
    targetsOf? s fields = some ts ↔ fields.map (fun f => targetOf? s f.2) = ts.map some := by
  induction fields generalizing ts with
  | nil => cases ts <;> simp [targetsOf?]
  | cons f fields ih =>
    cases ht : targetOf? s f.2 with
    | none => cases ts <;> simp [targetsOf?, ht]
    | some t =>
      cases hr : targetsOf? s fields with
      | none =>
        have hn (ts : List TargetType) : fields.map (fun f => targetOf? s f.2) ≠ ts.map some :=
          fun h => by simpa [hr] using ih.2 h
        cases ts <;> simp [targetsOf?, ht, hr, hn]
      | some ts' => cases ts <;> simp [targetsOf?, ht, hr, ← ih]

mutual

def reached (s : Settings) (t : CatalogType) : List CatalogType :=
  match override? s t.head with
  | some _ => [t]
  | none =>
    match t with
    | .composite h fields => reachedFields s fields ++ [.composite h fields]
    | .domain h base => reached s base ++ [.domain h base]
    | .array h elem => reached s elem ++ [.array h elem]
    | .scalar h => [.scalar h]
    | .pseudo h => [.pseudo h]
    | .enum h labels => [.enum h labels]

def reachedFields (s : Settings) : List (String × CatalogType) → List CatalogType
  | [] => []
  | (_, t) :: fields => reached s t ++ reachedFields s fields

end

theorem reachedFields_eq_flatMap (s : Settings) (fields : List (String × CatalogType)) :
    reachedFields s fields = (fields.map Prod.snd).flatMap (reached s) := by
  induction fields with
  | nil => rfl
  | cons f fields ih => simp [reachedFields, ih]

theorem reached_of_override {s : Settings} {t : CatalogType} {o : String × String}
    (h : override? s t.head = some o) : reached s t = [t] := by
  rw [reached.eq_def, h]

theorem reached_of_no_override {s : Settings} {t : CatalogType} (h : override? s t.head = none) :
    reached s t = t.parts.flatMap (reached s) ++ [t] := by
  rw [reached.eq_def, h]
  cases t <;> simp [parts, reachedFields_eq_flatMap]

theorem mem_reached_iff {s : Settings} {t u : CatalogType} :
    u ∈ reached s t ↔ u = t ∨ override? s t.head = none ∧ ∃ p ∈ t.parts, u ∈ reached s p := by
  cases h : override? s t.head with
  | some o => simp [reached_of_override h]
  | none =>
    rw [reached_of_no_override h, List.mem_append, List.mem_flatMap, List.mem_singleton]
    simp [or_comm]

theorem mem_reached_self (s : Settings) (t : CatalogType) : t ∈ reached s t :=
  mem_reached_iff.2 (.inl rfl)

theorem reached_subset_nodes (s : Settings) (t : CatalogType) : reached s t ⊆ t.nodes := by
  intro u hu
  rcases mem_reached_iff.1 hu with rfl | ⟨-, p, hp, hu⟩
  · exact CatalogType.mem_nodes_self u
  · exact CatalogType.mem_nodes_iff.2 (.inr ⟨p, hp, reached_subset_nodes s p hu⟩)
termination_by sizeOf t
decreasing_by exact CatalogType.sizeOf_lt_of_mem_parts hp

theorem targetOf?_of_mem_parts {s : Settings} {t p : CatalogType} {target : TargetType}
    (ho : override? s t.head = none) (ht : targetOf? s t = some target) (hp : p ∈ t.parts) :
    ∃ target', targetOf? s p = some target' := by
  cases t with
  | composite h fields =>
    rw [targetOf?_composite (h := h) ho] at ht
    obtain ⟨ts, hts, -⟩ := Option.map_eq_some_iff.1 ht
    obtain ⟨f, hf, rfl⟩ := List.mem_map.1 hp
    have hm : targetOf? s f.2 ∈ ts.map some := by
      rw [← targetsOf?_eq_some_iff.1 hts]
      exact List.mem_map_of_mem hf
    obtain ⟨target', -, h'⟩ := List.mem_map.1 hm
    exact ⟨target', h'.symm⟩
  | domain h base =>
    obtain rfl := List.mem_singleton.1 hp
    exact ⟨target, (targetOf?_domain ho).symm.trans ht⟩
  | array h elem =>
    obtain rfl := List.mem_singleton.1 hp
    rw [targetOf?_array (h := h) ho] at ht
    obtain ⟨target', ht', -⟩ := Option.map_eq_some_iff.1 ht
    exact ⟨target', ht'⟩
  | scalar | pseudo | enum => simp [parts] at hp

theorem targetOf?_of_mem_reached {s : Settings} {t u : CatalogType} {target : TargetType}
    (ht : targetOf? s t = some target) (hu : u ∈ reached s t) :
    ∃ target', targetOf? s u = some target' := by
  rcases mem_reached_iff.1 hu with rfl | ⟨ho, p, hp, hu⟩
  · exact ⟨target, ht⟩
  · obtain ⟨target', hp'⟩ := targetOf?_of_mem_parts ho ht hp
    have hlt := CatalogType.sizeOf_lt_of_mem_parts hp
    exact targetOf?_of_mem_reached hp' hu
termination_by sizeOf t

def declares (s : Settings) (t : CatalogType) : Bool :=
  match override? s t.head, t with
  | none, .enum .. => true
  | none, .composite .. => true
  | _, _ => false

def declaration? (s : Settings) (t : CatalogType) : Option TargetType :=
  if declares s t then targetOf? s t else none

theorem declares_enum {s : Settings} {h : Catalog.Head} {labels : List String}
    (ho : override? s h = none) : declares s (.enum h labels) = true := by
  simp only [declares, CatalogType.head, ho]

theorem declares_composite {s : Settings} {h : Catalog.Head}
    {fields : List (String × CatalogType)} (ho : override? s h = none) :
    declares s (.composite h fields) = true := by
  simp only [declares, CatalogType.head, ho]

theorem declaration?_enum {s : Settings} {h : Catalog.Head} {labels : List String}
    (ho : override? s h = none) :
    declaration? s (.enum h labels) = some (enumTarget s h labels) := by
  rw [declaration?, if_pos (declares_enum ho), targetOf?_enum ho]

theorem declaration?_composite {s : Settings} {h : Catalog.Head}
    {fields : List (String × CatalogType)} {ts : List TargetType} (ho : override? s h = none)
    (hts : targetsOf? s fields = some ts) :
    declaration? s (.composite h fields) = some (compositeTarget s h fields ts) := by
  rw [declaration?, if_pos (declares_composite ho), targetOf?_composite ho, hts, Option.map_some]

@[simp] theorem declaration?_scalar (s : Settings) (h : Catalog.Head) :
    declaration? s (.scalar h) = none := by
  simp [declaration?, declares]

@[simp] theorem declaration?_domain (s : Settings) (h : Catalog.Head) (base : CatalogType) :
    declaration? s (.domain h base) = none := by
  simp [declaration?, declares]

@[simp] theorem declaration?_array (s : Settings) (h : Catalog.Head) (elem : CatalogType) :
    declaration? s (.array h elem) = none := by
  simp [declaration?, declares]

theorem override?_of_declares {s : Settings} {t : CatalogType} (h : declares s t = true) :
    override? s t.head = none := by
  unfold declares at h
  split at h <;> simp_all

theorem declaration?_of_override {s : Settings} {t : CatalogType} {o : String × String}
    (ho : override? s t.head = some o) : declaration? s t = none := by
  refine if_neg fun hd => ?_
  rw [override?_of_declares hd] at ho
  exact absurd ho (by simp)

theorem declaration?_cases {s : Settings} {t : CatalogType} {d : TargetType}
    (h : declaration? s t = some d) : override? s t.head = none ∧
      ((∃ head labels, t = .enum head labels ∧ d = enumTarget s head labels) ∨
        ∃ head fields ts, t = .composite head fields ∧ d = compositeTarget s head fields ts) := by
  unfold declaration? at h
  split at h
  · rename_i hd
    have ho := override?_of_declares hd
    cases t with
    | enum head labels =>
      rw [targetOf?_enum (h := head) ho] at h
      exact ⟨ho, .inl ⟨head, labels, rfl, (Option.some.inj h).symm⟩⟩
    | composite head fields =>
      rw [targetOf?_composite (h := head) ho] at h
      obtain ⟨ts, -, rfl⟩ := Option.map_eq_some_iff.1 h
      exact ⟨ho, .inr ⟨head, fields, ts, rfl, rfl⟩⟩
    | scalar | pseudo | domain | array => unfold declares at hd; split at hd <;> simp_all
  · simp at h

theorem source?_of_declaration? {s : Settings} {t : CatalogType} {d : TargetType}
    (h : declaration? s t = some d) : d.source? = some t := by
  obtain ⟨-, ⟨head, labels, rfl, rfl⟩ | ⟨head, fields, ts, rfl, rfl⟩⟩ := declaration?_cases h
  · rfl
  · rfl

theorem packagePath_of_declaration? {s : Settings} {t : CatalogType} {d : TargetType}
    (h : declaration? s t = some d) : d.packagePath = s.packagePath := by
  obtain ⟨-, ⟨head, labels, rfl, rfl⟩ | ⟨head, fields, ts, rfl, rfl⟩⟩ := declaration?_cases h
  · rfl
  · rfl

theorem declaration?_inj {s : Settings} {t u : CatalogType} {d : TargetType}
    (ht : declaration? s t = some d) (hu : declaration? s u = some d) : t = u := by
  have := source?_of_declaration? ht
  rw [source?_of_declaration? hu] at this
  exact (Option.some.inj this).symm

theorem declared_ofScalar (h : Catalog.Head) : (Target.ofScalar h).declared = [] := by
  have table : ∀ p ∈ Target.builtins, p.2.declared = [] := by decide
  unfold Target.ofScalar Target.builtin?
  cases hb : Target.builtins.lookup h.oid with
  | none => rfl
  | some t => exact table (h.oid, t) (mem_of_lookup hb)

theorem flatMap_declared {s : Settings} {fields : List (String × CatalogType)}
    {ts : List TargetType} (h : targetsOf? s fields = some ts)
    (ih : ∀ f ∈ fields, ∀ target, targetOf? s f.2 = some target →
      target.declared = (reached s f.2).filterMap (declaration? s)) :
    ts.flatMap TargetType.declared =
      ((fields.map Prod.snd).flatMap (reached s)).filterMap (declaration? s) := by
  induction fields generalizing ts with
  | nil => obtain rfl := Option.some.inj h; rfl
  | cons f fields ihf =>
    have hm := targetsOf?_eq_some_iff.1 h
    cases ts with
    | nil => simp at hm
    | cons t ts =>
      simp only [List.map_cons, List.cons.injEq] at hm
      have ht := ih f (by simp) t hm.1
      have hts := ihf (targetsOf?_eq_some_iff.2 hm.2) fun g hg => ih g (by simp [hg])
      simp [ht, hts]

theorem declared_array (t : TargetType) : t.array.declared = t.declared := by
  rw [TargetType.declared_eq]
  simp [TargetType.partsDeclared, TargetType.parts, TargetType.isDeclared, TargetType.isEnum,
    TargetType.isComposite]

theorem declared_of_targetOf? {s : Settings} {t : CatalogType} {target : TargetType}
    (h : targetOf? s t = some target) :
    target.declared = (reached s t).filterMap (declaration? s) := by
  cases ho : override? s t.head with
  | some o =>
    rw [targetOf?_of_override ho] at h
    obtain ⟨n, -, rfl⟩ := Option.map_eq_some_iff.1 h
    rw [reached_of_override ho, List.filterMap_cons_none (declaration?_of_override ho)]
    rfl
  | none =>
    rw [reached_of_no_override ho, List.filterMap_append]
    cases t with
    | scalar head =>
      rw [targetOf?_scalar (h := head) ho] at h
      obtain rfl := Option.some.inj h
      simp [parts, declared_ofScalar]
    | pseudo head => simp [targetOf?_pseudo (h := head) ho] at h
    | enum head labels =>
      rw [targetOf?_enum (h := head) ho] at h
      obtain rfl := Option.some.inj h
      rw [List.filterMap_cons_some (declaration?_enum (h := head) ho)]
      rfl
    | composite head fields =>
      rw [targetOf?_composite (h := head) ho] at h
      obtain ⟨ts, hts, rfl⟩ := Option.map_eq_some_iff.1 h
      have hfields := flatMap_declared hts fun f hf target' h' => by
        have hlt := CatalogType.sizeOf_lt_of_mem_parts
          (show f.2 ∈ parts (.composite head fields) from List.mem_map_of_mem hf)
        exact declared_of_targetOf? h'
      rw [TargetType.declared_eq,
        List.filterMap_cons_some (declaration?_composite (h := head) ho hts)]
      exact congrArg (· ++ _) hfields
    | domain head base =>
      have hlt := CatalogType.sizeOf_lt_of_mem_parts
        (show base ∈ parts (.domain head base) from List.mem_singleton_self base)
      rw [targetOf?_domain (h := head) ho] at h
      simp [declared_of_targetOf? h, parts]
    | array head elem =>
      rw [targetOf?_array (h := head) ho] at h
      obtain ⟨target', h', rfl⟩ := Option.map_eq_some_iff.1 h
      have hlt := CatalogType.sizeOf_lt_of_mem_parts
        (show elem ∈ parts (.array head elem) from List.mem_singleton_self elem)
      simp [declared_array, declared_of_targetOf? h', parts]
termination_by sizeOf t

end QueryTyping.Resolution
