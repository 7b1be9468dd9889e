import QueryTyping.Proofs.CatalogTree
import QueryTyping.Proofs.FirstOccurrence
import QueryTyping.Target.Type

namespace QueryTyping.TargetType

def parts : TargetType → List TargetType
  | composite _ _ ts _ => ts
  | array t => [t]
  | builtin _ | named _ | enum .. => []

theorem sizeOf_lt_of_mem_parts {t u : TargetType} (h : u ∈ t.parts) : sizeOf u < sizeOf t := by
  cases t with
  | composite name fieldNames ts source =>
    have hlt := List.sizeOf_lt_of_mem (show u ∈ ts from h)
    simp only [composite.sizeOf_spec]
    omega
  | array t =>
    obtain rfl := List.mem_singleton.1 h
    simp only [array.sizeOf_spec]
    omega
  | builtin | named | enum => simp [parts] at h

@[elab_as_elim, induction_eliminator]
theorem induct {P : TargetType → Prop} (builtin : ∀ name, P (builtin name))
    (named : ∀ name, P (named name))
    (enum : ∀ name labels values source, P (enum name labels values source))
    (composite : ∀ name fieldNames ts source, (∀ t ∈ ts, P t) →
      P (composite name fieldNames ts source))
    (array : ∀ t, P t → P (array t)) (t : TargetType) : P t := by
  have h (t : TargetType) (ih : ∀ u ∈ t.parts, P u) : P t := by
    cases t with
    | builtin name => exact builtin name
    | named name => exact named name
    | enum name labels values source => exact enum name labels values source
    | composite name fieldNames ts source => exact composite name fieldNames ts source ih
    | array t => exact array t (ih t (List.mem_singleton_self t))
  exact h t fun u _ => induct builtin named enum composite array u
termination_by sizeOf t
decreasing_by exact sizeOf_lt_of_mem_parts ‹_›

mutual

def components : TargetType → List TargetType
  | builtin name => [builtin name]
  | named name => [named name]
  | enum name labels values source => [enum name labels values source]
  | composite name fieldNames ts source =>
    componentsOfList ts ++ [composite name fieldNames ts source]
  | array t => t.components ++ [array t]

def componentsOfList : List TargetType → List TargetType
  | [] => []
  | t :: ts => t.components ++ componentsOfList ts

end

theorem componentsOfList_eq_flatMap (ts : List TargetType) :
    componentsOfList ts = ts.flatMap components := by
  induction ts with
  | nil => rfl
  | cons t ts ih => simp [componentsOfList, ih]

theorem components_eq (t : TargetType) :
    t.components = t.parts.flatMap components ++ [t] := by
  cases t <;> simp [components, parts, componentsOfList_eq_flatMap]

theorem mem_components_iff {t u : TargetType} :
    u ∈ t.components ↔ u = t ∨ ∃ p ∈ t.parts, u ∈ p.components := by
  rw [components_eq, List.mem_append, List.mem_flatMap, List.mem_singleton, or_comm]

theorem mem_components_self (t : TargetType) : t ∈ t.components :=
  mem_components_iff.2 (.inl rfl)

theorem mem_components_trans {t u v : TargetType} (hu : u ∈ t.components)
    (hv : v ∈ u.components) : v ∈ t.components := by
  rcases mem_components_iff.1 hu with rfl | ⟨p, hp, hu⟩
  · exact hv
  · have hlt := sizeOf_lt_of_mem_parts hp
    exact mem_components_iff.2 (.inr ⟨p, hp, mem_components_trans hu hv⟩)
termination_by sizeOf t

mutual

def same : TargetType → TargetType → Bool
  | builtin n, builtin n' => n == n'
  | named n, named n' => n == n'
  | enum n labels values source, enum n' labels' values' source' =>
    n == n' && labels == labels' && values == values' && source == source'
  | composite n names ts source, composite n' names' ts' source' =>
    n == n' && names == names' && sameList ts ts' && source == source'
  | array t, array t' => same t t'
  | _, _ => false

def sameList : List TargetType → List TargetType → Bool
  | [], [] => true
  | t :: ts, t' :: ts' => same t t' && sameList ts ts'
  | _, _ => false

end

theorem same_iff {t u : TargetType} : same t u = true ↔ t = u := by
  induction t generalizing u with
  | builtin | named => cases u <;> simp [same]
  | enum => cases u <;> simp [same, and_assoc]
  | composite n names ts source ih =>
    have hts (ts' : List TargetType) : sameList ts ts' = true ↔ ts = ts' := by
      clear u
      induction ts generalizing ts' with
      | nil => cases ts' <;> simp [sameList]
      | cons t ts iht =>
        cases ts' with
        | nil => simp [sameList]
        | cons t' ts' =>
          have ht := @ih t (by simp) t'
          have hr := iht (fun u hu => ih u (by simp [hu])) ts'
          simp [sameList, ht, hr]
    cases u <;> simp [same, hts, and_assoc]
  | array t ih => cases u <;> simp [same, ih]

instance : DecidableEq TargetType := fun _ _ => decidable_of_iff _ same_iff

def isDeclared (t : TargetType) : Bool :=
  t.isEnum || t.isComposite

def declared (t : TargetType) : List TargetType :=
  t.components.filter isDeclared

def partsDeclared (t : TargetType) : List TargetType :=
  t.parts.flatMap declared

theorem declared_eq (t : TargetType) :
    t.declared = t.partsDeclared ++ [t].filter isDeclared := by
  rw [declared, components_eq, List.filter_append, partsDeclared, List.filter_flatMap]
  rfl

theorem led_declared (t : TargetType) : Led partsDeclared t.declared := by
  have hparts : Led partsDeclared t.partsDeclared :=
    Led.flatMap fun u hu => led_declared u
  rw [declared_eq]
  cases h : t.isDeclared with
  | true =>
    rw [List.filter_cons_of_pos h]
    exact Led.concat_iff.2 ⟨hparts, List.Subset.refl _⟩
  | false => simpa [List.filter_cons_of_neg, h] using hparts
termination_by sizeOf t
decreasing_by exact sizeOf_lt_of_mem_parts hu

def source? : TargetType → Option CatalogType
  | enum _ _ _ source | composite _ _ _ source => some source
  | builtin _ | named _ | array _ => none

def identifiers : TargetType → List String
  | enum n labels _ _ => n.name :: labels
  | composite n _ _ _ => [n.name]
  | builtin _ | named _ | array _ => []

end QueryTyping.TargetType
