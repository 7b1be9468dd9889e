import QueryTyping.Proofs.Claimant
import QueryTyping.Proofs.TargetOf

namespace QueryTyping

def CatalogType.labels : CatalogType → List String
  | enum _ labels => labels
  | _ => []

abbrev Claim := (String × String) × Claimant

namespace Resolution

def overrideClaims (h : Catalog.Head) (value : String) : List Claim :=
  match Target.Name.parse value with
  | .ok n => if n.path = "" then [] else [((n.path, n.name), .type h)]
  | .error _ => []

def labelClaims (s : Settings) (h : Catalog.Head) (enumName : String) (i : Nat) :
    List String → List Claim
  | [] => []
  | label :: labels =>
    ((s.packagePath, constantName s enumName i label), .label label h) ::
      labelClaims s h enumName (i + 1) labels

def declarationClaims (s : Settings) : CatalogType → List Claim
  | .enum h labels =>
    let name := typeName s "UnnamedEnum" h
    ((s.packagePath, name), .type h) :: labelClaims s h name 0 labels
  | .composite h _ => [((s.packagePath, typeName s "UnnamedComposite" h), .type h)]
  | .scalar _ | .pseudo _ | .domain .. | .array .. => []

def ownClaims (s : Settings) (t : CatalogType) : List Claim :=
  match override? s t.head with
  | some (_, value) => overrideClaims t.head value
  | none => declarationClaims s t

theorem ownClaims_of_override {s : Settings} {t : CatalogType} {key value : String}
    (h : override? s t.head = some (key, value)) :
    ownClaims s t = overrideClaims t.head value := by
  rw [ownClaims, h]

theorem ownClaims_of_no_override {s : Settings} {t : CatalogType} (h : override? s t.head = none) :
    ownClaims s t = declarationClaims s t := by
  rw [ownClaims, h]

theorem claimants_labelClaims (s : Settings) (h : Catalog.Head) (enumName : String) (i : Nat)
    (labels : List String) :
    (labelClaims s h enumName i labels).map Prod.snd = labels.map (Claimant.label · h) := by
  induction labels generalizing i with
  | nil => rfl
  | cons label labels ih => simp [labelClaims, ih]

theorem names_labelClaims (s : Settings) (h : Catalog.Head) (enumName : String) (i : Nat)
    (labels : List String) :
    (labelClaims s h enumName i labels).map Prod.fst =
      (labels.mapIdx fun j => constantName s enumName (i + j)).map (s.packagePath, ·) := by
  induction labels generalizing i with
  | nil => rfl
  | cons label labels ih => simp [labelClaims, ih, Nat.add_comm, Nat.add_left_comm]

theorem head_of_mem_ownClaims {s : Settings} {t : CatalogType} {c : Claim}
    (h : c ∈ ownClaims s t) : c.2.head = t.head := by
  have hc := List.mem_map_of_mem (f := Prod.snd) h
  cases ho : override? s t.head with
  | some o =>
    obtain ⟨key, value⟩ := o
    rw [ownClaims_of_override ho, overrideClaims] at hc
    split at hc
    · split at hc
      · simp at hc
      · simp only [List.map_cons, List.map_nil, List.mem_singleton] at hc
        rw [hc]
        rfl
    · simp at hc
  | none =>
    rw [ownClaims_of_no_override ho] at hc
    cases t with
    | enum head labels =>
      simp only [declarationClaims, List.map_cons, claimants_labelClaims, List.mem_cons,
        List.mem_map] at hc
      rcases hc with hc | ⟨l, -, hc⟩
      · rw [hc]; rfl
      · rw [← hc]; rfl
    | composite head fields =>
      simp only [declarationClaims, List.map_cons, List.map_nil, List.mem_singleton] at hc
      rw [hc]
      rfl
    | scalar | pseudo | domain | array => simp [declarationClaims] at hc

theorem nodup_claimants {s : Settings} {t : CatalogType} (h : t.labels.Nodup) :
    ((ownClaims s t).map Prod.snd).Nodup := by
  cases ho : override? s t.head with
  | some o =>
    obtain ⟨key, value⟩ := o
    rw [ownClaims_of_override ho, overrideClaims]
    split
    · split <;> simp
    · simp
  | none =>
    rw [ownClaims_of_no_override ho]
    cases t with
    | enum head labels =>
      rw [declarationClaims, List.map_cons, claimants_labelClaims, List.nodup_cons]
      refine ⟨by simp, ?_⟩
      exact List.Nodup.map (fun a b hab => (Claimant.label.inj hab).1) h
    | composite | scalar | pseudo | domain | array => simp [declarationClaims]

theorem nodup_descriptions {s : Settings} {t : CatalogType} (h : t.labels.Nodup) :
    ((ownClaims s t).map fun c => c.2.describe).Nodup := by
  rw [show (fun c : Claim => c.2.describe) = Claimant.describe ∘ Prod.snd from rfl,
    ← List.map_map]
  refine (nodup_claimants h).map_on ?_
  intro a ha b hb hab
  obtain ⟨c, hc, rfl⟩ := List.mem_map.1 ha
  obtain ⟨d, hd, rfl⟩ := List.mem_map.1 hb
  refine Claimant.describe_inj_of_head ?_ hab
  rw [head_of_mem_ownClaims hc, head_of_mem_ownClaims hd]

theorem names_of_declaration? {s : Settings} {t : CatalogType} {d : TargetType}
    (h : declaration? s t = some d) :
    (ownClaims s t).map Prod.fst = d.identifiers.map (s.packagePath, ·) := by
  obtain ⟨ho, ⟨head, labels, rfl, rfl⟩ | ⟨head, fields, ts, rfl, rfl⟩⟩ := declaration?_cases h
  · rw [ownClaims_of_no_override ho]
    simp [declarationClaims, names_labelClaims, enumTarget_eq, generatedName,
      TargetType.identifiers, Target.Name.inPackage]
  · rw [ownClaims_of_no_override ho]
    rfl

theorem ownClaims_of_parse {s : Settings} {t : CatalogType} {key value : String} {n : Target.Name}
    (ho : override? s t.head = some (key, value)) (hn : Target.Name.parse value = .ok n)
    (hp : n.path ≠ "") : ownClaims s t = [((n.path, n.name), .type t.head)] := by
  rw [ownClaims_of_override ho, overrideClaims, hn]
  simp [hp]

end Resolution

end QueryTyping
