import QueryTyping.Proofs.Formed
import QueryTyping.Proofs.Imports
import QueryTyping.Proofs.Stability

namespace QueryTyping

open Catalog (Engine)
open Resolution

namespace Target

def EndsOpen (path : List Char) : Prop :=
  lastSegment path = [] ∨ ∃ parents version, path = parents ++ '/' :: version ∧
    isMajorVersion version = true ∧ lastSegment parents = []

def IsVersion (s : List Char) : Prop :=
  ∃ digits, s = 'v' :: digits ∧ digits ≠ [] ∧ ∀ c ∈ digits, c.isDigit = true

theorem isMajorVersion_iff {s : List Char} : isMajorVersion s = true ↔ IsVersion s := by
  constructor
  · intro h
    unfold isMajorVersion at h
    split at h
    · exact ⟨_, rfl, List.cons_ne_nil _ _, List.all_eq_true.1 h⟩
    · cases h
  · rintro ⟨digits, rfl, hne, hdigits⟩
    obtain ⟨d, rest, rfl⟩ := List.exists_cons_of_ne_nil hne
    exact List.all_eq_true.2 hdigits

theorem slash_not_mem_of_isMajorVersion {s : List Char} (h : isMajorVersion s = true) :
    '/' ∉ s := by
  obtain ⟨digits, rfl, -, hdigits⟩ := isMajorVersion_iff.1 h
  intro hm
  rcases List.mem_cons.1 hm with hv | hm
  · exact absurd hv (by decide)
  · exact absurd (hdigits '/' hm) (by decide)

theorem lastSegment_append {parents s : List Char} (hs : '/' ∉ s) :
    lastSegment (parents ++ '/' :: s) = s := by
  rw [lastSegment, Text.cutLast_append hs]

theorem aliasOf_append {parents s : List Char} (hs : '/' ∉ s) :
    aliasOf (parents ++ '/' :: s) = if isMajorVersion s then lastSegment parents else s := by
  rw [aliasOf, Text.cutLast_append hs]

theorem aliasOf_eq_nil_iff {path : List Char} : aliasOf path = [] ↔ EndsOpen path := by
  cases hcut : Text.cutLast '/' path with
  | none =>
    have hslash : '/' ∉ path := Text.cutLast_eq_none_iff.1 hcut
    have halias : aliasOf path = path := by rw [aliasOf, hcut]
    have hlast : lastSegment path = path := by rw [lastSegment, hcut]
    rw [halias, EndsOpen, hlast]
    constructor
    · exact .inl
    · rintro (h | ⟨parents, version, rfl, -, -⟩)
      · exact h
      · simp at hslash
  | some p =>
    obtain ⟨parents, s⟩ := p
    obtain ⟨rfl, hs⟩ := Text.cutLast_eq_some_iff.1 hcut
    rw [aliasOf_append hs, EndsOpen, lastSegment_append hs]
    constructor
    · intro h
      split at h
      · rename_i hv
        exact .inr ⟨parents, s, rfl, hv, h⟩
      · exact .inl h
    · rintro (rfl | ⟨parents', version, heq, hv, hlast⟩)
      · rfl
      · obtain ⟨rfl, rfl⟩ := Text.cutLast_inj hs (slash_not_mem_of_isMajorVersion hv) heq
        rw [if_pos hv, hlast]

theorem packageAlias_eq_empty_iff {path : String} :
    packageAlias path = "" ↔ EndsOpen path.toList := by
  rw [← aliasOf_eq_nil_iff, packageAlias, String.ofList_eq_empty_iff]

theorem Name.pkg_of_parse {value : String} {n : Name} (h : Name.parse value = .ok n) :
    n.pkg = packageAlias n.path := by
  have hnames := Name.parse_eq_ok_iff.1 h
  generalize Text.trim value.toList = t at hnames
  cases hnames with
  | bare | inPackage => rfl

end Target

namespace TargetType

variable {s : Settings} {own path : String} {t u : TargetType}

def core : TargetType → TargetType
  | array t => t.core
  | t => t

def layers : TargetType → Nat
  | array t => t.layers + 1
  | _ => 0

def bracketed : Nat → String → String
  | 0, name => name
  | n + 1, name => "[]" ++ bracketed n name

theorem core_ne_array (t u : TargetType) : t.core ≠ array u := by
  induction t with
  | array t ih => exact ih
  | _ => exact nofun

theorem core_mem_components (t : TargetType) : t.core ∈ t.components := by
  induction t with
  | array t ih => exact mem_components_iff.2 (.inr ⟨t, List.mem_singleton_self t, ih⟩)
  | _ => exact mem_components_self _

theorem spelledIn_eq_bracketed (own : String) (t : TargetType) :
    t.spelledIn own = bracketed t.layers (t.core.spelledIn own) := by
  induction t with
  | array t ih => rw [spelledIn, ih, layers, core, bracketed]
  | _ => rfl

theorem spelledIn_of_ne_array (own : String) (h : ∀ u, t ≠ array u) :
    t.spelledIn own =
      if t.packagePath = own ∨ t.packagePath = "" ∨ t.pkg = "" then t.baseName
      else t.pkg ++ "." ++ t.baseName := by
  cases t with
  | array u => exact absurd rfl (h u)
  | builtin name => simp [spelledIn, packagePath, baseName]
  | named | enum | composite => rfl

theorem mem_imports_iff :
    path ∈ t.imports own ↔ (path ≠ "" ∧ path ≠ own) ∧ t.Mentions path := by
  rw [imports, Text.mem_sortedSet, mem_packages_iff]

theorem pkg_ofScalar (h : Catalog.Head) :
    (Target.ofScalar h).pkg = Target.packageAlias (Target.ofScalar h).packagePath :=
  Target.forall_ofScalar (P := fun t => t.pkg = Target.packageAlias t.packagePath) (by decide)
    (fun _ => rfl) h

theorem Formed.pkg_eq (h : t.Formed s) : t.pkg = Target.packageAlias t.packagePath := by
  induction h with
  | scalar h => exact pkg_ofScalar h
  | override hn => exact Target.Name.pkg_of_parse hn
  | enum | composite => rfl
  | array _ ih => exact ih

structure Referred (own : String) (t : TargetType) : Prop where
  pkg : t.core.pkg = Target.packageAlias t.core.packagePath
  pkg_eq_empty_iff : t.core.pkg = "" ↔ Target.EndsOpen t.core.packagePath.toList
  foreign : t.core.packagePath ≠ "" → t.core.packagePath ≠ own →
    t.core.packagePath ∈ t.imports own ∧
      t.spelledIn own = bracketed t.layers
        (if t.core.pkg = "" then t.core.baseName else t.core.pkg ++ "." ++ t.core.baseName)
  home : t.core.packagePath = "" ∨ t.core.packagePath = own →
    t.core.packagePath ∉ t.imports own ∧ t.spelledIn own = bracketed t.layers t.core.baseName

theorem Formed.referred (h : t.Formed s) (own : String) : t.Referred own := by
  have hcore : t.core.Formed s := h.of_mem_components (core_mem_components t)
  have hspelled := spelledIn_of_ne_array own (core_ne_array t)
  have hmentions : t.Mentions t.core.packagePath := ⟨t.core, core_mem_components t, rfl⟩
  constructor
  · exact hcore.pkg_eq
  · rw [hcore.pkg_eq, Target.packageAlias_eq_empty_iff]
  · intro hne hown
    refine ⟨mem_imports_iff.2 ⟨⟨hne, hown⟩, hmentions⟩, ?_⟩
    rw [spelledIn_eq_bracketed, hspelled]
    simp only [hne, hown, false_or]
  · intro hhome
    constructor
    · intro hm
      obtain ⟨⟨hne, hown⟩, -⟩ := mem_imports_iff.1 hm
      exact hhome.elim hne hown
    · rw [spelledIn_eq_bracketed, hspelled, if_pos]
      rcases hhome with hempty | hown
      · exact .inr (.inl hempty)
      · exact .inl hown

end TargetType

namespace Registry

variable {s : Settings} {r r' : Registry}

theorem formed_empty (s : Settings) : Registry.empty.Formed s :=
  fun _ hp => absurd hp List.not_mem_nil

theorem formed_foldl_after (hr : r.Formed s) (us : List CatalogType) :
    (us.foldl (Registry.after s) r).Formed s :=
  (keeps_formed s).foldl_after hr us

end Registry

theorem resolve_referred {s : Settings} {us : List CatalogType} {t : CatalogType}
    {target : TargetType} (h : Registry.outcomeAfter s us t = .ok target) (own : String) :
    target.Referred own := by
  have hformed : (us.foldl (Registry.after s) .empty).Formed s :=
    Registry.formed_foldl_after (Registry.formed_empty s) us
  exact ((resolveIn_forms s [] t _ hformed).of_ok (eq_ok_of_outcome h)).2.referred own

namespace Vendored

def settings : Settings :=
  ⟨"app/db", ⟨[("numeric", "vendor/decimal/v2.Decimal"), ("uuid", "vendor/.Id")]⟩, .empty, none,
    .shenzhen⟩

def uuid : CatalogType :=
  .scalar ⟨⟨2950⟩, "uuid", none⟩

def numerics : CatalogType :=
  .array ⟨⟨1231⟩, "_numeric", none⟩ (.scalar ⟨⟨1700⟩, "numeric", none⟩)

theorem outcomeAfter_numerics : Registry.outcomeAfter settings [uuid] numerics =
    .ok (.array (.named ⟨"vendor/decimal/v2", "decimal", "Decimal"⟩)) :=
  eq_ok_of_toOption (by decide +kernel)

end Vendored

theorem resolve_referred_numerics :
    Registry.outcomeAfter Vendored.settings [Vendored.uuid] Vendored.numerics =
        .ok (.array (.named ⟨"vendor/decimal/v2", "decimal", "Decimal"⟩)) ∧
      TargetType.Referred "app/db" (.array (.named ⟨"vendor/decimal/v2", "decimal", "Decimal"⟩)) :=
  ⟨Vendored.outcomeAfter_numerics, resolve_referred Vendored.outcomeAfter_numerics "app/db"⟩

theorem imported_without_alias :
    Registry.outcomeAfter Vendored.settings [] Vendored.uuid =
        .ok (.named ⟨"vendor/", "", "Id"⟩) ∧
      TargetType.imports "app/db" (.named ⟨"vendor/", "", "Id"⟩) = ["vendor/"] ∧
      TargetType.spelledIn "app/db" (.named ⟨"vendor/", "", "Id"⟩) = "Id" := by
  refine ⟨eq_ok_of_toOption ?_, ?_, ?_⟩
  · decide +kernel
  · decide
  · decide

end QueryTyping
