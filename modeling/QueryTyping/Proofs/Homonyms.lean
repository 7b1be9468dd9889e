import QueryTyping.Proofs.IdentifierText
import QueryTyping.Proofs.Spelling

namespace QueryTyping

open Catalog (Engine)
open Resolution

namespace Text

variable {a b n m : String}

theorem qualified_inj (hn : '.' ∉ n.toList) (hm : '.' ∉ m.toList)
    (h : a ++ "." ++ n = b ++ "." ++ m) : a = b ∧ n = m := by
  have h' : a.toList ++ '.' :: n.toList = b.toList ++ '.' :: m.toList := by
    simpa using congrArg String.toList h
  obtain ⟨ha, hb⟩ := cutLast_inj hn hm h'
  exact ⟨String.toList_inj.1 ha, String.toList_inj.1 hb⟩

theorem ne_qualified (hn : '.' ∉ n.toList) : n ≠ a ++ "." ++ m := by
  rintro rfl
  simp at hn

end Text

namespace Target

theorem Name.dot_not_mem_of_parse {value : String} {n : Name} (h : Name.parse value = .ok n)
    (hp : n.path ≠ "") : '.' ∉ n.name.toList := by
  have hnames := Name.parse_eq_ok_iff.1 h
  generalize Text.trim value.toList = t at hnames
  cases hnames with
  | bare => exact absurd rfl hp
  | inPackage _ _ hdot => simpa [inPackage] using hdot

end Target

namespace Resolution

theorem dot_not_mem_typeName (s : Settings) {stem : String} (hs : Naming.IsWord stem.toList)
    (h : Catalog.Head) : '.' ∉ (typeName s stem h).toList := by
  have hstem := hs.isIdentifierText.isNameText
  unfold typeName orElse
  split
  · exact (Naming.isNameText_fallbackName hstem h.name).dot_not_mem
  · exact (s.caser.isIdentifierText_upperIdent h.name).isNameText.dot_not_mem

end Resolution

namespace TargetType

variable {s : Settings} {own : String} {t u : TargetType}

def isPackaged : TargetType → Bool
  | named n => n.path != ""
  | enum .. | composite .. => true
  | builtin _ | array _ => false

def Aliased (own : String) (t : TargetType) : Prop :=
  t.packagePath ≠ own → t.pkg ≠ ""

theorem ne_array_of_isPackaged (h : t.isPackaged = true) (u : TargetType) : t ≠ array u := by
  rintro rfl
  exact nomatch h

theorem dot_not_mem_ofScalar (h : Catalog.Head) (hp : (Target.ofScalar h).isPackaged = true) :
    '.' ∉ (Target.ofScalar h).baseName.toList :=
  Target.forall_ofScalar (P := fun t => t.isPackaged = true → '.' ∉ t.baseName.toList) (by decide)
    (fun _ hp => nomatch hp) h hp

theorem Formed.dot_not_mem (h : t.Formed s) (hp : t.isPackaged = true) :
    '.' ∉ t.baseName.toList := by
  cases h with
  | scalar h => exact dot_not_mem_ofScalar h hp
  | override hn => exact Target.Name.dot_not_mem_of_parse hn (by simpa [isPackaged] using hp)
  | enum h =>
    have hstem : Naming.IsWord "UnnamedEnum".toList := by simp [Naming.IsWord]
    simpa only [baseName, generatedName, Target.Name.inPackage] using dot_not_mem_typeName s hstem h
  | composite h =>
    have hstem : Naming.IsWord "UnnamedComposite".toList := by simp [Naming.IsWord]
    simpa only [baseName, generatedName, Target.Name.inPackage] using dot_not_mem_typeName s hstem h
  | array => exact absurd rfl (ne_array_of_isPackaged hp _)

theorem packagePath_ofScalar (h : Catalog.Head) (hp : (Target.ofScalar h).isPackaged = true) :
    (Target.ofScalar h).packagePath ≠ "" :=
  Target.forall_ofScalar (P := fun t => t.isPackaged = true → t.packagePath ≠ "") (by decide)
    (fun _ hp => nomatch hp) h hp

theorem Formed.packagePath_ne (h : t.Formed s) (hp : t.isPackaged = true)
    (hown : t.packagePath ≠ s.packagePath) : t.packagePath ≠ "" := by
  cases h with
  | scalar h => exact packagePath_ofScalar h hp
  | override => simpa [isPackaged, packagePath] using hp
  | enum | composite => exact absurd rfl hown
  | array => exact absurd rfl (ne_array_of_isPackaged hp _)

theorem Formed.spelledIn_eq (h : t.Formed s) (hp : t.isPackaged = true)
    (ha : t.Aliased s.packagePath) :
    t.spelledIn s.packagePath =
      if t.packagePath = s.packagePath then t.baseName else t.pkg ++ "." ++ t.baseName := by
  rw [spelledIn_of_ne_array s.packagePath (ne_array_of_isPackaged hp)]
  by_cases hown : t.packagePath = s.packagePath
  · rw [if_pos (.inl hown), if_pos hown]
  · have hpath := h.packagePath_ne hp hown
    rw [if_neg hown, if_neg]
    exact not_or.2 ⟨hown, not_or.2 ⟨hpath, ha hown⟩⟩

theorem Formed.spelledIn_eq_iff (ht : t.Formed s) (hu : u.Formed s) (hpt : t.isPackaged = true)
    (hpu : u.isPackaged = true) (hat : t.Aliased s.packagePath) (hau : u.Aliased s.packagePath)
    (hne : (t.packagePath, t.baseName) ≠ (u.packagePath, u.baseName)) :
    t.spelledIn s.packagePath = u.spelledIn s.packagePath ↔
      (t.packagePath ≠ s.packagePath ∧ u.packagePath ≠ s.packagePath ∧
        t.packagePath ≠ u.packagePath) ∧ t.pkg = u.pkg ∧ t.baseName = u.baseName := by
  have hdt := ht.dot_not_mem hpt
  have hdu := hu.dot_not_mem hpu
  rw [ht.spelledIn_eq hpt hat, hu.spelledIn_eq hpu hau]
  constructor
  · intro h
    by_cases hown : t.packagePath = s.packagePath <;> by_cases hown' : u.packagePath = s.packagePath
    · rw [if_pos hown, if_pos hown'] at h
      exact absurd (Prod.ext (hown.trans hown'.symm) h) hne
    · rw [if_pos hown, if_neg hown'] at h
      exact absurd h (Text.ne_qualified hdt)
    · rw [if_neg hown, if_pos hown'] at h
      exact absurd h.symm (Text.ne_qualified hdu)
    · rw [if_neg hown, if_neg hown'] at h
      obtain ⟨hpkg, hname⟩ := Text.qualified_inj hdt hdu h
      exact ⟨⟨hown, hown', fun hpath => hne (Prod.ext hpath hname)⟩, hpkg, hname⟩
  · rintro ⟨⟨hown, hown', -⟩, hpkg, hname⟩
    rw [if_neg hown, if_neg hown', hpkg, hname]

end TargetType

variable {e : Engine} {s : Settings} {qs : List SourceQuery} {g : Generation} {σ : Session}

def Generation.occurring (g : Generation) : List TargetType :=
  g.targets.flatMap TargetType.components

theorem formed_of_mem_occurring (h : generate e s qs = .ok g σ) :
    ∀ t ∈ g.occurring, t.Formed s := by
  intro t ht
  obtain ⟨a, ha, ht⟩ := List.mem_flatMap.1 ht
  obtain ⟨⟨d, a⟩, hu, rfl⟩ := List.mem_map.1 ha
  exact (formed_of_targetOf? ((generate_sound h).targets (d, a) hu)).of_mem_components ht

theorem generate_homonyms (h : generate e s qs = .ok g σ) :
    ∀ t ∈ g.occurring, ∀ u ∈ g.occurring, t.isPackaged = true → u.isPackaged = true →
      t.Aliased s.packagePath → u.Aliased s.packagePath →
        (t.packagePath, t.baseName) ≠ (u.packagePath, u.baseName) →
          (t.spelledIn s.packagePath = u.spelledIn s.packagePath ↔
            (t.packagePath ≠ s.packagePath ∧ u.packagePath ≠ s.packagePath ∧
              t.packagePath ≠ u.packagePath) ∧ t.pkg = u.pkg ∧ t.baseName = u.baseName) := by
  intro t ht u hu hpt hpu hat hau hne
  have hft := formed_of_mem_occurring h t ht
  have hfu := formed_of_mem_occurring h u hu
  exact hft.spelledIn_eq_iff hfu hpt hpu hat hau hne

theorem resolve_override {t : CatalogType} {r : Registry} {key value : String} {n : Target.Name}
    (hr : r.target? t.oid = none) (ho : override? s t.head = some (key, value))
    (hn : Target.Name.parse value = .ok n) (hp : n.path ≠ "")
    (hclaims : r.claims.lookup (n.path, n.name) = none) :
    resolve s t r = .ok (.named n) { r with
      resolved := (t, .named n) :: r.resolved
      claims := ((n.path, n.name), .type t.head) :: r.claims } := by
  have hclaim : claim n.path n.name (.type t.head) r =
      .ok ⟨⟩ { r with claims := ((n.path, n.name), .type t.head) :: r.claims } := by
    rw [claim, get_bind, hclaims]
    rfl
  have hoverridden : overridden? s t.head r = .ok (some (.named n))
      { r with claims := ((n.path, n.name), .type t.head) :: r.claims } := by
    simp only [overridden?, ho, hn, ne_eq, hp, not_false_eq_true, if_true]
    rw [bind_of_ok hclaim]
    rfl
  rw [resolve, resolveIn.eq_def, get_bind, hr]
  simp only [List.map_nil, List.not_mem_nil, if_false]
  rw [bind_of_ok hoverridden]
  rfl

theorem Typing.typeOf_override {oid : Oid} {t : CatalogType} {key value : String} {n : Target.Name}
    (hw : Catalog.wellKnown? oid = some t) (hc : σ.cache.type? oid = none)
    (hr : σ.registry.target? oid = none) (ho : override? s t.head = some (key, value))
    (hn : Target.Name.parse value = .ok n) (hp : n.path ≠ "")
    (hclaims : σ.registry.claims.lookup (n.path, n.name) = none) :
    Ends (typeOf e s oid) σ
      (fun u σ' => u = (t, .named n) ∧ σ'.cache = σ.cache.add t ∧
        σ'.registry = { σ.registry with
          resolved := (t, .named n) :: σ.registry.resolved
          claims := ((n.path, n.name), .type t.head) :: σ.registry.claims })
      fun _ _ => False := by
  have hoid : t.oid = oid := Catalog.oid_of_wellKnown? hw
  have hfetch : Ends (fetch e oid) σ
      (fun u σ' => u = t ∧ σ'.cache = σ.cache.add t ∧ σ'.registry = σ.registry)
      fun _ _ => False := by
    refine fetch_ends ?_
    unfold Ends
    rw [Catalog.fetch_wellKnown hw hc]
    exact ⟨rfl, rfl, rfl⟩
  refine Ends.bind hfetch ?_ fun _ _ h => h
  rintro u σ₁ ⟨rfl, hc₁, hr₁⟩
  rw [← hr₁, ← hoid] at hr
  rw [← hr₁] at hclaims ⊢
  have hresolve : Ends (resolve s u) σ₁
      (fun target σ' => target = .named n ∧ σ'.cache = σ₁.cache ∧
        σ'.registry = { σ₁.registry with
          resolved := (u, .named n) :: σ₁.registry.resolved
          claims := ((n.path, n.name), .type u.head) :: σ₁.registry.claims })
      fun _ _ => False := by
    refine resolve_ends ?_
    unfold Ends
    rw [resolve_override hr ho hn hp hclaims]
    exact ⟨rfl, rfl, rfl⟩
  refine Ends.bind hresolve ?_ fun _ _ h => h
  rintro target σ₂ ⟨rfl, hc₂, hr₂⟩
  exact Ends.pure ⟨rfl, hc₂.trans hc₁, hr₂⟩

namespace Homonyms

def settings : Settings :=
  ⟨"app/db", ⟨[("numeric", "b/ids.ID"), ("uuid", "a/ids.ID")]⟩, .empty, none, .shenzhen⟩

def columns : List Catalog.Column :=
  [⟨"id", ⟨2950⟩, none⟩, ⟨"no", ⟨1700⟩, none⟩]

def snapshot : Catalog.Snapshot where
  statements := [⟨"SELECT keys", ⟨[], columns⟩, none, none⟩]
  types := []
  lostAfter := none

def keys : SourceQuery :=
  ⟨"Keys", "SELECT keys", [], .many⟩

def uuid : CatalogType :=
  .scalar ⟨⟨2950⟩, "uuid", some "pg_catalog"⟩

def numeric : CatalogType :=
  .scalar ⟨⟨1700⟩, "numeric", some "pg_catalog"⟩

def uuidTarget : TargetType :=
  .named ⟨"a/ids", "ids", "ID"⟩

def numericTarget : TargetType :=
  .named ⟨"b/ids", "ids", "ID"⟩

def uses : Uses :=
  [(uuid, uuidTarget), (numeric, numericTarget)]

theorem typeOf_columns (hc : σ.cache.types = []) (hr : σ.registry = .empty) :
    Ends ((columns.map Catalog.Column.oid).mapM (Typing.typeOf snapshot.engine settings)) σ
      (fun us _ => us = uses) fun _ _ => False := by
  have ha : Target.Name.parse "a/ids.ID" = .ok ⟨"a/ids", "ids", "ID"⟩ := by decide
  have hb : Target.Name.parse "b/ids.ID" = .ok ⟨"b/ids", "ids", "ID"⟩ := by decide
  have huuid : override? settings uuid.head = some ("uuid", "a/ids.ID") := by cbv
  have hnumeric : override? settings numeric.head = some ("numeric", "b/ids.ID") := by cbv
  simp only [columns, List.map_cons, List.map_nil, List.mapM_cons, List.mapM_nil, pure_bind,
    bind_assoc]
  refine Ends.bind (Typing.typeOf_override rfl ?_ ?_ huuid ha (by decide) ?_) ?_ fun _ _ h => h
  · simp [Catalog.Cache.type?, hc]
  · rw [hr]
    rfl
  · rw [hr]
    rfl
  rintro _ σ₁ ⟨rfl, hc₁, hr₁⟩
  rw [hr] at hr₁
  have htypes : σ₁.cache.types = [uuid] := by
    rw [hc₁, Catalog.Cache.add, hc]
    rfl
  refine Ends.bind (Typing.typeOf_override rfl ?_ ?_ hnumeric hb (by decide) ?_) ?_ fun _ _ h => h
  · rw [Catalog.Cache.type?, htypes]
    rfl
  · rw [hr₁]
    rfl
  · rw [hr₁]
    rfl
  rintro _ σ₂ ⟨rfl, -, -⟩
  exact Ends.pure rfl

theorem typeQuery_keys : Ends (typeQuery snapshot.engine settings none keys) .empty
    (fun t _ => t.uses = uses) fun _ _ => False := by
  have hprepare : Ends (Typing.prepare snapshot.engine none keys) .empty
      (fun st σ => st = ⟨[], columns⟩ ∧ σ.cache.types = [] ∧ σ.registry = .empty)
      fun _ _ => False := by
    unfold Ends
    exact ⟨rfl, rfl, rfl⟩
  refine Ends.bind hprepare ?_ fun _ _ h => h
  rintro st σ ⟨rfl, hc, hr⟩
  have htell : Ends (Typing.tell (.prepared keys.name 0 2)) σ
      (fun _ σ' => σ'.cache.types = [] ∧ σ'.registry = .empty) fun _ _ => False :=
    Ends.modify ⟨hc, hr⟩
  refine Ends.bind htell ?_ fun _ _ h => h
  rintro _ σ₁ ⟨hc₁, hr₁⟩
  have hshape : Ends
      (TypedQuery.uses <$> Typing.typeShape snapshot.engine settings keys [] columns) σ₁
      (fun us _ => us = uses) fun _ _ => False := by
    rw [Typing.uses_typeShape]
    exact typeOf_columns hc₁ hr₁
  exact Ends.of_map hshape

theorem generate_keys :
    ∃ g σ, generate snapshot.engine settings [keys] = .ok g σ ∧ g.uses = uses := by
  have htell (event : Event) (σ : Session) :
      Ends (Typing.tell event) σ (fun _ _ => True) fun _ _ => False := Ends.modify trivial
  have htyped : Ends (typeQueries snapshot.engine settings [keys]) .empty
      (fun ts _ => ts.flatMap TypedQuery.uses = uses) fun _ _ => False := by
    refine Ends.bind typeQuery_keys ?_ fun _ _ h => h
    intro t σ ht
    refine Ends.bind (htell _ σ) ?_ fun _ _ h => h
    exact fun _ _ _ => Ends.pure (by simp [ht])
  have hends : Ends (generation snapshot.engine settings [keys]) .empty
      (fun g _ => g.uses = uses) fun _ _ => False := by
    refine Ends.bind htyped ?_ fun _ _ h => h
    intro ts σ hts
    refine Ends.bind_get (Ends.bind (htell _ σ) ?_ fun _ _ h => h)
    exact fun _ _ _ => Ends.pure hts
  exact hends.ok_of_not_fail

theorem mem_occurring {g : Generation} (h : g.uses = uses) :
    uuidTarget ∈ g.occurring ∧ numericTarget ∈ g.occurring := by
  rw [Generation.occurring, Generation.targets, h]
  decide

end Homonyms

theorem generate_homonyms_keys :
    ∃ g σ, generate Homonyms.snapshot.engine Homonyms.settings [Homonyms.keys] = .ok g σ ∧
      Homonyms.uuidTarget ∈ g.occurring ∧ Homonyms.numericTarget ∈ g.occurring ∧
        (Homonyms.uuidTarget.spelledIn "app/db" = Homonyms.numericTarget.spelledIn "app/db" ↔
          (Homonyms.uuidTarget.packagePath ≠ "app/db" ∧
            Homonyms.numericTarget.packagePath ≠ "app/db" ∧
            Homonyms.uuidTarget.packagePath ≠ Homonyms.numericTarget.packagePath) ∧
          Homonyms.uuidTarget.pkg = Homonyms.numericTarget.pkg ∧
          Homonyms.uuidTarget.baseName = Homonyms.numericTarget.baseName) := by
  obtain ⟨g, σ, h, huses⟩ := Homonyms.generate_keys
  obtain ⟨ht, hu⟩ := Homonyms.mem_occurring huses
  have hat : Homonyms.uuidTarget.Aliased "app/db" := fun _ => by decide
  have hau : Homonyms.numericTarget.Aliased "app/db" := fun _ => by decide
  have hne : (Homonyms.uuidTarget.packagePath, Homonyms.uuidTarget.baseName) ≠
      (Homonyms.numericTarget.packagePath, Homonyms.numericTarget.baseName) := by decide
  have halike := generate_homonyms h _ ht _ hu rfl rfl hat hau hne
  exact ⟨g, σ, h, ht, hu, halike⟩

theorem exists_homonyms :
    ∃ g σ, generate Homonyms.snapshot.engine Homonyms.settings [Homonyms.keys] = .ok g σ ∧
      ∃ t ∈ g.occurring, ∃ u ∈ g.occurring, t.isPackaged = true ∧ u.isPackaged = true ∧
        (t.packagePath, t.baseName) ≠ (u.packagePath, u.baseName) ∧
          t.spelledIn "app/db" = u.spelledIn "app/db" := by
  obtain ⟨g, σ, h, huses⟩ := Homonyms.generate_keys
  obtain ⟨ht, hu⟩ := Homonyms.mem_occurring huses
  have hne : (Homonyms.uuidTarget.packagePath, Homonyms.uuidTarget.baseName) ≠
      (Homonyms.numericTarget.packagePath, Homonyms.numericTarget.baseName) := by decide
  have hspelled : Homonyms.uuidTarget.spelledIn "app/db" =
      Homonyms.numericTarget.spelledIn "app/db" := by decide
  exact ⟨g, σ, h, _, ht, _, hu, rfl, rfl, hne, hspelled⟩

end QueryTyping
