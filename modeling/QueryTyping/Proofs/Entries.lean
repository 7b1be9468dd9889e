import Mathlib.Data.List.DropRight
import Mathlib.Data.List.Induction
import QueryTyping.Proofs.Homonyms
import QueryTyping.Proofs.SettingsFaults

namespace QueryTyping

open Catalog (Engine)
open Resolution

namespace Text

variable {s : List Char}

structure Unpadded (s : List Char) : Prop where
  front : ∀ c rest, s = c :: rest → isBlank c = false
  back : ∀ rest c, s = rest ++ [c] → isBlank c = false

theorem trim_eq_rdropWhile (s : List Char) :
    trim s = (s.dropWhile isBlank).rdropWhile isBlank :=
  rfl

theorem unpadded_trim (s : List Char) : Unpadded (trim s) := by
  constructor
  · intro c rest h
    obtain ⟨dropped, hprefix⟩ := List.rdropWhile_prefix isBlank (s.dropWhile isBlank)
    rw [← trim_eq_rdropWhile, h] at hprefix
    have hd := List.dropWhile_idempotent isBlank s
    rw [← hprefix] at hd
    simpa using List.dropWhile_eq_self_iff.1 hd (by simp)
  · intro rest c h
    have hd := List.rdropWhile_idempotent isBlank (s.dropWhile isBlank)
    rw [← trim_eq_rdropWhile, h] at hd
    simpa using List.rdropWhile_eq_self_iff.1 hd (by simp)

theorem trim_of_unpadded (h : Unpadded s) : trim s = s := by
  have hfront : s.dropWhile isBlank = s := by
    cases s with
    | nil => rfl
    | cons c rest => exact List.dropWhile_cons_of_neg (by simp [h.front c rest rfl])
  rw [trim_eq_rdropWhile, hfront]
  rcases List.eq_nil_or_concat' s with rfl | ⟨rest, c, rfl⟩
  · rfl
  · exact List.rdropWhile_concat_neg _ _ _ (by simp [h.back rest c rfl])

theorem trimmed_of_unpadded {s : String} (h : Unpadded s.toList) : trimmed s = s := by
  rw [trimmed, trim_of_unpadded h, String.ofList_toList]

theorem trim_trim (s : List Char) : trim (trim s) = trim s :=
  trim_of_unpadded (unpadded_trim s)

end Text

theorem Target.Name.parse_trimmed (s : String) :
    Target.Name.parse (Text.trimmed s) = Target.Name.parse s := by
  rw [parse, Text.toList_trimmed, Text.trim_trim, parse]

namespace Table

theorem ofList_concat (l : List (String × String)) (p : String × String) :
    ofList (l ++ [p]) = (ofList l).insert p.1 p.2 := by
  rw [ofList, List.foldl_append]
  rfl

theorem get?_ofList (l : List (String × String)) (k : String) :
    (ofList l).get? k = ((l.filter fun p => p.1 = k).getLast?).map Prod.snd := by
  induction l using List.reverseRecOn with
  | nil => rfl
  | append_singleton l p ih =>
    rw [ofList_concat, get?_insert, List.filter_append]
    by_cases hk : k = p.1
    · subst hk
      simp
    · rw [if_neg hk, ih]
      simp [Ne.symm hk]

end Table

namespace Settings

def sides? (entry : String) : Option (String × String) :=
  (Text.cutFirst '=' entry.toList).map fun p => (String.ofList (Text.trim p.1), String.ofList p.2)

def written? (entries : List String) (key : String) : Option String :=
  ((entries.filterMap sides?).filter fun p => p.1 = key).getLast?.map Prod.snd

variable {entry : String} {entries : List String} {pairs : List (String × String)}

theorem sides?_of_parseOverride {p : String × String} (h : parseOverride entry = .ok p) :
    ∃ value, sides? entry = some (p.1, value) ∧ p.2 = Text.trimmed value ∧
      ∃ n, Target.Name.parse value = .ok n := by
  unfold parseOverride at h
  cases hcut : Text.cutFirst '=' entry.toList with
  | none => simp [hcut] at h
  | some sides =>
    obtain ⟨k, v⟩ := sides
    have htrimmed : Text.trimmed (String.ofList v) = String.ofList (Text.trim v) := by
      rw [Text.trimmed, String.toList_ofList]
    simp only [hcut] at h
    split at h
    · cases h
    · cases hn : Target.Name.parse (String.ofList (Text.trim v)) with
      | error fault => simp [hn] at h
      | ok n =>
        rw [hn] at h
        obtain rfl := Except.ok.inj h
        refine ⟨String.ofList v, ?_, htrimmed.symm, n, ?_⟩
        · rw [sides?, hcut]
          rfl
        · rw [← Target.Name.parse_trimmed, htrimmed, hn]

theorem mapM_parseOverride (h : entries.mapM parseOverride = .ok pairs) :
    pairs = (entries.filterMap sides?).map (fun p => (p.1, Text.trimmed p.2)) ∧
      ∀ p ∈ entries.filterMap sides?, ∃ n, Target.Name.parse p.2 = .ok n := by
  induction entries generalizing pairs with
  | nil =>
    obtain rfl := Except.ok.inj h
    exact ⟨rfl, by simp⟩
  | cons entry entries ih =>
    obtain ⟨p, ps, hp, hps, rfl⟩ := mapM_cons_eq_ok h
    obtain ⟨value, hsides, hvalue, hn⟩ := sides?_of_parseOverride hp
    obtain ⟨hmap, hread⟩ := ih hps
    rw [List.filterMap_cons_some hsides]
    refine ⟨?_, List.forall_mem_cons.2 ⟨hn, hread⟩⟩
    rw [List.map_cons, ← hmap, ← hvalue]

section Accepted

variable {o : Table} {key value : String}

theorem get?_of_parseOverrides (h : parseOverrides entries = .ok o) (key : String) :
    o.get? key = (written? entries key).map Text.trimmed := by
  obtain ⟨pairs, hpairs, rfl⟩ := exists_of_map_eq_ok (f := Table.ofList) h
  obtain ⟨rfl, -⟩ := mapM_parseOverride hpairs
  rw [Table.get?_ofList, List.filter_map, List.getLast?_map, written?, Option.map_map,
    Option.map_map]
  rfl

theorem readable_of_written? (h : parseOverrides entries = .ok o)
    (hw : written? entries key = some value) : ∃ n, Target.Name.parse value = .ok n := by
  obtain ⟨pairs, hpairs, -⟩ := exists_of_map_eq_ok (f := Table.ofList) h
  obtain ⟨p, hp, rfl⟩ := Option.map_eq_some_iff.1 hw
  have hm := List.mem_of_getLast? hp
  exact (mapM_parseOverride hpairs).2 p (List.mem_of_mem_filter hm)

theorem not_unreadable {s : Settings} (h : parseOverrides entries = .ok s.overrides) :
    ¬ s.Unreadable := by
  rintro ⟨head, key, value, fault, ho, hfault⟩
  have hvalue : ∃ k, s.overrides.get? k = some value := by
    have hsome : (s.overrides.get? head.qualified).or (s.overrides.get? head.name) = some value :=
      overrideValue?_eq_some ho
    rcases Option.or_eq_some_iff.1 hsome with hk | ⟨-, hk⟩
    · exact ⟨_, hk⟩
    · exact ⟨_, hk⟩
  obtain ⟨k, hk⟩ := hvalue
  rw [get?_of_parseOverrides h] at hk
  obtain ⟨written, hw, rfl⟩ := Option.map_eq_some_iff.1 hk
  obtain ⟨n, hn⟩ := readable_of_written? h hw
  rw [Target.Name.parse_trimmed, hn] at hfault
  exact nomatch hfault

def writtenFor? (entries : List String) (t : CatalogType) : Option String :=
  (written? entries t.qualified).or (written? entries t.head.name)

theorem targetOf?_of_written {s : Settings} (h : parseOverrides entries = .ok s.overrides)
    {t : CatalogType} (hw : writtenFor? entries t = some value) :
    ∃ n, Target.Name.parse value = .ok n ∧ targetOf? s t = some (.named n) := by
  have hvalue : overrideValue? s t.head = some (Text.trimmed value) := by
    rw [overrideValue?, get?_of_parseOverrides h, get?_of_parseOverrides h, ← Option.map_or]
    exact congrArg (Option.map Text.trimmed) hw
  rw [← map_snd_override?] at hvalue
  obtain ⟨⟨key, value'⟩, ho, hv⟩ := Option.map_eq_some_iff.1 hvalue
  obtain rfl : value' = Text.trimmed value := hv
  obtain ⟨n, hn⟩ : ∃ n, Target.Name.parse value = .ok n := by
    rcases Option.or_eq_some_iff.1 hw with hw | ⟨-, hw⟩
    · exact readable_of_written? h hw
    · exact readable_of_written? h hw
  refine ⟨n, hn, ?_⟩
  rw [targetOf?_of_override ho, Target.Name.parse_trimmed, hn]
  rfl

end Accepted

def Heeds (entries : List String) (u : CatalogType × TargetType) : Prop :=
  ∀ value, writtenFor? entries u.1 = some value →
    ∃ n, Target.Name.parse value = .ok n ∧ u.2 = .named n

theorem heeds_of_targetOf? {s : Settings} (h : parseOverrides entries = .ok s.overrides)
    {u : CatalogType × TargetType} (hu : targetOf? s u.1 = some u.2) : Heeds entries u := by
  intro value hw
  obtain ⟨n, hn, ht⟩ := targetOf?_of_written h hw
  exact ⟨n, hn, Option.some.inj (hu.symm.trans ht)⟩

end Settings

def sessionAfter (e : Engine) (s : Settings) (qs : List SourceQuery) : Session :=
  stateAfter (generation e s qs) .empty

theorem valid_sessionAfter (e : Engine) (s : Settings) (qs : List SourceQuery) :
    (sessionAfter e s qs).Valid e s := by
  have htyped := Typing.typeQueries_tracks qs .empty (Session.valid_empty e s)
  refine Ends.after (Ends.bind htyped ?_ fun _ _ h => h)
  rintro ts σ ⟨us, -, hused⟩
  refine Ends.bind_get (Ends.bind (Typing.tell_ends _) ?_ fun _ σ' hs => hused.valid.of_same hs)
  exact fun _ σ' hs => Ends.pure (hused.valid.of_same hs)

theorem settled_of_parseOverrides {entries : List String} {o : Table}
    (h : Settings.parseOverrides entries = .ok o) (package : String) (acronyms : Table)
    (deadline : Option Nat) (r : Text.Romanization) (e : Engine) (qs : List SourceQuery) :
    let s : Settings := ⟨package, o, acronyms, deadline, r⟩
    (∀ f σ, generate e s qs = .error f σ → f.isSettings = false) ∧
      (∀ u ∈ (sessionAfter e s qs).registry.resolved, Settings.Heeds entries u) ∧
      ∀ g σ, generate e s qs = .ok g σ → ∀ u ∈ g.uses, Settings.Heeds entries u := by
  intro s
  refine ⟨?_, ?_, ?_⟩
  · intro f σ hf
    exact (isSettings_of_generate hf).resolve_right (Settings.not_unreadable h)
  · intro u hu
    exact Settings.heeds_of_targetOf? h ((valid_sessionAfter e s qs).registry.target u hu)
  · intro g σ hg u hu
    exact Settings.heeds_of_targetOf? h ((generate_sound hg).targets u hu)

namespace Homonyms

def entries : List String :=
  ["uuid=a/ids.Old", "numeric=b/ids.ID", " uuid = a/ids.ID "]

theorem parseOverrides_entries : Settings.parseOverrides entries = .ok settings.overrides :=
  eq_ok_of_toOption (by decide +kernel)

end Homonyms

theorem settled_of_parseOverrides_keys :
    let e := Homonyms.snapshot.engine
    Settings.parseOverrides Homonyms.entries = .ok Homonyms.settings.overrides ∧
      ∃ g σ, generate e Homonyms.settings [Homonyms.keys] = .ok g σ ∧
        (Homonyms.uuid, .named ⟨"a/ids", "ids", "ID"⟩) ∈ g.uses ∧
        (∀ u ∈ g.uses, Settings.Heeds Homonyms.entries u) ∧
        ∀ u ∈ (sessionAfter e Homonyms.settings [Homonyms.keys]).registry.resolved,
          Settings.Heeds Homonyms.entries u := by
  intro e
  obtain ⟨-, hresolved, huses⟩ := settled_of_parseOverrides Homonyms.parseOverrides_entries
    "app/db" .empty none .shenzhen e [Homonyms.keys]
  obtain ⟨g, σ, h, hg⟩ := Homonyms.generate_keys
  have huuid : (Homonyms.uuid, .named ⟨"a/ids", "ids", "ID"⟩) ∈ g.uses := by
    rw [hg]
    exact List.mem_cons_self
  exact ⟨Homonyms.parseOverrides_entries, g, σ, h, huuid, huses g σ h, hresolved⟩

end QueryTyping
