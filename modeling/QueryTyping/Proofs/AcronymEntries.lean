import QueryTyping.Proofs.Ascending
import QueryTyping.Proofs.Entries
import QueryTyping.Proofs.IdentifierText

namespace QueryTyping

open Naming

namespace Table

variable {k : String} {l : List (String × String)} {t : Table}

def keys (t : Table) : List String :=
  t.entries.map Prod.fst

theorem map_fst_insertEntry (k v : String) (l : List (String × String)) :
    (insertEntry k v l).map Prod.fst = Text.insertSorted k (l.map Prod.fst) := by
  induction l with
  | nil => rfl
  | cons p l ih =>
    obtain ⟨k', v'⟩ := p
    rw [List.map_cons, insertEntry, Text.insertSorted]
    split
    · rename_i heq
      rw [List.map_cons, heq]
    split
    · rfl
    · rw [List.map_cons, ih]

theorem keys_ofList_concat (l : List (String × String)) (p : String × String) :
    (ofList (l ++ [p])).keys = Text.insertSorted p.1 (ofList l).keys := by
  rw [ofList_concat]
  exact map_fst_insertEntry p.1 p.2 _

theorem ascending_keys_ofList (l : List (String × String)) :
    (ofList l).keys.Pairwise (· < ·) := by
  induction l using List.reverseRecOn with
  | nil => exact .nil
  | append_singleton l p ih =>
    rw [keys_ofList_concat]
    exact Text.ascending_insertSorted ih

theorem mem_keys_ofList_iff : k ∈ (ofList l).keys ↔ k ∈ l.map Prod.fst := by
  induction l using List.reverseRecOn with
  | nil => rfl
  | append_singleton l p ih =>
    rw [keys_ofList_concat, Text.mem_insertSorted, ih, List.map_append, List.mem_append,
      List.map_singleton, List.mem_singleton, or_comm]

theorem lookup_of_ascending (h : (l.map Prod.fst).Pairwise (· < ·)) (k : String) :
    l.lookup k = ((l.filter fun p => p.1 = k).getLast?).map Prod.snd := by
  induction l with
  | nil => rfl
  | cons p l ih =>
    obtain ⟨k', v⟩ := p
    obtain ⟨hlater, hl⟩ := List.pairwise_cons.1 h
    by_cases hk : k' = k
    · subst hk
      -- Every later key is greater, so the first entry for this one is also the last.
      have hnone : l.filter (fun q => q.1 = k') = [] := by
        apply List.filter_eq_nil_iff.2
        intro q hq
        simpa using (hlater q.1 (List.mem_map_of_mem hq)).ne'
      simp [hnone]
    · have hne : (k == k') = false := beq_eq_false_iff_ne.2 (Ne.symm hk)
      rw [List.lookup_cons, hne, List.filter_cons_of_neg (by simpa using hk)]
      exact ih hl

theorem get?_ofList_entries (h : t.keys.Pairwise (· < ·)) (k : String) :
    (ofList t.entries).get? k = t.get? k := by
  rw [get?_ofList, get?, lookup_of_ascending h]

end Table

namespace Naming

def key (w : List Char) : String :=
  String.ofList (lower w)

theorem key_toList_key (w : List Char) : key (key w).toList = key w := by
  rw [key, key, String.toList_ofList, lower_lower]

theorem key_eq_key_iff {v w : List Char} : key v = key w ↔ lower v = lower w :=
  String.ofList_inj

namespace Caser

theorem acronyms_ofAcronyms (r : Text.Romanization) (l : List (String × String)) :
    (ofAcronyms r l).acronyms = Table.ofList (l.map fun p => (key p.1.toList, p.2)) := by
  induction l using List.reverseRecOn with
  | nil => rfl
  | append_singleton l p ih =>
    have hadd : ofAcronyms r (l ++ [p]) = (ofAcronyms r l).addAcronym p.1 p.2 := by
      rw [ofAcronyms, List.foldl_append]
      rfl
    rw [hadd, List.map_append, List.map_singleton, Table.ofList_concat, ← ih]
    rfl

theorem get?_ofAcronyms (r : Text.Romanization) {t : Table} (ht : t.keys.Pairwise (· < ·))
    (hkeys : ∀ k ∈ t.keys, key k.toList = k) (k : String) :
    (ofAcronyms r t.entries).acronyms.get? k = t.get? k := by
  have hsame (p : String × String) (hp : p ∈ t.entries) : (key p.1.toList, p.2) = id p := by
    rw [hkeys p.1 (List.mem_map_of_mem hp)]
    rfl
  rw [acronyms_ofAcronyms, List.map_congr_left hsame, List.map_id, Table.get?_ofList_entries ht]

theorem render_eq (k : Caser) (w : List Char) : k.render w =
    ((k.acronyms.get? (key w)).map fun r => stripInvalid r.toList).getD (capitalize w) := by
  rw [render, ← key]
  cases k.acronyms.get? (key w) with
  | none => rfl
  | some r => rfl

end Caser

end Naming

namespace Settings

variable {entry : String} {entries : List String} {w : List Char} {f : Failure}

def acronymSides (entry : String) : List Char × List Char :=
  match Text.cutFirst '=' entry.toList with
  | some (word, rendering) => (Text.trim word, Text.trim rendering)
  | none => (Text.trim entry.toList, upper (Text.trim entry.toList))

def SaysNothing (entry : String) : Prop :=
  (acronymSides entry).1 = [] ∨ (acronymSides entry).2 = []

def IsFor (w : List Char) (entry : String) : Prop :=
  lower (acronymSides entry).1 = lower w

instance : DecidablePred SaysNothing :=
  fun _ => inferInstanceAs (Decidable (_ ∨ _))

instance (w : List Char) : DecidablePred (IsFor w) :=
  fun _ => inferInstanceAs (Decidable (_ = _))

inductive Renders (entries : List String) (w : List Char) : List Char → Prop where
  | acronym {before after : List String} {entry : String} :
    entries = before ++ entry :: after → IsFor w entry → (∀ later ∈ after, ¬ IsFor w later) →
      Renders entries w (stripInvalid (acronymSides entry).2)
  | word : (∀ entry ∈ entries, ¬ IsFor w entry) → Renders entries w (capitalize w)

theorem acronymOf?_eq (entry : String) : acronymOf? entry =
    if (acronymSides entry).1.isEmpty || (acronymSides entry).2.isEmpty then none
    else some (key (acronymSides entry).1, String.ofList (acronymSides entry).2) :=
  rfl

theorem parseAcronym_of_saysNothing (h : SaysNothing entry) :
    parseAcronym entry = .error (.invalidAcronym entry) := by
  have hempty : ((acronymSides entry).1.isEmpty || (acronymSides entry).2.isEmpty) = true := by
    simpa [SaysNothing] using h
  rw [parseAcronym, acronymOf?_eq, if_pos hempty]

theorem parseAcronym_of_not_saysNothing (h : ¬ SaysNothing entry) : parseAcronym entry =
    .ok (key (acronymSides entry).1, String.ofList (acronymSides entry).2) := by
  have hempty : ¬ ((acronymSides entry).1.isEmpty || (acronymSides entry).2.isEmpty) = true := by
    simpa [SaysNothing] using h
  rw [parseAcronym, acronymOf?_eq, if_neg hempty]

theorem parseAcronym_eq_error_iff :
    parseAcronym entry = .error f ↔ SaysNothing entry ∧ f = .invalidAcronym entry := by
  by_cases h : SaysNothing entry
  · rw [parseAcronym_of_saysNothing h, Except.error.injEq, eq_comm, and_iff_right h]
  · rw [parseAcronym_of_not_saysNothing h]
    exact iff_of_false nofun fun hf => h hf.1

theorem exists_parseAcronym_eq_ok_iff :
    (∃ p, parseAcronym entry = .ok p) ↔ ¬ SaysNothing entry := by
  constructor
  · rintro ⟨p, hp⟩ h
    exact nomatch hp.symm.trans (parseAcronym_of_saysNothing h)
  · exact fun h => ⟨_, parseAcronym_of_not_saysNothing h⟩

theorem parseAcronyms_eq_error_iff : parseAcronyms entries = .error f ↔
    ∃ before entry after, entries = before ++ entry :: after ∧
      (∀ earlier ∈ before, ¬ SaysNothing earlier) ∧ SaysNothing entry ∧
        f = .invalidAcronym entry := by
  have hmap : parseAcronyms entries = .error f ↔ entries.mapM parseAcronym = .error f := by
    constructor
    · exact map_except_error (f := Table.ofList)
    · intro h
      rw [parseAcronyms, h]
      rfl
  rw [hmap, mapM_eq_error_iff]
  simp only [exists_parseAcronym_eq_ok_iff, parseAcronym_eq_error_iff]

theorem parseAcronyms_fails_iff :
    (∃ f, parseAcronyms entries = .error f) ↔ ∃ entry ∈ entries, SaysNothing entry := by
  constructor
  · rintro ⟨f, hf⟩
    obtain ⟨before, entry, after, rfl, -, hentry, -⟩ := parseAcronyms_eq_error_iff.1 hf
    exact ⟨entry, by simp, hentry⟩
  · rintro ⟨entry, hmem, hentry⟩
    cases h : parseAcronyms entries with
    | error f => exact ⟨f, rfl⟩
    | ok t =>
      obtain ⟨pairs, hpairs, -⟩ := exists_of_map_eq_ok (f := Table.ofList) h
      obtain ⟨p, hp⟩ := exists_of_mapM_eq_ok hpairs entry hmem
      exact absurd hentry (exists_parseAcronym_eq_ok_iff.1 ⟨p, hp⟩)

def acronymPair (entry : String) : String × String :=
  (key (acronymSides entry).1, String.ofList (acronymSides entry).2)

theorem parseAcronyms_eq_ok {t : Table} (h : parseAcronyms entries = .ok t) :
    t = Table.ofList (entries.map acronymPair) := by
  obtain ⟨pairs, hpairs, rfl⟩ := exists_of_map_eq_ok (f := Table.ofList) h
  congr 1
  apply eq_map_of_mapM_eq_ok _ hpairs
  intro entry p hp
  have hsays := exists_parseAcronym_eq_ok_iff.1 ⟨p, hp⟩
  exact Except.ok.inj (hp.symm.trans (parseAcronym_of_not_saysNothing hsays))

theorem get?_caser {s : Settings} (h : parseAcronyms entries = .ok s.acronyms) (w : List Char) :
    s.caser.acronyms.get? (key w) =
      (entries.filter (IsFor w ·)).getLast?.map fun entry =>
        String.ofList (acronymSides entry).2 := by
  have ht := parseAcronyms_eq_ok h
  have hascending : s.acronyms.keys.Pairwise (· < ·) := by
    rw [ht]
    exact Table.ascending_keys_ofList _
  have hkeys : ∀ k ∈ s.acronyms.keys, key k.toList = k := by
    intro k hk
    rw [ht, Table.mem_keys_ofList_iff, List.map_map] at hk
    obtain ⟨entry, -, rfl⟩ := List.mem_map.1 hk
    exact key_toList_key _
  have hfor : (fun p : String × String => decide (p.1 = key w)) ∘ acronymPair = (IsFor w ·) := by
    funext entry
    exact decide_eq_decide.2 key_eq_key_iff
  rw [caser, Caser.get?_ofAcronyms _ hascending hkeys, ht, Table.get?_ofList, List.filter_map, hfor,
    List.getLast?_map, Option.map_map]
  rfl

theorem renders_caser {s : Settings} (h : parseAcronyms entries = .ok s.acronyms)
    (w : List Char) : Renders entries w (s.caser.render w) := by
  rw [Caser.render_eq, get?_caser h, List.getLast?_filter, Option.map_map]
  cases hlast : entries.reverse.find? (IsFor w ·) with
  | none =>
    apply Renders.word
    simpa using List.find?_eq_none.1 hlast
  | some entry =>
    obtain ⟨hentry, after, before, hsplit, hafter⟩ := List.find?_eq_some_iff_append.1 hlast
    have hentries : entries = before.reverse ++ entry :: after.reverse := by
      simpa using congrArg List.reverse hsplit
    rw [Option.map_some, Option.getD_some, Function.comp_apply, String.toList_ofList]
    apply Renders.acronym hentries
    · exact of_decide_eq_true hentry
    · intro later hlater
      simpa using hafter later (List.mem_reverse.1 hlater)

end Settings

theorem acronyms_of_entries (entries : List String) :
    (∀ s : Settings, Settings.parseAcronyms entries = .ok s.acronyms →
      ∀ w, Settings.Renders entries w (s.caser.render w)) ∧
    (∀ f, Settings.parseAcronyms entries = .error f ↔
      ∃ before entry after, entries = before ++ entry :: after ∧
        (∀ earlier ∈ before, ¬ Settings.SaysNothing earlier) ∧ Settings.SaysNothing entry ∧
          f = .invalidAcronym entry) ∧
    ((∃ f, Settings.parseAcronyms entries = .error f) ↔
      ∃ entry ∈ entries, Settings.SaysNothing entry) := by
  refine ⟨?_, ?_, ?_⟩
  · intro s h w
    exact Settings.renders_caser h w
  · intro f
    exact Settings.parseAcronyms_eq_error_iff
  · exact Settings.parseAcronyms_fails_iff

namespace Initials

def entries : List String :=
  ["id", " URL = Url ", "ID=Id"]

def settings : Settings :=
  ⟨"app/db", .empty, ⟨[("id", "Id"), ("url", "Url")]⟩, none, .shenzhen⟩

theorem parseAcronyms_entries : Settings.parseAcronyms entries = .ok settings.acronyms :=
  eq_ok_of_toOption (by decide +kernel)

end Initials

theorem acronyms_of_entries_initials :
    Settings.parseAcronyms Initials.entries = .ok Initials.settings.acronyms ∧
      Settings.Renders Initials.entries ['i', 'D'] ['I', 'd'] ∧
      Settings.Renders Initials.entries ['i', 'd', 's'] ['I', 'd', 's'] ∧
      Settings.parseAcronyms (Initials.entries ++ ["x= ", ""]) =
        .error (.invalidAcronym "x= ") := by
  have hrenders := (acronyms_of_entries Initials.entries).1 Initials.settings
    Initials.parseAcronyms_entries
  refine ⟨Initials.parseAcronyms_entries, ?_, ?_, ?_⟩
  · have hid : Initials.settings.caser.render ['i', 'D'] = ['I', 'd'] := by decide +kernel
    exact hid ▸ hrenders ['i', 'D']
  · have hids : Initials.settings.caser.render ['i', 'd', 's'] = ['I', 'd', 's'] := by
      decide +kernel
    exact hids ▸ hrenders ['i', 'd', 's']
  · apply ((acronyms_of_entries (Initials.entries ++ ["x= ", ""])).2.1 _).2
    exact ⟨Initials.entries, "x= ", [""], rfl, by decide +kernel, by decide +kernel, rfl⟩

end QueryTyping
