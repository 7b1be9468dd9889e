import QueryTyping.Proofs.Entries

namespace QueryTyping

open Resolution

namespace Text

theorem mem_dropWhile_iff {p : Char → Bool} {c : Char} (hc : p c = false) {s : List Char} :
    c ∈ s.dropWhile p ↔ c ∈ s := by
  induction s with
  | nil => rfl
  | cons x s ih =>
    cases hx : p x with
    | true =>
      have hne : c ≠ x := by
        rintro rfl
        exact nomatch hc.symm.trans hx
      rw [List.dropWhile_cons_of_pos hx, ih, List.mem_cons, or_iff_right hne]
    | false => rw [List.dropWhile_cons_of_neg (by simp [hx])]

theorem mem_trim_iff {c : Char} (hc : isBlank c = false) {s : List Char} :
    c ∈ trim s ↔ c ∈ s := by
  rw [trim, dropBlankEnd, List.mem_reverse, mem_dropWhile_iff hc, List.mem_reverse,
    mem_dropWhile_iff hc]

end Text

namespace Target

def namePart (value : String) : List Char :=
  match Text.cutLast '.' (Text.trim value.toList) with
  | some (_, name) => name
  | none => Text.trim value.toList

def Misnames (value : String) : Prop :=
  namePart value = [] ∨ '.' ∈ value.toList ∧ '/' ∈ namePart value

structure Name.GivenBy (n : Name) (value : String) : Prop where
  name : n.name = String.ofList (namePart value)
  ne_empty : n.name ≠ ""
  slash_mem_iff : '/' ∈ n.name.toList ↔ '.' ∉ value.toList ∧ '/' ∈ value.toList

variable {value : String} {n : Name}

theorem dot_mem_trim_iff : '.' ∈ Text.trim value.toList ↔ '.' ∈ value.toList :=
  Text.mem_trim_iff (by decide)

theorem slash_mem_trim_iff : '/' ∈ Text.trim value.toList ↔ '/' ∈ value.toList :=
  Text.mem_trim_iff (by decide)

theorem namePart_of_dot {path name : List Char} (h : Text.trim value.toList = path ++ '.' :: name)
    (hdot : '.' ∉ name) : namePart value = name := by
  rw [namePart, h, Text.cutLast_append hdot]

theorem namePart_of_no_dot (h : '.' ∉ Text.trim value.toList) :
    namePart value = Text.trim value.toList := by
  rw [namePart, Text.cutLast_eq_none_iff.2 h]

theorem Name.givenBy_of_parse (h : Name.parse value = .ok n) : n.GivenBy value := by
  have hnames := Name.parse_eq_ok_iff.1 h
  generalize ht : Text.trim value.toList = t at hnames
  cases hnames with
  | bare hne hdot =>
    rw [← ht] at hne hdot ⊢
    constructor
    · rw [bare, namePart_of_no_dot hdot]
    · exact fun he => hne (String.ofList_eq_empty_iff.1 he)
    · rw [bare, String.toList_ofList, slash_mem_trim_iff, ← dot_mem_trim_iff]
      exact (and_iff_right hdot).symm
  | @inPackage path name hpath hne hdot hslash =>
    have hmem : '.' ∈ value.toList := by
      rw [← dot_mem_trim_iff, ht]
      simp
    constructor
    · rw [inPackage, namePart_of_dot ht hdot]
    · exact fun he => hne (String.ofList_eq_empty_iff.1 he)
    · rw [inPackage, String.toList_ofList]
      exact iff_of_false hslash fun h => h.1 hmem

theorem Name.parse_of_misnames (h : Misnames value) : ∃ fault, Name.parse value = .error fault := by
  cases hn : Name.parse value with
  | error fault => exact ⟨fault, rfl⟩
  | ok n =>
    have hgiven := givenBy_of_parse hn
    rcases h with hempty | ⟨hdot, hslash⟩
    · exact absurd (by rw [hgiven.name, hempty]) hgiven.ne_empty
    · have hmem : '/' ∈ n.name.toList := by rwa [hgiven.name, String.toList_ofList]
      exact absurd hdot (hgiven.slash_mem_iff.1 hmem).1

end Target

namespace Settings

variable {entry : String} {entries : List String} {key value : String} {f : Failure}

theorem parseOverride_eq_error (h : parseOverride entry = .error f) :
    ∃ key value fault, f = .invalidOverride key value fault := by
  unfold parseOverride at h
  cases hcut : Text.cutFirst '=' entry.toList with
  | none =>
    rw [hcut] at h
    exact ⟨entry, "", .noSeparator, (Except.error.inj h).symm⟩
  | some sides =>
    obtain ⟨k, v⟩ := sides
    simp only [hcut] at h
    split at h
    · exact ⟨_, _, .noKey, (Except.error.inj h).symm⟩
    · cases hn : Target.Name.parse (String.ofList (Text.trim v)) with
      | ok n => simp [hn] at h
      | error fault =>
        rw [hn] at h
        exact ⟨_, _, .target fault, (Except.error.inj h).symm⟩

theorem parseOverrides_eq_error (h : parseOverrides entries = .error f) :
    ∃ key value fault, f = .invalidOverride key value fault := by
  obtain ⟨entry, -, hentry⟩ := mapM_except_error (map_except_error h)
  exact parseOverride_eq_error hentry

theorem givenBy_of_parseOverrides {o : Table} (h : parseOverrides entries = .ok o) :
    ∀ entry ∈ entries, ∃ key value n, sides? entry = some (key, value) ∧
      Target.Name.parse value = .ok n ∧ n.GivenBy value := by
  obtain ⟨pairs, hpairs, -⟩ := exists_of_map_eq_ok (f := Table.ofList) h
  intro entry hentry
  obtain ⟨p, hp⟩ := exists_of_mapM_eq_ok hpairs entry hentry
  obtain ⟨value, hsides, -, n, hn⟩ := sides?_of_parseOverride hp
  exact ⟨p.1, value, n, hsides, hn, Target.Name.givenBy_of_parse hn⟩

theorem parseOverrides_of_misnames (hentry : entry ∈ entries)
    (hsides : sides? entry = some (key, value)) (h : Target.Misnames value) :
    ∃ key value fault, parseOverrides entries = .error (.invalidOverride key value fault) := by
  cases ho : parseOverrides entries with
  | ok o =>
    obtain ⟨key', value', n, hsides', hn, -⟩ := givenBy_of_parseOverrides ho entry hentry
    obtain ⟨rfl, rfl⟩ := Prod.mk.inj (Option.some.inj (hsides.symm.trans hsides'))
    obtain ⟨fault, hfault⟩ := Target.Name.parse_of_misnames h
    exact nomatch hn.symm.trans hfault
  | error f =>
    obtain ⟨key, value, fault, rfl⟩ := parseOverrides_eq_error ho
    exact ⟨key, value, fault, rfl⟩

end Settings

namespace Resolution

variable {s : Settings} {visiting : List (Oid × String)} {t : CatalogType} {r : Registry}
  {key value : String}

theorem overridden?_reads {h : Catalog.Head} (ho : override? s h = some (key, value)) :
    Ends (overridden? s h) r
      (fun u _ => ∃ n, Target.Name.parse value = .ok n ∧ u = some (.named n))
      fun f r' => (∃ n, Target.Name.parse value = .ok n) ∨ r' = r ∧
        ∃ fault, f = .invalidOverride key value (.target fault) := by
  cases hn : Target.Name.parse value with
  | error fault =>
    simp only [overridden?, ho, hn]
    exact Ends.throw (.inr ⟨rfl, fault, rfl⟩)
  | ok n =>
    have hclaim : Ends (claim n.path n.name (.type h)) r (fun _ _ => True) fun _ _ => True := by
      unfold Ends
      split <;> trivial
    simp only [overridden?, ho, hn]
    split
    · exact Ends.bind hclaim (fun _ _ _ => Ends.pure ⟨n, rfl, rfl⟩) fun _ _ _ => .inl ⟨n, rfl⟩
    · exact Ends.pure ⟨n, rfl, rfl⟩

theorem resolveIn_reads (hr : r.target? t.oid = none) (hvisiting : t.oid ∉ visiting.map Prod.fst)
    (ho : override? s t.head = some (key, value)) :
    Ends (resolveIn s visiting t) r
      (fun target _ => ∃ n, Target.Name.parse value = .ok n ∧ target = .named n)
      fun f r' => (∃ n, Target.Name.parse value = .ok n) ∨ r' = r ∧
        ∃ fault, f = .invalidOverride key value (.target fault) := by
  rw [resolveIn.eq_def]
  refine Ends.bind_get ?_
  simp only [hr, hvisiting, if_false]
  refine Ends.bind (overridden?_reads ho) ?_ fun _ _ h => h
  rintro _ r' ⟨n, hn, rfl⟩
  exact ⟨n, hn, rfl⟩

end Resolution

theorem overrides_named (s : Settings) :
    (∀ entries o, Settings.parseOverrides entries = .ok o → ∀ entry ∈ entries,
      ∃ key value n, Settings.sides? entry = some (key, value) ∧
        Target.Name.parse value = .ok n ∧ n.GivenBy value) ∧
    (∀ entries, ∀ entry ∈ entries, ∀ key value, Settings.sides? entry = some (key, value) →
      Target.Misnames value → ∃ key value fault,
        Settings.parseOverrides entries = .error (.invalidOverride key value fault)) ∧
    ∀ visiting t r key value, r.target? t.oid = none → t.oid ∉ visiting.map Prod.fst →
      override? s t.head = some (key, value) →
        (∀ target r', resolveIn s visiting t r = .ok target r' →
          ∃ n, Target.Name.parse value = .ok n ∧ target = .named n ∧ n.GivenBy value) ∧
        (Target.Misnames value → ∃ fault,
          resolveIn s visiting t r = .error (.invalidOverride key value (.target fault)) r) := by
  refine ⟨?_, ?_, ?_⟩
  · exact fun entries o h => Settings.givenBy_of_parseOverrides h
  · exact fun entries entry hentry key value => Settings.parseOverrides_of_misnames hentry
  · intro visiting t r key value hr hvisiting ho
    have hreads := resolveIn_reads hr hvisiting ho
    constructor
    · intro target r' h
      obtain ⟨n, hn, rfl⟩ := hreads.of_ok h
      exact ⟨n, hn, rfl, Target.Name.givenBy_of_parse hn⟩
    · intro h
      obtain ⟨fault, hfault⟩ := Target.Name.parse_of_misnames h
      have hnot (n : Target.Name) : Target.Name.parse value ≠ .ok n := by simp [hfault]
      cases hresolve : resolveIn s visiting t r with
      | ok target r' =>
        obtain ⟨n, hn, -⟩ := hreads.of_ok hresolve
        exact absurd hn (hnot n)
      | error f r' =>
        rcases hreads.of_error hresolve with ⟨n, hn⟩ | ⟨rfl, fault, rfl⟩
        · exact absurd hn (hnot n)
        · exact ⟨fault, rfl⟩

namespace Packaged

def entries : List String :=
  ["int4=github.com/jackc/pgtype.Int4", "text=github.com/jackc"]

def settings : Settings :=
  ⟨"app/db", ⟨[("int4", "github.com/jackc/pgtype.Int4"), ("text", "github.com/jackc"),
    ("uuid", "vendor/Id")]⟩, .empty, none, .shenzhen⟩

def int4 : CatalogType :=
  .scalar ⟨⟨23⟩, "int4", none⟩

def pgtype : Target.Name :=
  ⟨"github.com/jackc/pgtype", "pgtype", "Int4"⟩

theorem parse_int4 : Target.Name.parse "github.com/jackc/pgtype.Int4" = .ok pgtype := by
  decide

def text : CatalogType :=
  .scalar ⟨⟨25⟩, "text", none⟩

def uuid : CatalogType :=
  .scalar ⟨⟨2950⟩, "uuid", none⟩

end Packaged

theorem overrides_named_packaged :
    (∃ o, Settings.parseOverrides ["int4=github.com/jackc/pgtype.Int4"] = .ok o ∧
      Packaged.pgtype.GivenBy "github.com/jackc/pgtype.Int4") ∧
    (∃ key value fault,
      Settings.parseOverrides Packaged.entries = .error (.invalidOverride key value fault)) ∧
    (∃ r, resolve Packaged.settings Packaged.int4 .empty = .ok (.named Packaged.pgtype) r ∧
      Packaged.pgtype.GivenBy "github.com/jackc/pgtype.Int4") ∧
    ∃ fault, resolve Packaged.settings Packaged.text .empty =
      .error (.invalidOverride "text" "github.com/jackc" (.target fault)) .empty := by
  obtain ⟨haccepted, hrejected, hresolve⟩ := overrides_named Packaged.settings
  have hmisnames : Target.Misnames "github.com/jackc" := .inr (by decide)
  refine ⟨?_, ?_, ?_, ?_⟩
  · have hok : Settings.parseOverrides ["int4=github.com/jackc/pgtype.Int4"] =
        .ok ⟨[("int4", "github.com/jackc/pgtype.Int4")]⟩ := eq_ok_of_toOption (by decide +kernel)
    obtain ⟨key, value, n, hsides, hn, hgiven⟩ :=
      haccepted _ _ hok _ (List.mem_singleton_self _)
    have hread : Settings.sides? "int4=github.com/jackc/pgtype.Int4" =
        some ("int4", "github.com/jackc/pgtype.Int4") := by cbv
    obtain ⟨rfl, rfl⟩ := Prod.mk.inj (Option.some.inj (hread.symm.trans hsides))
    obtain rfl := Except.ok.inj (Packaged.parse_int4.symm.trans hn)
    exact ⟨_, hok, hgiven⟩
  · exact hrejected Packaged.entries "text=github.com/jackc" (by simp [Packaged.entries]) "text"
      "github.com/jackc" (by cbv) hmisnames
  · have hok := eq_ok_of_outcome (x := resolve Packaged.settings Packaged.int4) (s := .empty)
      (a := .named Packaged.pgtype) (eq_ok_of_toOption (by decide +kernel))
    obtain ⟨n, hn, -, hgiven⟩ :=
      (hresolve [] Packaged.int4 .empty "int4" _ rfl (by simp) (by cbv)).1 _ _ hok
    obtain rfl := Except.ok.inj (Packaged.parse_int4.symm.trans hn)
    exact ⟨_, hok, hgiven⟩
  · exact (hresolve [] Packaged.text .empty "text" _ rfl (by simp) (by cbv)).2 hmisnames

theorem slash_in_bare_name :
    Settings.parseOverrides ["uuid=vendor/Id"] = .ok ⟨[("uuid", "vendor/Id")]⟩ ∧
      Registry.outcomeAfter Packaged.settings [] Packaged.uuid =
        .ok (.named ⟨"", "", "vendor/Id"⟩) ∧
      '/' ∈ "vendor/Id".toList := by
  refine ⟨eq_ok_of_toOption ?_, eq_ok_of_toOption ?_, ?_⟩
  · decide +kernel
  · decide +kernel
  · decide

end QueryTyping
