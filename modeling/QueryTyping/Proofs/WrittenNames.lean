import QueryTyping.Proofs.OverrideNames

namespace QueryTyping

namespace Target

variable {value path name parents s version : String} {n : Name}

def Name.written (n : Name) : String :=
  n.path ++ "." ++ n.name

structure IsTypeName (name : String) : Prop where
  ne_empty : name ≠ ""
  dot_not_mem : '.' ∉ name.toList
  slash_not_mem : '/' ∉ name.toList

theorem toList_append_slash (parents s : String) :
    (parents ++ "/" ++ s).toList = parents.toList ++ '/' :: s.toList := by
  simp

theorem packageAlias_append (hs : '/' ∉ s.toList) (hversion : ¬ IsVersion s.toList) :
    packageAlias (parents ++ "/" ++ s) = s := by
  rw [← isMajorVersion_iff] at hversion
  rw [packageAlias, toList_append_slash, aliasOf_append hs, if_neg hversion, String.ofList_toList]

theorem packageAlias_append_version (hs : '/' ∉ s.toList) (hversion : IsVersion version.toList) :
    packageAlias (parents ++ "/" ++ s ++ "/" ++ version) = s := by
  have hmajor := isMajorVersion_iff.2 hversion
  rw [packageAlias, toList_append_slash, aliasOf_append (slash_not_mem_of_isMajorVersion hmajor),
    if_pos hmajor, toList_append_slash, lastSegment_append hs, String.ofList_toList]

theorem Name.toList_written (n : Name) :
    n.written.toList = n.path.toList ++ '.' :: n.name.toList := by
  simp [written]

theorem Name.parse_eq_ok_iff_written (hpath : n.path ≠ "") : parse value = .ok n ↔
    Text.trimmed value = n.written ∧ IsTypeName n.name ∧ n.pkg = packageAlias n.path := by
  constructor
  · intro h
    have hnames := parse_eq_ok_iff.1 h
    generalize ht : Text.trim value.toList = t at hnames
    cases hnames with
    | bare => exact absurd rfl hpath
    | @inPackage path name hpath hname hdot hslash =>
      refine ⟨String.toList_inj.1 ?_, ⟨?_, ?_, ?_⟩, rfl⟩
      · rw [Text.toList_trimmed, ht, toList_written, inPackage, String.toList_ofList,
          String.toList_ofList]
      · exact fun he => hname (String.ofList_eq_empty_iff.1 he)
      · rwa [inPackage, String.toList_ofList]
      · rwa [inPackage, String.toList_ofList]
  · rintro ⟨hvalue, hname, hpkg⟩
    -- The name holds no dot, so the last one is the dot before it.
    have htrim : Text.trim value.toList = n.path.toList ++ '.' :: n.name.toList := by
      rw [← Text.toList_trimmed, hvalue, toList_written]
    have hpath' : n.path.toList ≠ [] := fun h => hpath (String.toList_eq_nil_iff.1 h)
    have hname' : ¬ (n.name.toList = [] ∨ '/' ∈ n.name.toList) := by
      rintro (h | h)
      · exact hname.ne_empty (String.toList_eq_nil_iff.1 h)
      · exact hname.slash_not_mem h
    rw [parse_of_dot htrim hname.dot_not_mem, if_neg hpath', if_neg hname', String.ofList_toList,
      String.ofList_toList, inPackage, ← hpkg]

theorem Name.exists_last_dot (hdot : '.' ∈ value.toList) :
    ∃ path name, Text.trimmed value = path ++ "." ++ name ∧ '.' ∉ name.toList := by
  have hcut : Text.cutLast '.' (Text.trim value.toList) ≠ none := by
    rw [Ne, Text.cutLast_eq_none_iff, not_not]
    exact dot_mem_trim_iff.2 hdot
  obtain ⟨⟨path, name⟩, hsome⟩ := Option.ne_none_iff_exists'.1 hcut
  obtain ⟨htrim, hname⟩ := Text.cutLast_eq_some_iff.1 hsome
  refine ⟨String.ofList path, String.ofList name, ?_, by rwa [String.toList_ofList]⟩
  apply String.toList_inj.1
  rw [Text.toList_trimmed, htrim]
  simp

theorem Name.parse_fails_iff (hvalue : Text.trimmed value = path ++ "." ++ name)
    (hdot : '.' ∉ name.toList) :
    (∃ fault, parse value = .error fault) ↔ path = "" ∨ name = "" ∨ '/' ∈ name.toList := by
  have htrim : Text.trim value.toList = path.toList ++ '.' :: name.toList := by
    rw [← Text.toList_trimmed, hvalue]
    simp
  rw [parse_of_dot htrim hdot]
  simp only [String.toList_eq_nil_iff]
  split
  · exact iff_of_true ⟨_, rfl⟩ (.inl ‹_›)
  split
  · exact iff_of_true ⟨_, rfl⟩ (.inr ‹_›)
  · exact iff_of_false nofun (not_or.2 ⟨‹_›, ‹_›⟩)

end Target

open Target

theorem names_as_written :
    (∀ value n, Name.parse value = .ok n → n.path ≠ "" →
      Text.trimmed value = n.written ∧ IsTypeName n.name ∧ Name.parse n.written = .ok n) ∧
    (∀ path name, path ≠ "" → IsTypeName name → Text.Unpadded (path ++ "." ++ name).toList →
      Name.parse (path ++ "." ++ name) = .ok ⟨path, packageAlias path, name⟩) ∧
    (∀ parents s : String, '/' ∉ s.toList → ¬ IsVersion s.toList →
      packageAlias (parents ++ "/" ++ s) = s ∧
        ∀ version : String, IsVersion version.toList →
          packageAlias (parents ++ "/" ++ s ++ "/" ++ version) = s) ∧
    ∀ value : String, '.' ∈ value.toList →
      ∃ path name, Text.trimmed value = path ++ "." ++ name ∧ '.' ∉ name.toList ∧
        ((∃ fault, Name.parse value = .error fault) ↔
          path = "" ∨ name = "" ∨ '/' ∈ name.toList) := by
  refine ⟨?_, ?_, ?_, ?_⟩
  · intro value n h hpath
    obtain ⟨hvalue, hname, -⟩ := (Name.parse_eq_ok_iff_written hpath).1 h
    refine ⟨hvalue, hname, ?_⟩
    rw [← hvalue, Name.parse_trimmed, h]
  · intro path name hpath hname hpad
    apply (Name.parse_eq_ok_iff_written hpath).2
    exact ⟨Text.trimmed_of_unpadded hpad, hname, rfl⟩
  · intro parents s hs hversion
    refine ⟨packageAlias_append hs hversion, ?_⟩
    intro version hv
    exact packageAlias_append_version hs hv
  · intro value hdot
    obtain ⟨path, name, hvalue, hname⟩ := Name.exists_last_dot hdot
    exact ⟨path, name, hvalue, hname, Name.parse_fails_iff hvalue hname⟩

namespace Connection

def conn : Target.Name :=
  ⟨"github.com/jackc/pgx/v4", "pgx", "Conn"⟩

theorem isTypeName : IsTypeName "Conn" :=
  ⟨by decide, by decide, by decide⟩

theorem unpadded : Text.Unpadded "github.com/jackc/pgx/v4.Conn".toList := by
  have htrim : Text.trim "github.com/jackc/pgx/v4.Conn".toList =
      "github.com/jackc/pgx/v4.Conn".toList := by decide
  exact htrim ▸ Text.unpadded_trim _

theorem not_isVersion : ¬ IsVersion "pgx".toList := by
  rw [← isMajorVersion_iff]
  decide

theorem isVersion : IsVersion "v4".toList :=
  isMajorVersion_iff.1 (by decide)

end Connection

theorem names_as_written_conn :
    (Name.parse " github.com/jackc/pgx/v4.Conn\n" = .ok Connection.conn ∧
      Text.trimmed " github.com/jackc/pgx/v4.Conn\n" = Connection.conn.written ∧
      Name.parse Connection.conn.written = .ok Connection.conn) ∧
    Name.parse ("github.com/jackc/pgx/v4" ++ "." ++ "Conn") =
      .ok ⟨"github.com/jackc/pgx/v4", packageAlias "github.com/jackc/pgx/v4", "Conn"⟩ ∧
    (packageAlias ("github.com/jackc" ++ "/" ++ "pgx") = "pgx" ∧
      packageAlias ("github.com/jackc" ++ "/" ++ "pgx" ++ "/" ++ "v4") = "pgx") ∧
    ∃ fault, Name.parse "github.com/jackc" = .error fault := by
  obtain ⟨hread, hwritten, halias, hrejected⟩ := names_as_written
  refine ⟨?_, ?_, ?_, ?_⟩
  · have hok : Name.parse " github.com/jackc/pgx/v4.Conn\n" = .ok Connection.conn := by decide
    obtain ⟨hvalue, -, hagain⟩ := hread _ _ hok (by decide)
    exact ⟨hok, hvalue, hagain⟩
  · exact hwritten _ _ (by decide) Connection.isTypeName Connection.unpadded
  · obtain ⟨hbare, hversioned⟩ :=
      halias "github.com/jackc" "pgx" (by decide) Connection.not_isVersion
    exact ⟨hbare, hversioned "v4" Connection.isVersion⟩
  · obtain ⟨path, name, hvalue, hdot, hfails⟩ := hrejected "github.com/jackc" (by decide)
    have htrim : (Text.trimmed "github.com/jackc").toList =
        "github".toList ++ '.' :: "com/jackc".toList := by decide
    have hsplit : path.toList ++ '.' :: name.toList =
        "github".toList ++ '.' :: "com/jackc".toList := by
      rw [hvalue] at htrim
      simpa using htrim
    obtain ⟨-, hname⟩ := Text.cutLast_inj hdot (by decide) hsplit
    have hslash : '/' ∈ name.toList := by
      rw [hname]
      decide
    exact hfails.2 (.inr (.inr hslash))

end QueryTyping
