import Mathlib
import PackageSearch.Proofs.Package.Names
import PackageSearch.Proofs.Storage.Discovery

/-!
# Names as paths

A name that the validity check accepts is a path that goes down, part by part, from wherever it is
taken: no part is empty, none is one of the two names that every directory has, and none holds a
character of another kind. The scope of a name is what its first part says behind the at sign, and
what follows the first slash is a name again.
-/

set_option autoImplicit false

namespace PackageSearch.Package

open Storage (IsFileName Path)

/-- A part of a path that names a file of its own, in the characters of names. -/
structure IsSafePart (part : List Char) : Prop where
  nonempty : part ≠ []
  notCurrent : part ≠ ".".toList
  notParent : part ≠ "..".toList
  permitted : ∀ character ∈ part, IsPermitted character

theorem IsBare.isSafePart {name : List Char} (bare : IsBare name) : IsSafePart name where
  nonempty := bare.nonempty
  notCurrent := by
    rintro rfl
    exact bare.unhidden rfl
  notParent := by
    rintro rfl
    exact bare.unhidden rfl
  permitted := bare.permitted

/-- A scope may hold periods alone, but the at sign before it does not. -/
theorem IsScope.isSafePart {scope : List Char} (legal : IsScope scope) :
    IsSafePart ('@' :: scope) where
  nonempty := List.cons_ne_nil _ _
  notCurrent := by
    rintro ⟨⟩
  notParent := by
    rintro ⟨⟩
  permitted := by
    intro character member
    rcases List.mem_cons.1 member with rfl | inside
    · exact isNameCharacter_iff.1 (by decide)
    · exact legal.permitted character inside

theorem exists_hasScopes_of_isValidName {name : String} (valid : isValidName name = true) :
    ∃ count, HasScopes count name.toList := by
  have scopes := exists_hasScopes valid
  rwa [nameSegments, intercalate_nameSegments] at scopes

theorem HasScopes.isValidName {count : Nat} {name : List Char} (scopes : HasScopes count name) :
    isValidName (String.ofList name) = true := by
  rw [Package.isValidName, nameSegments, String.toList_ofList]
  exact scopes.areNameSegments

theorem HasScopes.isSafePart {count : Nat} {name : List Char} (scopes : HasScopes count name) :
    ∀ part ∈ name.splitOn '/', IsSafePart part := by
  unfold List.splitOn
  rw [← Text.pieces_eq_splitOnP]
  induction scopes with
  | bare bare =>
      rw [nameSegments_bare bare.slash_not_mem]
      simpa using bare.isSafePart
  | @behind _ scope name legal _ ih =>
      have unslashed : '/' ∉ '@' :: scope := by
        rw [List.mem_cons, not_or]
        exact ⟨by decide, legal.slash_not_mem⟩
      rw [nameSegments_behind unslashed, List.forall_mem_cons]
      exact ⟨legal.isSafePart, ih⟩

/-! ## The scope of a name -/

theorem scopeOf_of_unslashed {name : String} (unslashed : '/' ∉ name.toList) :
    scopeOf name = unscoped := by
  unfold scopeOf
  split
  · rename_i rest spelled
    rw [spelled] at unslashed
    rw [if_neg]
    simpa using fun inside => unslashed (List.mem_cons_of_mem _ inside)
  · rfl

theorem scopeOf_behind {name : String} {scope rest : List Char} (unslashed : '/' ∉ scope)
    (spelled : name.toList = '@' :: scope ++ '/' :: rest) : scopeOf name = String.ofList scope := by
  have before : ∀ character ∈ scope, (character != '/') = true := fun character member =>
    bne_iff_ne.2 (ne_of_mem_of_not_mem member unslashed)
  rw [scopeOf, spelled]
  simp [List.takeWhile_append_of_pos before]

/-! ## Parts of a name as files -/

/-- The file that a part names. -/
def fileName (part : List Char) : Storage.FileName :=
  (String.ofList part).toUTF8.toList

theorem toNat_lt_of_isPermitted {character : Char} (permitted : IsPermitted character) :
    character.toNat < 128 := by
  have codes := isPermitted_iff_toNat.1 permitted
  simp only [List.mem_cons, List.not_mem_nil, or_false] at codes
  omega

/-- The characters of names are bytes. -/
theorem fileName_eq_map {part : List Char} (permitted : ∀ character ∈ part, IsPermitted character) :
    fileName part = part.map fun character => UInt8.ofNat character.toNat := by
  rw [fileName, Text.bytes_ofList, List.map_eq_flatMap]
  refine List.flatMap_congr fun character member => ?_
  exact Text.encodeChar_of_ascii (toNat_lt_of_isPermitted (permitted character member))

/-- Different parts name different files. -/
theorem eq_of_fileName_eq {part other : List Char} (same : fileName part = fileName other) :
    part = other := by
  have read := Text.utf8?_bytes (String.ofList part)
  rw [← fileName, same, fileName, Text.utf8?_bytes] at read
  exact (String.ofList_injective (Option.some.inj read)).symm

theorem IsSafePart.isFileName {part : List Char} (safe : IsSafePart part) :
    IsFileName (fileName part) where
  nonempty := by
    have none : fileName [] = [] := Text.bytes_ofList []
    exact fun empty => safe.nonempty (eq_of_fileName_eq (empty.trans none.symm))
  unbroken := by
    rw [fileName_eq_map safe.permitted, List.mem_map]
    rintro ⟨character, member, byte⟩
    have permitted := safe.permitted character member
    have small := toNat_lt_of_isPermitted permitted
    obtain rfl : character = '/' := Char.toNat_inj.1
      ((Text.ofNat_inj (Nat.lt_trans small (by decide)) (by decide)).1 byte)
    exact absurd (isNameCharacter_iff.2 permitted) (by decide)
  notCurrent := by
    have period : fileName ".".toList = [Path.period] := (Text.bytes_ofList _).trans rfl
    exact fun same => safe.notCurrent (eq_of_fileName_eq (same.trans period.symm))
  notParent := by
    have periods : fileName "..".toList = [Path.period, Path.period] :=
      (Text.bytes_ofList _).trans rfl
    exact fun same => safe.notParent (eq_of_fileName_eq (same.trans periods.symm))

/-- The bytes of a name are the files of its parts with slashes between them. -/
theorem ofText_eq_intercalate (name : String) :
    Path.ofText name = ⟨[Path.slash].intercalate ((name.toList.splitOn '/').map fileName)⟩ := by
  have slash : ['/'].flatMap String.utf8EncodeChar = [Path.slash] := rfl
  have files : (name.toList.splitOn '/').map (fun part => part.flatMap String.utf8EncodeChar) =
      (name.toList.splitOn '/').map fileName :=
    List.map_congr_left fun part _ => (Text.bytes_ofList part).symm
  rw [Path.ofText, Text.bytes_eq, ← slash, ← files, ← Storage.flatMap_intercalate,
    List.intercalate_splitOn]

/-- An accepted name goes down from wherever it is taken: to what is above it, it adds one directory
for each of its parts. -/
theorem components_join_name {name : String}
    (safe : ∀ part ∈ name.toList.splitOn '/', IsSafePart part) (base : Path) :
    (base.join (Path.ofText name)).components =
      base.components ++ (name.toList.splitOn '/').map fun part => .normal (fileName part) := by
  have areNames : ∀ file ∈ (name.toList.splitOn '/').map fileName, IsFileName file := by
    intro file listed
    obtain ⟨part, member, rfl⟩ := List.mem_map.1 listed
    exact (safe part member).isFileName
  have parts : (Path.ofText name).parts = (name.toList.splitOn '/').map fileName := by
    rw [ofText_eq_intercalate, Path.parts_intercalate areNames]
  have relative : (Path.ofText name).isAbsolute = false := by
    rw [ofText_eq_intercalate, Path.isAbsolute_intercalate areNames]
  rw [Path.components_join relative (parts ▸ areNames), parts, List.map_map]
  rfl

/-- An accepted name is a safe path. Each of its parts is nonempty, leads neither to where it is nor
up, and has the characters of names only, so the path of a directory and then of the name has the
directory's components and one for each part. The name has no slash and no scope, or it is its scope
before a name that is accepted in turn. -/
theorem isValidName_path {name : String} (valid : isValidName name = true) :
    (∀ part ∈ name.toList.splitOn '/', IsSafePart part) ∧
    ('/' ∉ name.toList ∧ scopeOf name = unscoped ∨
      ∃ rest, isValidName rest = true ∧ name = "@" ++ scopeOf name ++ "/" ++ rest) ∧
    ∀ base : Path, (base.join (Path.ofText name)).components =
      base.components ++ (name.toList.splitOn '/').map fun part => .normal (fileName part) := by
  obtain ⟨count, scopes⟩ := exists_hasScopes_of_isValidName valid
  have safe := scopes.isSafePart
  refine ⟨safe, ?_, components_join_name safe⟩
  generalize spelled : name.toList = text at scopes
  cases scopes with
  | bare bare =>
      have unslashed := bare.slash_not_mem
      exact .inl ⟨unslashed, scopeOf_of_unslashed (spelled ▸ unslashed)⟩
  | @behind count scope rest legal scopes =>
      refine .inr ⟨String.ofList rest, scopes.isValidName, String.toList_inj.1 ?_⟩
      rw [scopeOf_behind legal.slash_not_mem spelled, spelled]
      simp [String.toList_append]

/-- Periods alone are a scope, but no part of a path: the first part of this name is `@..`. -/
theorem isValidName_path_periods :
    isValidName "@../@./A.b" = true ∧
      ((∀ part ∈ "@../@./A.b".toList.splitOn '/', IsSafePart part) ∧
      ('/' ∉ "@../@./A.b".toList ∧ scopeOf "@../@./A.b" = unscoped ∨
        ∃ rest, isValidName rest = true ∧
          "@../@./A.b" = "@" ++ scopeOf "@../@./A.b" ++ "/" ++ rest) ∧
      ∀ base : Path, (base.join (Path.ofText "@../@./A.b")).components =
        base.components ++ ("@../@./A.b".toList.splitOn '/').map fun part =>
          .normal (fileName part)) :=
  have valid : isValidName "@../@./A.b" = true := by decide
  ⟨valid, isValidName_path valid⟩

end PackageSearch.Package
