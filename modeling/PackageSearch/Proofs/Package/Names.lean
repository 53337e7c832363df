import PackageSearch.Package.Name

/-!
# The language of package names

A registry's names are bare names and names behind one scope, `@scope/bare`. The validity check
reads what stands behind a scope as a name again, so it accepts any number of scopes:
`isValidName_eq_true_iff` says which texts it accepts, and that the registry's names are those among
them with at most one slash.
-/

set_option autoImplicit false

namespace PackageSearch

theorem Text.pieces_eq_splitOnP {α : Type} (separator : α → Bool) (text : List α) :
    pieces separator text = text.splitOnP separator := by
  induction text with
  | nil => rfl
  | cons character rest ih =>
      rw [pieces, List.splitOnP_cons_eq_if_modifyHead, ih]
      cases parts : rest.splitOnP separator with
      | nil => exact absurd parts (List.splitOnP_ne_nil _ _)
      | cons first others => rfl

namespace Package

/-! ## Names of a registry -/

/-- The characters `[-a-zA-Z0-9_.!~*'()@]`. -/
def IsPermitted (character : Char) : Prop :=
  ('a' ≤ character ∧ character ≤ 'z') ∨ ('A' ≤ character ∧ character ≤ 'Z') ∨
    ('0' ≤ character ∧ character ≤ '9') ∨ character ∈ "-_.!~*'()@".toList

structure IsScope (scope : List Char) : Prop where
  nonempty : scope ≠ []
  permitted : ∀ character ∈ scope, IsPermitted character

/-- A bare name. Whether it is reserved does not depend on the case of its letters. -/
structure IsBare (name : List Char) : Prop extends IsScope name where
  unhidden : name.head? ≠ some '.'
  unreserved : ∀ reserved ∈ ["node_modules", "__proto__", "favicon.ico"],
    name.map Char.toLower ≠ reserved.toList

inductive IsRegistryName : List Char → Prop where
  | bare {name : List Char} : IsBare name → IsRegistryName name
  | behind {scope bare : List Char} :
      IsScope scope → IsBare bare → IsRegistryName ('@' :: scope ++ '/' :: bare)

/-- A bare name behind so many scopes. -/
inductive HasScopes : Nat → List Char → Prop where
  | bare {name : List Char} : IsBare name → HasScopes 0 name
  | behind {count : Nat} {scope name : List Char} :
      IsScope scope → HasScopes count name → HasScopes (count + 1) ('@' :: scope ++ '/' :: name)

theorem isRegistryName_iff {name : List Char} :
    IsRegistryName name ↔ ∃ count, HasScopes count name ∧ count ≤ 1 := by
  constructor
  · rintro (bare | ⟨scope, bare⟩)
    · exact ⟨0, .bare bare, Nat.zero_le 1⟩
    · exact ⟨1, .behind scope (.bare bare), Nat.le_refl 1⟩
  · rintro ⟨count, scopes, few⟩
    cases scopes with
    | bare bare => exact .bare bare
    | behind scope rest =>
        cases rest with
        | bare bare => exact .behind scope bare
        | behind => exact absurd (Nat.le_of_succ_le_succ few) (Nat.not_succ_le_zero _)

/-! ## Characters -/

theorem isNameCharacter_iff {character : Char} :
    isNameCharacter character = true ↔ IsPermitted character := by
  have spelled : isNameCharacter character =
      ((decide (character.val ≥ 65 ∧ character.val ≤ 90) ||
        character.val ≥ 97 && character.val ≤ 122) ||
        (character.val ≥ 48 && character.val ≤ 57) || "-_.!~*'()@".toList.contains character) := rfl
  simp only [spelled, IsPermitted, Char.le_def, Bool.or_eq_true, Bool.and_eq_true,
    decide_eq_true_eq, List.contains_iff_mem, ge_iff_le, Char.reduceVal]
  grind

theorem toNat_toLower (character : Char) :
    character.toLower.toNat =
      if 65 ≤ character.toNat ∧ character.toNat ≤ 90 then character.toNat + 32
      else character.toNat := by
  unfold Char.toLower Char.toNat
  simp only [ge_iff_le, UInt32.le_iff_toNat_le, Char.reduceVal, UInt32.reduceToNat]
  split
  · rename_i upper
    rw [UInt32.toNat_add]
    simp only [UInt32.reduceSub, UInt32.reduceToNat]
    omega
  · rfl

theorem isPermitted_iff_toNat {character : Char} :
    IsPermitted character ↔ (97 ≤ character.toNat ∧ character.toNat ≤ 122) ∨
      (65 ≤ character.toNat ∧ character.toNat ≤ 90) ∨
      (48 ≤ character.toNat ∧ character.toNat ≤ 57) ∨
      character.toNat ∈ [45, 95, 46, 33, 126, 42, 39, 40, 41, 64] := by
  have same : character ∈ "-_.!~*'()@".toList ↔
      character.toNat ∈ "-_.!~*'()@".toList.map Char.toNat := by
    rw [List.mem_map]
    refine ⟨fun member => ⟨_, member, rfl⟩, ?_⟩
    rintro ⟨other, member, equal⟩
    rwa [← Char.toNat_inj.1 equal]
  rw [IsPermitted, same]
  simp only [Char.le_def, UInt32.le_iff_toNat_le]
  rfl

theorem isPermitted_toLower {character : Char} :
    IsPermitted character.toLower ↔ IsPermitted character := by
  simp only [isPermitted_iff_toNat, toNat_toLower, List.mem_cons, List.not_mem_nil, or_false]
  split <;> omega

theorem toLower_eq_period {character : Char} : character.toLower = '.' ↔ character = '.' := by
  rw [← Char.toNat_inj, ← Char.toNat_inj, toNat_toLower]
  simp only [Char.reduceToNat]
  split <;> omega

theorem isSegment_iff {segment : List Char} : isSegment segment = true ↔ IsScope segment := by
  simp only [isSegment, Bool.and_eq_true, Bool.not_eq_true', List.isEmpty_eq_false_iff,
    List.all_eq_true, isNameCharacter_iff]
  exact ⟨fun both => ⟨both.1, both.2⟩, fun legal => ⟨legal.nonempty, legal.permitted⟩⟩

theorem isScope_toLower {name : List Char} : IsScope (name.map Char.toLower) ↔ IsScope name := by
  constructor
  · intro legal
    refine ⟨fun empty => legal.nonempty (by rw [empty, List.map_nil]), fun character member => ?_⟩
    exact isPermitted_toLower.1 (legal.permitted _ (List.mem_map_of_mem member))
  · intro legal
    refine ⟨fun empty => legal.nonempty (List.map_eq_nil_iff.1 empty), fun lowered member => ?_⟩
    obtain ⟨character, inside, rfl⟩ := List.mem_map.1 member
    exact isPermitted_toLower.2 (legal.permitted _ inside)

/-- The check lowers a name first, which makes no difference to its characters. -/
theorem isBareName_iff {name : List Char} : isBareName name = true ↔ IsBare name := by
  have hidden : (name.map Char.toLower).head? = some '.' ↔ name.head? = some '.' := by
    rw [List.head?_map, Option.map_eq_some_iff]
    simp only [toLower_eq_period]
    exact exists_eq_right
  have reserved : String.ofList (name.map Char.toLower) ∈ reservedNames ↔
      ∃ word ∈ reservedNames, name.map Char.toLower = word.toList := by
    constructor
    · exact fun member => ⟨_, member, String.toList_ofList.symm⟩
    · rintro ⟨word, member, same⟩
      rwa [same, String.ofList_toList]
  simp only [isBareName, Bool.and_eq_true, bne_iff_ne, Bool.not_eq_true', List.contains_eq_mem,
    decide_eq_false_iff_not, isSegment_iff, isScope_toLower, ne_eq, hidden, reserved, not_exists,
    not_and]
  exact ⟨fun checked => ⟨checked.1.1, checked.1.2, checked.2⟩,
    fun bare => ⟨⟨bare.toIsScope, bare.unhidden⟩, bare.unreserved⟩⟩

/-! ## Slashes -/

theorem IsScope.slash_not_mem {scope : List Char} (legal : IsScope scope) : '/' ∉ scope := by
  intro member
  have permitted := isNameCharacter_iff.2 (legal.permitted _ member)
  revert permitted
  decide

theorem HasScopes.count_slash {count : Nat} {name : List Char} (scopes : HasScopes count name) :
    name.count '/' = count := by
  induction scopes with
  | bare bare => exact List.count_eq_zero.2 bare.slash_not_mem
  | @behind _ scope name legal _ ih =>
      have none : ('@' :: scope).count '/' = 0 := by
        rw [List.count_cons_of_ne (by decide)]
        exact List.count_eq_zero.2 legal.slash_not_mem
      rw [List.count_append, none, List.count_cons_self, ih, Nat.zero_add]

theorem nameSegments_bare {name : List Char} (unslashed : '/' ∉ name) :
    Text.pieces (· == '/') name = [name] := by
  rw [Text.pieces_eq_splitOnP]
  refine List.splitOnP_eq_singleton fun character member => ?_
  exact beq_false_of_ne (ne_of_mem_of_not_mem member unslashed)

theorem nameSegments_behind {scope : List Char} (unslashed : '/' ∉ scope) (name : List Char) :
    Text.pieces (· == '/') (scope ++ '/' :: name) = scope :: Text.pieces (· == '/') name := by
  rw [Text.pieces_eq_splitOnP, Text.pieces_eq_splitOnP]
  refine List.splitOnP_append_cons_of_forall_mem (fun character member => ?_) '/' rfl name
  exact beq_false_of_ne (ne_of_mem_of_not_mem member unslashed)

theorem intercalate_nameSegments (name : List Char) :
    ['/'].intercalate (Text.pieces (· == '/') name) = name := by
  rw [Text.pieces_eq_splitOnP]
  exact List.intercalate_splitOn '/'

/-! ## What the check accepts -/

theorem HasScopes.areNameSegments {count : Nat} {name : List Char} (scopes : HasScopes count name) :
    areNameSegments (Text.pieces (· == '/') name) = true := by
  induction scopes with
  | bare bare =>
      rw [nameSegments_bare bare.slash_not_mem]
      exact isBareName_iff.2 bare
  | @behind _ scope name legal _ ih =>
      have unslashed : '/' ∉ '@' :: scope := by
        rw [List.mem_cons, not_or]
        exact ⟨by decide, legal.slash_not_mem⟩
      rw [nameSegments_behind unslashed]
      cases segments : Text.pieces (· == '/') name with
      | nil =>
          rw [segments] at ih
          cases ih
      | cons first rest =>
          rw [segments] at ih
          exact Bool.and_eq_true_iff.2 ⟨isSegment_iff.2 legal, ih⟩

theorem exists_isScope {segment : List Char} (accepted : isScopeSegment segment = true) :
    ∃ scope, segment = '@' :: scope ∧ IsScope scope := by
  unfold isScopeSegment at accepted
  split at accepted
  · exact ⟨_, rfl, isSegment_iff.1 accepted⟩
  · cases accepted

theorem exists_hasScopes {segments : List (List Char)}
    (accepted : areNameSegments segments = true) :
    ∃ count, HasScopes count (['/'].intercalate segments) := by
  induction segments with
  | nil => cases accepted
  | cons segment rest ih =>
      cases rest with
      | nil =>
          rw [List.intercalate_singleton]
          exact ⟨0, .bare (isBareName_iff.1 accepted)⟩
      | cons next rest =>
          obtain ⟨scope, names⟩ := Bool.and_eq_true_iff.1 accepted
          obtain ⟨scope, rfl, legal⟩ := exists_isScope scope
          obtain ⟨count, scopes⟩ := ih names
          exact ⟨count + 1, .behind legal scopes⟩

/-- The check accepts the bare names behind any number of scopes. The names of a registry are those
of them that have at most one slash. -/
theorem isValidName_eq_true_iff (name : String) :
    (isValidName name = true ↔ ∃ count, HasScopes count name.toList) ∧
    (IsRegistryName name.toList ↔ isValidName name = true ∧ name.toList.count '/' ≤ 1) := by
  have accepted : isValidName name = true ↔ ∃ count, HasScopes count name.toList := by
    constructor
    · intro valid
      have scopes := exists_hasScopes valid
      rwa [nameSegments, intercalate_nameSegments] at scopes
    · rintro ⟨count, scopes⟩
      exact scopes.areNameSegments
  refine ⟨accepted, ?_⟩
  rw [isRegistryName_iff, accepted]
  constructor
  · rintro ⟨count, scopes, few⟩
    exact ⟨⟨count, scopes⟩, scopes.count_slash ▸ few⟩
  · rintro ⟨⟨count, scopes⟩, few⟩
    exact ⟨count, scopes, scopes.count_slash ▸ few⟩

theorem isValidName_twoScopes :
    isValidName "@a/@b/c" = true ∧ ¬ IsRegistryName "@a/@b/c".toList := by
  constructor
  · decide
  · intro registered
    obtain ⟨count, scopes, few⟩ := isRegistryName_iff.1 registered
    have slashes : "@a/@b/c".toList.count '/' = 2 := by decide
    rw [← scopes.count_slash, slashes] at few
    exact absurd few (by decide)

end Package

end PackageSearch
