import PackageSearch.Proofs.Index.Projection
import PackageSearch.Proofs.Package.Versions
import PackageSearch.Proofs.Text.Utf8

/-!
# The current version

`IsCurrent` says which of its published versions a package's current one is: the one tagged
`latest`, else of the keys that spell versions the one of the highest rank, else the last key.
Exactly one key is current, unless nothing is published, and `currentVersion?` finds it.
-/

set_option autoImplicit false

namespace PackageSearch.Package

/-- A text that a version is written as. -/
structure Version.Spells (version : Version) (text : String) : Prop where
  legal : version.IsWellFormed
  spelled : text.toList = version.written

theorem Version.Spells.rank_unique {left right : Version} {text other : String}
    (leftSpells : left.Spells text) (rightSpells : right.Spells other)
    (same : left.rank = right.rank) : text = other := by
  obtain rfl := Version.eq_of_rank leftSpells.legal rightSpells.legal same
  exact String.toList_inj.1 (leftSpells.spelled.trans rightSpells.spelled.symm)

namespace Manifest

variable {manifest : Manifest} {key : String}

/-- No published version is tagged as the latest. -/
def Untagged (manifest : Manifest) : Prop :=
  ∀ latest, manifest.tags.get? "latest" = some latest → latest ∉ manifest.versions.keys

inductive IsCurrent (manifest : Manifest) : String → Prop where
  | tagged {key : String} :
      manifest.tags.get? "latest" = some key → key ∈ manifest.versions.keys → IsCurrent manifest key
  | highest {key : String} {version : Version} :
      manifest.Untagged → key ∈ manifest.versions.keys → version.Spells key →
      (∀ other ∈ manifest.versions.keys, ∀ rival : Version, rival.Spells other →
        rival.rank ≤ version.rank) →
      IsCurrent manifest key
  | last {key : String} :
      manifest.Untagged → key ∈ manifest.versions.keys →
      (∀ other ∈ manifest.versions.keys, ∀ version : Version, ¬ version.Spells other) →
      (∀ other ∈ manifest.versions.keys, other ≠ key → other.toUTF8.toList < key.toUTF8.toList) →
      IsCurrent manifest key

theorem IsCurrent.unique {other : String} (current : manifest.IsCurrent key)
    (another : manifest.IsCurrent other) : key = other := by
  cases current with
  | tagged tag published =>
      cases another with
      | tagged otherTag => exact Option.some.inj (tag.symm.trans otherTag)
      | highest untagged => exact absurd published (untagged key tag)
      | last untagged => exact absurd published (untagged key tag)
  | @highest version untagged published spells above =>
      cases another with
      | tagged tag held => exact absurd held (untagged other tag)
      | @highest rival _ held otherSpells otherAbove =>
          refine spells.rank_unique otherSpells (le_antisymm ?_ ?_)
          · exact otherAbove key published version spells
          · exact above other held rival otherSpells
      | last _ _ unspelled => exact absurd spells (unspelled key published version)
  | last untagged published unspelled above =>
      cases another with
      | tagged tag held => exact absurd held (untagged other tag)
      | @highest rival _ held spells => exact absurd spells (unspelled other held rival)
      | last _ held _ otherAbove =>
          by_contra differs
          exact List.lt_asymm (above other held (Ne.symm differs))
            (otherAbove key published differs)

/-! ## Finding it -/

theorem mem_semanticVersions {entry : Version × String} :
    entry ∈ manifest.semanticVersions ↔
      entry.2 ∈ manifest.versions.keys ∧ entry.1.Spells entry.2 := by
  obtain ⟨version, text⟩ := entry
  simp only [semanticVersions, List.mem_filterMap, Option.map_eq_some_iff, Prod.mk.injEq,
    Version.parse?_eq_some_iff]
  constructor
  · rintro ⟨key, published, _, ⟨legal, spelled⟩, rfl, rfl⟩
    exact ⟨published, legal, spelled⟩
  · rintro ⟨published, legal, spelled⟩
    exact ⟨text, published, version, ⟨legal, spelled⟩, rfl, rfl⟩

/-- The higher of two versions is one of them and ranks no lower than either. -/
theorem rank_le_higher {held next : Version × String} (heldLegal : held.1.IsWellFormed)
    (nextLegal : next.1.IsWellFormed) :
    held.1.rank ≤ (higher held next).1.rank ∧ next.1.rank ≤ (higher held next).1.rank := by
  have compares := Version.compares_compare heldLegal nextLegal
  unfold higher
  split_ifs with greater
  · exact ⟨le_refl _, le_of_lt (compares.eq_gt.1 greater)⟩
  · exact ⟨not_lt.1 fun less => greater (compares.eq_gt.2 less), le_refl _⟩

theorem isWellFormed_higher {held next : Version × String} (heldLegal : held.1.IsWellFormed)
    (nextLegal : next.1.IsWellFormed) : (higher held next).1.IsWellFormed := by
  unfold higher
  split_ifs
  · exact heldLegal
  · exact nextLegal

/-- Nothing in a list ranks above what is found as the highest in it. -/
theorem rank_le_highest? {candidates : List (Version × String)} {found : Version × String}
    (legal : ∀ entry ∈ candidates, entry.1.IsWellFormed)
    (highest : highest? candidates = some found) :
    ∀ entry ∈ candidates, entry.1.rank ≤ found.1.rank := by
  cases candidates with
  | nil => cases highest
  | cons first rest =>
      cases highest
      induction rest generalizing first with
      | nil =>
          intro entry member
          rw [List.mem_singleton.1 member]
          exact le_refl _
      | cons next rest ih =>
          have firstLegal := legal first List.mem_cons_self
          have nextLegal := legal next (List.mem_cons_of_mem _ List.mem_cons_self)
          have above := rank_le_higher firstLegal nextLegal
          have fold := ih (higher first next) fun entry member => by
            rcases List.mem_cons.1 member with rfl | later
            · exact isWellFormed_higher firstLegal nextLegal
            · exact legal entry (List.mem_cons_of_mem _ (List.mem_cons_of_mem _ later))
          intro entry member
          rcases List.mem_cons.1 member with rfl | member
          · exact above.1.trans (fold _ List.mem_cons_self)
          · rcases List.mem_cons.1 member with rfl | later
            · exact above.2.trans (fold _ List.mem_cons_self)
            · exact fold entry (List.mem_cons_of_mem _ later)

theorem highest?_eq_none {candidates : List (Version × String)}
    (none : highest? candidates = none) :
    candidates = [] := by
  cases candidates with
  | nil => rfl
  | cons => cases none

/-- The last key has the greatest bytes. -/
theorem bytes_lt_of_getLast? (last : manifest.versions.keys.getLast? = some key) :
    ∀ other ∈ manifest.versions.keys, other ≠ key → other.toUTF8.toList < key.toUTF8.toList := by
  intro other member differs
  have ascending : manifest.versions.keys.Pairwise (· < ·) :=
    List.pairwise_map.2 manifest.versions.ascending
  obtain ⟨before, split⟩ := List.getLast?_eq_some_iff.1 last
  rw [split] at ascending member
  rcases List.mem_append.1 member with earlier | same
  · exact Text.bytes_lt_of_lt
      ((List.pairwise_append.1 ascending).2.2 other earlier key List.mem_cons_self)
  · exact absurd (List.mem_singleton.1 same) differs

theorem untagged_of_filter
    (none : (manifest.tags.get? "latest").filter manifest.versions.contains = none) :
    manifest.Untagged := by
  intro latest tag published
  rw [tag, Option.filter_some, Dictionary.contains_iff.2 published] at none
  cases none

theorem isCurrent_of_currentVersion? (found : manifest.currentVersion? = some key) :
    manifest.IsCurrent key := by
  have published := mem_keys_of_currentVersion? found
  unfold currentVersion? at found
  split at found
  · rename_i latest tagged
    cases found
    exact .tagged (Option.filter_eq_some_iff.1 tagged).1 published
  · rename_i none
    have untagged := untagged_of_filter none
    split at found
    · rename_i version _ highest
      cases found
      have spells := (mem_semanticVersions.1 (mem_of_highest? highest)).2
      refine .highest untagged published spells fun other held rival rivalSpells => ?_
      refine rank_le_highest? (fun entry member => (mem_semanticVersions.1 member).2.legal) highest
        (rival, other) (mem_semanticVersions.2 ⟨held, rivalSpells⟩)
    · rename_i none
      have empty := highest?_eq_none none
      refine .last untagged published (fun other held version spells => ?_)
        (bytes_lt_of_getLast? found)
      have member : (version, other) ∈ manifest.semanticVersions :=
        mem_semanticVersions.2 ⟨held, spells⟩
      rw [empty] at member
      cases member

theorem currentVersion?_eq_some_iff :
    manifest.currentVersion? = some key ↔ manifest.IsCurrent key := by
  refine ⟨isCurrent_of_currentVersion?, fun current => ?_⟩
  cases found : manifest.currentVersion? with
  | none =>
      have empty := currentVersion?_eq_none.1 found
      have published : key ∈ manifest.versions.keys := by cases current <;> assumption
      rw [Dictionary.keys, empty] at published
      cases published
  | some other => rw [(isCurrent_of_currentVersion? found).unique current]

/-- A package has a current version exactly if one is published. It is the only key that is current,
and its metadata are those of the package. A `latest` tag that names no published version counts for
nothing. -/
theorem currentVersion?_chosen (manifest : Manifest) :
    (manifest.currentVersion? = none ↔ manifest.versions.entries = []) ∧
    (∀ key, manifest.currentVersion? = some key ↔ manifest.IsCurrent key) ∧
    (manifest.versions.entries ≠ [] → ∃ key release,
      manifest.IsCurrent key ∧ manifest.versions.get? key = some release ∧
        manifest.current? = some release) ∧
    (manifest.Untagged →
      manifest.currentVersion? = { manifest with tags := .empty }.currentVersion?) := by
  refine ⟨currentVersion?_eq_none, fun key => currentVersion?_eq_some_iff, ?_, ?_⟩
  · intro published
    obtain ⟨key, release, found, held⟩ := exists_current published
    refine ⟨key, release, isCurrent_of_currentVersion? found, held, ?_⟩
    rw [current?, found, Option.bind_some, held]
  · intro untagged
    have ignored : (manifest.tags.get? "latest").filter manifest.versions.contains = none := by
      rw [Option.filter_eq_none_iff]
      exact fun latest tag held => untagged latest tag (Dictionary.contains_iff.1 held)
    unfold currentVersion?
    rw [ignored]
    rfl

end Manifest

end PackageSearch.Package
