import Mathlib
import PackageSearch.Package.Listing
import PackageSearch.Proofs.Package.Current

/-!
# Stable packages

A package is stable if one of its published versions is in the caret range of 1.0.0. That range
holds the releases of the major version 1: it ends below 2.0.0, and what precedes a release is in no
range of releases. Nothing else that is published, tagged or current counts, so a package stays
stable whatever is published later.
-/

set_option autoImplicit false

namespace PackageSearch.Package

namespace Version

def nextMajor (version : Version) : Version := ⟨version.major + 1, 0, 0, [], []⟩

/-- The caret range of a version with a major number above zero: what is not below it, but below the
next major version. A prerelease is in the range only if the version is a prerelease of the same
numbers. -/
structure InCaretRange (base version : Version) : Prop where
  notBelow : base.rank ≤ version.rank
  below : version.rank < base.nextMajor.rank
  released : version.prerelease = [] ∨
    base.prerelease ≠ [] ∧ version.major = base.major ∧ version.minor = base.minor ∧
      version.patch = base.patch

theorem rank_lt_release_iff {version : Version} (released : version.prerelease = []) (major : Nat) :
    version.rank < rank ⟨major, 0, 0, [], []⟩ ↔ version.major < major := by
  simp only [rank, Prod.Lex.toLex_lt_toLex, prereleaseRank, buildRank, released, if_true,
    List.map_nil, Nat.not_lt_zero, lt_self_iff_false, List.not_lt_nil, or_false, and_false]

theorem release_rank_le_iff {version : Version} (released : version.prerelease = []) (major : Nat) :
    rank ⟨major, 0, 0, [], []⟩ ≤ version.rank ↔ major ≤ version.major := by
  rw [← not_lt, rank_lt_release_iff released, not_lt]

theorem inCaretRange_firstStable_iff {version : Version} :
    firstStable.InCaretRange version ↔ version.major = 1 ∧ version.prerelease = [] := by
  constructor
  · intro inRange
    have released : version.prerelease = [] :=
      inRange.released.resolve_right fun prerelease => prerelease.1 rfl
    have least := (release_rank_le_iff released 1).1 inRange.notBelow
    have greatest := (rank_lt_release_iff released 2).1 inRange.below
    exact ⟨Nat.le_antisymm (Nat.le_of_lt_succ greatest) least, released⟩
  · rintro ⟨major, released⟩
    refine ⟨(release_rank_le_iff released 1).2 major.ge, ?_, .inl released⟩
    exact (rank_lt_release_iff released 2).2 (major ▸ Nat.lt_succ_self 1)

theorem rank_lt_of_major_lt {left right : Version} (less : left.major < right.major) :
    left.rank < right.rank := by
  rw [rank, rank, Prod.Lex.toLex_lt_toLex]
  exact .inl less

theorem rank_le_iff {base version : Version} (plain : base.build = []) :
    base.rank ≤ version.rank ↔
      base.major < version.major ∨ base.major = version.major ∧
        (base.minor < version.minor ∨ base.minor = version.minor ∧
          (base.patch < version.patch ∨ base.patch = version.patch ∧
            prereleaseRank base.prerelease ≤ prereleaseRank version.prerelease)) := by
  have least : buildRank base.build ≤ buildRank version.build := by
    rw [plain]
    exact not_lt.1 (List.not_lt_nil _)
  simp only [rank, Prod.Lex.toLex_le_toLex, least, and_true, ← le_iff_lt_or_eq]

theorem keepsTo_iff {base version : Version} (above : 0 < base.major) :
    base.keepsTo version = true ↔
      version.major = base.major ∧
        (base.minor < version.minor ∨ base.minor = version.minor ∧
          (base.patch < version.patch ∨ base.patch = version.patch ∧
            comparePrereleases base.prerelease version.prerelease ≠ .gt)) := by
  by_cases major : version.major = base.major
  · by_cases minor : version.minor = base.minor
    · by_cases patch : version.patch = base.patch
      · simp [keepsTo, above, major, minor, patch]
      · simp [keepsTo, above, major, minor, patch, Ne.symm patch]
    · simp [keepsTo, above, major, minor, Ne.symm minor]
  · simp [keepsTo, major]

/-- From 1.0.0 on, a version is matched against a caret range exactly if it is in it. A range says
nothing about build metadata, so its base has none. -/
theorem isInCaretRange_iff {base version : Version} (above : 0 < base.major)
    (plain : base.build = []) (baseLegal : base.IsWellFormed) (legal : version.IsWellFormed) :
    base.isInCaretRange version = true ↔ base.InCaretRange version := by
  have notBelow : comparePrereleases base.prerelease version.prerelease ≠ .gt ↔
      prereleaseRank base.prerelease ≤ prereleaseRank version.prerelease :=
    (compares_comparePrereleases baseLegal.prerelease legal.prerelease).ne_gt
  have released : (version.prerelease.isEmpty ||
      (! base.prerelease.isEmpty && version.major == base.major && version.minor == base.minor &&
        version.patch == base.patch)) = true ↔
      version.prerelease = [] ∨ base.prerelease ≠ [] ∧ version.major = base.major ∧
        version.minor = base.minor ∧ version.patch = base.patch := by
    simp [and_assoc]
  rw [isInCaretRange, Bool.and_eq_true, keepsTo_iff above, notBelow, released]
  constructor
  · rintro ⟨⟨major, further⟩, released⟩
    refine ⟨(rank_le_iff plain).2 (.inr ⟨major.symm, further⟩), ?_, released⟩
    exact rank_lt_of_major_lt (major ▸ Nat.lt_succ_self _)
  · rintro ⟨least, below, released⟩
    have notAbove : version.major ≤ base.major := by
      rcases released with none | ⟨-, major, -⟩
      · exact Nat.le_of_lt_succ ((rank_lt_release_iff none _).1 below)
      · exact major.le
    rcases (rank_le_iff plain).1 least with less | ⟨major, further⟩
    · exact absurd less (Nat.not_lt.2 notAbove)
    · exact ⟨⟨major.symm, further⟩, released⟩

example : Version.parse? "1.0.0" = some firstStable := by decide +kernel

theorem isWellFormed_firstStable : firstStable.IsWellFormed :=
  ⟨by decide, by decide, by decide, List.forall_mem_nil _, List.forall_mem_nil _⟩

theorem isStable_iff {version : Version} (legal : version.IsWellFormed) :
    version.isStable = true ↔ version.major = 1 ∧ version.prerelease = [] :=
  (isInCaretRange_iff Nat.one_pos rfl isWellFormed_firstStable legal).trans
    inCaretRange_firstStable_iff

end Version

/-- A text that spells a release of the major version 1. -/
def IsStableKey (key : String) : Prop :=
  ∃ version : Version, version.Spells key ∧ version.major = 1 ∧ version.prerelease = []

namespace Manifest

variable {manifest later : Manifest}

theorem hasStableVersion_iff :
    manifest.hasStableVersion = true ↔ ∃ key ∈ manifest.versions.keys, IsStableKey key := by
  simp only [hasStableVersion, List.any_eq_true, mem_semanticVersions]
  constructor
  · rintro ⟨⟨version, key⟩, ⟨published, spells⟩, stable⟩
    exact ⟨key, published, version, spells, (Version.isStable_iff spells.legal).1 stable⟩
  · rintro ⟨key, published, version, spells, stable⟩
    exact ⟨(version, key), ⟨published, spells⟩, (Version.isStable_iff spells.legal).2 stable⟩

theorem hasStableVersion_of_publishedIn
    (kept : ∀ key ∈ manifest.versions.keys, key ∈ later.versions.keys)
    (stable : manifest.hasStableVersion = true) : later.hasStableVersion = true := by
  obtain ⟨key, published, stableKey⟩ := hasStableVersion_iff.1 stable
  exact hasStableVersion_iff.2 ⟨key, kept key published, stableKey⟩

theorem mem_keys_insert {key other : String} (release : Release)
    (published : other ∈ manifest.versions.keys) :
    other ∈ (manifest.versions.insert key release).keys := by
  obtain ⟨entry, member, rfl⟩ := List.mem_map.1 published
  by_cases same : entry.1 = key
  · exact List.mem_map.2 ⟨_, manifest.versions.mem_insert_self key release, same.symm⟩
  · exact List.mem_map.2 ⟨_, Dictionary.mem_insert_of_ne release member same, rfl⟩

end Manifest

namespace Listing

theorem flags_ofManifest_iff {manifest : Manifest} {fallback : Option Instant} :
    ((ofManifest manifest fallback).flags = some ⟨none⟩ ↔ manifest.hasStableVersion = true) ∧
      ((ofManifest manifest fallback).flags = some ⟨some true⟩ ↔
        manifest.hasStableVersion = false) := by
  unfold ofManifest
  cases manifest.hasStableVersion <;> simp

/-- The listing of a local package is not marked unstable exactly if one of the keys of its versions
is a release of the major version 1, that is if a published version is in the caret range of 1.0.0;
else it is marked. Its tags, its current version and the other keys make no difference, and a
package that is stable stays so when a further version is published. -/
theorem ofManifest_marks_unstable (manifest : Manifest) (fallback : Option Instant) :
    ((ofManifest manifest fallback).flags = some ⟨none⟩ ↔
      ∃ key ∈ manifest.versions.keys, IsStableKey key) ∧
    ((ofManifest manifest fallback).flags = some ⟨some true⟩ ↔
      ¬ ∃ key ∈ manifest.versions.keys, IsStableKey key) ∧
    ((∃ key ∈ manifest.versions.keys, IsStableKey key) ↔
      ∃ key ∈ manifest.versions.keys, ∃ version : Version, version.Spells key ∧
        Version.firstStable.InCaretRange version) ∧
    ∀ (later : Manifest) (key : String) (release : Release) (another : Option Instant),
      later.versions = manifest.versions.insert key release →
      (ofManifest manifest fallback).flags = some ⟨none⟩ →
      (ofManifest later another).flags = some ⟨none⟩ := by
  refine ⟨?_, ?_, ?_, ?_⟩
  · exact flags_ofManifest_iff.1.trans Manifest.hasStableVersion_iff
  · rw [flags_ofManifest_iff.2, ← Manifest.hasStableVersion_iff, Bool.not_eq_true]
  · simp only [IsStableKey, Version.inCaretRange_firstStable_iff]
  · intro later key release another published stable
    refine flags_ofManifest_iff.1.2
      (Manifest.hasStableVersion_of_publishedIn (fun other member => ?_)
      (flags_ofManifest_iff.1.1 stable))
    rw [published]
    exact Manifest.mem_keys_insert release member

/-- A package with a release of the major version 1, a later prerelease that is tagged as the
latest, and a key that is no version. -/
def mixedManifest : Manifest :=
  { Manifest.blank with
    versions := Dictionary.ofList [("1.2.3+build.07", .blank), ("2.0.0-rc.1", .blank),
      ("01.0.0", .blank)]
    tags := Dictionary.ofList [("latest", "2.0.0-rc.1")] }

def overtakenManifest : Manifest :=
  { mixedManifest with versions := mixedManifest.versions.insert "2.0.0" .blank }

theorem ofManifest_marks_unstable_overtaken :
    overtakenManifest.versions = mixedManifest.versions.insert "2.0.0" .blank ∧
      (ofManifest mixedManifest none).flags = some ⟨none⟩ ∧
      (ofManifest overtakenManifest none).flags = some ⟨none⟩ := by
  have stable : (ofManifest mixedManifest none).flags = some ⟨none⟩ :=
    flags_ofManifest_iff.1.2 (by decide +kernel)
  exact ⟨rfl, stable,
    (ofManifest_marks_unstable mixedManifest none).2.2.2 overtakenManifest "2.0.0" .blank none rfl
      stable⟩

end Listing

end PackageSearch.Package
