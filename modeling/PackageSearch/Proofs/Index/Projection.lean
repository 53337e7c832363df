import PackageSearch.Index.Document
import PackageSearch.Package.Listing
import PackageSearch.Proofs.Json.Written

/-!
# Two projections of a manifest

The index holds a document of a package, and a search shows a summary of it; both are projections of
the package's manifest. They agree on name and description. On the version they agree where the
entry of the current version carries the key it stands under: the summary shows the key, and the
document what the entry says of itself.
-/

set_option autoImplicit false

namespace PackageSearch

open Package (Manifest Release Summary Version)

/-! ## The current version -/

theorem Dictionary.contains_iff {α : Type} {dictionary : Dictionary α} {key : String} :
    dictionary.contains key = true ↔ key ∈ dictionary.keys := by
  unfold contains get? keys
  induction dictionary.entries with
  | nil => simp
  | cons entry rest ih =>
      obtain ⟨head, value⟩ := entry
      rw [List.lookup_cons, List.map_cons, List.mem_cons]
      by_cases same : key = head
      · simp [same]
      · have differs : (key == head) = false := beq_false_of_ne same
        simp only [differs, same, false_or]
        exact ih

namespace Package.Manifest

variable {manifest : Manifest}

theorem mem_of_highest? {candidates : List (Version × String)} {found : Version × String}
    (highest : highest? candidates = some found) : found ∈ candidates := by
  cases candidates with
  | nil => cases highest
  | cons first rest =>
      cases highest
      induction rest generalizing first with
      | nil => exact List.mem_cons_self
      | cons next rest ih =>
          rw [List.foldl_cons]
          rcases List.mem_cons.1 (ih (higher first next)) with here | later
          · rw [here, higher]
            split
            · exact List.mem_cons_self
            · exact List.mem_cons_of_mem _ List.mem_cons_self
          · exact List.mem_cons_of_mem _ (List.mem_cons_of_mem _ later)

theorem mem_keys_of_mem_semanticVersions {entry : Version × String}
    (member : entry ∈ manifest.semanticVersions) : entry.2 ∈ manifest.versions.keys := by
  obtain ⟨key, held, parsed⟩ := List.mem_filterMap.1 member
  obtain ⟨version, -, rfl⟩ := Option.map_eq_some_iff.1 parsed
  exact held

/-- The current version is a published one, however it is chosen. -/
theorem mem_keys_of_currentVersion? {key : String}
    (current : manifest.currentVersion? = some key) : key ∈ manifest.versions.keys := by
  unfold currentVersion? at current
  split at current
  · rename_i latest tagged
    cases current
    obtain ⟨-, published⟩ := Option.filter_eq_some_iff.1 tagged
    exact Dictionary.contains_iff.1 published
  · split at current
    · rename_i version highest found
      cases current
      exact mem_keys_of_mem_semanticVersions (mem_of_highest? found)
    · exact List.mem_of_getLast? current

theorem currentVersion?_eq_none :
    manifest.currentVersion? = none ↔ manifest.versions.entries = [] := by
  rw [← List.map_eq_nil_iff (f := Prod.fst)]
  constructor
  · intro absent
    unfold currentVersion? at absent
    split at absent
    · cases absent
    · split at absent
      · cases absent
      · exact List.getLast?_eq_none_iff.1 absent
  · intro empty
    have none : manifest.versions.keys = [] := empty
    cases current : manifest.currentVersion? with
    | none => rfl
    | some key =>
        have published := mem_keys_of_currentVersion? current
        rw [none] at published
        cases published

theorem exists_current (published : manifest.versions.entries ≠ []) :
    ∃ key release, manifest.currentVersion? = some key ∧
      manifest.versions.get? key = some release := by
  cases current : manifest.currentVersion? with
  | none => exact absurd (currentVersion?_eq_none.1 current) published
  | some key =>
      have held := Dictionary.contains_iff.2 (mem_keys_of_currentVersion? current)
      obtain ⟨release, found⟩ := Option.isSome_iff_exists.1 held
      exact ⟨key, release, rfl, found⟩

/-- A summary looks its current version up by the key, and by an empty key where there is none. -/
theorem current?_eq (manifest : Manifest) :
    manifest.versions.get? (manifest.currentVersion?.getD "") = manifest.current? := by
  cases current : manifest.currentVersion? with
  | some key => simp [current?, current]
  | none =>
      have empty := currentVersion?_eq_none.1 current
      simp [current?, current, Dictionary.get?, empty]

end Package.Manifest

/-! ## Document and summary -/

namespace Index.Document

variable (manifest : Manifest) (fallback : Option Instant)

theorem description_eq :
    (ofManifest manifest).description =
      (Summary.ofManifest manifest fallback).description.getD "" := by
  simp only [ofManifest, Summary.ofManifest, manifest.current?_eq]

theorem version_of_unpublished (unpublished : manifest.versions.entries = []) :
    (ofManifest manifest).version = "" ∧ (Summary.ofManifest manifest fallback).version = "" := by
  have none := Manifest.currentVersion?_eq_none.2 unpublished
  constructor
  · simp [ofManifest, Manifest.current?, none]
  · simp [Summary.ofManifest, none]

/-- The summary shows the key of the current version, the document what its entry says. -/
theorem version_of_published (published : manifest.versions.entries ≠ []) :
    ∃ release,
      manifest.versions.get? (Summary.ofManifest manifest fallback).version = some release ∧
        (ofManifest manifest).version = "v" ++ release.version := by
  obtain ⟨key, release, current, found⟩ := Manifest.exists_current published
  refine ⟨release, ?_, ?_⟩
  · simpa [Summary.ofManifest, current] using found
  · simp [ofManifest, Manifest.current?, current, found]

/-- The two projections of a manifest agree on the name, on the description, and where nothing is
published on there being no version. They agree on the version of a published package exactly where
the entry of the current version says of itself the key that it stands under. -/
theorem agrees_with_summary :
    (ofManifest manifest).id = (Summary.ofManifest manifest fallback).name ∧
      (ofManifest manifest).name = (Summary.ofManifest manifest fallback).name ∧
      (ofManifest manifest).description =
        (Summary.ofManifest manifest fallback).description.getD "" ∧
      (manifest.versions.entries = [] → (ofManifest manifest).version = "" ∧
        (Summary.ofManifest manifest fallback).version = "") ∧
      (manifest.versions.entries ≠ [] → ∃ release,
        manifest.versions.get? (Summary.ofManifest manifest fallback).version = some release ∧
        (ofManifest manifest).version = "v" ++ release.version ∧
        ((ofManifest manifest).version = "v" ++ (Summary.ofManifest manifest fallback).version ↔
          release.version = (Summary.ofManifest manifest fallback).version)) := by
  refine ⟨rfl, rfl, description_eq manifest fallback, version_of_unpublished manifest fallback, ?_⟩
  intro published
  obtain ⟨release, found, version⟩ := version_of_published manifest fallback published
  refine ⟨release, found, version, ?_⟩
  rw [version]
  constructor
  · intro same
    exact String.append_right_inj "v" |>.1 same
  · intro same
    rw [same]

/-- A package whose only version has an entry without a version of its own. -/
def unlabelledManifest : Json.Value :=
  .record [("name", .text "left-pad"), ("versions", .record [("1.3.0", .record [])])]

/-- The summary of such a package shows a version that its document does not hold. -/
theorem disagrees_with_summary :
    ∃ manifest,
      Json.decode Manifest.shape.decoder unlabelledManifest.render.toUTF8.toList = .ok manifest ∧
      manifest.versions.entries ≠ [] ∧
      (Summary.ofManifest manifest none).version = "1.3.0" ∧
      (ofManifest manifest).version = "v" ∧
      (ofManifest manifest).version ≠ "v" ++ (Summary.ofManifest manifest none).version := by
  let manifest : Manifest :=
    { Manifest.blank with
      name := "left-pad"
      versions := Dictionary.empty.insert "1.3.0" Release.blank }
  have legible : unlabelledManifest.AllNumbers Json.Number.Legible := by
    simp [unlabelledManifest]
  have read : Json.decode Manifest.shape.decoder unlabelledManifest.render.toUTF8.toList =
      .ok manifest := by
    rw [Json.render_bytes, Json.decode_spelled .compact Manifest.shape.decoder legible]
    rfl
  refine ⟨manifest, read, ?_, ?_, ?_, ?_⟩
  · decide
  · decide
  · decide
  · decide

end Index.Document

end PackageSearch
