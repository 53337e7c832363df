import Mathlib
import PackageSearch.Index
import PackageSearch.Proofs.Text.Utf8

/-!
# The index and the catalog

What the index shows after any history of operations is a finite map from names to packages: an
upsert puts a package under its name, a removal takes a name away, and a rebuilding replaces the map
by the catalog, in which the last package of a name counts. The index itself keeps a list of
documents, and nothing but the retiring that goes before every addition keeps a name from occurring
twice; `Shows` is the invariant that every operation keeps.
-/

set_option autoImplicit false

namespace PackageSearch.Index

open Package (Manifest)

/-- An operation on the index. -/
inductive Operation where
  | add (manifest : Manifest)
  | remove (name : String)
  | follow (event : CatalogEvent)
  | rebuild (catalog : Except StoreError (List Manifest))

def perform (index : Index) : Operation → Index
  | .add manifest => index.add manifest
  | .remove name => index.remove name
  | .follow event => index.apply event
  | .rebuild catalog => (index.rebuild catalog).1

/-- Packages by their names. -/
abbrev Packages := Finmap fun _ : String => Manifest

namespace Packages

def upsert (packages : Packages) (manifest : Manifest) : Packages :=
  packages.insert manifest.name manifest

def ofCatalog (catalog : List Manifest) : Packages :=
  catalog.foldl upsert ∅

/-- What an operation does to the packages. -/
def perform (packages : Packages) : Operation → Packages
  | .add manifest => packages.upsert manifest
  | .remove name => packages.erase name
  | .follow (.published manifest) => packages.upsert manifest
  | .follow (.updated manifest) => packages.upsert manifest
  | .follow (.unpublished name) => packages.erase name
  | .rebuild (.ok catalog) => ofCatalog catalog
  | .rebuild (.error _) => packages

end Packages

/-- The documents are those of the packages, one for each name. -/
def Shows (documents : List Document) (packages : Packages) : Prop :=
  ∀ name, documents.filter (fun document => document.id = name) =
    ((packages.lookup name).map Document.ofManifest).toList

namespace Shows

variable {documents : List Document} {packages : Packages}

theorem nothing : Shows [] ∅ := by
  intro name
  simp

/-- Taking the documents of a name away erases the name. -/
theorem erase (shows : Shows documents packages) (name : String) :
    Shows (documents.filter fun document => document.id ≠ name) (packages.erase name) := by
  intro other
  rw [List.filter_filter]
  by_cases same : other = name
  · subst same
    rw [Finmap.lookup_erase]
    simp
  · rw [Finmap.lookup_erase_ne same, ← shows other]
    apply List.filter_congr
    intro document _
    by_cases named : document.id = other
    · simp [named, same]
    · simp [named]

/-- Taking the documents of a package's name away and adding its own upserts the package. -/
theorem upsert (shows : Shows documents packages) (manifest : Manifest) :
    Shows ((documents.filter fun document => document.id ≠ manifest.name) ++
      [Document.ofManifest manifest]) (packages.upsert manifest) := by
  intro other
  rw [List.filter_append, shows.erase manifest.name other]
  by_cases same : other = manifest.name
  · subst same
    rw [Finmap.lookup_erase, Packages.upsert, Finmap.lookup_insert]
    simp [Document.ofManifest]
  · rw [Finmap.lookup_erase_ne same, Packages.upsert, Finmap.lookup_insert_of_ne _ same]
    have differs : (Document.ofManifest manifest).id ≠ other := fun named => same named.symm
    simp [differs]

/-- Pushing the documents of a catalog one after the other upserts its packages. -/
theorem pushAll {commit : Commit} (shows : Shows (live commit) packages)
    (catalog : List Manifest) :
    Shows (live ((catalog.map Document.ofManifest).foldl Commit.push commit))
      (catalog.foldl Packages.upsert packages) := by
  induction catalog generalizing commit packages with
  | nil => exact shows
  | cons manifest rest ih =>
      apply ih
      rw [live_push]
      exact shows.upsert manifest

theorem ofCatalog (catalog : List Manifest) :
    Shows (Index.ofCatalog catalog).documents (Packages.ofCatalog catalog) := by
  rw [Index.ofCatalog, documents_prune]
  have pushed : Shows (live (Commit.ofDocuments (catalog.map Document.ofManifest)))
      (Packages.ofCatalog catalog) := by
    apply pushAll
    exact nothing
  simpa [documents] using pushed

/-- Every operation keeps the index and the packages in step. -/
theorem perform {index : Index} (shows : Shows index.documents packages)
    (operation : Operation) :
    Shows (index.perform operation).documents (packages.perform operation) := by
  have added (manifest : Manifest) :
      Shows (index.add manifest).documents (packages.upsert manifest) := by
    rw [documents_add]
    exact shows.upsert manifest
  have removed (name : String) : Shows (index.remove name).documents (packages.erase name) := by
    rw [documents_remove]
    exact shows.erase name
  cases operation with
  | add manifest => exact added manifest
  | remove name => exact removed name
  | follow event =>
      cases event with
      | published manifest => exact added manifest
      | updated manifest => exact added manifest
      | unpublished name => exact removed name
  | rebuild catalog =>
      cases catalog with
      | ok catalog => exact ofCatalog catalog
      | error cause => exact shows

theorem performAll {index : Index} (shows : Shows index.documents packages)
    (operations : List Operation) :
    Shows (operations.foldl Index.perform index).documents
      (operations.foldl Packages.perform packages) := by
  induction operations generalizing index packages with
  | nil => exact shows
  | cons operation rest ih => exact ih (shows.perform operation)

/-! ## What can be read off the index -/

theorem count_eq (shows : Shows documents packages) (name : String) :
    (documents.map Document.id).count name = if name ∈ packages then 1 else 0 := by
  have counted : (documents.map Document.id).count name =
      (documents.filter fun document => document.id = name).length := by
    rw [List.count, List.countP_map, List.countP_eq_length_filter]
    rfl
  rw [counted, shows name]
  by_cases present : name ∈ packages
  · obtain ⟨manifest, found⟩ := Finmap.mem_iff.mp present
    simp [found, present]
  · simp [Finmap.lookup_eq_none.mpr present, present]

theorem nodup (shows : Shows documents packages) : (documents.map Document.id).Nodup := by
  rw [List.nodup_iff_count_le_one]
  intro name
  rw [shows.count_eq]
  split <;> decide

theorem mem_iff (shows : Shows documents packages) (name : String) :
    name ∈ documents.map Document.id ↔ name ∈ packages := by
  rw [← List.count_pos_iff, shows.count_eq]
  split <;> simp_all

theorem length_eq (shows : Shows documents packages) :
    documents.length = packages.keys.card := by
  have same : (documents.map Document.id).toFinset = packages.keys := by
    ext name
    rw [List.mem_toFinset, shows.mem_iff, Finmap.mem_keys]
  rw [← same, List.toFinset_card_of_nodup shows.nodup, List.length_map]

/-- The listing holds each name once, in the order of the bytes. -/
theorem listing_names {index : Index} (shows : Shows index.documents packages) :
    index.listing.Pairwise fun left right =>
      left.name.toUTF8.toList < right.name.toUTF8.toList := by
  have before_iff (left right : Document) :
      (! decide (right.id < left.id)) = true ↔ left.id ≤ right.id := by
    rw [Bool.not_eq_true', decide_eq_false_iff_not, not_lt]
  let sorted := index.documents.mergeSort fun left right => ! (right.id < left.id)
  have ascending : sorted.Pairwise fun left right => left.id ≤ right.id := by
    refine List.Pairwise.imp (fun {left right} => (before_iff left right).mp)
      (List.pairwise_mergeSort (fun first second third => ?_) (fun first second => ?_) _)
    · rw [before_iff, before_iff, before_iff]
      exact le_trans
    · rw [Bool.or_eq_true, before_iff, before_iff]
      exact le_total first.id second.id
  have distinct : sorted.Pairwise fun left right => left.id ≠ right.id := by
    have permuted : sorted.Perm index.documents := List.mergeSort_perm _ _
    exact List.pairwise_map.mp ((permuted.map _).nodup_iff.mpr shows.nodup)
  apply List.pairwise_map.mpr
  exact (ascending.and distinct).imp fun both =>
    Text.bytes_lt_of_lt (lt_of_le_of_ne both.1 both.2)

theorem mem_listing {index : Index} (shows : Shows index.documents packages) (hit : Hit) :
    hit ∈ index.listing ↔ hit.name ∈ packages ∧ hit.score = FixedPoint.one := by
  rw [← shows.mem_iff, listing, List.mem_map]
  simp only [List.mem_mergeSort, List.mem_map]
  constructor
  · rintro ⟨document, held, rfl⟩
    exact ⟨⟨document, held, rfl⟩, rfl⟩
  · rintro ⟨⟨document, held, named⟩, scored⟩
    exact ⟨document, held, by rw [named, ← scored]⟩

end Shows

/-- After every history of operations the index holds one document for each name of the packages
that the history leaves, made from the package last upserted under that name. The star lists these
names with score one, each once and in the order of their bytes, and the size is their number. A
rebuilding returns how many packages the catalog lists; when the catalog cannot be loaded it
returns why, and nothing changes. -/
theorem documents_after_history (operations : List Operation) :
    let index := operations.foldl perform empty
    let packages := operations.foldl Packages.perform ∅
    (∀ name, index.documents.filter (fun document => document.id = name) =
      ((packages.lookup name).map Document.ofManifest).toList) ∧
    (∃ hits, index.query wildcard = .ok hits ∧
      (∀ hit, hit ∈ hits ↔ hit.name ∈ packages ∧ hit.score = FixedPoint.one) ∧
      hits.Pairwise fun left right => left.name.toUTF8.toList < right.name.toUTF8.toList) ∧
    index.size = packages.keys.card ∧
    (∀ catalog, (index.rebuild (.ok catalog)).2 = .ok catalog.length) ∧
    ∀ cause, index.rebuild (.error cause) = (index, .error (.catalog cause)) := by
  intro index packages
  have shows : Shows index.documents packages := by
    apply Shows.performAll
    exact Shows.nothing
  refine ⟨shows, ⟨index.listing, ?_, shows.mem_listing, shows.listing_names⟩,
    shows.length_eq, ?_, ?_⟩
  · rw [query, if_pos rfl]
  · exact fun catalog => rfl
  · exact fun cause => rfl

end PackageSearch.Index
