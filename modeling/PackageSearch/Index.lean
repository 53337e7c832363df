import PackageSearch.Index.Commit
import PackageSearch.Index.Reader
import PackageSearch.Index.Relevance
import PackageSearch.Storage.Error

/-!
# The local index

A full-text index over the local catalog, one document for each package name. `Index.documents` is
what can be found; adding, removing and rebuilding are described by what they do to it. A query
text is answered with the names of the documents that meet it, the best first.
-/

set_option autoImplicit false

namespace PackageSearch

open Index (Commit Document Entry Token live)
open Package (Manifest)

/-- Why the index could not do what it was asked. -/
inductive IndexError where
  | catalog (cause : StoreError)
  | oversizedRun (run : Token)

def IndexError.text : IndexError → String
  | catalog cause => "failed to load local catalog: " ++ cause.text
  | oversizedRun _ => "invalid index query: a word is too long"

/-- A change of the local catalog. -/
inductive CatalogEvent where
  | published (manifest : Manifest)
  | updated (manifest : Manifest)
  | unpublished (name : String)

/-- The commits of an index, the oldest first. -/
structure Index where
  commits : List Commit

/-- A found package. -/
structure Hit where
  name : String
  score : Nat
  deriving DecidableEq, Inhabited

def Hit.hundredths (hit : Hit) : Nat :=
  (hit.score * 100 + FixedPoint.one / 2) / FixedPoint.one

def Hit.scoreText (hit : Hit) : String :=
  let whole := toString (hit.hundredths / 100)
  let digits := toString (hit.hundredths % 100)
  whole ++ (if digits.length = 1 then ".0" else ".") ++ digits

namespace Index

def empty : Index := ⟨[]⟩

/-- The documents that can be found, in the order in which they were added. -/
def documents (index : Index) : List Document :=
  index.commits.flatMap live

def size (index : Index) : Nat := index.documents.length

def isEmpty (index : Index) : Bool := index.documents.isEmpty

def collection (index : Index) : List Document :=
  index.commits.flatMap fun commit => commit.map Entry.document

def prune (index : Index) : Index :=
  ⟨index.commits.filter fun commit => ! (live commit).isEmpty⟩

def remove (index : Index) (name : String) : Index :=
  prune ⟨index.commits.map (Commit.retire name)⟩

def add (index : Index) (manifest : Manifest) : Index :=
  let document := Document.ofManifest manifest
  ⟨(index.remove document.id).commits ++ [[⟨document, true⟩]]⟩

def apply (index : Index) : CatalogEvent → Index
  | .published manifest => index.add manifest
  | .updated manifest => index.add manifest
  | .unpublished name => index.remove name

/-- The index of a catalog, in which the last of several packages with one name counts. -/
def ofCatalog (catalog : List Manifest) : Index :=
  prune ⟨[Commit.ofDocuments (catalog.map Document.ofManifest)]⟩

/-- Rebuild the index from the catalog, and say how many packages that holds; without a catalog the
index stays as it is. -/
def rebuild (index : Index) (catalog : Except StoreError (List Manifest)) :
    Index × Except IndexError Nat :=
  match catalog with
  | .ok manifests => (ofCatalog manifests, .ok manifests.length)
  | .error cause => (index, .error (.catalog cause))

def wildcard : String := "*"

/-- The length in bytes from which on a run of a query text cannot be looked for inside names. -/
def runLimit : Nat := 4990

def isOversized (run : Token) : Bool :=
  runLimit ≤ (String.ofList run).utf8ByteSize

/-- The score of a document for a query, as the sum of what its words and its runs give. -/
def score? (index : Index) (query : Index.Clause) (runs : List Token) (document : Document) :
    Option Nat :=
  match query.score? index.collection document, infixScore document runs with
  | some score, some more => some (score + more)
  | some score, none => some score
  | none, more => more

/-- Every document with score one, in the order of the names. -/
def listing (index : Index) : List Hit :=
  (index.documents.mergeSort fun left right => ! (right.id < left.id)).map fun document =>
    ⟨document.id, FixedPoint.one⟩

/-- The packages that meet a query text, the best first. -/
def query (index : Index) (text : String) : Except IndexError (List Hit) :=
  if text = wildcard then .ok index.listing
  else
    let runs := infixTokens text.toList
    match runs.find? isOversized with
    | some run => .error (.oversizedRun run)
    | none =>
        let query := Clause.ofExpression (Expression.ofText text.toList)
        let hits := index.documents.filterMap fun document =>
          (index.score? query runs document).map fun score => ⟨document.id, score⟩
        .ok (hits.mergeSort fun left right => right.score ≤ left.score)

/-- Forgetting commits takes no document away. -/
theorem documents_prune (index : Index) : (prune index).documents = index.documents := by
  obtain ⟨commits⟩ := index
  induction commits with
  | nil => rfl
  | cons commit rest ih =>
      simp only [prune, documents] at ih ⊢
      by_cases none : live commit = [] <;> simp_all

/-- Removing takes away the documents of a name and nothing else. -/
theorem documents_remove (index : Index) (name : String) :
    (index.remove name).documents =
      index.documents.filter fun document => document.id ≠ name := by
  rw [remove, documents_prune]
  obtain ⟨commits⟩ := index
  induction commits with
  | nil => rfl
  | cons commit rest ih =>
      simp only [documents, List.map_cons, List.flatMap_cons, List.filter_append] at ih ⊢
      rw [ih, live_retire]

/-- Adding puts a document at the end and takes away the one of that name. -/
theorem documents_add (index : Index) (manifest : Manifest) :
    (index.add manifest).documents =
      (index.documents.filter fun document => document.id ≠ manifest.name) ++
        [Document.ofManifest manifest] := by
  have removed := documents_remove index manifest.name
  simp only [documents] at removed
  simp [add, documents, Document.ofManifest, removed, live]

end Index

end PackageSearch
