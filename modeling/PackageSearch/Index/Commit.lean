import PackageSearch.Index.Document

/-!
# Commits

Documents enter the index in commits. A document that is removed or replaced is retired: it is no
longer found, but counts in the statistics until no document of its commit is live any more.
`live_retire` says what retiring does to the live documents.
-/

set_option autoImplicit false

namespace PackageSearch.Index

/-- A document of a commit. -/
structure Entry where
  document : Document
  isLive : Bool
  deriving DecidableEq

/-- Documents that entered the index together, in the order in which they were added. -/
abbrev Commit := List Entry

def live (entries : List Entry) : List Document :=
  (entries.filter Entry.isLive).map Entry.document

def Entry.retire (id : String) (entry : Entry) : Entry :=
  if entry.document.id = id then { entry with isLive := false } else entry

namespace Commit

def retire (id : String) (commit : Commit) : Commit :=
  commit.map (Entry.retire id)

/-- A commit whose last document is `document`; earlier ones of that name are retired. -/
def push (commit : Commit) (document : Document) : Commit :=
  commit.retire document.id ++ [⟨document, true⟩]

def ofDocuments (documents : List Document) : Commit :=
  documents.foldl push []

end Commit

theorem live_append (left right : List Entry) : live (left ++ right) = live left ++ live right := by
  simp [live]

/-- Retiring takes away the live documents of the name and nothing else. -/
theorem live_retire (id : String) (commit : Commit) :
    live (Commit.retire id commit) = (live commit).filter fun document => document.id ≠ id := by
  induction commit with
  | nil => rfl
  | cons entry rest ih =>
      unfold Commit.retire at ih ⊢
      obtain ⟨document, isLive⟩ := entry
      cases isLive <;> by_cases same : document.id = id <;>
        simp_all [live, Entry.retire]

/-- A pushed document is the only live one of its name. -/
theorem live_push (commit : Commit) (document : Document) :
    live (commit.push document) =
      ((live commit).filter fun other => other.id ≠ document.id) ++ [document] := by
  rw [Commit.push, live_append, live_retire]
  simp [live]

end PackageSearch.Index
