import Mathlib
import PackageSearch.Proofs.Storage.Paths
import PackageSearch.Storage.Leaves

/-!
# The walk over a directory

A walk comes by all that is reached from where it starts, and by each thing once. The order is that
of the names on the way, compared one after the other, where what stands above comes first. A
directory that the walk comes by is the parent of another one exactly if it has a subdirectory, so
the leaves are the directories without one.
-/

set_option autoImplicit false

namespace PackageSearch.Storage

namespace Entry

/-- What holds of files and links, and of a directory if it holds of its entries, holds of all. -/
@[elab_as_elim]
theorem inductionOnEntries {motive : Entry → Prop} (entry : Entry)
    (file : ∀ content, motive (.file content)) (link : ∀ target, motive (.link target))
    (directory : ∀ modified children, (∀ child ∈ children, motive child.2) →
      motive (.directory modified children)) : motive entry :=
  match entry with
  | .file content => file content
  | .link target => link target
  | .directory modified children => directory modified children fun child _ =>
      inductionOnEntries child.2 file link directory
termination_by entry
decreasing_by
  rename_i held
  have smaller := List.sizeOf_lt_of_mem held
  obtain ⟨name, below⟩ := child
  simp only [Prod.mk.sizeOf_spec, Entry.directory.sizeOf_spec] at smaller ⊢
  omega

/-- Every directory that is reached holds different names, each the name of a file. -/
def WellFormed (entry : Entry) : Prop :=
  ∀ names modified children, entry.at? names = some (.directory modified children) →
    (children.map Prod.fst).Nodup ∧ ∀ child ∈ children, IsFileName child.1

/-- The leaf is a directory that is reached from the entry and has no subdirectory. -/
def IsLeaf (entry : Entry) (leaf : Leaf) : Prop :=
  ∃ children, entry.at? leaf.names = some (.directory leaf.modified children) ∧
    ∀ child ∈ children, child.2.isDirectory = false

variable {modified : Instant} {children : List (FileName × Entry)}

theorem lookup_eq_some_iff_mem (distinct : (children.map Prod.fst).Nodup) (name : FileName)
    (entry : Entry) : children.lookup name = some entry ↔ (name, entry) ∈ children := by
  induction children with
  | nil => simp
  | cons child rest ih =>
      obtain ⟨other, held⟩ := child
      obtain ⟨fresh, distinctRest⟩ := List.nodup_cons.mp distinct
      rw [List.lookup_cons, List.mem_cons, Prod.mk.injEq]
      by_cases same : name = other
      · subst same
        have unlisted : (name, entry) ∉ rest := fun listed =>
          fresh (List.mem_map.mpr ⟨_, listed, rfl⟩)
        simp [unlisted, eq_comm]
      · have differs : (name == other) = false := by simpa using same
        simp only [differs, ih distinctRest, same, false_and, false_or]

/-- What is reached through a directory is reached from one of its entries. -/
theorem at?_cons_eq_some_iff (distinct : (children.map Prod.fst).Nodup) (name : FileName)
    (rest : List FileName) (found : Entry) :
    (directory modified children).at? (name :: rest) = some found ↔
      ∃ child, (name, child) ∈ children ∧ child.at? rest = some found := by
  change (children.lookup name).bind (fun child => child.at? rest) = some found ↔ _
  rw [Option.bind_eq_some_iff]
  simp only [lookup_eq_some_iff_mem distinct]

theorem WellFormed.distinct (wellFormed : (directory modified children).WellFormed) :
    (children.map Prod.fst).Nodup :=
  (wellFormed [] modified children rfl).1

theorem WellFormed.child (wellFormed : (directory modified children).WellFormed)
    {child : FileName × Entry} (held : child ∈ children) : child.2.WellFormed := by
  intro names below others reached
  apply wellFormed (child.1 :: names) below others
  rw [at?_cons_eq_some_iff wellFormed.distinct]
  exact ⟨child.2, held, reached⟩

theorem wellFormed_directory (distinct : (children.map Prod.fst).Nodup)
    (entries : ∀ child ∈ children, IsFileName child.1 ∧ child.2.WellFormed) :
    (directory modified children).WellFormed := by
  intro names below others reached
  cases names with
  | nil =>
      cases reached
      exact ⟨distinct, fun child held => (entries child held).1⟩
  | cons name rest =>
      obtain ⟨child, held, further⟩ := (at?_cons_eq_some_iff distinct ..).mp reached
      exact (entries _ held).2 rest below others further

theorem at?_eq_none_of_childless {entry : Entry} (childless : entry.children = [])
    {names : List FileName} (further : names ≠ []) : entry.at? names = none := by
  obtain ⟨name, rest, rfl⟩ := List.exists_cons_of_ne_nil further
  rw [at?, child?, childless]
  rfl

theorem at?_append (entry : Entry) (front rest : List FileName) :
    entry.at? (front ++ rest) = (entry.at? front).bind fun found => found.at? rest := by
  induction front generalizing entry with
  | nil => rfl
  | cons name others ih =>
      change (entry.child? name).bind (fun child => child.at? (others ++ rest)) = _
      simp only [ih]
      exact (Option.bind_assoc _ _ _).symm

theorem WellFormed.of_at? {root found : Entry} (wellFormed : root.WellFormed)
    {place : List FileName} (reached : root.at? place = some found) : found.WellFormed := by
  intro names modified children further
  apply wellFormed (place ++ names) modified children
  rw [at?_append, reached, Option.bind_some, further]

/-- The names on the way to what is reached are names of files. -/
theorem WellFormed.isFileName {entry found : Entry} (wellFormed : entry.WellFormed)
    {names : List FileName} (reached : entry.at? names = some found) :
    ∀ name ∈ names, IsFileName name := by
  induction names generalizing entry with
  | nil => simp
  | cons name rest ih =>
      cases entry with
      | file content => cases reached
      | link target => cases reached
      | directory modified children =>
          obtain ⟨child, held, further⟩ :=
            (at?_cons_eq_some_iff wellFormed.distinct ..).mp reached
          have named := (wellFormed [] modified children rfl).2 _ held
          exact List.forall_mem_cons.mpr ⟨named, ih (wellFormed.child held) further⟩

end Entry

open Entry (IsLeaf)

/-! ## What a walk comes by -/

theorem walksOfAll_eq (children : List (FileName × Entry)) :
    walksOfAll children = children.map fun child => (child.1, ⟨[], child.2⟩ :: child.2.walk) := by
  induction children with
  | nil => rfl
  | cons child rest ih => rw [walksOfAll, ih, List.map_cons]

theorem mem_inOrder {found : List (FileName × List Visit)} {visit : Visit} :
    visit ∈ inOrder found ↔
      ∃ sibling ∈ found, ∃ below ∈ sibling.2, below.under sibling.1 = visit := by
  simp only [inOrder, List.mem_flatMap, List.mem_mergeSort, List.mem_map]

/-- A walk comes by what is reached over at least one name. -/
theorem mem_walk_iff {entry : Entry} (wellFormed : entry.WellFormed) (visit : Visit) :
    visit ∈ entry.walk ↔ entry.at? visit.names = some visit.entry ∧ visit.names ≠ [] := by
  induction entry using Entry.inductionOnEntries generalizing visit with
  | file content =>
      refine iff_of_false List.not_mem_nil fun ⟨reached, further⟩ => ?_
      cases (Entry.at?_eq_none_of_childless rfl further).symm.trans reached
  | link target =>
      refine iff_of_false List.not_mem_nil fun ⟨reached, further⟩ => ?_
      cases (Entry.at?_eq_none_of_childless rfl further).symm.trans reached
  | directory modified children ih =>
      have sibling {child : FileName × Entry} (held : child ∈ children) (below : Visit) :
          below ∈ Visit.mk [] child.2 :: child.2.walk ↔
            child.2.at? below.names = some below.entry := by
        obtain ⟨names, found⟩ := below
        rw [List.mem_cons, ih child held (wellFormed.child held)]
        cases names with
        | nil => simp [Entry.at?, eq_comm]
        | cons name rest => simp
      rw [Entry.walk, walksOfAll_eq, mem_inOrder]
      simp only [List.mem_map, exists_exists_and_eq_and]
      constructor
      · rintro ⟨child, held, below, listed, rfl⟩
        refine ⟨?_, List.cons_ne_nil _ _⟩
        exact (Entry.at?_cons_eq_some_iff wellFormed.distinct ..).mpr
          ⟨child.2, held, (sibling held below).mp listed⟩
      · rintro ⟨reached, further⟩
        obtain ⟨names, found⟩ := visit
        obtain ⟨name, rest, rfl⟩ := List.exists_cons_of_ne_nil further
        obtain ⟨child, held, below⟩ :=
          (Entry.at?_cons_eq_some_iff wellFormed.distinct ..).mp reached
        exact ⟨(name, child), held, ⟨rest, found⟩, (sibling held _).mpr below, rfl⟩

/-- Visits to siblings and below them come in the order of the names on the way to them. -/
theorem pairwise_inOrder {found : List (FileName × List Visit)}
    (distinct : (found.map Prod.fst).Nodup)
    (ordered : ∀ sibling ∈ found, sibling.2.Pairwise fun left right => left.names < right.names) :
    (inOrder found).Pairwise fun left right => left.names < right.names := by
  let sorted := found.mergeSort fun left right => nameLe left.1 right.1
  have nameLe_iff (left right : FileName) : nameLe left right = true ↔ left ≤ right := by
    rw [nameLe, Bool.not_eq_true', decide_eq_false_iff_not, List.not_lt]
  have ascending : sorted.Pairwise fun left right => left.1 ≤ right.1 := by
    refine List.Pairwise.imp (fun {_ _} => (nameLe_iff _ _).mp)
      (List.pairwise_mergeSort (fun first second third => ?_) (fun first second => ?_) _)
    · rw [nameLe_iff, nameLe_iff, nameLe_iff]
      exact List.le_trans
    · rw [Bool.or_eq_true, nameLe_iff, nameLe_iff]
      exact List.le_total first.1 second.1
  have different : sorted.Pairwise fun left right => left.1 ≠ right.1 :=
    List.pairwise_map.mp (((List.mergeSort_perm found _).map Prod.fst).nodup_iff.mpr distinct)
  rw [inOrder, List.pairwise_flatMap]
  constructor
  · intro sibling listed
    rw [List.pairwise_map]
    refine (ordered sibling (List.mem_mergeSort.mp listed)).imp fun {left right} before => ?_
    exact List.cons_lt_cons_iff.mpr (.inr ⟨rfl, before⟩)
  · refine (ascending.and different).imp fun {left right} both => ?_
    intro first firstFound second secondFound
    obtain ⟨firstBelow, -, rfl⟩ := List.mem_map.mp firstFound
    obtain ⟨secondBelow, -, rfl⟩ := List.mem_map.mp secondFound
    exact List.cons_lt_cons_iff.mpr (.inl (Std.lt_of_le_of_ne both.1 both.2))

/-- A walk comes by each entry once, in the order of the names on the way there. -/
theorem pairwise_walk {entry : Entry} (wellFormed : entry.WellFormed) :
    entry.walk.Pairwise fun left right => left.names < right.names := by
  induction entry using Entry.inductionOnEntries with
  | file content => exact .nil
  | link target => exact .nil
  | directory modified children ih =>
      rw [Entry.walk, walksOfAll_eq]
      apply pairwise_inOrder
      · rw [List.map_map]
        exact wellFormed.distinct
      · intro sibling listed
        obtain ⟨child, held, rfl⟩ := List.mem_map.mp listed
        have inner := wellFormed.child held
        refine List.pairwise_cons.mpr ⟨fun below inside => ?_, ih child held inner⟩
        obtain ⟨name, rest, named⟩ :=
          List.exists_cons_of_ne_nil ((mem_walk_iff inner below).mp inside).2
        rw [named]
        exact List.nil_lt_cons name rest

/-! ## Leaf directories -/

theorem Visit.directory?_eq_some_iff {visit : Visit} {leaf : Leaf} :
    visit.directory? = some leaf ↔
      visit.names = leaf.names ∧ ∃ children, visit.entry = .directory leaf.modified children := by
  obtain ⟨names, entry⟩ := visit
  obtain ⟨others, modified⟩ := leaf
  cases entry with
  | file content => simp [directory?]
  | link target => simp [directory?]
  | directory time children => simp [directory?]

theorem mem_directories_iff {entry : Entry} (wellFormed : entry.WellFormed) (leaf : Leaf) :
    leaf ∈ entry.walk.filterMap Visit.directory? ↔
      (∃ children, entry.at? leaf.names = some (.directory leaf.modified children)) ∧
        leaf.names ≠ [] := by
  simp only [List.mem_filterMap, mem_walk_iff wellFormed, Visit.directory?_eq_some_iff]
  constructor
  · rintro ⟨visit, ⟨reached, further⟩, named, children, found⟩
    rw [named, found] at reached
    exact ⟨⟨children, reached⟩, named ▸ further⟩
  · rintro ⟨⟨children, reached⟩, further⟩
    exact ⟨⟨leaf.names, _⟩, ⟨reached, further⟩, rfl, children, rfl⟩

/-- The parents of the directories of a walk are what holds a directory. -/
theorem mem_parents_iff {entry : Entry} (wellFormed : entry.WellFormed) {names : List FileName}
    {modified : Instant} {children : List (FileName × Entry)}
    (reached : entry.at? names = some (.directory modified children)) :
    names ∈ (entry.walk.filterMap Visit.directory?).map
        (fun directory => directory.names.dropLast) ↔
      ∃ child ∈ children, child.2.isDirectory = true := by
  have distinct := (wellFormed names modified children reached).1
  have below (name : FileName) (child : Entry) :
      entry.at? (names ++ [name]) = some child ↔ (name, child) ∈ children := by
    rw [Entry.at?_append, reached, Option.bind_some, Entry.at?_cons_eq_some_iff distinct]
    simp [Entry.at?]
  rw [List.mem_map]
  constructor
  · rintro ⟨leaf, listed, rfl⟩
    obtain ⟨⟨others, found⟩, further⟩ := (mem_directories_iff wellFormed leaf).mp listed
    rw [← List.dropLast_append_getLast further, below] at found
    exact ⟨_, found, rfl⟩
  · rintro ⟨⟨name, child⟩, held, isDirectory⟩
    cases child with
    | file content => cases isDirectory
    | link target => cases isDirectory
    | directory time others =>
        refine ⟨⟨names ++ [name], time⟩, ?_, List.dropLast_concat⟩
        refine (mem_directories_iff wellFormed _).mpr ⟨⟨others, ?_⟩, by simp⟩
        exact (below name _).mpr held

/-- The leaves below an entry are those that are reached from it over at least one name. -/
theorem mem_leaves_iff {entry : Entry} (wellFormed : entry.WellFormed) (leaf : Leaf) :
    leaf ∈ entry.leaves ↔ IsLeaf entry leaf ∧ leaf.names ≠ [] := by
  have bare {children : List (FileName × Entry)}
      (reached : entry.at? leaf.names = some (.directory leaf.modified children)) :
      leaf.names ∉ (entry.walk.filterMap Visit.directory?).map
          (fun directory => directory.names.dropLast) ↔
        ∀ child ∈ children, child.2.isDirectory = false := by
    rw [mem_parents_iff wellFormed reached]
    simp
  have kept (parents : List (List FileName)) :
      (! parents.contains leaf.names) = true ↔ leaf.names ∉ parents := by
    simp
  rw [Entry.leaves, List.mem_filter, mem_directories_iff wellFormed, kept]
  constructor
  · rintro ⟨⟨⟨children, reached⟩, further⟩, noParent⟩
    exact ⟨⟨children, reached, (bare reached).mp noParent⟩, further⟩
  · rintro ⟨⟨children, reached, without⟩, further⟩
    exact ⟨⟨⟨children, reached⟩, further⟩, (bare reached).mpr without⟩

/-- The leaves come in strictly ascending order, so each of them once. -/
theorem pairwise_leaves {entry : Entry} (wellFormed : entry.WellFormed) :
    entry.leaves.Pairwise fun left right => left.names < right.names := by
  refine List.Pairwise.filter _ (List.pairwise_filterMap.mpr ?_)
  refine (pairwise_walk wellFormed).imp fun {left right} before first isFirst second isSecond => ?_
  rw [← (Visit.directory?_eq_some_iff.mp isFirst).1, ← (Visit.directory?_eq_some_iff.mp isSecond).1]
  exact before

end PackageSearch.Storage
