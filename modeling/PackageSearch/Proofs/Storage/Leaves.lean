import Mathlib
import PackageSearch.Proofs.Storage.Discovery

/-!
# Leaf directories below a path

The leaf directories below a path are the directories under it that hold no directory. They are
listed once each, as a depth-first walk comes by them that takes siblings by the bytes of their
names. What is at the end of a link is not below the path, and a link is no directory.
-/

set_option autoImplicit false

namespace PackageSearch.Storage

open Entry (IsLeaf)

/-! ## Depth-first order -/

/-- The ways to two places part at siblings, and the first one is by the sibling with the lesser
name. -/
inductive PartsBefore : List FileName → List FileName → Prop where
  | parting (common firstRest secondRest : List FileName) {left right : FileName}
      (lesser : left < right) :
      PartsBefore (common ++ left :: firstRest) (common ++ right :: secondRest)

theorem PartsBefore.cons {first second : List FileName} (parts : PartsBefore first second)
    (name : FileName) : PartsBefore (name :: first) (name :: second) := by
  cases parts with
  | parting common firstRest secondRest lesser =>
      exact .parting (name :: common) firstRest secondRest lesser

/-- The lesser of two ways leads on to the place of the other one, or parts from it before. -/
theorem prefix_or_partsBefore {first second : List FileName} (before : first < second) :
    first <+: second ∨ PartsBefore first second := by
  induction first generalizing second with
  | nil => exact .inl List.nil_prefix
  | cons left firstRest ih =>
      cases second with
      | nil => exact absurd before (List.not_lt_nil _)
      | cons right secondRest =>
          rcases List.cons_lt_cons_iff.mp before with lesser | ⟨rfl, further⟩
          · exact .inr (.parting [] firstRest secondRest lesser)
          · rcases ih further with leads | parts
            · exact .inl (List.cons_prefix_cons.mpr ⟨rfl, leads⟩)
            · exact .inr (parts.cons left)

theorem PartsBefore.ne {first second : List FileName} (parts : PartsBefore first second) :
    first ≠ second := by
  cases parts with
  | parting common firstRest secondRest lesser =>
      intro same
      obtain ⟨rfl, -⟩ := List.cons.inj (List.append_cancel_left same)
      exact List.lt_irrefl _ lesser

/-! ## Leaves are not above one another -/

theorem Entry.wellFormed_of_childless {entry : Entry} (childless : entry.children = []) :
    entry.WellFormed := by
  intro names modified children reached
  cases names with
  | nil =>
      cases reached
      have none : children = [] := childless
      rw [none]
      exact ⟨.nil, List.forall_mem_nil _⟩
  | cons name rest =>
      cases (at?_eq_none_of_childless childless (List.cons_ne_nil name rest)).symm.trans reached

/-- A directory is reached from directories only. -/
theorem Entry.isDirectory_of_at? {entry : Entry} {names : List FileName} {modified : Instant}
    {children : List (FileName × Entry)}
    (reached : entry.at? names = some (.directory modified children)) :
    entry.isDirectory = true := by
  have here (childless : entry.children = []) : entry = .directory modified children := by
    cases names with
    | nil => exact Option.some.inj reached
    | cons name rest =>
        cases (at?_eq_none_of_childless childless (List.cons_ne_nil name rest)).symm.trans reached
  cases entry with
  | directory time held => rfl
  | file content => cases here rfl
  | link target => cases here rfl

theorem Entry.IsLeaf.eq_of_prefix {entry : Entry} (wellFormed : entry.WellFormed)
    {leaf other : Leaf} (isLeaf : IsLeaf entry leaf) (isOther : IsLeaf entry other)
    (leads : leaf.names <+: other.names) : leaf.names = other.names := by
  obtain ⟨children, reached, bare⟩ := isLeaf
  obtain ⟨others, reachedOther, -⟩ := isOther
  obtain ⟨further, whole⟩ := leads
  rw [← whole, Entry.at?_append, reached, Option.bind_some] at reachedOther
  cases further with
  | nil => rw [← whole, List.append_nil]
  | cons name rest =>
      have distinct := (wellFormed _ _ _ reached).1
      obtain ⟨child, held, below⟩ := (Entry.at?_cons_eq_some_iff distinct ..).mp reachedOther
      have isDirectory : child.isDirectory = true := Entry.isDirectory_of_at? below
      exact absurd (isDirectory.symm.trans (bare _ held)) (by decide)

theorem pairwise_partsBefore {entry : Entry} (wellFormed : entry.WellFormed) :
    entry.leaves.Pairwise fun left right => PartsBefore left.names right.names := by
  refine (pairwise_leaves wellFormed).imp_of_mem fun {left right} isLeft isRight before => ?_
  have leftLeaf := ((mem_leaves_iff wellFormed left).mp isLeft).1
  have rightLeaf := ((mem_leaves_iff wellFormed right).mp isRight).1
  rcases prefix_or_partsBefore before with leads | parts
  · have same := leftLeaf.eq_of_prefix wellFormed rightLeaf leads
    exact absurd (same ▸ before) (List.lt_irrefl _)
  · exact parts

/-! ## The list -/

namespace Discovery

/-- Where a path leads to an entry, the leaf directories below it are listed: each directory under
the path that holds no directory, with the time of its own last change, and nothing else; in
depth-first order, siblings by their names' bytes; none twice, and never the path itself. -/
theorem leaves_exactly {tree : FileTree} (wellFormed : tree.root.WellFormed) {directory : Path}
    {entry : Entry} (reached : tree.entry directory = .ok entry) :
    ∃ found, leaves tree directory = .ok found ∧
      (∀ path modified, (path, modified) ∈ found ↔
        ∃ names children, names ≠ [] ∧ path = pathBelow directory names ∧
          entry.at? names = some (.directory modified children) ∧
          ∀ child ∈ children, child.2.isDirectory = false) ∧
      found.Pairwise (fun first second => ∃ names others,
        first.1 = pathBelow directory names ∧ second.1 = pathBelow directory others ∧
          PartsBefore names others) ∧
      (found.map fun leaf => leaf.1.components).Nodup ∧
      ∀ leaf ∈ found, leaf.1.components ≠ directory.components := by
  obtain ⟨place, led⟩ := at?_of_entry reached
  have wellFormedEntry : entry.WellFormed := wellFormed.of_at? led
  have components {leaf : Leaf} (listed : leaf ∈ entry.leaves) :
      (pathBelow directory leaf.names).components =
        directory.components ++ leaf.names.map .normal := by
    obtain ⟨⟨children, reached, -⟩, -⟩ := (mem_leaves_iff wellFormedEntry leaf).mp listed
    exact components_pathBelow directory (wellFormedEntry.isFileName reached)
  refine ⟨entry.leaves.map fun leaf => (pathBelow directory leaf.names, leaf.modified),
    ?_, fun path modified => ?_, ?_, ?_, ?_⟩
  · rw [leaves, reached]
  · rw [List.mem_map]
    constructor
    · rintro ⟨leaf, listed, same⟩
      obtain ⟨rfl, rfl⟩ := Prod.mk.inj same
      obtain ⟨⟨children, found, bare⟩, further⟩ := (mem_leaves_iff wellFormedEntry leaf).mp listed
      exact ⟨leaf.names, children, further, rfl, found, bare⟩
    · rintro ⟨names, children, further, rfl, found, bare⟩
      refine ⟨⟨names, modified⟩, ?_, rfl⟩
      exact (mem_leaves_iff wellFormedEntry _).mpr ⟨⟨children, found, bare⟩, further⟩
  · rw [List.pairwise_map]
    exact (pairwise_partsBefore wellFormedEntry).imp fun {left right} parts =>
      ⟨left.names, right.names, rfl, rfl, parts⟩
  · rw [List.map_map]
    refine List.pairwise_map.mpr ((pairwise_partsBefore wellFormedEntry).imp_of_mem
      fun {left right} isLeft isRight parts same => parts.ne ?_)
    rw [Function.comp_apply, Function.comp_apply, components isLeft, components isRight,
      List.append_cancel_left_eq] at same
    exact List.map_injective_iff.mpr (fun _ _ named => Component.normal.inj named) same
  · intro found listed
    obtain ⟨leaf, isLeaf, rfl⟩ := List.mem_map.mp listed
    rw [components isLeaf]
    simpa using ((mem_leaves_iff wellFormedEntry leaf).mp isLeaf).2

def linkedTree : FileTree :=
  let name (text : String) : FileName := text.toUTF8.toList
  let link (target : String) : Entry := .link (Path.ofText target)
  ⟨.directory .epoch
    [(name "pad", .directory { seconds := 2, nanoseconds := 0 }
        [(name "package.json", .file []), (name "self", link "/pad")]),
      (name "all", link "/@scope"),
      (name "@scope", .directory { seconds := 1, nanoseconds := 0 }
        [(name "pad-b", .emptyDirectory), (name "note", .file []),
          (name "pad", .directory { seconds := 3, nanoseconds := 0 } [])])],
    []⟩

theorem wellFormed_linkedTree : linkedTree.root.WellFormed := by
  apply Entry.wellFormed_directory
  · decide +kernel
  · intro child held
    fin_cases held
    · refine ⟨by decide +kernel, Entry.wellFormed_directory (by decide +kernel) ?_⟩
      intro inner inside
      fin_cases inside <;> exact ⟨by decide +kernel, Entry.wellFormed_of_childless rfl⟩
    · exact ⟨by decide +kernel, Entry.wellFormed_of_childless rfl⟩
    · refine ⟨by decide +kernel, Entry.wellFormed_directory (by decide +kernel) ?_⟩
      intro inner inside
      fin_cases inside <;> exact ⟨by decide +kernel, Entry.wellFormed_of_childless rfl⟩

/-- A tree with files, a link to a directory, and a leaf that holds a link to itself. -/
theorem leaves_exactly_sample :
    let directory := Path.ofText "/"
    (linkedTree.root.WellFormed ∧ linkedTree.entry directory = .ok linkedTree.root) ∧
      ∃ found, leaves linkedTree directory = .ok found ∧
        found.map (fun leaf => (leaf.1.text, leaf.2)) =
          [("/@scope/pad", { seconds := 3, nanoseconds := 0 }), ("/@scope/pad-b", .epoch),
            ("/pad", { seconds := 2, nanoseconds := 0 })] ∧
        ∀ leaf ∈ found, leaf.1.components ≠ directory.components := by
  intro directory
  have reached : linkedTree.entry directory = .ok linkedTree.root := by cbv
  refine ⟨⟨wellFormed_linkedTree, reached⟩, ?_⟩
  obtain ⟨found, listed, -, -, -, noRoot⟩ := leaves_exactly wellFormed_linkedTree reached
  have shown : (leaves linkedTree directory).toOption.map
      (List.map fun leaf => (leaf.1.text, leaf.2)) =
        some [("/@scope/pad", { seconds := 3, nanoseconds := 0 }), ("/@scope/pad-b", .epoch),
          ("/pad", { seconds := 2, nanoseconds := 0 })] := by
    cbv
  rw [listed] at shown
  exact ⟨found, listed, Option.some.inj shown, noRoot⟩

end Discovery

end PackageSearch.Storage
