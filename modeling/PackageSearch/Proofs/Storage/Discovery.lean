import Mathlib
import PackageSearch.Proofs.Pattern.Literal
import PackageSearch.Proofs.Storage.Walk
import PackageSearch.Proofs.Text.Utf8
import PackageSearch.Storage.Discovery

/-!
# The packages in a storage directory

A discovery finds a package in every leaf directory that is no storage root itself and whose name,
seen from the deepest root above it, is one that packages may have. Roots are compared with paths
component by component, so neither the spelling of a root counts nor a directory whose name only
begins like that of a root. From the root and the name the path can be told, and so two packages of
one name stand under different roots. Which names a text asks for is left to a pattern engine; of it
only that escaped texts stand for themselves is used.
-/

set_option autoImplicit false

namespace PackageSearch.Storage

open Entry (IsLeaf)

/-! ## Names -/

theorem flatMap_intercalate {α β : Type} (encode : α → List β) (separator : List α)
    (texts : List (List α)) :
    (separator.intercalate texts).flatMap encode =
      (separator.flatMap encode).intercalate (texts.map fun text => text.flatMap encode) := by
  induction texts with
  | nil => rfl
  | cons text rest ih =>
      cases rest with
      | nil => simp
      | cons next others =>
          rw [List.intercalate_cons_cons, List.flatMap_append, List.flatMap_append, ih]
          simp [List.intercalate_cons_cons]

/-- The bytes of texts with slashes between them. -/
theorem bytes_joinWith (texts : List String) :
    (Text.joinWith "/" texts).toUTF8.toList =
      [Path.slash].intercalate (texts.map fun text => text.toUTF8.toList) := by
  have mark : ("/" : String).toList.flatMap String.utf8EncodeChar = [Path.slash] := by
    decide +kernel
  rw [Text.bytes_eq, Text.joinWith, String.toList_intercalate, flatMap_intercalate, mark,
    List.map_map]
  exact congrArg _ (List.map_congr_left fun text _ => (Text.bytes_eq text).symm)

namespace Path

theorem isAbsolute_intercalate {names : List FileName}
    (areNames : ∀ name ∈ names, IsFileName name) :
    isAbsolute ⟨[slash].intercalate names⟩ = false := by
  cases names with
  | nil => rfl
  | cons name rest =>
      have isName := areNames name List.mem_cons_self
      obtain ⟨first, others, rfl⟩ := List.exists_cons_of_ne_nil isName.nonempty
      have relative := isAbsolute_name isName
      cases rest with
      | nil => simpa [isAbsolute] using relative
      | cons next tail => simpa [isAbsolute, List.intercalate_cons_cons] using relative

theorem startsWith_iff {path base : Path} :
    path.startsWith base = true ↔ base.components <+: path.components :=
  List.isPrefixOf_iff_prefix

end Path

namespace Discovery

/-- The path leads from the base over directories whose names are texts, and these with slashes
between them are the name. -/
def Spells (path base : Path) (name : String) : Prop :=
  ∃ texts : List String, name = Text.joinWith "/" texts ∧
    path.components = base.components ++ texts.map fun text => .normal text.toUTF8.toList

theorem componentText?_eq_some_iff {component : Component} {text : String} :
    componentText? component = some text ↔ component = .normal text.toUTF8.toList := by
  cases component with
  | normal name => simp [componentText?, Text.utf8?_eq_some_iff]
  | _ => simp [componentText?]

theorem mapM_componentText? {components : List Component} {texts : List String} :
    components.mapM componentText? = some texts ↔
      components = texts.map fun text => .normal text.toUTF8.toList := by
  induction components generalizing texts with
  | nil => cases texts <;> simp
  | cons component rest ih =>
      rw [List.mapM_cons]
      simp only [Option.bind_eq_bind, Option.bind_eq_some_iff, componentText?_eq_some_iff, ih,
        Option.pure_def, Option.some.injEq]
      cases texts with
      | nil => simp
      | cons text others =>
          simp only [List.cons.injEq, List.map_cons]
          constructor
          · rintro ⟨_, here, _, further, rfl, rfl⟩
            exact ⟨here, further⟩
          · rintro ⟨here, further⟩
            exact ⟨text, here, others, further, rfl, rfl⟩

theorem nameFrom?_eq_some_iff {path base : Path} {name : String}
    (above : base.components <+: path.components) (below : base.components ≠ path.components) :
    nameFrom? path base = some name ↔ Spells path base name := by
  obtain ⟨further, whole⟩ := above
  have started : path.startsWith base = true := Path.startsWith_iff.mpr ⟨further, whole⟩
  have kept : path.componentsAfter? base = some further := by
    rw [Path.componentsAfter?, if_pos started, ← whole, List.drop_left]
  have nonempty : further ≠ [] := by
    rintro rfl
    exact below (by simpa using whole)
  rw [nameFrom?, kept]
  simp only [Option.bind_eq_bind, Option.bind_some, Option.bind_eq_some_iff, mapM_componentText?,
    Spells, ← whole, List.append_cancel_left_eq]
  constructor
  · rintro ⟨texts, rfl, named⟩
    refine ⟨texts, ?_, rfl⟩
    cases texts with
    | nil => exact absurd rfl nonempty
    | cons text others => simpa using named.symm
  · rintro ⟨texts, rfl, rfl⟩
    refine ⟨texts, rfl, ?_⟩
    cases texts with
    | nil => exact absurd rfl nonempty
    | cons text others => rfl

/-- A name tells the components that follow the base. -/
theorem Spells.components_eq {path base : Path} {name : String} (spells : Spells path base name) :
    (Path.ofText name).isAbsolute = false ∧
      (∀ part ∈ (Path.ofText name).parts, IsFileName part) ∧
      path.components = base.components ++ (Path.ofText name).parts.map .normal := by
  obtain ⟨texts, rfl, whole⟩ := spells
  have areNames : ∀ part ∈ texts.map fun text => text.toUTF8.toList, IsFileName part := by
    intro part listed
    obtain ⟨text, held, rfl⟩ := List.mem_map.mp listed
    have component : .normal text.toUTF8.toList ∈ path.components := by
      rw [whole]
      exact List.mem_append_right _ (List.mem_map.mpr ⟨text, held, rfl⟩)
    exact Path.isFileName_of_mem_components component
  have parts : (Path.ofText (Text.joinWith "/" texts)).parts =
      texts.map fun text => text.toUTF8.toList := by
    rw [Path.ofText, bytes_joinWith, Path.parts_intercalate areNames]
  refine ⟨?_, ?_, ?_⟩
  · rw [Path.ofText, bytes_joinWith, Path.isAbsolute_intercalate areNames]
  · rwa [parts]
  · rw [parts, whole, List.map_map]
    rfl

/-- The base joined with the name is the path. -/
theorem Spells.join {path base : Path} {name : String} (spells : Spells path base name) :
    (base.join (Path.ofText name)).components = path.components := by
  obtain ⟨relative, areNames, whole⟩ := spells.components_eq
  rw [Path.components_join relative areNames, whole]

/-! ## Bases -/

/-- The root with the most components of those above a path, or the storage directory if there is no
root above it. -/
inductive IsBase (discovery : Discovery) (path : Path) : Path → Prop where
  | root {root : Path} (listed : root ∈ discovery.roots)
      (above : root.components <+: path.components)
      (deepest : ∀ other ∈ discovery.roots, other.components <+: path.components →
        other.components.length ≤ root.components.length) : IsBase discovery path root
  | storage (outside : ∀ root ∈ discovery.roots, ¬ root.components <+: path.components) :
      IsBase discovery path discovery.storage

theorem deeper_spec (left right : Path) :
    (deeper left right = left ∨ deeper left right = right) ∧
      left.components.length ≤ (deeper left right).components.length ∧
      right.components.length ≤ (deeper left right).components.length := by
  rw [deeper]
  split
  · exact ⟨.inl rfl, Nat.le_refl _, by omega⟩
  · exact ⟨.inr rfl, by omega, Nat.le_refl _⟩

theorem foldl_deeper (first : Path) (rest : List Path) :
    rest.foldl deeper first ∈ first :: rest ∧
      ∀ other ∈ first :: rest,
        other.components.length ≤ (rest.foldl deeper first).components.length := by
  induction rest generalizing first with
  | nil => simp
  | cons next rest ih =>
      obtain ⟨chosen, longest⟩ := ih (deeper first next)
      obtain ⟨either, overFirst, overNext⟩ := deeper_spec first next
      have kept := longest _ List.mem_cons_self
      rw [List.foldl_cons]
      refine ⟨?_, List.forall_mem_cons.mpr ⟨overFirst.trans kept, List.forall_mem_cons.mpr
        ⟨overNext.trans kept, fun other listed => longest other (.tail _ listed)⟩⟩⟩
      rcases List.mem_cons.mp chosen with same | listed
      · rw [same]
        rcases either with left | right
        · rw [left]
          exact List.mem_cons_self
        · rw [right]
          exact .tail _ List.mem_cons_self
      · exact .tail _ (.tail _ listed)

theorem isBase_base (discovery : Discovery) (path : Path) :
    discovery.IsBase path (discovery.base path) := by
  have above_iff (root : Path) : root ∈ discovery.roots.filter path.startsWith ↔
      root ∈ discovery.roots ∧ root.components <+: path.components := by
    rw [List.mem_filter, Path.startsWith_iff]
  rw [base]
  split
  case h_1 first rest above =>
    rw [above] at above_iff
    obtain ⟨chosen, longest⟩ := foldl_deeper first rest
    obtain ⟨listed, leads⟩ := (above_iff _).mp chosen
    exact .root listed leads fun other held leadsToo =>
      longest other ((above_iff other).mpr ⟨held, leadsToo⟩)
  case h_2 above =>
    rw [above] at above_iff
    exact .storage fun root held leads => List.not_mem_nil ((above_iff root).mpr ⟨held, leads⟩)

/-- All bases of a path are the same path. -/
theorem IsBase.components_eq {discovery : Discovery} {path base other : Path}
    (isBase : discovery.IsBase path base) (isOther : discovery.IsBase path other) :
    base.components = other.components := by
  cases isBase with
  | root listed above deepest =>
      cases isOther with
      | root otherListed otherAbove otherDeepest =>
          have same := Nat.le_antisymm (otherDeepest _ listed above)
            (deepest _ otherListed otherAbove)
          exact (List.prefix_of_prefix_length_le above otherAbove same.le).eq_of_length same
      | storage outside => exact absurd above (outside _ listed)
  | storage outside =>
      cases isOther with
      | root otherListed otherAbove _ => exact absurd otherAbove (outside _ otherListed)
      | storage _ => rfl

/-! ## Packages -/

/-- What a discovery finds behind the names that lead to a leaf directory. -/
structure IsPackage (discovery : Discovery) (entry : Entry) (names : List FileName)
    (found : Found) : Prop where
  leaf : IsLeaf entry ⟨names, found.modified⟩
  below : names ≠ []
  path : found.path = pathBelow discovery.storage names
  noRoot : ∀ root ∈ discovery.roots, root.components ≠ found.path.components
  named : ∃ base, discovery.IsBase found.path base ∧ Spells found.path base found.name
  accepted : discovery.accepts found.name = true

/-- The names that a query text asks for: all if it is empty, else those that its pattern matches
or, if it is refused as a pattern, those that contain it. A text that is refused when it is escaped
as well asks for all names. -/
inductive Asks (patterns : PatternEngine) (text name : String) : Prop where
  | everything (empty : text = "")
  | pattern {passes : String → Bool} (nonempty : text ≠ "")
      (compiles : patterns.compile? text = some passes) (passed : passes name = true)
  | literal {passes : String → Bool} (nonempty : text ≠ "")
      (refused : patterns.compile? text = none)
      (compiles : patterns.compile? (patterns.escape text) = some passes)
      (occurs : text.toList <:+: name.toList)
  | unfiltered (refused : patterns.compile? text = none)
      (again : patterns.compile? (patterns.escape text) = none)

theorem all_nameTest?_iff {discovery : Discovery} (literal : discovery.patterns.IsLiteral)
    (text name : String) :
    ((discovery.nameTest? text).all fun passes => passes name) = true ↔
      Asks discovery.patterns text name := by
  rw [nameTest?]
  by_cases empty : text = ""
  · rw [if_pos (by simpa using empty)]
    exact iff_of_true rfl (.everything empty)
  · rw [if_neg (by simpa using empty)]
    cases compiles : discovery.patterns.compile? text with
    | some passes =>
        constructor
        · exact fun passed => .pattern empty compiles passed
        · rintro (impossible | ⟨-, found, passed⟩ | ⟨-, refused, -, -⟩ | ⟨refused, -⟩)
          · exact absurd impossible empty
          · cases compiles.symm.trans found
            exact passed
          · cases compiles.symm.trans refused
          · cases compiles.symm.trans refused
    | none =>
        cases escaped : discovery.patterns.compile? (discovery.patterns.escape text) with
        | some passes =>
            refine (literal text passes escaped name).trans ?_
            constructor
            · exact fun occurs => .literal empty compiles escaped occurs
            · rintro (impossible | ⟨-, found, -⟩ | ⟨-, -, -, occurs⟩ | ⟨-, again⟩)
              · exact absurd impossible empty
              · cases compiles.symm.trans found
              · exact occurs
              · cases escaped.symm.trans again
        | none => exact iff_of_true rfl (.unfiltered compiles escaped)

theorem components_pathBelow (directory : Path) {names : List FileName}
    (areNames : ∀ name ∈ names, IsFileName name) :
    (pathBelow directory names).components = directory.components ++ names.map .normal := by
  rw [pathBelow]
  induction names generalizing directory with
  | nil => simp
  | cons name rest ih =>
      have isName := areNames name List.mem_cons_self
      have step : (directory.join ⟨name⟩).components = directory.components ++ [.normal name] := by
        rw [Path.components_join (Path.isAbsolute_name isName), Path.parts_name isName]
        · rfl
        · simpa [Path.parts_name isName] using isName
      rw [List.foldl_cons, ih _ fun other held => areNames other (.tail _ held), step,
        List.map_cons, List.append_assoc, List.singleton_append]

theorem Spells.of_isBase {discovery : Discovery} {path base other : Path} {name : String}
    (spells : Spells path base name) (isBase : discovery.IsBase path base)
    (isOther : discovery.IsBase path other) : Spells path other name := by
  obtain ⟨texts, named, whole⟩ := spells
  exact ⟨texts, named, (isBase.components_eq isOther) ▸ whole⟩

theorem exists_base_iff {discovery : Discovery} {path : Path} {name : String} :
    (∃ base, discovery.IsBase path base ∧ Spells path base name) ↔
      Spells path (discovery.base path) name := by
  constructor
  · rintro ⟨base, isBase, spells⟩
    exact spells.of_isBase isBase (discovery.isBase_base path)
  · exact fun spells => ⟨_, discovery.isBase_base path, spells⟩

theorem foundAt?_eq_some_iff {discovery : Discovery} {path : Path} {modified : Instant}
    {found : Found} (below : discovery.storage.components <+: path.components)
    (apart : discovery.storage.components ≠ path.components) :
    discovery.foundAt? path modified = some found ↔
      found.path = path ∧ found.modified = modified ∧
        (∀ root ∈ discovery.roots, root.components ≠ path.components) ∧
        Spells path (discovery.base path) found.name ∧ discovery.accepts found.name = true := by
  rw [foundAt?]
  by_cases isRoot : ∃ root ∈ discovery.roots, root.components = path.components
  · have blocked : ¬ ∀ root ∈ discovery.roots, root.components ≠ path.components := by
      simpa using isRoot
    rw [if_pos (by simpa using isRoot)]
    simp [blocked]
  · have noRoot : ∀ root ∈ discovery.roots, root.components ≠ path.components := by
      simpa using isRoot
    have spelled (name : String) : nameFrom? path (discovery.base path) = some name ↔
        Spells path (discovery.base path) name := by
      have isBase := discovery.isBase_base path
      generalize discovery.base path = base at isBase ⊢
      cases isBase with
      | root listed above _ => exact nameFrom?_eq_some_iff above (noRoot _ listed)
      | storage _ => exact nameFrom?_eq_some_iff below apart
    rw [if_neg (by simpa using isRoot)]
    simp only [Option.bind_eq_bind, Option.bind_eq_some_iff, spelled]
    obtain ⟨name, place, time⟩ := found
    constructor
    · rintro ⟨given, spells, made⟩
      split at made
      · rename_i accepted
        cases made
        exact ⟨rfl, rfl, noRoot, spells, accepted⟩
      · cases made
    · rintro ⟨rfl, rfl, -, spells, accepted⟩
      refine ⟨name, spells, ?_⟩
      rw [if_pos accepted]
      rfl

/-! ## The result -/

theorem at?_of_entry {tree : FileTree} {path : Path} {entry : Entry}
    (reached : tree.entry path = .ok entry) : ∃ place, tree.root.at? place = some entry := by
  cases placed : tree.place path with
  | error cause => simp [FileTree.entry, placed, bind, Except.bind] at reached
  | ok place =>
      cases led : tree.root.at? place with
      | none => simp [FileTree.entry, placed, led, bind, Except.bind] at reached
      | some found =>
          have same : found = entry := by
            simpa [FileTree.entry, placed, led, bind, Except.bind] using reached
          exact ⟨place, same ▸ led⟩

/-- The first path is come by before the second on a walk from a directory. -/
def WalkedBefore (directory first second : Path) : Prop :=
  ∃ names others, first = pathBelow directory names ∧ second = pathBelow directory others ∧
    names < others

section Result

variable {discovery : Discovery} {tree : FileTree} {entry : Entry}

theorem find_eq (reached : tree.entry discovery.storage = .ok entry) (text : String) :
    discovery.find tree text = .ok ((entry.leaves.filterMap fun leaf =>
      discovery.foundAt? (pathBelow discovery.storage leaf.names) leaf.modified).filter
        fun found => (discovery.nameTest? text).all fun passes => passes found.name) := by
  rw [find, leaves, reached]
  change Except.ok ((List.filterMap _ (List.map _ _)).filter _) = _
  rw [List.filterMap_map]
  rfl

variable (wellFormed : entry.WellFormed)

include wellFormed

theorem foundAt?_leaf {leaf : Leaf} (listed : leaf ∈ entry.leaves) (found : Found) :
    discovery.foundAt? (pathBelow discovery.storage leaf.names) leaf.modified = some found ↔
      leaf.modified = found.modified ∧ discovery.IsPackage entry leaf.names found := by
  obtain ⟨isLeaf, further⟩ := (mem_leaves_iff wellFormed leaf).mp listed
  have ⟨others, reached, _⟩ := isLeaf
  have components := components_pathBelow discovery.storage (wellFormed.isFileName reached)
  have below : discovery.storage.components <+:
      (pathBelow discovery.storage leaf.names).components := ⟨_, components.symm⟩
  have apart : discovery.storage.components ≠
      (pathBelow discovery.storage leaf.names).components := by
    rw [components]
    simpa using further
  rw [foundAt?_eq_some_iff below apart, ← exists_base_iff]
  constructor
  · rintro ⟨path, modified, noRoot, named, accepted⟩
    rw [← path] at noRoot named
    exact ⟨modified.symm, modified ▸ isLeaf, further, path, noRoot, named, accepted⟩
  · rintro ⟨modified, package⟩
    rw [← package.path]
    exact ⟨rfl, modified.symm, package.noRoot, package.named, package.accepted⟩

theorem mem_find_iff (literal : discovery.patterns.IsLiteral) {text : String} {found : List Found}
    (finds : discovery.find tree text = .ok found)
    (reached : tree.entry discovery.storage = .ok entry) (item : Found) :
    item ∈ found ↔
      ∃ names, discovery.IsPackage entry names item ∧ Asks discovery.patterns text item.name := by
  rw [find_eq reached] at finds
  cases finds
  rw [List.mem_filter, all_nameTest?_iff literal, List.mem_filterMap]
  constructor
  · rintro ⟨⟨leaf, listed, gives⟩, asked⟩
    exact ⟨leaf.names, ((foundAt?_leaf wellFormed listed item).mp gives).2, asked⟩
  · rintro ⟨names, package, asked⟩
    have listed : ⟨names, item.modified⟩ ∈ entry.leaves :=
      (mem_leaves_iff wellFormed _).mpr ⟨package.leaf, package.below⟩
    exact ⟨⟨_, listed, (foundAt?_leaf wellFormed listed item).mpr ⟨rfl, package⟩⟩, asked⟩

/-- What holds of any two packages in the order of their directories holds along the result. -/
theorem pairwise_find {text : String} {found : List Found}
    (finds : discovery.find tree text = .ok found)
    (reached : tree.entry discovery.storage = .ok entry) {relation : Found → Found → Prop}
    (related : ∀ {names others first second}, names < others →
      discovery.IsPackage entry names first → discovery.IsPackage entry others second →
      relation first second) : found.Pairwise relation := by
  rw [find_eq reached] at finds
  cases finds
  refine List.Pairwise.filter _ (List.pairwise_filterMap.mpr ?_)
  refine (pairwise_leaves wellFormed).imp_of_mem ?_
  intro left right leftListed rightListed before first firstFound second secondFound
  exact related before ((foundAt?_leaf wellFormed leftListed first).mp firstFound).2
    ((foundAt?_leaf wellFormed rightListed second).mp secondFound).2

end Result

namespace IsPackage

variable {discovery : Discovery} {entry : Entry} {names : List FileName} {found : Found}

theorem components (wellFormed : entry.WellFormed)
    (package : discovery.IsPackage entry names found) :
    found.path.components = discovery.storage.components ++ names.map .normal := by
  obtain ⟨others, reached, -⟩ := package.leaf
  rw [package.path, components_pathBelow _ (wellFormed.isFileName reached)]

/-- From its base a package's path is spelled by its name. -/
theorem spells (package : discovery.IsPackage entry names found) {base : Path}
    (isBase : discovery.IsBase found.path base) : Spells found.path base found.name := by
  obtain ⟨other, isOther, spells⟩ := package.named
  exact spells.of_isBase isOther isBase

/-- Two packages of one name do not have the same base. -/
theorem base_ne (wellFormed : entry.WellFormed) {others : List FileName} {second : Found}
    (before : names < others) (isFirst : discovery.IsPackage entry names found)
    (isSecond : discovery.IsPackage entry others second) (sameName : found.name = second.name)
    {base other : Path} (isBase : discovery.IsBase found.path base)
    (isOther : discovery.IsBase second.path other) : base.components ≠ other.components := by
  intro sameBase
  have firstWhole := (isFirst.spells isBase).components_eq.2.2
  have secondWhole := (isSecond.spells isOther).components_eq.2.2
  have samePath : found.path.components = second.path.components := by
    rw [firstWhole, secondWhole, sameName, sameBase]
  rw [isFirst.components wellFormed, isSecond.components wellFormed,
    List.append_cancel_left_eq] at samePath
  have sameNames : names = others :=
    List.map_injective_iff.mpr (fun _ _ same => Component.normal.inj same) samePath
  exact List.lt_irrefl _ (sameNames ▸ before)

end IsPackage

/-- No root above a path is deeper than the base of the path. -/
theorem IsBase.deepest_of_above {discovery : Discovery} {path base root : Path}
    (isBase : discovery.IsBase path base) (listed : root ∈ discovery.roots)
    (above : root.components <+: path.components) :
    root.components.length ≤ base.components.length := by
  cases isBase with
  | root _ _ deepest => exact deepest root listed above
  | storage outside => exact absurd above (outside root listed)

/-- A discovery fails where the storage directory cannot be entered. Otherwise it finds exactly the
packages under leaf directories that the text asks for, in the order of the walk: base and name of
each give its path, no root above it is deeper than its base, and packages of one name have
different bases. Of the patterns only this counts, that escaped texts stand for themselves. -/
theorem find_packages (discovery : Discovery) (literal : discovery.patterns.IsLiteral)
    {tree : FileTree} (wellFormed : tree.root.WellFormed) (text : String) :
    (∀ cause, tree.entry discovery.storage = .error cause →
      discovery.find tree text = .error (.walk
        ("IO error for operation on " ++ discovery.storage.text ++ ": " ++ cause.text))) ∧
    ∀ entry, tree.entry discovery.storage = .ok entry →
      ∃ found, discovery.find tree text = .ok found ∧
        (∀ item, item ∈ found ↔
          ∃ names, discovery.IsPackage entry names item ∧
            Asks discovery.patterns text item.name) ∧
        found.Pairwise (fun first second =>
          WalkedBefore discovery.storage first.path second.path) ∧
        (∀ item ∈ found, ∀ base, discovery.IsBase item.path base →
          (base.join (Path.ofText item.name)).components = item.path.components ∧
          ∀ root ∈ discovery.roots, root.components <+: item.path.components →
            root.components.length ≤ base.components.length) ∧
        found.Pairwise fun first second => first.name = second.name →
          ∀ base other, discovery.IsBase first.path base → discovery.IsBase second.path other →
            base.components ≠ other.components := by
  constructor
  · intro cause failed
    rw [find, leaves, failed]
    rfl
  · intro entry reached
    obtain ⟨place, led⟩ := at?_of_entry reached
    have wellFormedEntry : entry.WellFormed := wellFormed.of_at? led
    have finds := find_eq reached text
    refine ⟨_, finds, mem_find_iff wellFormedEntry literal finds reached, ?_, ?_, ?_⟩
    · exact pairwise_find wellFormedEntry finds reached fun before isFirst isSecond =>
        ⟨_, _, isFirst.path, isSecond.path, before⟩
    · intro item listed base isBase
      obtain ⟨names, package, -⟩ :=
        (mem_find_iff wellFormedEntry literal finds reached item).mp listed
      exact ⟨(package.spells isBase).join, fun root held above =>
        isBase.deepest_of_above held above⟩
    · exact pairwise_find wellFormedEntry finds reached fun before isFirst isSecond same base other
        isBase isOther => isFirst.base_ne wellFormedEntry before isSecond same isBase isOther

def rootedTree : FileTree :=
  let pad := ("pad".toUTF8.toList, Entry.emptyDirectory)
  ⟨.directory .epoch
    [("alt-pad".toUTF8.toList, .emptyDirectory), ("alt".toUTF8.toList, .directory .epoch [pad])],
    []⟩

/-- An alternate root whose name another directory's name begins with. -/
def rootedDiscovery : Discovery :=
  .standard Pattern.engine (Path.ofText "/")
    (Dictionary.empty.insert "alternate" (Path.ofText "./alt/"))

theorem wellFormed_emptyDirectory : Entry.emptyDirectory.WellFormed := by
  apply Entry.wellFormed_directory
  · exact .nil
  · intro child held
    cases held

theorem wellFormed_rootedTree : rootedTree.root.WellFormed := by
  apply Entry.wellFormed_directory
  · decide +kernel
  · intro child held
    fin_cases held
    · exact ⟨by decide +kernel, wellFormed_emptyDirectory⟩
    · refine ⟨by decide +kernel, Entry.wellFormed_directory (by decide +kernel) ?_⟩
      intro inner inside
      fin_cases inside
      exact ⟨by decide +kernel, wellFormed_emptyDirectory⟩

theorem entry_rootedTree : rootedTree.entry rootedDiscovery.storage = .ok rootedTree.root := by
  cbv

theorem find_packages_sample :
    (rootedDiscovery.patterns.IsLiteral ∧ rootedTree.root.WellFormed ∧
      rootedTree.entry rootedDiscovery.storage = .ok rootedTree.root) ∧
    ∃ found, rootedDiscovery.find rootedTree "pad" = .ok found ∧
      found.map Found.name = ["pad", "alt-pad"] ∧
      ∀ item, item ∈ found ↔ ∃ names, rootedDiscovery.IsPackage rootedTree.root names item ∧
        Asks rootedDiscovery.patterns "pad" item.name := by
  refine ⟨⟨Pattern.isLiteral_engine, wellFormed_rootedTree, entry_rootedTree⟩, ?_⟩
  obtain ⟨found, finds, members, -⟩ := (find_packages rootedDiscovery Pattern.isLiteral_engine
    wellFormed_rootedTree "pad").2 _ entry_rootedTree
  have names : (rootedDiscovery.find rootedTree "pad").toOption.map (List.map Found.name) =
      some ["pad", "alt-pad"] := by
    cbv
  rw [finds] at names
  exact ⟨found, finds, Option.some.inj names, members⟩

/-! ## A text that is too large -/

/-- A text that closes a group that it does not open is no pattern. -/
theorem refused_of_closing (rest : List Char) :
    Pattern.engine.compile? (String.ofList (')' :: rest)) = none := by
  have unread : Pattern.Expression.ofText? (')' :: rest) = none := by
    simp [Pattern.Expression.ofText?, Pattern.readChoice?, Pattern.skip]
  rw [Pattern.engine, Option.map_eq_none_iff, Pattern.ofText?, String.toList_ofList, unread]
  rfl

/-- A text that is no pattern and has more characters than a pattern may have states. -/
theorem asks_of_oversized {count : Nat} (large : 327680 ≤ count) (name : String) :
    Asks Pattern.engine (String.ofList (')' :: List.replicate count 'a')) name := by
  refine .unfiltered (refused_of_closing _) (Pattern.compile?_escape_of_oversized ?_)
  have limit : Pattern.maxSize = Pattern.stateSize * 327680 := by decide +kernel
  rw [limit, String.toList_ofList, List.length_cons, List.length_replicate]
  exact Nat.mul_lt_mul_of_pos_left (Nat.lt_succ_of_le large) (by decide)

/-- Texts that ask for the same names find the same packages. -/
theorem find_congr {discovery : Discovery} (literal : discovery.patterns.IsLiteral)
    {tree : FileTree} {entry : Entry} (reached : tree.entry discovery.storage = .ok entry)
    {text other : String}
    (same : ∀ name, Asks discovery.patterns text name ↔ Asks discovery.patterns other name) :
    discovery.find tree text = discovery.find tree other := by
  rw [find_eq reached, find_eq reached]
  refine congrArg Except.ok (List.filter_congr fun found _ => ?_)
  rw [Bool.eq_iff_iff, all_nameTest?_iff literal, all_nameTest?_iff literal]
  exact same found.name

theorem unfiltered_of_oversized {count : Nat} (large : 327680 ≤ count) :
    let text := String.ofList (')' :: List.replicate count 'a')
    rootedDiscovery.patterns.compile? text = none ∧ ¬ text.toList <:+: "pad".toList ∧
    ∃ found, rootedDiscovery.find rootedTree text = .ok found ∧
      "pad" ∈ found.map Found.name := by
  intro text
  refine ⟨refused_of_closing _, ?_, ?_⟩
  · intro inside
    have shorter := inside.length_le
    rw [String.toList_ofList, List.length_cons, List.length_replicate] at shorter
    have short : "pad".toList.length = 3 := by decide +kernel
    omega
  · have everything : rootedDiscovery.find rootedTree text = rootedDiscovery.find rootedTree "" :=
      find_congr Pattern.isLiteral_engine entry_rootedTree fun name =>
        iff_of_true (asks_of_oversized large name) (.everything rfl)
    have names : (rootedDiscovery.find rootedTree "").toOption.map (List.map Found.name) =
        some ["pad", "alt-pad"] := by
      cbv
    obtain ⟨found, finds⟩ : ∃ found, rootedDiscovery.find rootedTree "" = .ok found :=
      ⟨_, find_eq entry_rootedTree ""⟩
    rw [finds] at names
    have listed : found.map Found.name = ["pad", "alt-pad"] := Option.some.inj names
    exact ⟨found, everything.trans finds, listed ▸ List.mem_cons_self⟩

/-- A text that is no pattern does not ask for the names that contain it if it is too large: the
name `pad` does not contain it and is found. -/
theorem oversizedText_unfiltered :
    let text := String.ofList (')' :: List.replicate 450000 'a')
    rootedDiscovery.patterns.compile? text = none ∧ ¬ text.toList <:+: "pad".toList ∧
    ∃ found, rootedDiscovery.find rootedTree text = .ok found ∧
      "pad" ∈ found.map Found.name :=
  unfiltered_of_oversized (by omega)

end Discovery

end PackageSearch.Storage
