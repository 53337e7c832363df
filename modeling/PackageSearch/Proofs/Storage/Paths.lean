import Mathlib
import PackageSearch.Proofs.Text.Runs
import PackageSearch.Storage.Path

/-!
# Paths and their components

The name of a file is a part that a path can have and that stands for itself. A relative path of
such parts that is joined to another path adds its parts to the components of that path, whatever
way that is spelled: with slashes at its end, with periods in its midst, or empty.
-/

set_option autoImplicit false

namespace PackageSearch.Storage

/-- A name that a directory can hold: not empty, without a slash, and neither of the two names that
every directory has. -/
structure IsFileName (name : FileName) : Prop where
  nonempty : name ≠ []
  unbroken : Path.slash ∉ name
  notCurrent : name ≠ [Path.period]
  notParent : name ≠ [Path.period, Path.period]

instance (name : FileName) : Decidable (IsFileName name) :=
  decidable_of_iff (name ≠ [] ∧ Path.slash ∉ name ∧ name ≠ [Path.period] ∧
      name ≠ [Path.period, Path.period])
    ⟨fun ⟨nonempty, unbroken, notCurrent, notParent⟩ =>
        ⟨nonempty, unbroken, notCurrent, notParent⟩,
      fun isName => ⟨isName.nonempty, isName.unbroken, isName.notCurrent, isName.notParent⟩⟩

namespace Path

theorem parts_append (before after : Bytes) :
    parts ⟨before ++ slash :: after⟩ = parts ⟨before⟩ ++ parts ⟨after⟩ :=
  @Text.runs_append_separator _ (· == slash) slash (by simp) before after

theorem parts_name {name : FileName} (isName : IsFileName name) : parts ⟨name⟩ = [name] :=
  Text.runs_of_free isName.nonempty fun byte held => by
    simpa using fun same : byte = slash => isName.unbroken (same ▸ held)

/-- The parts of names with slashes between them. -/
theorem parts_intercalate {names : List FileName} (areNames : ∀ name ∈ names, IsFileName name) :
    parts ⟨[slash].intercalate names⟩ = names := by
  have each : ∀ name ∈ names, Text.runs (· == slash) name = [name] :=
    fun name listed => parts_name (areNames name listed)
  rw [parts, @Text.runs_intercalate _ (· == slash) slash (by simp), List.flatMap_congr each,
    List.flatMap_singleton']

theorem componentOf_name {name : FileName} (isName : IsFileName name) :
    componentOf name = .normal name := by
  rw [componentOf, if_neg isName.notCurrent, if_neg isName.notParent]

/-- What a component of a path names is the name of a file. -/
theorem isFileName_of_mem_components {path : Path} {name : FileName}
    (listed : .normal name ∈ path.components) : IsFileName name := by
  have given : .normal name ∈ path.parts.map componentOf := by
    rw [components] at listed
    split at listed
    · simpa using listed
    · split at listed <;> simpa using listed
  obtain ⟨part, held, named⟩ := List.mem_map.mp given
  obtain ⟨nonempty, free⟩ := Text.free_of_mem_runs held
  rw [componentOf] at named
  split at named
  · cases named
  · split at named
    · cases named
    · rename_i notCurrent notParent
      cases named
      exact ⟨nonempty, fun broken => by simpa using free _ broken, notCurrent, notParent⟩

theorem parts_join {base path : Path} (relative : path.isAbsolute = false) :
    (base.join path).parts = base.parts ++ path.parts := by
  obtain ⟨bytes⟩ := base
  rw [join, relative]
  rcases List.eq_nil_or_concat bytes with rfl | ⟨front, last, rfl⟩
  · simp [parts]
  · by_cases ended : last = slash
    · subst ended
      have whole := parts_append front path.bytes
      have alone : parts ⟨front ++ [slash]⟩ = parts ⟨front⟩ ++ [] := parts_append front []
      simp [whole, alone]
    · have whole := parts_append (front ++ [last]) path.bytes
      simpa [ended] using whole

theorem isAbsolute_join {base path : Path} (relative : path.isAbsolute = false) :
    (base.join path).isAbsolute = base.isAbsolute := by
  obtain ⟨bytes⟩ := base
  rw [join, relative]
  cases bytes with
  | nil => simpa [isAbsolute] using relative
  | cons first rest =>
      simp only [Bool.false_eq_true, if_false, List.isEmpty_cons, Bool.false_or, isAbsolute]
      split <;> rfl

/-- A relative path of file names adds these to the components. -/
theorem components_join {base path : Path} (relative : path.isAbsolute = false)
    (areNames : ∀ part ∈ path.parts, IsFileName part) :
    (base.join path).components = base.components ++ path.parts.map .normal := by
  have named : path.parts.map componentOf = path.parts.map .normal :=
    List.map_congr_left fun part listed => componentOf_name (areNames part listed)
  have kept : (path.parts.map Component.normal).filter (· != .current) =
      path.parts.map .normal := by
    simp
  have head : ((base.parts.map componentOf) ++ path.parts.map Component.normal).head? =
      some .current ↔ (base.parts.map componentOf).head? = some .current := by
    cases base.parts with
    | nil => cases path.parts <;> simp
    | cons first rest => simp
  simp only [components, isAbsolute_join relative, parts_join relative, List.map_append, named,
    List.filter_append, kept, head]
  split
  · simp
  · split <;> simp

theorem isAbsolute_name {name : FileName} (isName : IsFileName name) :
    isAbsolute ⟨name⟩ = false := by
  obtain ⟨first, rest, rfl⟩ := List.exists_cons_of_ne_nil isName.nonempty
  have other : first ≠ slash := fun same => isName.unbroken (by simp [same])
  simpa [isAbsolute] using other

end Path

end PackageSearch.Storage
