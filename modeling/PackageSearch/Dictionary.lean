/-!
# Dictionaries

A finite map from texts, kept as a list in strictly ascending order of its keys. Keys are compared
by code point, which is the order of their UTF-8 bytes. Two dictionaries with the same entries are
equal, whatever the order of insertion was.
-/

set_option autoImplicit false

namespace PackageSearch

def insertEntry {α : Type} (key : String) (value : α) : List (String × α) → List (String × α)
  | [] => [(key, value)]
  | (head, held) :: rest =>
      if key < head then (key, value) :: (head, held) :: rest
      else if head < key then (head, held) :: insertEntry key value rest
      else (key, value) :: rest

abbrev AscendingKeys {α : Type} (entries : List (String × α)) : Prop :=
  entries.Pairwise fun left right => left.1 < right.1

theorem mem_insertEntry {α : Type} {key : String} {value : α} {entries : List (String × α)}
    {entry : String × α} (member : entry ∈ insertEntry key value entries) :
    entry = (key, value) ∨ entry ∈ entries := by
  induction entries with
  | nil => simpa [insertEntry] using member
  | cons head rest ih =>
      obtain ⟨headKey, held⟩ := head
      simp only [insertEntry] at member
      split at member
      · simpa using member
      · split at member
        · rcases List.mem_cons.1 member with same | later
          · exact .inr (same ▸ List.mem_cons_self)
          · exact (ih later).imp_right (List.mem_cons_of_mem _)
        · rcases List.mem_cons.1 member with same | later
          · exact .inl same
          · exact .inr (List.mem_cons_of_mem _ later)

theorem ascendingKeys_insertEntry {α : Type} {key : String} {value : α}
    {entries : List (String × α)} (ascending : AscendingKeys entries) :
    AscendingKeys (insertEntry key value entries) := by
  induction entries with
  | nil => simp [insertEntry, AscendingKeys]
  | cons head rest ih =>
      obtain ⟨headKey, held⟩ := head
      have later := List.pairwise_cons.1 ascending
      simp only [insertEntry]
      split
      · rename_i before
        refine List.pairwise_cons.2 ⟨fun entry member => ?_, ascending⟩
        rcases List.mem_cons.1 member with same | deeper
        · exact same ▸ before
        · exact String.lt_trans before (later.1 _ deeper)
      · split
        · rename_i after
          refine List.pairwise_cons.2 ⟨fun entry member => ?_, ih later.2⟩
          rcases mem_insertEntry member with same | deeper
          · exact same ▸ after
          · exact later.1 _ deeper
        · rename_i notBefore notAfter
          have same : key = headKey := String.le_antisymm
            (String.not_lt.1 notAfter) (String.not_lt.1 notBefore)
          exact List.pairwise_cons.2 ⟨fun entry member => same ▸ later.1 _ member, later.2⟩

/-- A finite map from texts with ascending keys. -/
structure Dictionary (α : Type) where
  entries : List (String × α)
  ascending : AscendingKeys entries

namespace Dictionary

variable {α : Type}

def empty : Dictionary α := ⟨[], List.Pairwise.nil⟩

instance : Inhabited (Dictionary α) := ⟨empty⟩

instance [DecidableEq α] : DecidableEq (Dictionary α) := fun left right =>
  decidable_of_iff (left.entries = right.entries) (by
    obtain ⟨_, _⟩ := left
    obtain ⟨_, _⟩ := right
    simp)

/-- Insert an entry; an earlier entry of the key is replaced. -/
def insert (dictionary : Dictionary α) (key : String) (value : α) : Dictionary α :=
  ⟨insertEntry key value dictionary.entries, ascendingKeys_insertEntry dictionary.ascending⟩

/-- The dictionary of a list of entries, the last of a key winning. -/
def ofList (entries : List (String × α)) : Dictionary α :=
  entries.foldl (fun dictionary entry => dictionary.insert entry.1 entry.2) empty

def get? (dictionary : Dictionary α) (key : String) : Option α :=
  dictionary.entries.lookup key

def keys (dictionary : Dictionary α) : List String :=
  dictionary.entries.map Prod.fst

def values (dictionary : Dictionary α) : List α :=
  dictionary.entries.map Prod.snd

def contains (dictionary : Dictionary α) (key : String) : Bool :=
  (dictionary.get? key).isSome

def map {β : Type} (change : α → β) (dictionary : Dictionary α) : Dictionary β :=
  ⟨dictionary.entries.map fun entry => (entry.1, change entry.2),
    List.pairwise_map.2 dictionary.ascending⟩

theorem mem_insert_self (dictionary : Dictionary α) (key : String) (value : α) :
    (key, value) ∈ (dictionary.insert key value).entries := by
  have found : ∀ entries : List (String × α), (key, value) ∈ insertEntry key value entries := by
    intro entries
    induction entries with
    | nil => exact List.mem_cons_self
    | cons head rest ih =>
        simp only [insertEntry]
        split
        · exact List.mem_cons_self
        · split
          · exact List.mem_cons_of_mem _ ih
          · exact List.mem_cons_self
  exact found dictionary.entries

theorem mem_insert_of_ne {dictionary : Dictionary α} {entry : String × α} {key : String}
    (value : α) (member : entry ∈ dictionary.entries) (other : entry.1 ≠ key) :
    entry ∈ (dictionary.insert key value).entries := by
  have kept : ∀ entries : List (String × α), entry ∈ entries →
      entry ∈ insertEntry key value entries := by
    intro entries member
    induction entries with
    | nil => cases member
    | cons head rest ih =>
        obtain ⟨headKey, held⟩ := head
        simp only [insertEntry]
        split
        · exact List.mem_cons_of_mem _ member
        · split
          · rcases List.mem_cons.1 member with same | later
            · exact same ▸ List.mem_cons_self
            · exact List.mem_cons_of_mem _ (ih later)
          · rename_i notBefore notAfter
            have same : key = headKey := String.le_antisymm
              (String.not_lt.1 notAfter) (String.not_lt.1 notBefore)
            rcases List.mem_cons.1 member with first | later
            · exact absurd (first ▸ same.symm) other
            · exact List.mem_cons_of_mem _ later
  exact kept dictionary.entries member

theorem mem_ofList {entries : List (String × α)} {entry : String × α}
    (member : entry ∈ (ofList entries).entries) : entry ∈ entries := by
  have folded : ∀ (entries : List (String × α)) (dictionary : Dictionary α),
      entry ∈ (entries.foldl (fun dictionary entry => dictionary.insert entry.1 entry.2)
        dictionary).entries → entry ∈ dictionary.entries ∨ entry ∈ entries := by
    intro entries
    induction entries with
    | nil => exact fun dictionary member => .inl member
    | cons head rest ih =>
        intro dictionary member
        rcases ih _ member with inserted | later
        · rcases mem_insertEntry inserted with same | earlier
          · exact .inr (same ▸ List.mem_cons_self)
          · exact .inl earlier
        · exact .inr (List.mem_cons_of_mem _ later)
  rcases folded entries empty member with none | some
  · cases none
  · exact some

theorem insertEntry_of_last {key : String} (value : α) {entries : List (String × α)}
    (last : ∀ entry ∈ entries, entry.1 < key) :
    insertEntry key value entries = entries ++ [(key, value)] := by
  induction entries with
  | nil => rfl
  | cons head rest ih =>
      have before := last head List.mem_cons_self
      rw [insertEntry, if_neg (String.lt_asymm before), if_pos before,
        ih fun entry member => last entry (List.mem_cons_of_mem _ member)]
      rfl

theorem foldl_insert_of_ascending {entries : List (String × α)} {dictionary : Dictionary α}
    (ascending : AscendingKeys (dictionary.entries ++ entries)) :
    (entries.foldl (fun dictionary entry => dictionary.insert entry.1 entry.2)
      dictionary).entries = dictionary.entries ++ entries := by
  induction entries generalizing dictionary with
  | nil => simp
  | cons entry rest ih =>
      have last : (dictionary.insert entry.1 entry.2).entries = dictionary.entries ++ [entry] :=
        insertEntry_of_last entry.2 fun other member =>
          (List.pairwise_append.1 ascending).2.2 other member entry List.mem_cons_self
      rw [List.foldl_cons, ih (by rw [last]; simpa using ascending), last, List.append_assoc]
      rfl

theorem ext_entries {left right : Dictionary α} (same : left.entries = right.entries) :
    left = right := by
  obtain ⟨_, _⟩ := left
  obtain ⟨_, _⟩ := right
  simpa using same

/-- A dictionary is that of its own entries. -/
theorem ofList_entries (dictionary : Dictionary α) : ofList dictionary.entries = dictionary :=
  ext_entries (foldl_insert_of_ascending
    (show AscendingKeys (empty.entries ++ dictionary.entries) from dictionary.ascending))

end Dictionary

end PackageSearch
