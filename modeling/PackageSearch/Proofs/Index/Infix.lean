import Mathlib
import PackageSearch.Proofs.Index.Answers
import PackageSearch.Proofs.Text.LetterCase
import PackageSearch.Text.Property

/-!
# Parts of names

The runs of a query text are looked for inside the tokens of names. Both are lowered, but not in one
way: tokens character by character, the runs of a query text as whole words. So a part of a name
finds its package, in whatever case it is written, unless a capital sigma ends a word in it.
-/

set_option autoImplicit false

namespace PackageSearch.Index

open Package (Manifest)
open Text (HasFinalSigma isAlphanumeric lowerEach lowerText sigmaAnywhere)

theorem infixTokens_eq_tokensOf_iff (text : List Char) :
    infixTokens text = tokensOf text ↔ ∀ run ∈ alphanumericRuns text, ¬ HasFinalSigma run := by
  rw [infixTokens, tokensOf, List.map_inj_left]
  exact forall₂_congr fun run _ => Text.lowerText_eq_lowerEach_iff run

theorem map_sigmaAnywhere_infixTokens (text : List Char) :
    (infixTokens text).map (List.map sigmaAnywhere) =
      (tokensOf text).map (List.map sigmaAnywhere) := by
  rw [infixTokens, tokensOf, List.map_map, List.map_map]
  exact List.map_congr_left fun run _ => Text.map_sigmaAnywhere_lowerText run

/-- A part of a run is one run. -/
theorem alphanumericRuns_part {text run part : List Char} (listed : run ∈ alphanumericRuns text)
    (inside : part <:+: run) (nonempty : part ≠ []) : alphanumericRuns part = [part] :=
  Text.runs_of_free nonempty fun character held =>
    (Text.free_of_mem_runs listed).2 character (inside.subset held)

theorem infixScore_singleton (document : Document) (token : Token) :
    infixScore document [token] =
      if (document.tokens .name).any (Text.occursIn token) then
        some (Field.name.weight * FixedPoint.one)
      else none := by
  rw [infixScore, List.countP_singleton]
  split <;> simp_all

section Part

variable {document : Document} {run part : List Char}
  (listed : run ∈ alphanumericRuns document.name.toList) (inside : part <:+: run)
  (nonempty : part ≠ [])

include listed inside nonempty

/-- A part of a run of the name is looked for as it is lowered as a whole. -/
theorem infixScore_part_isSome :
    (infixScore document (infixTokens part)).isSome ↔
      ∃ other ∈ alphanumericRuns document.name.toList, lowerText part <:+: lowerEach other := by
  rw [infixScore_isSome, infixTokens, alphanumericRuns_part listed inside nonempty]
  simp only [List.map_singleton, List.mem_singleton, exists_eq_left]
  change (∃ token ∈ tokensOf document.name.toList, lowerText part <:+: token) ↔ _
  simp only [tokensOf, List.mem_map, exists_exists_and_eq_and]

theorem infixScore_part (plain : ¬ HasFinalSigma part) :
    infixScore document (infixTokens part) = some (Field.name.weight * FixedPoint.one) := by
  have held : lowerEach run ∈ document.tokens .name := mem_tokensOf.mpr ⟨run, listed, rfl⟩
  have found : (document.tokens .name).any (Text.occursIn (lowerEach part)) = true :=
    List.any_eq_true.mpr ⟨_, held, Text.occursIn_iff.mpr (Text.lowerEach_infix inside)⟩
  rw [infixTokens, alphanumericRuns_part listed inside nonempty, List.map_singleton,
    (Text.lowerText_eq_lowerEach_iff part).mpr plain, infixScore_singleton, if_pos found]

/-- Such a part finds the package, if it is short enough to be looked for at all. -/
theorem query_part {index : Index} (held : document ∈ index.documents)
    (short : isOversized (lowerText part) = false) (plain : ¬ HasFinalSigma part) :
    ∃ hits, index.query (String.ofList part) = .ok hits ∧ document.id ∈ hits.map Hit.name := by
  have tokens : infixTokens (String.ofList part).toList = [lowerText part] := by
    rw [String.toList_ofList, infixTokens, alphanumericRuns_part listed inside nonempty,
      List.map_singleton]
  have chosen : String.ofList part ≠ wildcard := by
    intro same
    have star : '*' ∈ part := by
      rw [← String.toList_ofList (l := part), same]
      decide +kernel
    have alphanumeric := (Text.free_of_mem_runs listed).2 '*' (inside.subset star)
    simp [isAlphanumeric] at alphanumeric
  have fits : ∀ run ∈ infixTokens (String.ofList part).toList, isOversized run = false := by
    rw [tokens]
    simpa using short
  obtain ⟨hits, found, -, same⟩ := query_hits index chosen fits
  refine ⟨hits, found, same.mem_iff.mpr (List.mem_map.mpr ⟨document, ?_, rfl⟩)⟩
  have scored := infixScore_part listed inside nonempty plain
  rw [List.mem_filter]
  refine ⟨held, (score?_isSome ..).mpr (.inr ?_)⟩
  rw [String.toList_ofList, scored]
  rfl

end Part

/-- The runs of a query text are the tokens of the same text, but for the form of a small sigma, and
all of them are exactly if no run has a final sigma. So a part of a name in its own case is found
inside the name where its lowered form is, always so if it has no final sigma; then a query for it
finds the package. -/
theorem infixTokens_match_tokens (text : List Char) :
    (infixTokens text = tokensOf text ↔ ∀ run ∈ alphanumericRuns text, ¬ HasFinalSigma run) ∧
    (infixTokens text).map (List.map sigmaAnywhere) =
      (tokensOf text).map (List.map sigmaAnywhere) ∧
    ∀ (document : Document), ∀ run ∈ alphanumericRuns document.name.toList,
      ∀ part, part <:+: run → part ≠ [] →
        ((infixScore document (infixTokens part)).isSome ↔
          ∃ other ∈ alphanumericRuns document.name.toList,
            lowerText part <:+: lowerEach other) ∧
        (¬ HasFinalSigma part →
          infixScore document (infixTokens part) = some (Field.name.weight * FixedPoint.one) ∧
          ∀ index : Index, document ∈ index.documents → isOversized (lowerText part) = false →
            ∃ hits, index.query (String.ofList part) = .ok hits ∧
              document.id ∈ hits.map Hit.name) := by
  refine ⟨infixTokens_eq_tokensOf_iff text, map_sigmaAnywhere_infixTokens text, ?_⟩
  intro document run listed part inside nonempty
  refine ⟨infixScore_part_isSome listed inside nonempty, fun plain => ⟨?_, ?_⟩⟩
  · exact infixScore_part listed inside nonempty plain
  · exact fun index held short => query_part listed inside nonempty held short plain

theorem infixTokens_match_tokens_sample :
    let document := Document.ofManifest { Manifest.blank with name := "Left-Pad" }
    ("Left".toList ∈ alphanumericRuns document.name.toList ∧ "Lef".toList <:+: "Left".toList ∧
      "Lef".toList ≠ [] ∧ ¬ HasFinalSigma "Lef".toList) ∧
    infixScore document (infixTokens "Lef".toList) =
      some (Field.name.weight * FixedPoint.one) := by
  intro document
  have listed : "Left".toList ∈ alphanumericRuns document.name.toList := by decide +kernel
  have inside : "Lef".toList <:+: "Left".toList := by decide +kernel
  have nonempty : "Lef".toList ≠ [] := by decide +kernel
  have plain : ¬ HasFinalSigma "Lef".toList := by
    rintro ⟨before, after, cut, -⟩
    have sigma : 'Σ' ∈ "Lef".toList := cut ▸ List.mem_append_right before List.mem_cons_self
    exact absurd sigma (by decide +kernel)
  exact ⟨⟨listed, inside, nonempty, plain⟩,
    (((infixTokens_match_tokens "Lef".toList).2.2 document _ listed _ inside nonempty).2 plain).1⟩

/-! ## A name with a capital sigma in its midst -/

def sigmaManifest : Manifest := { Manifest.blank with name := "aΣb" }

theorem isAlphanumeric_sigma : isAlphanumeric 'Σ' = true := by
  have letter : Text.tableCovers (Text.Category.table .uppercaseLetter) 0x3a3 = true := by
    simp only [Text.tableCovers, Text.Category.table, List.any_cons]
    repeat rw [String.toList_ofList]
    decide +kernel
  have code : ('Σ' : Char).toNat = 0x3a3 := rfl
  simp [isAlphanumeric, code, Text.alphanumeric, Text.alphabetic, Text.letters, letter]

theorem startsCased_a : Text.startsCased ['a'] = true := by
  have kept : Text.caseIgnorable.contains ('a').toNat = false := by
    simp only [Text.caseIgnorable, Text.CharacterSet.contains_union, Text.contains_codesOf,
      Text.CharacterSet.contains_ofTable, Text.tableCovers, Text.Category.table, List.any_cons,
      List.any_nil]
    repeat rw [String.toList_ofList]
    decide +kernel
  have cased : Text.cased.contains ('a').toNat = true := by
    simp only [Text.cased, Text.CharacterSet.contains_unionAll, Text.lowercase,
      Text.CharacterSet.contains_union, Text.contains_codesOf, Text.tableCovers,
      Text.Category.table, List.any_cons]
    repeat rw [String.toList_ofList]
    decide +kernel
  rw [Text.startsCased_cons kept, cased]

theorem hasFinalSigma_atEnd : HasFinalSigma ['a', 'Σ'] :=
  ⟨['a'], [], rfl, startsCased_a, rfl⟩

theorem alphanumericRuns_aroundSigma : alphanumericRuns ['a', 'Σ', 'b'] = [['a', 'Σ', 'b']] := by
  refine Text.runs_of_free (by simp) fun character held => ?_
  have alphanumeric : isAlphanumeric 'a' = true ∧ isAlphanumeric 'b' = true := by decide +kernel
  fin_cases held <;> simp [alphanumeric, isAlphanumeric_sigma]

/-- The part `aΣ` of the name `aΣb` is looked for with the final small sigma, which is not in it. -/
theorem finalSigma_unfound :
    let document := Document.ofManifest sigmaManifest
    infixTokens ['a', 'Σ'] ≠ tokensOf ['a', 'Σ'] ∧
    ['a', 'Σ', 'b'] ∈ alphanumericRuns document.name.toList ∧
    ['a', 'Σ'] <:+: ['a', 'Σ', 'b'] ∧ infixScore document (infixTokens ['a', 'Σ']) = none := by
  intro document
  have name : document.name.toList = ['a', 'Σ', 'b'] := by
    change ("aΣb" : String).toList = _
    rw [String.toList_ofList]
  have listed : ['a', 'Σ', 'b'] ∈ alphanumericRuns document.name.toList := by
    rw [name, alphanumericRuns_aroundSigma]
    exact List.mem_singleton_self _
  have inside : ['a', 'Σ'] <:+: ['a', 'Σ', 'b'] := ⟨[], ['b'], rfl⟩
  have partRuns := alphanumericRuns_part listed inside (by simp)
  refine ⟨?_, listed, inside, ?_⟩
  · rw [Ne, infixTokens_eq_tokensOf_iff, partRuns]
    simp [hasFinalSigma_atEnd]
  · rw [← Option.not_isSome_iff_eq_none, infixScore_part_isSome listed inside (by simp), name,
      alphanumericRuns_aroundSigma]
    have looked : lowerText ['a', 'Σ'] = ['a', 'ς'] := by
      have first : Text.lowerCharacter 'a' = ['a'] := by decide +kernel
      have atEnd : Text.startsCased [] = false := rfl
      simp [lowerText, Text.lowerAfter, first, startsCased_a, atEnd]
    have indexed : lowerEach ['a', 'Σ', 'b'] = ['a', 'σ', 'b'] := by
      have others : Text.lowerCharacter 'a' = ['a'] ∧ Text.lowerCharacter 'b' = ['b'] := by
        decide +kernel
      simp [lowerEach, others, Text.lowerCharacter_sigma]
    simp only [List.mem_singleton, exists_eq_left, looked, indexed]
    decide +kernel

end PackageSearch.Index
