import Mathlib
import PackageSearch.Proofs.Index.Catalog
import PackageSearch.Proofs.Index.Words

/-!
# What a word finds

A query finds the live documents that have a score, each once and the best first. For a query text
of one word this can be said without scores: `Answers` tells the packages that such a word finds by
what stands in their fields.
-/

set_option autoImplicit false

namespace PackageSearch.Index

open Package (Manifest Release)
open Text (lowerEach)

/-! ## When there is a score -/

theorem mem_positions_iff {token : Token} {tokens : List Token} {position : Nat} :
    position ∈ positions token tokens ↔ tokens[position]? = some token := by
  simp [positions, List.mem_zipIdx_iff_getElem?]

theorem occurrences_singleton_eq_zero {slop : Nat} {tokens : List Token} {token : Token} :
    occurrences slop tokens [token] = 0 ↔ token ∉ tokens := by
  rw [occurrences, phraseEnds, List.foldl_nil, List.length_eq_zero_iff,
    List.eq_nil_iff_forall_not_mem, List.mem_iff_getElem?]
  simp only [mem_positions_iff, not_exists]

theorem score?_phrase_singleton (collection : List Document) (document : Document) (field : Field)
    (token : Token) (slop : Nat) :
    (Clause.score? collection document (.phrase field [token] slop)).isSome ↔
      token ∈ document.tokens field := by
  rw [Clause.score?]
  split
  case h_1 none => simpa using occurrences_singleton_eq_zero.mp none
  case h_2 _ present => simpa using occurrences_singleton_eq_zero.not.mp present

theorem memberScores_eq (collection : List Document) (document : Document)
    (members : List (Occurrence × Clause)) :
    Clause.score?.memberScores collection document members =
      members.map fun member => (member.1, member.2.score? collection document) := by
  induction members with
  | nil => rfl
  | cons member rest ih => rw [Clause.score?.memberScores, ih, List.map_cons]

theorem groupScore?_of_optional (scores : List (Option Nat)) :
    (groupScore? (scores.map fun score => (.should, score))).isSome ↔
      ∃ score ∈ scores, score.isSome := by
  have optional : (scores.map fun score => (Occurrence.should, score)).filter
      (fun score => score.1 ≠ .mustNot) = scores.map fun score => (.should, score) := by
    simp
  have wanted : (scores.map fun score => (Occurrence.should, score)).filterMap
      (fun score => score.2) = scores.reduceOption := by
    rw [List.filterMap_map]
    rfl
  rw [groupScore?, optional, wanted]
  by_cases found : scores.reduceOption = []
  · have nothing : ∀ score ∈ scores, score = none := by
      simpa [List.reduceOption] using found
    simpa [found, Option.isSome_iff_ne_none] using nothing
  · obtain ⟨score, listed⟩ := List.exists_mem_of_ne_nil _ found
    have met : ∃ score ∈ scores, score.isSome :=
      ⟨some score, List.reduceOption_mem_iff.mp listed, rfl⟩
    simp [found, met]

/-- A group of optional members is met where one of them is. -/
theorem score?_group_of_optional (collection : List Document) (document : Document)
    (clauses : List Clause) :
    (Clause.score? collection document
        (.group (clauses.map fun clause => (.should, clause)))).isSome ↔
      ∃ clause ∈ clauses, (clause.score? collection document).isSome := by
  have scores : (clauses.map fun clause => (Occurrence.should, clause)).map
      (fun member => (member.1, member.2.score? collection document)) =
        (clauses.map fun clause => clause.score? collection document).map fun score =>
          (.should, score) := by
    rw [List.map_map, List.map_map]
    rfl
  rw [Clause.score?, memberScores_eq, scores, groupScore?_of_optional]
  simp

theorem infixScore_isSome (document : Document) (runs : List Token) :
    (infixScore document runs).isSome ↔
      ∃ run ∈ runs, ∃ token ∈ document.tokens .name, run <:+: token := by
  have counted : runs.countP (fun run => (document.tokens .name).any (Text.occursIn run)) = 0 ↔
      ¬ ∃ run ∈ runs, ∃ token ∈ document.tokens .name, run <:+: token := by
    simp [List.countP_eq_zero, Text.occursIn_iff]
  rw [infixScore]
  split
  case h_1 none => simpa using counted.mp none
  case h_2 _ present => simpa using counted.not.mp present

theorem score?_isSome (index : Index) (clause : Clause) (runs : List Token) (document : Document) :
    (index.score? clause runs document).isSome ↔
      (clause.score? index.collection document).isSome ∨ (infixScore document runs).isSome := by
  rw [Index.score?]
  split <;> simp_all

/-! ## Hits -/

theorem filterMap_map_const {α β : Type} (value : α → β) (score : α → Option Nat) (items : List α) :
    (items.filterMap fun item => (score item).map fun _ => value item) =
      (items.filter fun item => (score item).isSome).map value := by
  induction items with
  | nil => rfl
  | cons item rest ih => cases scored : score item <;> simp [scored, ih]

/-- The hits of a query are the live documents that have a score, each once and in the order of
their scores. -/
theorem query_hits (index : Index) {text : String} (chosen : text ≠ wildcard)
    (short : ∀ run ∈ infixTokens text.toList, isOversized run = false) :
    ∃ hits, index.query text = .ok hits ∧
      hits.Pairwise (fun left right => right.score ≤ left.score) ∧
      (hits.map Hit.name).Perm ((index.documents.filter fun document =>
        (index.score? (Clause.ofExpression (Expression.ofText text.toList))
          (infixTokens text.toList) document).isSome).map Document.id) := by
  have fits : (infixTokens text.toList).find? isOversized = none := by
    simpa using short
  let clause := Clause.ofExpression (Expression.ofText text.toList)
  let scored := index.documents.filterMap fun document =>
    (index.score? clause (infixTokens text.toList) document).map fun score =>
      (⟨document.id, score⟩ : Hit)
  refine ⟨scored.mergeSort fun left right => right.score ≤ left.score, ?_, ?_, ?_⟩
  · rw [query, if_neg chosen]
    simp only [fits]
    rfl
  · refine List.Pairwise.imp (fun {left right} ordered => by simpa using ordered)
      (List.pairwise_mergeSort (fun first second third => ?_) (fun first second => ?_) _)
    · simp only [decide_eq_true_eq]
      omega
    · simp only [Bool.or_eq_true, decide_eq_true_eq]
      omega
  · refine ((List.mergeSort_perm _ _).map _).trans (List.Perm.of_eq ?_)
    rw [List.map_filterMap]
    simp only [Option.map_map, Function.comp_def]
    exact filterMap_map_const _ _ _

/-! ## Words -/

/-- A package is found by a word that is a part of a run of its name, a whole run of a keyword of
the current version, of the author or of the description, all without regard to case, or that is
the number of the current version with its mark. -/
inductive Answers (manifest : Manifest) (word : String) : Prop where
  | name {run : List Char} (listed : run ∈ alphanumericRuns manifest.name.toList)
      (part : word.toList.map Char.toLower <:+: lowerEach run)
  | keyword {release : Release} {keyword : String} {run : List Char}
      (current : manifest.current? = some release) (held : keyword ∈ release.keywords)
      (listed : run ∈ alphanumericRuns keyword.toList)
      (same : lowerEach run = word.toList.map Char.toLower)
  | author {run : List Char}
      (listed : run ∈ alphanumericRuns (Document.ofManifest manifest).author.toList)
      (same : lowerEach run = word.toList.map Char.toLower)
  | description {run : List Char}
      (listed : run ∈ alphanumericRuns (Document.ofManifest manifest).description.toList)
      (same : lowerEach run = word.toList.map Char.toLower)
  | version {release : Release} (current : manifest.current? = some release)
      (same : word = "v" ++ release.version)

/-- Joining keywords with blanks makes no run of two keywords. -/
theorem alphanumericRuns_joinWith (keywords : List String) :
    alphanumericRuns (Text.joinWith " " keywords).toList =
      keywords.flatMap fun keyword => alphanumericRuns keyword.toList := by
  have separates : (! Text.isAlphanumeric ' ') = true := by decide +kernel
  have blank : (" " : String).toList = [' '] := rfl
  rw [Text.joinWith, String.toList_intercalate, blank]
  calc alphanumericRuns ([' '].intercalate (keywords.map String.toList))
      = (keywords.map String.toList).flatMap alphanumericRuns :=
        @Text.runs_intercalate _ (fun character => ! Text.isAlphanumeric character) ' ' separates _
    _ = keywords.flatMap fun keyword => alphanumericRuns keyword.toList := by
        rw [List.flatMap_map]

theorem mem_tokensOf {token : Token} {text : List Char} :
    token ∈ tokensOf text ↔ ∃ run ∈ alphanumericRuns text, lowerEach run = token := by
  rw [tokensOf, List.mem_map]

theorem mem_keywords_iff (manifest : Manifest) (token : Token) :
    token ∈ (Document.ofManifest manifest).tokens .keywords ↔
      ∃ release, manifest.current? = some release ∧ ∃ keyword ∈ release.keywords,
        ∃ run ∈ alphanumericRuns keyword.toList, lowerEach run = token := by
  change token ∈ tokensOf (Document.ofManifest manifest).keywords.toList ↔ _
  rw [mem_tokensOf]
  cases current : manifest.current? with
  | none => simp [Document.ofManifest, current, alphanumericRuns]
  | some release =>
      simp only [Document.ofManifest, current, Option.map_some, Option.getD_some,
        alphanumericRuns_joinWith, List.mem_flatMap, Option.some.injEq, exists_eq_left']
      constructor
      · rintro ⟨run, ⟨keyword, held, listed⟩, same⟩
        exact ⟨keyword, held, run, listed, same⟩
      · rintro ⟨keyword, held, run, listed, same⟩
        exact ⟨run, ⟨keyword, held, listed⟩, same⟩

theorem mem_version_iff (manifest : Manifest) {word : String} (nonempty : word ≠ "") :
    word.toList ∈ (Document.ofManifest manifest).tokens .version ↔
      ∃ release, manifest.current? = some release ∧ word = "v" ++ release.version := by
  change word.toList ∈ [(Document.ofManifest manifest).version.toList] ↔ _
  rw [List.mem_singleton, String.toList_inj]
  cases current : manifest.current? with
  | none => simp [Document.ofManifest, current, nonempty]
  | some release => simp [Document.ofManifest, current]

section Word

variable {word : String} (isWord : IsWord word.toList) (ordinary : word ∉ queryWords)

include isWord ordinary

/-- A document has a score for a word exactly if its package answers to it. -/
theorem score?_word_isSome (index : Index) (manifest : Manifest) :
    (index.score? (Clause.ofExpression (Expression.ofText word.toList))
      (infixTokens word.toList) (Document.ofManifest manifest)).isSome ↔ Answers manifest word := by
  have ordinaryText : String.ofList word.toList ∉ queryWords := by
    rwa [String.ofList_toList]
  have nonempty : word ≠ "" := by
    rintro rfl
    exact isWord.nonempty rfl
  have inField (field : Field) := score?_phrase_singleton index.collection
    (Document.ofManifest manifest) field
      (if field.isVerbatim then word.toList else word.toList.map Char.toLower) 0
  have clause : Clause.ofExpression (Expression.ofText word.toList) =
      .group ((Field.standard.map fun field => Clause.phrase field
        [if field.isVerbatim then word.toList else word.toList.map Char.toLower] 0).map
          fun clause => (.should, clause)) := by
    rw [isWord.clause_eq ordinaryText, List.map_map]
    rfl
  rw [score?_isSome, clause, score?_group_of_optional, infixScore_isSome, isWord.infixTokens_eq]
  simp only [List.mem_map, exists_exists_and_eq_and, inField, List.mem_singleton, exists_eq_left]
  constructor
  · rintro (⟨field, listed, met⟩ | ⟨token, held, part⟩)
    · fin_cases listed
      · obtain ⟨run, held, same⟩ := mem_tokensOf.mp met
        exact .name held (same ▸ List.infix_rfl)
      · obtain ⟨release, current, keyword, held, run, cut, same⟩ :=
          (mem_keywords_iff manifest _).mp met
        exact .keyword current held cut same
      · obtain ⟨run, held, same⟩ := mem_tokensOf.mp met
        exact .author held same
      · obtain ⟨run, held, same⟩ := mem_tokensOf.mp met
        exact .description held same
      · obtain ⟨release, current, same⟩ := (mem_version_iff manifest nonempty).mp met
        exact .version current same
    · obtain ⟨run, listed, rfl⟩ := mem_tokensOf.mp held
      exact .name listed part
  · rintro (⟨listed, part⟩ | ⟨current, held, listed, same⟩ | ⟨listed, same⟩ | ⟨listed, same⟩ |
      ⟨current, same⟩)
    · exact .inr ⟨_, mem_tokensOf.mpr ⟨_, listed, rfl⟩, part⟩
    · exact .inl ⟨.keywords, by simp [Field.standard],
        (mem_keywords_iff manifest _).mpr ⟨_, current, _, held, _, listed, same⟩⟩
    · exact .inl ⟨.author, by simp [Field.standard], mem_tokensOf.mpr ⟨_, listed, same⟩⟩
    · exact .inl ⟨.description, by simp [Field.standard], mem_tokensOf.mpr ⟨_, listed, same⟩⟩
    · exact .inl ⟨.version, by simp [Field.standard],
        (mem_version_iff manifest nonempty).mpr ⟨_, current, same⟩⟩

end Word

theorem Shows.mem_filter_iff {documents : List Document} {packages : Packages}
    (shows : Shows documents packages) (meets : Document → Bool) (name : String) :
    name ∈ (documents.filter meets).map Document.id ↔
      ∃ manifest, packages.lookup name = some manifest ∧ meets (Document.ofManifest manifest) := by
  have held (document : Document) : (document ∈ documents ∧ document.id = name) ↔
      ∃ manifest, packages.lookup name = some manifest ∧
        Document.ofManifest manifest = document := by
    have same : document ∈ documents.filter (fun document => document.id = name) ↔
        document ∈ ((packages.lookup name).map Document.ofManifest).toList := by
      rw [shows name]
    simpa using same
  rw [List.mem_map]
  constructor
  · rintro ⟨document, kept, named⟩
    obtain ⟨listed, met⟩ := List.mem_filter.mp kept
    obtain ⟨manifest, found, rfl⟩ := (held document).mp ⟨listed, named⟩
    exact ⟨manifest, found, met⟩
  · rintro ⟨manifest, found, met⟩
    obtain ⟨listed, named⟩ := (held _).mpr ⟨manifest, found, rfl⟩
    exact ⟨_, List.mem_filter.mpr ⟨listed, met⟩, named⟩

/-- After every history of operations a word of ASCII letters and digits that means nothing else in
a query text finds the packages that the history leaves and that answer to it, and no others: each
once, and the best first. -/
theorem query_word (operations : List Operation) {word : String} (isWord : IsWord word.toList)
    (ordinary : word ∉ queryWords) (short : word.length < runLimit) :
    let index := operations.foldl perform empty
    let packages := operations.foldl Packages.perform ∅
    ∃ hits, index.query word = .ok hits ∧
      (hits.map Hit.name).Nodup ∧
      hits.Pairwise (fun left right => right.score ≤ left.score) ∧
      ∀ name, name ∈ hits.map Hit.name ↔
        ∃ manifest, packages.lookup name = some manifest ∧ Answers manifest word := by
  intro index packages
  have shows : Shows index.documents packages := by
    apply Shows.performAll
    exact Shows.nothing
  have chosen : word ≠ wildcard := by
    rintro rfl
    have plain := isWord.alphanumeric '*' (by decide +kernel)
    simp at plain
  have fits : ∀ run ∈ infixTokens word.toList, isOversized run = false := by
    rw [isWord.infixTokens_eq]
    simp only [List.mem_singleton, forall_eq, isOversized, isWord.utf8ByteSize_lower,
      String.length_toList, decide_eq_false_iff_not, not_le]
    exact short
  obtain ⟨hits, found, ordered, same⟩ := query_hits index chosen fits
  refine ⟨hits, found, ?_, ordered, fun name => ?_⟩
  · rw [same.nodup_iff]
    exact (List.filter_sublist.map Document.id).nodup shows.nodup
  · rw [same.mem_iff, shows.mem_filter_iff]
    simp only [score?_word_isSome isWord ordinary index]

/-- One package is replaced and another one removed. -/
def sampleHistory : List Operation :=
  [.add { Manifest.blank with name := "left-pad", readme := some "PAD" },
    .add { Manifest.blank with name := "pad" }, .remove "pad",
    .follow (.updated { Manifest.blank with name := "left-pad", description := some "Fills up." })]

theorem query_word_sample :
    (IsWord "PAD".toList ∧ "PAD" ∉ queryWords ∧ "PAD".length < runLimit) ∧
    ∃ hits, (sampleHistory.foldl perform empty).query "PAD" = .ok hits ∧
      (hits.map Hit.name).Nodup ∧
      hits.Pairwise (fun left right => right.score ≤ left.score) ∧
      ∀ name, name ∈ hits.map Hit.name ↔
        ∃ manifest, (sampleHistory.foldl Packages.perform ∅).lookup name = some manifest ∧
          Answers manifest "PAD" := by
  have isWord : IsWord "PAD".toList := ⟨by decide, by simp⟩
  have ordinary : "PAD" ∉ queryWords := by decide
  have short : "PAD".length < runLimit := by decide +kernel
  exact ⟨⟨isWord, ordinary, short⟩, query_word sampleHistory isWord ordinary short⟩

end PackageSearch.Index
