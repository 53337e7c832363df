import Mathlib
import PackageSearch.Proofs.Text.Words
import PackageSearch.Query.Matcher

/-!
# Query texts as conjunctions

A query text asks for what each of its words asks for, and for nothing else. So texts with blanks
between them ask for what both ask for, the order and the number of the words do not count, a text
with more words is matched by fewer packages, and a text of blanks alone by all.
-/

set_option autoImplicit false

namespace PackageSearch

open Package (Summary)

namespace Matcher

/-- The characters stand in the text as one of its words. -/
def IsWord (text : String) (word : List Char) : Prop :=
  Text.IsRun Text.isBlank text.toList word

/-- A package matches a text if every word of it finds something in the package. -/
theorem accepts_compile_iff {text : String} {summary : Summary} :
    (compile text).accepts summary = true ↔
      ∀ word, IsWord text word → (Term.ofWord word).holds summary = true := by
  simp only [accepts, compile, List.all_eq_true, List.forall_mem_map, Text.words, Text.mem_runs_iff]
  rfl

theorem accepts_append_iff {left blank right : String} (given : blank ≠ "")
    (isBlank : ∀ character ∈ blank.toList, Text.isBlank character = true) (summary : Summary) :
    (compile (left ++ blank ++ right)).accepts summary = true ↔
      (compile left).accepts summary = true ∧ (compile right).accepts summary = true := by
  have nonempty : blank.toList ≠ [] := by
    simpa using given
  simp only [accepts, compile, Text.words, String.toList_append,
    Text.runs_append_separators nonempty isBlank, List.map_append, List.all_append,
    Bool.and_eq_true]

theorem isMatchAll_compile_iff {text : String} :
    (compile text).isMatchAll = true ↔
      ∀ character ∈ text.toList, Text.isBlank character = true := by
  rw [isMatchAll, compile, List.isEmpty_iff, List.map_eq_nil_iff, Text.words, Text.runs_eq_nil_iff]

theorem accepts_of_isMatchAll {pattern : Matcher} (all : pattern.isMatchAll = true)
    (summary : Summary) : pattern.accepts summary = true := by
  rw [accepts, List.isEmpty_iff.1 all, List.all_nil]

/-- Query texts compose by conjunction: texts with blanks between them are matched by what matches
both. Only which words a text has counts; with more words fewer packages match, and the texts
without words are those that every package matches at once. -/
theorem compile_conjunction :
    (∀ left blank right : String, blank ≠ "" →
      (∀ character ∈ blank.toList, Text.isBlank character = true) → ∀ summary : Summary,
      ((compile (left ++ blank ++ right)).accepts summary = true ↔
        (compile left).accepts summary = true ∧ (compile right).accepts summary = true)) ∧
    (∀ text other : String, (∀ word, IsWord text word ↔ IsWord other word) → ∀ summary : Summary,
      (compile text).accepts summary = (compile other).accepts summary) ∧
    (∀ text longer : String, (∀ word, IsWord text word → IsWord longer word) → ∀ summary : Summary,
      (compile longer).accepts summary = true → (compile text).accepts summary = true) ∧
    ∀ text : String,
      ((compile text).isMatchAll = true ↔
        ∀ character ∈ text.toList, Text.isBlank character = true) ∧
      ((compile text).isMatchAll = true → ∀ summary : Summary,
        (compile text).accepts summary = true) := by
  have narrower {text longer : String} (more : ∀ word, IsWord text word → IsWord longer word)
      (summary : Summary) (found : (compile longer).accepts summary = true) :
      (compile text).accepts summary = true :=
    accepts_compile_iff.2 fun word listed => accepts_compile_iff.1 found word (more word listed)
  refine ⟨fun left blank right given isBlank => accepts_append_iff given isBlank, ?_, ?_, ?_⟩
  · intro text other same summary
    rw [Bool.eq_iff_iff]
    exact ⟨narrower (fun word => (same word).2) summary,
      narrower (fun word => (same word).1) summary⟩
  · exact fun text longer more => narrower more
  · exact fun text => ⟨isMatchAll_compile_iff, accepts_of_isMatchAll⟩

def alicesPackage : Summary :=
  { Summary.blank with name := "left-pad", author := some (.text "alice@example.com") }

/-- The ideographic space and the em space are blanks, and words may be repeated. -/
theorem compile_conjunction_sample :
    ("\u2003\t" ≠ "" ∧ (∀ character ∈ "\u2003\t".toList, Text.isBlank character = true) ∧
      ((compile ("author:alice\u3000" ++ "\u2003\t" ++ " pad")).accepts alicesPackage = true ↔
        (compile "author:alice\u3000").accepts alicesPackage = true ∧
          (compile " pad").accepts alicesPackage = true)) ∧
    (∀ word, IsWord "author:alice pad" word ↔ IsWord "pad\u3000author:alice pad" word) ∧
      (compile "author:alice pad").accepts alicesPackage =
        (compile "pad\u3000author:alice pad").accepts alicesPackage ∧
    (∀ word, IsWord "pad" word → IsWord "pad\u3000author:alice pad" word) ∧
      (compile "pad\u3000author:alice pad").accepts alicesPackage = true ∧
      (compile "pad").accepts alicesPackage = true ∧
    (compile "\u3000").isMatchAll = true ∧ (compile "\u3000").accepts alicesPackage = true := by
  have blank : ∀ character ∈ "\u2003\t".toList, Text.isBlank character = true :=
    List.all_eq_true.1 (by decide)
  have same (word : List Char) :
      IsWord "author:alice pad" word ↔ IsWord "pad\u3000author:alice pad" word := by
    have words : Text.runs Text.isBlank "author:alice pad".toList =
        ["author:alice".toList, "pad".toList] := by decide
    have others : Text.runs Text.isBlank "pad\u3000author:alice pad".toList =
        ["pad".toList, "author:alice".toList, "pad".toList] := by decide
    simp only [IsWord, ← Text.mem_runs_iff, words, others, List.mem_cons, List.not_mem_nil,
      or_false]
    exact ⟨.inr, fun listed => listed.elim .inr id⟩
  have more (word : List Char) (listed : IsWord "pad" word) :
      IsWord "pad\u3000author:alice pad" word := by
    rw [IsWord, ← Text.mem_runs_iff] at listed ⊢
    have words : Text.runs Text.isBlank "pad".toList = ["pad".toList] := by decide
    rw [words, List.mem_singleton] at listed
    subst listed
    decide
  have found : (compile "pad\u3000author:alice pad").accepts alicesPackage = true := by
    decide +kernel
  have all : (compile "\u3000").isMatchAll = true := by decide
  exact ⟨⟨by decide, blank, compile_conjunction.1 _ _ _ (by decide) blank _⟩, same,
    compile_conjunction.2.1 _ _ same _, more, found, compile_conjunction.2.2.1 _ _ more _ found,
    all, (compile_conjunction.2.2.2 _).2 all _⟩

end Matcher

end PackageSearch
