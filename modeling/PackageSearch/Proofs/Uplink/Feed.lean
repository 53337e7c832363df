import PackageSearch.Uplink.Scanner

/-!
# Feeding the scanner

`Reads` says where a piece of text leads the scanner and which elements it completes. Pieces
compose, so the places where a body is cut into chunks do not matter.
-/

set_option autoImplicit false

namespace PackageSearch.Uplink.Scanner

/-- Taking the bytes leads from one state to another and completes the elements. -/
def Reads (scanner : Scanner) (bytes : Bytes) (next : Scanner) (elements : List Bytes) : Prop :=
  ∀ found, scanner.feedAll found bytes = (next, elements.reverse ++ found)

theorem feedAll_append (scanner : Scanner) (found : List Bytes) (left right : Bytes) :
    scanner.feedAll found (left ++ right) =
      (scanner.feedAll found left).1.feedAll (scanner.feedAll found left).2 right := by
  induction left generalizing scanner found with
  | nil => rfl
  | cons byte rest ih =>
      simp only [List.cons_append, feedAll]
      exact ih _ _

namespace Reads

theorem nil (scanner : Scanner) : scanner.Reads [] scanner [] :=
  fun _ => rfl

theorem single {scanner next : Scanner} {byte : UInt8} {element : Option Bytes}
    (stepped : scanner.step byte = (next, element)) :
    scanner.Reads [byte] next element.toList := by
  intro found
  simp only [feedAll, stepped]
  cases element with
  | none => rfl
  | some => rfl

theorem append {first middle last : Scanner} {left right : Bytes} {early late : List Bytes}
    (before : first.Reads left middle early) (behind : middle.Reads right last late) :
    first.Reads (left ++ right) last (early ++ late) := by
  intro found
  rw [feedAll_append, before, behind, List.reverse_append, List.append_assoc]

theorem cons {first middle last : Scanner} {byte : UInt8} {rest : Bytes} {elements : List Bytes}
    (stepped : first.step byte = (middle, none)) (behind : middle.Reads rest last elements) :
    first.Reads (byte :: rest) last elements :=
  (single stepped).append behind

theorem feed_eq {scanner next : Scanner} {bytes : Bytes} {elements : List Bytes}
    (reads : scanner.Reads bytes next elements) : scanner.feed bytes = (next, elements) := by
  simp only [feed, reads [], List.append_nil, List.reverse_reverse]

end Reads

theorem reads_feed (scanner : Scanner) (bytes : Bytes) :
    scanner.Reads bytes (scanner.feed bytes).1 (scanner.feed bytes).2 := by
  induction bytes generalizing scanner with
  | nil => exact .nil scanner
  | cons byte rest ih =>
      have whole : scanner.Reads (byte :: rest) _ _ := (Reads.single rfl).append (ih _)
      rw [whole.feed_eq]
      exact whole

/-- Take chunks in order; the elements that they complete are given in order. -/
def feedChunks (scanner : Scanner) : List Bytes → Scanner × List Bytes
  | [] => (scanner, [])
  | chunk :: rest =>
      let (next, elements) := scanner.feed chunk
      let (last, others) := next.feedChunks rest
      (last, elements ++ others)

theorem feedChunks_eq (scanner : Scanner) (chunks : List Bytes) :
    scanner.feedChunks chunks = scanner.feed chunks.flatten := by
  induction chunks generalizing scanner with
  | nil => rfl
  | cons chunk rest ih =>
      have whole :=
        (scanner.reads_feed chunk).append ((scanner.feed chunk).1.reads_feed rest.flatten)
      rw [List.flatten_cons, whole.feed_eq]
      simp only [feedChunks, ih]

end PackageSearch.Uplink.Scanner
