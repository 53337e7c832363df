import Mathlib
import PackageSearch.Proofs.Package.People
import PackageSearch.Package.Manifest

/-!
# Manifests read again
-/

set_option autoImplicit false

namespace PackageSearch.Package

open Json (Decoder Parts Rereads)
open Json (rereads_text reads_noItems reads_noEntries)

namespace Release

def parts : List (Json.Part Release) :=
  [.always "name" false Decoder.text name (fun held name => { held with name }) .text,
    .always "version" false Decoder.text version (fun held version => { held with version }) .text,
    .given "description" Decoder.text description
      (fun held description => { held with description }) .text,
    .always "keywords" false (Decoder.list Decoder.text) keywords
      (fun held keywords => { held with keywords }) (fun keywords => .list (keywords.map .text)),
    .given "author" Person.decoder author (fun held author => { held with author })
      Person.toValue,
    .given "homepage" Decoder.text homepage (fun held homepage => { held with homepage }) .text,
    .given "repository" Location.decoder repository
      (fun held repository => { held with repository }) Location.toValue,
    .given "bugs" Location.decoder bugs (fun held bugs => { held with bugs }) Location.toValue,
    .always "maintainers" false (Decoder.list Account.shape.decoder) maintainers
      (fun held maintainers => { held with maintainers })
      (fun maintainers => .list (maintainers.map Account.toValue)),
    .given "_npmUser" Account.shape.decoder publisher
      (fun held publisher => { held with publisher })
      Account.toValue]

theorem parts_lawful : Parts blank 2 parts where
  keys := by decide
  apart := by simp [parts, Json.Part.Apart, Json.Part.always, Json.Part.given]
  faithful := by
    have location {get : Release → Option Location} {set : Release → Option Location → Release}
        (key : String) (get_set : ∀ held content, get (set held content) = content)
        (initial : get blank = none) :
        (Json.Part.given key Location.decoder get set Location.toValue).Faithful blank 2 :=
      .given Location.rereads (Nat.zero_le 2) Location.toValue_ne_null get_set initial
    simp only [parts, List.forall_mem_cons]
    exact ⟨.text (fun _ _ => rfl) rfl, .text (fun _ _ => rfl) rfl,
      .givenText (fun _ _ => rfl) rfl,
      .always rereads_text.list (by decide) (fun _ _ => rfl)
        fun _ enough => reads_noItems _ (Nat.le_of_succ_le enough),
      .given Person.rereads (Nat.zero_le _) Person.toValue_ne_null (fun _ _ => rfl) rfl,
      .givenText (fun _ _ => rfl) rfl,
      location _ (fun _ _ => rfl) rfl, location _ (fun _ _ => rfl) rfl,
      .always Account.rereads.list (Nat.le_refl _) (fun _ _ => rfl)
        fun _ enough => reads_noItems _ (Nat.le_of_succ_le enough),
      .given Account.rereads (by decide) (fun _ => by simp [Account.toValue]) (fun _ _ => rfl) rfl,
      List.forall_mem_nil _⟩

theorem toValue_eq_parts :
    toValue = fun release => .record (parts.flatMap fun part => part.members release) := by
  funext release
  simp [toValue, parts]

theorem parts_determine : Json.Determine parts := by
  intro first second same
  cases first
  cases second
  simpa [parts, Json.Part.always, Json.Part.given] using same

theorem rereads : Rereads 3 shape.decoder toValue := by
  rw [toValue_eq_parts]
  exact parts_lawful.rereads parts_determine

end Release

namespace Manifest

def parts : List (Json.Part Manifest) :=
  [.always "name" true Decoder.text name (fun held name => { held with name }) .text,
    .given "description" Decoder.text description
      (fun held description => { held with description }) .text,
    .always "versions" false (Decoder.dictionary Release.shape.decoder) versions
      (fun held versions => { held with versions })
      (fun versions => .record (versions.map Release.toValue).entries),
    .always "dist-tags" false (Decoder.dictionary Decoder.text) tags
      (fun held tags => { held with tags }) textsValue,
    .always "time" false (Decoder.dictionary Decoder.text) times
      (fun held times => { held with times }) textsValue,
    .given "readme" Decoder.text readme (fun held readme => { held with readme }) .text,
    .given "author" Person.decoder author (fun held author => { held with author })
      Person.toValue,
    .always "maintainers" false (Decoder.list Account.shape.decoder) maintainers
      (fun held maintainers => { held with maintainers })
      (fun maintainers => .list (maintainers.map Account.toValue))]

theorem parts_lawful : Parts blank 4 parts where
  keys := by decide
  apart := by simp [parts, Json.Part.Apart, Json.Part.always, Json.Part.given]
  faithful := by
    have texts {get : Manifest → Dictionary String} {set : Manifest → Dictionary String → Manifest}
        (key : String) (get_set : ∀ held content, get (set held content) = content)
        (initial : get blank = .empty) :
        (Json.Part.always key false (Decoder.dictionary Decoder.text) get set textsValue).Faithful
          blank 4 :=
      .always rereads_text.dictionary (by decide) get_set fun _ enough => by
        rw [initial]
        exact reads_noEntries _ (by omega)
    simp only [parts, List.forall_mem_cons]
    exact ⟨.text (fun _ _ => rfl) rfl, .givenText (fun _ _ => rfl) rfl,
      .always Release.rereads.dictionary (Nat.le_refl _) (fun _ _ => rfl)
        fun _ enough => reads_noEntries _ (by omega),
      texts _ (fun _ _ => rfl) rfl, texts _ (fun _ _ => rfl) rfl,
      .givenText (fun _ _ => rfl) rfl,
      .given Person.rereads (Nat.zero_le _) Person.toValue_ne_null (fun _ _ => rfl) rfl,
      .always Account.rereads.list (by decide) (fun _ _ => rfl)
        fun _ enough => reads_noItems _ (by omega),
      List.forall_mem_nil _⟩

theorem toValue_eq_parts :
    toValue = fun manifest => .record (parts.flatMap fun part => part.members manifest) := by
  funext manifest
  simp [toValue, parts]

theorem parts_determine : Json.Determine parts := by
  intro first second same
  cases first
  cases second
  simpa [parts, Json.Part.always, Json.Part.given] using same

theorem rereads : Rereads 5 shape.decoder toValue := by
  rw [toValue_eq_parts]
  exact parts_lawful.rereads parts_determine

end Manifest

end PackageSearch.Package
