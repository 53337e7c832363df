import Mathlib
import PackageSearch.Proofs.Json.Parts
import PackageSearch.Package.Person

/-!
# People and addresses read again

What the decoders of people and addresses read is read again from what is written for it. A person
or an address that is a record is written as one, so that it is never taken for a text, and the
members of a person's record are already in the order of their keys.
-/

set_option autoImplicit false

namespace PackageSearch.Package

open Json (Value Node Decoder Parts Reads Rereads)
open Json (bind_eq_ok value_entries value_reread)

namespace Contact

def parts : List (Json.Part Contact) :=
  [.always "username" false Decoder.text Contact.username
      (fun held username => { held with username }) .text,
    .always "email" false Decoder.text Contact.email
      (fun held email => { held with email }) .text]

theorem parts_lawful : Parts shape.blank 0 parts where
  keys := by decide
  apart := by simp [parts, Json.Part.Apart, Json.Part.always]
  faithful := by
    simp only [parts, List.forall_mem_cons]
    exact ⟨.text (fun _ _ => rfl) rfl, .text (fun _ _ => rfl) rfl,
      List.forall_mem_nil _⟩

theorem parts_determine : Json.Determine parts := by
  intro first second same
  cases first
  cases second
  simpa [parts, Json.Part.always] using same

theorem rereads : Rereads 1 shape.decoder toValue :=
  parts_lawful.rereads parts_determine

end Contact

namespace Account

def parts : List (Json.Part Account) :=
  [.always "name" true Decoder.text Account.name (fun held name => { held with name }) .text,
    .given "email" Decoder.text Account.email (fun held email => { held with email }) .text]

theorem parts_lawful : Parts shape.blank 0 parts where
  keys := by decide
  apart := by simp [parts, Json.Part.Apart, Json.Part.always, Json.Part.given]
  faithful := by
    simp only [parts, List.forall_mem_cons]
    exact ⟨.text (fun _ _ => rfl) rfl, .givenText (fun _ _ => rfl) rfl,
      List.forall_mem_nil _⟩

theorem toValue_eq_parts :
    toValue = fun account => .record (parts.flatMap fun part => part.members account) := by
  funext account
  simp [toValue, parts]

theorem parts_determine : Json.Determine parts := by
  intro first second same
  cases first
  cases second
  simpa [parts, Json.Part.always, Json.Part.given] using same

theorem rereads : Rereads 1 shape.decoder toValue := by
  rw [toValue_eq_parts]
  exact parts_lawful.rereads parts_determine

end Account

namespace Person

theorem toValue_ne_null (person : Person) : person.toValue ≠ .null := by
  cases person <;> nofun

theorem rereads : Rereads 0 decoder toValue := by
  have parts {levels : Nat} {person : Person} (reads : Reads decoder levels person) :
      person.toValue.tree.value levels = .ok person.toValue ∧
        person.toValue.AllNumbers Json.Number.InRange := by
    obtain ⟨node, inRange, result⟩ := reads
    obtain ⟨value, read, result⟩ := bind_eq_ok.mp result
    cases value with
    | text text =>
        cases result
        exact value_reread inRange read
    | record members =>
        cases result
        obtain ⟨dictionary, rfl⟩ := value_entries read
        rw [toValue, dictionary.ofList_entries]
        exact value_reread inRange read
    | null => cases result
    | boolean value => cases result
    | number value => cases result
    | list items => cases result
  constructor
  · intro levels person _ reads
    refine bind_eq_ok.mpr ⟨person.toValue, (parts reads).1, ?_⟩
    cases person with
    | text text => rfl
    | record members => exact congrArg (Except.ok ∘ record) members.ofList_entries
  · exact fun _ reads => (parts reads).2

end Person

namespace Location

theorem toValue_ne_null (location : Location) : location.toValue ≠ .null := by
  cases location <;> nofun

theorem rereads : Rereads 0 decoder toValue where
  reread := by
    rintro levels location - ⟨node, -, result⟩
    obtain ⟨value, read, result⟩ := bind_eq_ok.mp result
    cases location with
    | text address => rfl
    | record address =>
        cases node with
        | record members ending =>
            cases levels with
            | zero => cases read
            | succ levels => exact bind_eq_ok.mpr ⟨.record [("url", .text address)], rfl, rfl⟩
        | text value => cases value <;> cases result
        | _ => cases result
  inRange := by
    rintro levels location - -
    cases location with
    | text address => exact .text _
    | record address => exact .record (by simp)

end Location

end PackageSearch.Package
