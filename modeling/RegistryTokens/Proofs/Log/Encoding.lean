import RegistryTokens.Log.Encoding
import RegistryTokens.Proofs.Answer

/-!
# What has a tree

A value has a tree in a log line just if every key of every map in it is text or a plain value.
-/

set_option autoImplicit false

namespace RegistryTokens.Log

open RegistryTokens.Text

mutual

/-- Every key of every map is text or a plain value. -/
def Encodable : Value → Prop
  | .list items | .tuple items => ItemsEncodable items
  | .map entries => EntriesEncodable entries
  | _ => True

def ItemsEncodable : List Value → Prop
  | [] => True
  | v :: rest => Encodable v ∧ ItemsEncodable rest

def EntriesEncodable : List (Value × Value) → Prop
  | [] => True
  | (k, v) :: rest => (∃ name, keyText? k = some name) ∧ Encodable v ∧ EntriesEncodable rest

end

mutual

theorem exists_encode_iff (v : Value) : (∃ j, encode v = .ok j) ↔ Encodable v := by
  have mapped {α : Type} {answer : Answer α} {f : α → Json} :
      (∃ j, answer.map f = .ok j) ↔ ∃ a, answer = .ok a := by
    cases answer <;> simp [Except.map]
  cases v
  case list items => exact mapped.trans (exists_encodeItems_iff items)
  case tuple items => exact mapped.trans (exists_encodeItems_iff items)
  case map entries => exact mapped.trans (exists_encodeEntries_iff entries)
  all_goals exact ⟨fun _ => trivial, fun _ => ⟨_, rfl⟩⟩

theorem exists_encodeItems_iff (items : List Value) :
    (∃ js, encodeItems items = .ok js) ↔ ItemsEncodable items := by
  cases items with
  | nil => exact ⟨fun _ => trivial, fun _ => ⟨[], rfl⟩⟩
  | cons v rest =>
    rw [encodeItems, ItemsEncodable, ← exists_encode_iff v, ← exists_encodeItems_iff rest]
    constructor
    · rintro ⟨_, h⟩
      obtain ⟨j, first, h⟩ := Answer.bind_eq_ok.1 h
      obtain ⟨js, later, -⟩ := Answer.bind_eq_ok.1 h
      exact ⟨⟨j, first⟩, ⟨js, later⟩⟩
    · rintro ⟨⟨j, first⟩, ⟨js, later⟩⟩
      exact ⟨j :: js, Answer.bind_eq_ok.2 ⟨j, first, Answer.bind_eq_ok.2 ⟨js, later, rfl⟩⟩⟩

theorem exists_encodeEntries_iff (entries : List (Value × Value)) :
    (∃ js, encodeEntries entries = .ok js) ↔ EntriesEncodable entries := by
  cases entries with
  | nil => exact ⟨fun _ => trivial, fun _ => ⟨[], rfl⟩⟩
  | cons entry rest =>
    obtain ⟨k, v⟩ := entry
    rw [encodeEntries, EntriesEncodable, ← exists_encode_iff v, ← exists_encodeEntries_iff rest]
    constructor
    · rintro ⟨_, h⟩
      obtain ⟨name, named, h⟩ := Answer.bind_eq_ok.1 h
      obtain ⟨j, first, h⟩ := Answer.bind_eq_ok.1 h
      obtain ⟨js, later, -⟩ := Answer.bind_eq_ok.1 h
      refine ⟨⟨name, ?_⟩, ⟨j, first⟩, ⟨js, later⟩⟩
      cases key : keyText? k with
      | none =>
        rw [key] at named
        cases named
      | some text =>
        rw [key] at named
        cases named
        rfl
    · rintro ⟨⟨name, named⟩, ⟨j, first⟩, ⟨js, later⟩⟩
      refine ⟨(name, j) :: js, Answer.bind_eq_ok.2 ⟨name, by rw [named]; rfl, ?_⟩⟩
      exact Answer.bind_eq_ok.2 ⟨j, first, Answer.bind_eq_ok.2 ⟨js, later, rfl⟩⟩

end

end RegistryTokens.Log
