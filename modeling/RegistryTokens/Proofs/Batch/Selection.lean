import RegistryTokens.Proofs.Batch.Plan
import RegistryTokens.Proofs.Store.Table

/-!
# What a selection selects

The targets are tokens as they are read back from their rows, no two of one identifier. Listed
identifiers come in the order of the request; those that begin with a text come in their own order,
and all of them come.
-/

set_option autoImplicit false

namespace RegistryTokens

open RegistryTokens.Store

theorem Store.TokenRow.identifier_toToken {row : TokenRow} {identifier : String} {t : Token}
    (h : row.toToken identifier = .ok t) : t.identifier = identifier := by
  obtain ⟨actions, -, h⟩ := Answer.bind_eq_ok.1 h
  obtain ⟨transitions, -, h⟩ := Answer.bind_eq_ok.1 h
  cases h
  rfl

namespace Store

def namesFrom (s : Store) (start : String) : List String :=
  (s.tokens.sorted.filter fun row => startsWith start row.1).map (·.1)

theorem namesFrom_increasing (s : Store) (start : String) :
    (s.namesFrom start).Pairwise (· < ·) :=
  s.tokens.sorted_increasing.sublist (List.filter_sublist.map _)

theorem mem_namesFrom {s : Store} {start name : String} :
    name ∈ s.namesFrom start ↔ name ∈ s.tokens.keys ∧ startsWith start name = true := by
  simp only [namesFrom, Table.keys, List.mem_map, List.mem_filter, Table.mem_sorted]
  constructor
  · rintro ⟨row, ⟨stored, starts⟩, rfl⟩
    exact ⟨⟨row, stored, rfl⟩, starts⟩
  · rintro ⟨⟨row, stored, rfl⟩, starts⟩
    exact ⟨row, ⟨stored, starts⟩, rfl⟩

end Store

namespace Batch

def Stands (s : Option Store) (t : Token) : Prop :=
  ∃ before row, s = some before ∧ before.tokens.get? t.identifier = some row ∧
    row.toToken t.identifier = .ok t

structure Selected (selection : Selection) (s : Option Store) (names : List String) : Prop where
  oneWay : selection.identifiers.isSome ≠ selection.start.isSome
  listed : ∀ identifiers, selection.identifiers = some identifiers → names = distinct identifiers
  found : ∀ start, selection.start = some start → names.Pairwise (· < ·) ∧
    ∀ name, name ∈ names ↔
      ∃ before, s = some before ∧ name ∈ before.tokens.keys ∧ startsWith start name

theorem Selected.nodup {selection : Selection} {s : Option Store} {names : List String}
    (h : Selected selection s names) : names.Nodup := by
  obtain ⟨identifiers, start⟩ := selection
  cases identifiers with
  | some identifiers =>
    rw [h.listed identifiers rfl]
    exact nodup_distinct identifiers
  | none =>
    cases start with
    | none => exact absurd rfl h.oneWay
    | some start =>
      exact nodup_of_increasing (h.found start rfl).1

theorem Selected.unique {selection : Selection} {before after : Store} {names others : List String}
    (keys : after.tokens.keys = before.tokens.keys) (h : Selected selection (some before) names)
    (ho : Selected selection (some after) others) : others = names := by
  obtain ⟨identifiers, start⟩ := selection
  cases identifiers with
  | some identifiers => rw [h.listed identifiers rfl, ho.listed identifiers rfl]
  | none =>
    cases start with
    | none => exact absurd rfl h.oneWay
    | some start =>
      obtain ⟨increasing, members⟩ := h.found start rfl
      obtain ⟨othersIncreasing, otherMembers⟩ := ho.found start rfl
      have same : others.Perm names := by
        refine (List.perm_ext_iff_of_nodup ho.nodup h.nodup).2 fun name => ?_
        rw [members, otherMembers]
        simp [keys]
      exact same.eq_of_pairwise (fun a b _ _ hab hba => absurd hba (String.lt_asymm hab))
        othersIncreasing increasing

theorem stands_of_tokenIn {s : Option Store} {identifier : String} {t : Token}
    (h : tokenIn s identifier = .ok t) : t.identifier = identifier ∧ Stands s t := by
  obtain ⟨before, there, h⟩ := Answer.bind_eq_ok.1 h
  obtain ⟨found, read, h⟩ := Answer.bind_eq_ok.1 h
  rw [Store.token?] at read
  cases hr : before.tokens.get? identifier with
  | none =>
    rw [hr] at read
    cases read
    cases h
  | some row =>
    rw [hr] at read
    obtain ⟨_, shown, rfl⟩ := Answer.map_eq_ok.1 read
    cases h
    have same := TokenRow.identifier_toToken shown
    refine ⟨same, before, row, standing_eq_ok there, ?_, ?_⟩
    · rw [same, hr]
    · rw [same]
      exact shown

theorem selected_of_tokensFrom {s : Option Store} {before : Store} {start : String}
    {ts : List Token} (there : s = some before) (h : before.tokensFrom start = .ok ts) :
    Selected ⟨none, some start⟩ s (ts.map (·.identifier)) ∧ ∀ t ∈ ts, Stands s t := by
  subst there
  have names : ts.map (·.identifier) = before.namesFrom start :=
    Answer.map_of_mapM h fun row _ t read => TokenRow.identifier_toToken read
  refine ⟨⟨nofun, nofun, ?_⟩, fun t ht => ?_⟩
  · rintro _ ⟨⟩
    rw [names]
    refine ⟨before.namesFrom_increasing start, fun name => ?_⟩
    rw [Store.mem_namesFrom]
    simp
  · obtain ⟨row, kept, read⟩ := Answer.exists_of_mem_mapM h ht
    have same := TokenRow.identifier_toToken read
    have stored := Table.mem_sorted.1 (List.mem_filter.1 kept).1
    exact ⟨before, row.2, rfl, Table.get?_eq_some_iff.2 (same ▸ stored), same ▸ read⟩

theorem selected_of_targets {selection : Selection} {s : Option Store} {ts : List Token}
    (h : targets selection s = .ok ts) :
    Selected selection s (ts.map (·.identifier)) ∧ ∀ t ∈ ts, Stands s t := by
  obtain ⟨identifiers, start⟩ := selection
  cases identifiers with
  | some identifiers =>
    cases start with
    | some start => cases h
    | none =>
      have names : ts.map (·.identifier) = (distinct identifiers).map id :=
        Answer.map_of_mapM h fun _ _ _ found => (stands_of_tokenIn found).1
      refine ⟨⟨nofun, ?_, nofun⟩, fun t ht => ?_⟩
      · rintro _ ⟨⟩
        rw [names, List.map_id]
      · obtain ⟨_, -, found⟩ := Answer.exists_of_mem_mapM h ht
        exact (stands_of_tokenIn found).2
  | none =>
    cases start with
    | none => cases h
    | some start =>
      simp only [targets] at h
      split at h
      · cases h
      · obtain ⟨before, there, h⟩ := Answer.bind_eq_ok.1 h
        exact selected_of_tokensFrom (standing_eq_ok there) h

end Batch

end RegistryTokens
