import RegistryTokens.Proofs.Keyed
import RegistryTokens.Store

/-!
# Domains counted by groups

The store counts the live domains of several tokens at once by grouping those that are bound to any
of them. A token without live domains has no group, so the groups are put over zeros. That gives each
token the number that is found when it is counted alone.
-/

set_option autoImplicit false

namespace RegistryTokens.Store

open RegistryTokens.Time

variable {s : Store} {tokens : List String} {now : Instant}

def bindings (s : Store) (tokens : List String) (now : Instant) : List String :=
  s.domains.rows.filterMap fun row =>
    if row.2.isLive now then row.2.bulkToken.filter tokens.contains else none

theorem listed_of_mem_bindings {token : String} (h : token ∈ s.bindings tokens now) :
    token ∈ tokens := by
  obtain ⟨row, -, bound⟩ := List.mem_filterMap.1 h
  split at bound
  · exact List.contains_iff_mem.1 (Option.filter_eq_some_iff.1 bound).2
  · cases bound

theorem count_bindings {token : String} (listed : token ∈ tokens) :
    (s.bindings tokens now).count token = s.countBound token now := by
  rw [bindings, List.count_filterMap, countBound, ← List.countP_eq_length_filter]
  refine List.countP_congr fun row _ => ?_
  rw [DomainRow.countsFor]
  cases row.2.isLive now <;> simp [Option.filter_eq_some_iff, listed]

theorem boundCounts_eq : s.boundCounts tokens now =
    (distinct (s.bindings tokens now)).map fun token => (token, s.countBound token now) := by
  refine List.map_congr_left fun token bound => ?_
  exact congrArg _ (count_bindings (listed_of_mem_bindings (mem_distinct.1 bound)))

theorem countBound_of_not_mem {token : String} (listed : token ∈ tokens)
    (unbound : token ∉ s.bindings tokens now) : s.countBound token now = 0 := by
  rw [← count_bindings listed, List.count_eq_zero_of_not_mem unbound]

theorem extend_boundCounts (s : Store) (tokens : List String) (now : Instant) :
    (Keyed.ofList (tokens.map fun token => (token, (0 : Int)))).extend
        ((s.boundCounts tokens now).map fun c => (c.1, (c.2 : Int))) =
      (distinct tokens).map fun token => (token, (s.countBound token now : Int)) := by
  generalize shown : (tokens.map fun token => (token, (0 : Int))) = zeros
  generalize grouped : ((s.boundCounts tokens now).map fun c => (c.1, (c.2 : Int))) = groups
  rw [boundCounts_eq, List.map_map] at grouped
  have keysOfZeros : (Keyed.ofList zeros).keys = distinct tokens := by
    rw [Keyed.keys_ofList, ← shown, List.map_map]
    exact congrArg distinct (List.map_id tokens)
  have keysOfGroups : groups.map (·.1) = distinct (s.bindings tokens now) := by
    rw [← grouped, List.map_map]
    exact List.map_id _
  have keys : ((Keyed.ofList zeros).extend groups).keys = distinct tokens := by
    rw [Keyed.keys_extend_of_subset, keysOfZeros]
    intro group there
    have bound := keysOfGroups ▸ List.mem_map_of_mem there
    rw [keysOfZeros, mem_distinct]
    exact listed_of_mem_bindings (mem_distinct.1 bound)
  have numbers : ∀ entry ∈ (Keyed.ofList zeros).extend groups,
      entry = (entry.1, (s.countBound entry.1 now : Int)) := by
    intro entry there
    rcases Keyed.mem_of_mem_extend (Keyed.nodup_ofList zeros) there with group | ⟨zero, ungrouped⟩
    · obtain ⟨token, -, rfl⟩ := List.mem_map.1 (grouped ▸ group)
      rfl
    · rw [keysOfGroups, mem_distinct] at ungrouped
      obtain ⟨token, listed, rfl⟩ := List.mem_map.1 (shown ▸ Keyed.mem_of_mem_ofList zero)
      rw [countBound_of_not_mem listed ungrouped]
      rfl
  rw [← keys, Keyed.keys, List.map_map]
  exact (List.map_id _).symm.trans (List.map_congr_left numbers)

end RegistryTokens.Store
