import Mathlib.Data.List.Basic
import RegistryTokens.Job.Usage
import RegistryTokens.Proofs.Batch.Plan
import RegistryTokens.Proofs.Store.Counts

/-!
# Looking packages up

A lookup answers by the store and the clock. It needs a package under every name, and the time at
which domains count as bound.
-/

set_option autoImplicit false

namespace RegistryTokens.Job

open RegistryTokens.Time RegistryTokens.Store RegistryTokens.Batch

def countsIn (tokens : List String) (s : Option Store) (c : Clock) : Answer (List (String × Int)) :=
  if tokens.isEmpty then .ok []
  else do
    let instant ← c.now.mapError Failure.ofClock >>= Column.writeStamp
    let before ← standing s
    pure ((distinct tokens).map fun token => (token, (before.countBound token instant : Int)))

def packagesIn (tokens : List String) (s : Option Store) (c : Clock) : Answer (List Package) :=
  if (distinct tokens).isEmpty then
    Answer.refuse
      (Refusal.malformed "tokens" (.list []) "at least one token identifier is required")
  else do
    let before ← standing s
    match (distinct tokens).find? fun token => !before.packages.has token with
    | some missing => Answer.refuse (Refusal.unknownPackage missing)
    | none => do
      let counts ← countsIn (distinct tokens) s c
      (counts.filterMap fun (token, inUse) =>
        (before.packages.get? token).map fun row => row.toPackage token inUse).mapM id

theorem reads_countsBound (tokens : List String) : Reads (countsBound tokens) (countsIn tokens) := by
  unfold countsBound countsIn
  simp only [extend_boundCounts]
  exact (reads_pure []).ite _ <| (reads_now.bind fun _ => reads_ofAnswer _).bind fun _ =>
    reads_tables.bind fun _ => reads_pure _

theorem reads_packages (tokens : List String) : Reads (packages tokens) (packagesIn tokens) := by
  unfold packages packagesIn
  dsimp only
  split
  · exact Does.halt (reads_ofAnswer _) _
  · refine reads_tables.bind fun before => ?_
    cases (distinct tokens).find? fun token => !before.packages.has token with
    | some missing => exact Does.halt (reads_ofAnswer _) _
    | none => exact (reads_countsBound _).bind fun _ => reads_ofAnswer _

def packageIn (s : Store) (instant : Instant) (name : String) : Answer Package :=
  match s.packages.get? name with
  | some row => row.toPackage name (s.countBound name instant)
  | none => Answer.refuse (Refusal.unknownPackage name)

theorem packagesIn_nil (s : Option Store) (c : Clock) : packagesIn [] s c = Answer.refuse
    (Refusal.malformed "tokens" (.list []) "at least one token identifier is required") := rfl

section
variable {names : List String} {s : Store} {c : Clock} {stamp : Stamp} {instant : Instant}

theorem packagesIn_of_ne_nil (given : names ≠ []) : packagesIn names (some s) c =
    match names.find? fun token => !s.packages.has token with
    | some missing => Answer.refuse (Refusal.unknownPackage missing)
    | none => countsIn (distinct names) (some s) c >>= fun counts =>
      (counts.filterMap fun (token, inUse) =>
        (s.packages.get? token).map fun row => row.toPackage token inUse).mapM id := by
  have some : (distinct names).isEmpty = false := by
    obtain ⟨name, rest, rfl⟩ := List.exists_cons_of_ne_nil given
    rfl
  rw [packagesIn, some, if_neg Bool.false_ne_true, ← find?_distinct]
  rfl

theorem countsIn_distinct (given : names ≠ []) (now : c.now = .ok stamp)
    (placed : Column.writeStamp stamp = .ok instant) : countsIn (distinct names) (some s) c =
      .ok ((distinct names).map fun name => (name, (s.countBound name instant : Int))) := by
  have some : (distinct names).isEmpty = false := by
    obtain ⟨name, rest, rfl⟩ := List.exists_cons_of_ne_nil given
    rfl
  rw [countsIn, some, if_neg Bool.false_ne_true, now, distinct_of_nodup (nodup_distinct names)]
  change Column.writeStamp stamp >>= _ = _
  rw [placed]
  rfl

theorem packagesIn_of_stored (given : names ≠ []) (stored : ∀ name ∈ names, name ∈ s.packages.keys)
    (now : c.now = .ok stamp) (placed : Column.writeStamp stamp = .ok instant) :
    packagesIn names (some s) c = (distinct names).mapM (packageIn s instant) := by
  have packed : names.find? (fun token => !s.packages.has token) = none := by
    simpa [Table.has] using stored
  rw [packagesIn_of_ne_nil given, packed]
  dsimp only
  rw [countsIn_distinct given now placed]
  change (List.filterMap _ (List.map _ _)).mapM id = _
  have each : ((distinct names).map fun name => (name, (s.countBound name instant : Int))).filterMap
      (fun (token, inUse) => (s.packages.get? token).map fun row => row.toPackage token inUse) =
      (distinct names).map (packageIn s instant) := by
    rw [List.filterMap_map, List.filterMap_eq_map_iff_forall_eq_some]
    intro name named
    obtain ⟨row, found⟩ := Table.mem_keys_iff.1 (stored name (mem_distinct.1 named))
    simp [packageIn, found]
  rw [each, List.mapM_map]
  rfl

theorem packagesIn_of_missing {front back : List String} {name : String}
    (stored : ∀ other ∈ front, other ∈ s.packages.keys) (missing : name ∉ s.packages.keys) :
    packagesIn (front ++ name :: back) (some s) c = .error (.refused (Refusal.unknownPackage name)) := by
  have first : (front ++ name :: back).find? (fun token => !s.packages.has token) = some name := by
    rw [List.find?_eq_some_iff_append]
    exact ⟨by simpa [Table.has] using missing, front, back, rfl, by simpa [Table.has] using stored⟩
  rw [packagesIn_of_ne_nil (by simp), first]
  rfl

end

theorem packages_singleton {token : String} {row : PackageRow} {s : Store} {w : World} {stamp : Stamp}
    {instant : Instant} (there : w.store = some s) (stored : s.packages.get? token = some row)
    (now : w.clock.now = .ok stamp) (placed : Column.writeStamp stamp = .ok instant) :
    ((packages [token]).run w).1 =
      (row.toPackage token (s.countBound token instant)).map fun found => [found] := by
  have key : ∀ name ∈ [token], name ∈ s.packages.keys := by
    simpa using Table.mem_keys_iff.2 ⟨row, stored⟩
  have one : distinct [token] = [token] := rfl
  have some : [token] ≠ [] := List.cons_ne_nil _ _
  rw [(reads_packages [token]).answer, there, packagesIn_of_stored some key now placed, one,
    List.mapM_cons, List.mapM_nil, packageIn, stored]
  dsimp only
  cases row.toPackage token (s.countBound token instant) <;> rfl

end RegistryTokens.Job
