import Mathlib.Data.List.TakeWhile
import RegistryTokens.Proofs.Batch.Selection
import RegistryTokens.Proofs.Lifecycle
import RegistryTokens.Proofs.Text.Bytes

/-!
# Tokens that begin with a text

A beginning selects the stored tokens whose identifiers start with it, each once and in the order of
their identifiers. To list the identifiers found in that order selects the same tokens, and a batch
makes no difference between the two ways of selecting them.
-/

set_option autoImplicit false

namespace RegistryTokens

open RegistryTokens.Store

namespace Store

theorem startsWith_iff {start : String} (mark : '\x00' ∉ start.toList) (name : String) :
    startsWith start name = true ↔ start.toList <+: name.toList := by
  simp [startsWith, mark]

/-- The first characters of an identifier as the store cuts them off. An end mark ends the text. -/
def leading (n : Nat) (name : String) : List Char := (name.toList.takeWhile (· != '\x00')).take n

theorem startsWith_iff_leading (start name : String) :
    startsWith start name = true ↔ leading start.length name = start.toList := by
  have length : start.toList.length = start.length := start.length_toList
  by_cases mark : '\x00' ∈ start.toList
  · refine iff_of_false (by simp [startsWith, mark]) fun same => ?_
    rw [← same] at mark
    have := List.mem_takeWhile_imp (List.mem_of_mem_take mark)
    simp at this
  · rw [startsWith_iff mark]
    constructor
    · rintro ⟨rest, whole⟩
      have unmarked : ∀ c ∈ start.toList, (c != '\x00') = true := by
        rintro c hc
        simpa using fun same : c = '\x00' => mark (same ▸ hc)
      rw [leading, ← whole, List.takeWhile_append_of_pos unmarked, ← length, List.take_left]
    · intro same
      rw [← same, leading]
      exact (List.take_prefix _ _).trans (List.takeWhile_prefix _)

theorem tokenIn_of_stored {s : Store} {row : String × TokenRow} (stored : row ∈ s.tokens.rows) :
    Batch.tokenIn (some s) row.1 = row.2.toToken row.1 := by
  have shown : s.token? row.1 = (row.2.toToken row.1).map some := by
    rw [token?, Table.get?_eq_some_iff.2 stored]
    rfl
  change (s.token? row.1 >>= _) = _
  rw [shown]
  cases row.2.toToken row.1 <;> rfl

theorem tokensFrom_eq (s : Store) (start : String) :
    s.tokensFrom start = (s.namesFrom start).mapM (Batch.tokenIn (some s)) := by
  rw [tokensFrom, namesFrom, List.mapM_map]
  refine Answer.mapM_congr fun row kept => (tokenIn_of_stored ?_).symm
  exact Table.mem_sorted.1 (List.mem_filter.1 kept).1

end Store

namespace Batch

theorem targets_of_start {start : String} (given : Text.blank start = false) (s : Store) :
    targets ⟨none, some start⟩ (some s) = (s.namesFrom start).mapM (tokenIn (some s)) := by
  simp only [targets, given, Bool.false_eq_true, if_false]
  exact s.tokensFrom_eq start

theorem targets_of_names {names : List String} (apart : names.Nodup) (s : Option Store) :
    targets ⟨some names, none⟩ s = names.mapM (tokenIn s) := by
  simp only [targets, distinct_of_nodup apart]

theorem run_congr {p q : Request} {w : World}
    (targets : targets p.selection w.store = targets q.selection w.store)
    (updates : p.updates = q.updates) (dryRun : p.dryRun = q.dryRun) (first second : String) :
    ((run first p).run w).1 = ((run second q).run w).1 ∧
      ((run first p).run w).2.store = ((run second q).run w).2.store := by
  have changes : changes p w.store w.clock = changes q w.store w.clock := by
    rw [Batch.changes, Batch.changes, targets, updates]
  have planned : planned p w.store w.clock = planned q w.store w.clock := by
    rw [Batch.planned, Batch.planned, changes, dryRun]
  have reported (deltas : List Delta) : report p deltas = report q deltas := by
    rw [report, report, dryRun]
  constructor
  · simp only [Job.answer_run, planned, reported]
  · simp only [(Job.does_run _ _).store, planned, reported]

section
variable {w : World} {s : Store} {start : String}

/-- What is found by a beginning, in terms of the names that begin with it. -/
structure Found (s : Store) (start : String) (names : List String) (answer : Answer (List Token)) :
    Prop where
  increasing : names.Pairwise (· < ·)
  bytewise : names.Pairwise fun a b => bytes a < bytes b
  members : ∀ name, name ∈ names ↔ name ∈ s.tokens.keys ∧ start.toList <+: name.toList
  cut : ∀ name ∈ s.tokens.keys, name ∈ names ↔ Store.leading start.length name = start.toList
  looked : answer = names.mapM (tokenIn (some s))
  returned : s.Readable → ∃ ts, answer = .ok ts ∧ ts.map (·.identifier) = names ∧
    ∀ t ∈ ts, s.token? t.identifier = .ok (some t)

theorem found_byStart (there : w.store = some s) (given : Text.blank start = false)
    (mark : '\x00' ∉ start.toList) :
    Found s start (s.namesFrom start) ((Job.byStart start).run w).1 := by
  have answer : ((Job.byStart start).run w).1 = (s.namesFrom start).mapM (tokenIn (some s)) := by
    rw [(Job.reads_byStart start).answer, there]
    exact targets_of_start given s
  have increasing := s.namesFrom_increasing start
  refine ⟨increasing, increasing.imp lt_iff_bytes_lt.1, fun name => ?_, fun name stored => ?_, answer,
    fun readable => ?_⟩
  · rw [Store.mem_namesFrom, Store.startsWith_iff mark]
  · rw [Store.mem_namesFrom, Store.startsWith_iff_leading, and_iff_right stored]
  · obtain ⟨ts, found⟩ := Answer.exists_mapM_eq_ok fun name named =>
      readable.tokenIn (Store.mem_namesFrom.1 named).1
    refine ⟨ts, answer.trans found, ?_, fun t ht => ?_⟩
    · rw [Answer.map_of_mapM found fun _ _ _ found => (stands_of_tokenIn found).1, List.map_id']
    · obtain ⟨name, -, found⟩ := Answer.exists_of_mem_mapM found ht
      obtain ⟨rfl, _, row, ⟨⟩, stored, shown⟩ := stands_of_tokenIn found
      exact Store.token?_eq_ok stored shown

/-- A beginning that is not blank and holds no end mark selects the stored tokens that start with it,
and a batch does with it what it does with the list of their identifiers. -/
theorem selected_by_start (there : w.store = some s) (given : Text.blank start = false)
    (mark : '\x00' ∉ start.toList) : ∃ names, Found s start names ((Job.byStart start).run w).1 ∧
      ∀ u dryRun first second,
        ((run first ⟨⟨none, some start⟩, u, dryRun⟩).run w).1 =
            ((run second ⟨⟨some names, none⟩, u, dryRun⟩).run w).1 ∧
          ((run first ⟨⟨none, some start⟩, u, dryRun⟩).run w).2.store =
            ((run second ⟨⟨some names, none⟩, u, dryRun⟩).run w).2.store := by
  have found := found_byStart there given mark
  refine ⟨s.namesFrom start, found, fun u dryRun first second => ?_⟩
  have apart := nodup_of_increasing found.increasing
  have same : targets ⟨none, some start⟩ w.store = targets ⟨some (s.namesFrom start), none⟩ w.store := by
    rw [there, targets_of_names apart, targets_of_start given]
  exact run_congr (p := ⟨⟨none, some start⟩, u, dryRun⟩)
    (q := ⟨⟨some (s.namesFrom start), none⟩, u, dryRun⟩) same rfl rfl first second

end

def signsWorld : World :=
  (Operation.session (["b%2", "B%1", "b_1", "b%1"].map fun name =>
    .createToken name (.text "SINGLE_USE") []) false).run freshWorld

theorem selected_by_percent : ∃ s names, signsWorld.store = some s ∧
    Found s "b%" names ((Job.byStart "b%").run signsWorld).1 ∧
    ∀ name, name ∈ names ↔ name = "b%1" ∨ name = "b%2" := by
  have stored : signsWorld.store.map (·.tokens.keys) = some ["b%2", "B%1", "b_1", "b%1"] := by
    decide +kernel
  obtain ⟨s, there, keys⟩ := Option.map_eq_some_iff.1 stored
  obtain ⟨names, found, -⟩ := @selected_by_start _ _ "b%" there (by decide) (by decide)
  refine ⟨s, names, there, found, fun name => ?_⟩
  rw [found.members, keys]
  constructor
  · rintro ⟨stored, starts⟩
    simp only [List.mem_cons, List.not_mem_nil, or_false] at stored
    rcases stored with rfl | rfl | rfl | rfl
    · exact .inr rfl
    · exact absurd starts (by decide)
    · exact absurd starts (by decide)
    · exact .inl rfl
  · rintro (rfl | rfl) <;> decide

end Batch

end RegistryTokens
