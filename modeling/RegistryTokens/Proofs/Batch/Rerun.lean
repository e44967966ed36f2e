import RegistryTokens.Proofs.Batch.Breakdown
import RegistryTokens.Proofs.Update.Again

/-!
# A batch that is run again

Right after a batch, the same batch finds the same targets in the same order, and each of them takes
the update again. It has nothing to write but the fractions that their column cannot hold, and for
these it writes what is there already; so the store stays as it is in either case.
-/

set_option autoImplicit false

namespace RegistryTokens

open RegistryTokens.Time RegistryTokens.Store

namespace Batch

open Job Answer

theorem exists_targets {before after : Store} (reachable : Reachable after)
    (keys : after.tokens.keys = before.tokens.keys) {selection : Selection} {ts : List Token}
    (found : targets selection (some before) = .ok ts) :
    ∃ us, targets selection (some after) = .ok us := by
  obtain ⟨identifiers, start⟩ := selection
  cases identifiers with
  | some identifiers =>
    cases start with
    | some start => cases found
    | none =>
      refine exists_mapM_eq_ok fun name hname => ?_
      obtain ⟨t, -, token⟩ := exists_of_mem_items found hname
      obtain ⟨same, _, row, ⟨⟩, stored, -⟩ := stands_of_tokenIn token
      have key : name ∈ after.tokens.keys := by
        rw [keys, ← same]
        exact Table.mem_keys_iff.2 ⟨row, stored⟩
      exact reachable.readable.tokenIn key
  | none =>
    cases start with
    | none => cases found
    | some start =>
      simp only [targets] at found ⊢
      split at found
      · cases found
      · rename_i filled
        rw [if_neg filled]
        refine exists_mapM_eq_ok fun row kept => ?_
        have stored := Table.mem_sorted.1 (List.mem_filter.1 kept).1
        obtain ⟨u, shown, -⟩ := reachable.toToken (Table.get?_eq_some_iff.2 stored)
        exact ⟨u, shown⟩

theorem targets_again {before after : Store} (reachable : Reachable after)
    (keys : after.tokens.keys = before.tokens.keys) {selection : Selection} {ts : List Token}
    (found : targets selection (some before) = .ok ts) :
    ∃ us, targets selection (some after) = .ok us ∧
      us.map (·.identifier) = ts.map (·.identifier) := by
  obtain ⟨us, again⟩ := exists_targets reachable keys found
  exact ⟨us, again, (selected_of_targets found).1.unique keys (selected_of_targets again).1⟩

/-- What the batch still finds to change of a token: nothing, or a fraction that it would write as it
is written already. -/
inductive Rest (u : Updates) (c : Clock) (s : Store) (e : Delta) : Prop where
  | nothing (fitting : ¬u.Overfine) (fields : e.fields = [])
  | fraction {stamp : Stamp} {instant : Instant} {row : TokenRow} (fine : u.Overfine)
      (fields : e.fields = [.fraction]) (now : c.now = .ok stamp)
      (stamped : Column.writeStamp stamp = .ok instant)
      (found : s.tokens.get? e.before.identifier = some row)
      (same : row.update e.after e.fields instant = row)

theorem Carried.rest {request : Request} {c : Clock} {before after : Store} {ts : List Token}
    {deltas : List Delta} (carried : Carried request c before after ts deltas)
    (reachable : Reachable before) {d : Delta} (hd : d ∈ deltas) {seen : Token}
    (stands : Stands (some after) seen) (named : seen.identifier = d.before.identifier) :
    ∃ e, change request.updates seen (some after) c = .ok e ∧ Rest request.updates c after e := by
  obtain ⟨row, stored, read, changed, left⟩ := carried.row hd
  obtain ⟨q, billionths⟩ := reachable.exists_billionths stored read
  obtain ⟨_, now, ⟨⟩, found, shown⟩ := stands
  rw [named] at found shown
  have saw : Token.Seen d.before d seen := by
    rcases left with ⟨still, same⟩ | ⟨_, _, -, -, updated⟩
    · cases found.symm.trans same
      cases read.symm.trans shown
      exact Token.seen_of_still changed still
    · cases found.symm.trans updated
      exact Token.seen_of_update read changed shown
  obtain ⟨e, again, rest⟩ := saw.applied_again changed billionths
  have answered : change request.updates seen (some after) c = .ok e := by
    rw [change_of_domains carried.committed.domains, change, named]
    exact again
  refine ⟨e, answered, ?_⟩
  rcases rest with ⟨fitting, fields⟩ | ⟨fine, fields, differs, fraction⟩
  · exact .nothing fitting fields
  · rcases left with ⟨still, -⟩ | ⟨stamp, instant, clock, stamped, updated⟩
    · rw [still] at differs
      cases differs
    · have at_seen : after.tokens.get? e.before.identifier =
          some (row.update d.after d.fields instant) := by
        rw [before_of_change answered, named]
        exact updated
      refine .fraction fine fields clock stamped at_seen (TokenRow.update_of_same fun f hf => ?_)
      rw [fields, List.mem_singleton] at hf
      subst hf
      rw [TokenRow.cell_update, if_pos differs]
      exact congrArg Column.writeDecimal fraction.symm

theorem writeDelta_eq_self {instant : Instant} {s : Store} {d : Delta} {row : TokenRow}
    (unyeared : .years ∉ d.fields) (found : s.tokens.get? d.before.identifier = some row)
    (same : row.update d.after d.fields instant = row) : writeDelta instant s d = .ok s := by
  have table : (s.tokens.modify d.before.identifier fun row =>
      row.update d.after d.fields instant) = s.tokens := by
    refine Table.ext_get? (Table.keys_modify _ _ _) fun name => ?_
    by_cases named : name = d.before.identifier
    · subst named
      rw [Table.get?_modify_self, found, Option.map_some, same]
    · exact Table.get?_modify_of_ne _ _ named
  unfold writeDelta
  rw [if_neg (by simpa using unyeared), table]
  rfl

theorem Rest.writes {u : Updates} {c : Clock} {stamp : Stamp} {s : Store} {e : Delta}
    (h : Rest u c s e) (now : c.now = .ok stamp) (changed : e.changed = true) :
    ∃ instant, Column.writeStamp stamp = .ok instant ∧ writeDelta instant s e = .ok s := by
  cases h with
  | nothing _ fields => simp [Delta.changed, fields] at changed
  | fraction _ fields again stamped found same =>
    cases now.symm.trans again
    exact ⟨_, stamped, writeDelta_eq_self (by simp [fields]) found same⟩

theorem written_of_rest {u : Updates} {c : Clock} {stamp : Stamp} {s : Store} {deltas : List Delta}
    (now : c.now = .ok stamp) (rest : ∀ e ∈ deltas, Rest u c s e) :
    written deltas (some s) c = .ok (some s) := by
  rw [written_of_now now, writtenAt]
  split
  · rfl
  · rename_i some
    have writes : ∀ e ∈ deltas.filter (·.changed), ∃ instant,
        Column.writeStamp stamp = .ok instant ∧ writeDelta instant s e = .ok s := by
      intro e kept
      obtain ⟨he, changed⟩ := List.mem_filter.1 kept
      exact (rest e he).writes now changed
    obtain ⟨e, kept⟩ := List.exists_mem_of_ne_nil _ (mt List.isEmpty_iff.2 some)
    obtain ⟨instant, stamped, -⟩ := writes e kept
    refine bind_eq_ok.2 ⟨instant, stamped, ?_⟩
    refine map_eq_ok.2 ⟨s, foldlM_eq_self fun e kept => ?_, rfl⟩
    -- Every change is written at the same time, so each leaves the store to the next as it was.
    obtain ⟨_, again, same⟩ := writes e kept
    cases stamped.symm.trans again
    exact same

/-- A batch that was carried out is carried out again, and has only that much left to change. -/
theorem planned_again {request : Request} {c : Clock} {before after : Store} {deltas : List Delta}
    (live : request.dryRun = false) (reachable : Reachable before) (reached : Reachable after)
    (planning : planned request (some before) c = .ok (deltas, some after)) :
    ∃ more, planned request (some after) c = .ok (more, some after) ∧
      more.map (·.before.identifier) = deltas.map (·.before.identifier) ∧
      ∀ e ∈ more, Rest request.updates c after e := by
  obtain ⟨ts, _, ⟨⟩, carried⟩ := carried_of_planned live planning
  obtain ⟨us, again, names⟩ := targets_again reached carried.committed.keys carried.found
  have each : ∀ u ∈ us, ∃ e, change request.updates u (some after) c = .ok e ∧
      Rest request.updates c after e := by
    intro u hu
    have named : u.identifier ∈ deltas.map (·.before.identifier) := by
      rw [carried.names, ← names]
      exact List.mem_map_of_mem hu
    obtain ⟨d, hd, same⟩ := List.mem_map.1 named
    exact carried.rest reachable hd ((selected_of_targets again).2 u hu) same.symm
  obtain ⟨more, changing⟩ := exists_mapM_eq_ok fun u hu => (each u hu).imp fun _ h => h.1
  have rest : ∀ e ∈ more, Rest request.updates c after e := by
    intro e he
    obtain ⟨u, hu, change⟩ := exists_of_mem_mapM changing he
    obtain ⟨_, same, rest⟩ := each u hu
    cases change.symm.trans same
    exact rest
  obtain ⟨stamp, now, -⟩ := bind_eq_ok.1 carried.writing
  refine ⟨more, bind_eq_ok.2 ⟨more, bind_eq_ok.2 ⟨us, again, changing⟩, ?_⟩, ?_, rest⟩
  · rw [if_neg (by simp [live])]
    exact bind_eq_ok.2 ⟨_, written_of_rest (now_eq_ok now) rest, rfl⟩
  · rw [names_of_changes changing, carried.names, names]

/-- The answer of a batch that is run again. -/
structure Repeats (u : Updates) (first again : Result) : Prop where
  fitting : ¬u.Overfine →
    again.outcomes = first.outcomes.map (fun o => ⟨o.token, []⟩) ∧ again.committed = false
  overfine : u.Overfine →
    again.outcomes = first.outcomes.map (fun o => ⟨o.token, [.fraction]⟩) ∧
      (again.committed = true ↔ first.outcomes ≠ [])

theorem outcomes_of_fields {request : Request} {first again : List Delta}
    {fields : List TokenField}
    (names : again.map (·.before.identifier) = first.map (·.before.identifier))
    (same : ∀ e ∈ again, e.fields = fields) : (report request again).outcomes =
      (report request first).outcomes.map fun o => ⟨o.token, fields⟩ := by
  have each : again.map Outcome.ofDelta =
      (again.map (·.before.identifier)).map fun name => ⟨name, fields⟩ := by
    rw [List.map_map]
    refine List.map_congr_left fun e he => ?_
    rw [Outcome.ofDelta, same e he]
    rfl
  rw [names] at each
  rw [report, report, List.map_map]
  exact each.trans List.map_map

theorem repeats_of_rest {request : Request} {c : Clock} {s : Store} {first again : List Delta}
    (live : request.dryRun = false)
    (names : again.map (·.before.identifier) = first.map (·.before.identifier))
    (rest : ∀ e ∈ again, Rest request.updates c s e) :
    Repeats request.updates (report request first) (report request again) := by
  have committed := committed_report live again
  constructor
  · intro fitting
    have outcomes := @outcomes_of_fields request _ _ _ names fun e he => by
      cases rest e he with
      | nothing _ fields => exact fields
      | fraction fine => exact absurd fine fitting
    refine ⟨outcomes, Bool.eq_false_iff.2 fun writes => ?_⟩
    obtain ⟨o, ho, changed⟩ := committed.1 writes
    rw [outcomes] at ho
    obtain ⟨_, -, rfl⟩ := List.mem_map.1 ho
    cases changed
  · intro fine
    have outcomes := @outcomes_of_fields request _ _ _ names fun e he => by
      cases rest e he with
      | nothing fitting => exact absurd fine fitting
      | fraction _ fields => exact fields
    refine ⟨outcomes, ?_⟩
    rw [committed, outcomes]
    constructor
    · rintro ⟨o, ho, -⟩ none
      rw [none] at ho
      cases ho
    · intro some
      obtain ⟨o, ho⟩ := List.exists_mem_of_ne_nil _ some
      exact ⟨_, List.mem_map_of_mem ho, rfl⟩

/-- A batch that is run again right away succeeds and leaves the store alone, and it answers that
nothing changed unless it asks for a fraction of too many places. -/
theorem run_again {s : Store} (reachable : Reachable s) {identifier other : String}
    {request : Request} {w next : World} {r : Result} (there : w.store = some s)
    (live : request.dryRun = false) (answered : ((run identifier request).run w).1 = .ok r)
    (left : next.store = ((run identifier request).run w).2.store)
    (clock : next.clock = w.clock) : ∃ again, ((run other request).run next).1 = .ok again ∧
      ((run other request).run next).2.store = next.store ∧ Repeats request.updates r again := by
  obtain ⟨deltas, planning, rfl⟩ := planned_of_run answered
  rw [there] at planning
  obtain ⟨after, stored, -⟩ := keys_of_planned planning
  have reached : Reachable after :=
    .step (o := .batch identifier request) reachable there stored
  rw [stored] at planning
  rw [stored] at left
  obtain ⟨more, replanned, names, rest⟩ := planned_again live reachable reached planning
  rw [← left, ← clock] at replanned
  obtain ⟨answeredAgain, leftAgain⟩ := @run_of_planned other _ _ _ _ replanned
  exact ⟨_, answeredAgain, leftAgain, repeats_of_rest live names rest⟩

def fineOptions : List (String × String) := [("discount_fraction", "0.1234567891")]

def afterRun (request : Request) (w : World) : World :=
  { w with store := ((run "B1" request).run w).2.store }

theorem not_overfine_of_read {u : Updates} {d : Number.Decimal}
    (read : (u.supplied? .fraction).map (fun v => (Field.readFraction v).toOption) = some (some d))
    (within : d.WithinPlaces Column.decimalPlaces) : ¬u.Overfine := by
  rintro ⟨v, other, supplied, given, fine⟩
  rw [supplied, Option.map_some, given] at read
  cases read
  exact fine within

def halfOptions : List (String × String) := [("discount_fraction", "0.5")]

theorem repeats_of_half_and_fine :
    (∃ s request w r again, Reachable s ∧ w.store = some s ∧ request.dryRun = false ∧
      ((run "B1" request).run w).1 = .ok r ∧ r.outcomes = [⟨"T1", [.fraction]⟩] ∧
      r.committed = true ∧ ((run "B2" request).run (afterRun request w)).1 = .ok again ∧
      ((run "B2" request).run (afterRun request w)).2.store = (afterRun request w).store ∧
      ¬request.updates.Overfine ∧ again.outcomes = [⟨"T1", []⟩] ∧ again.committed = false) ∧
    ∃ s request w r again, Reachable s ∧ w.store = some s ∧ request.dryRun = false ∧
      ((run "B1" request).run w).1 = .ok r ∧
      ((run "B2" request).run (afterRun request w)).1 = .ok again ∧
      Repeats request.updates r again := by
  have returns : ((askedOf fineOptions false).bind fun asked =>
      ((run "B1" asked.1).run asked.2).1.toOption).isSome = true := by decide +kernel
  have commits : ((askedOf halfOptions false).bind fun asked =>
      ((run "B1" asked.1).run asked.2).1.toOption.map fun r =>
        (r.outcomes, r.committed, (asked.1.updates.supplied? .fraction).map fun v =>
          (Field.readFraction v).toOption)) =
        some ([⟨"T1", [.fraction]⟩], true, some (some (.finite false 5 (-1)))) := by decide +kernel
  constructor
  · obtain ⟨⟨request, w⟩, asked, commits⟩ := Option.bind_eq_some_iff.1 commits
    obtain ⟨r, returns, facts⟩ := Option.map_eq_some_iff.1 commits
    obtain ⟨outcomes, facts⟩ := Prod.mk.inj facts
    obtain ⟨committed, supplied⟩ := Prod.mk.inj facts
    have fitting : ¬request.updates.Overfine := not_overfine_of_read supplied
      ⟨500000000, by decide +kernel⟩
    obtain ⟨s, reachable, there, -, live, -⟩ := of_askedOf asked
    have answered := eq_ok_of_toOption returns
    obtain ⟨again, answeredAgain, stays, repeats⟩ :=
      run_again reachable there live answered (rfl : (afterRun request w).store = _) rfl
    obtain ⟨unchanged, idle⟩ := repeats.fitting fitting
    rw [outcomes] at unchanged
    exact ⟨s, request, w, r, again, reachable, there, live, answered, outcomes, committed,
      answeredAgain, stays, fitting, unchanged, idle⟩
  · obtain ⟨r, returns⟩ := Option.isSome_iff_exists.1 returns
    obtain ⟨⟨request, w⟩, asked, returns⟩ := Option.bind_eq_some_iff.1 returns
    obtain ⟨s, reachable, there, -, live, -⟩ := of_askedOf asked
    have answered := eq_ok_of_toOption returns
    obtain ⟨again, answeredAgain, -, repeats⟩ :=
      run_again reachable there live answered (rfl : (afterRun request w).store = _) rfl
    exact ⟨s, request, w, r, again, reachable, there, live, answered, answeredAgain, repeats⟩

/-- The second of two equal batches in a row may write. -/
theorem rewritten_again : ∃ s request w r again, Reachable s ∧ w.store = some s ∧
    request.dryRun = false ∧ ((run "B1" request).run w).1 = .ok r ∧
    ((run "B2" request).run (afterRun request w)).1 = .ok again ∧
    again.changedTokens = ["T1"] ∧ again.committed = true := by
  have rewrites : ((askedOf fineOptions false).bind fun asked =>
      ((run "B1" asked.1).run asked.2).1.toOption.bind fun r =>
        ((run "B2" asked.1).run (afterRun asked.1 asked.2)).1.toOption.map fun again =>
          (again.changedTokens, again.committed)) = some (["T1"], true) := by decide +kernel
  obtain ⟨⟨request, w⟩, asked, rewrites⟩ := Option.bind_eq_some_iff.1 rewrites
  obtain ⟨r, returns, rewrites⟩ := Option.bind_eq_some_iff.1 rewrites
  obtain ⟨again, returnsAgain, rewrites⟩ := Option.map_eq_some_iff.1 rewrites
  obtain ⟨changed, committed⟩ := Prod.mk.inj rewrites
  obtain ⟨s, reachable, there, -, live, -⟩ := of_askedOf asked
  exact ⟨s, request, w, r, again, reachable, there, live, eq_ok_of_toOption returns,
    eq_ok_of_toOption returnsAgain, changed, committed⟩

end Batch

end RegistryTokens
