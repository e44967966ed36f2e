import RegistryTokens.Proofs.Lifecycle
import RegistryTokens.Proofs.Store.Row

/-!
# Ending a promotion

A bulk token is not to end while live domains are bound to it. What is asked of a new timeline is
whether its last step leads from valid to ended; a timeline that says ended from the start of time
on has no last step. So under live domains a batch ends a bulk token in this one way only.
-/

set_option autoImplicit false

namespace RegistryTokens

open RegistryTokens.Time RegistryTokens.Store

namespace Timeline

variable {α : Type}

theorem getLast?_values (t : Timeline α) : t.values.getLast? = some t.final := by
  rw [values, List.getLast?_map, List.getLast?_eq_some_getLast t.nonempty]
  rfl

theorem eq_constant {t : Timeline α} {a : α} (lone : t.values = [a])
    (begins : t.firstInstant = Instant.epoch) : t = constant a := by
  obtain ⟨entries, nonempty, increasing⟩ := t
  cases entries with
  | nil => exact absurd rfl nonempty
  | cons e rest =>
    obtain ⟨same, none⟩ := List.cons.inj lone
    obtain rfl := List.map_eq_nil_iff.1 none
    obtain ⟨i, b⟩ := e
    cases same
    cases begins
    rfl

end Timeline

namespace Lifecycle

theorem endsPromotion_of_chained {statuses : List Status} (h : Chained statuses)
    (last : statuses.getLast? = some .ended) :
    statuses = [.ended] ∨ endsPromotion statuses = true := by
  cases turned : statuses.reverse with
  | nil =>
    rw [List.reverse_eq_nil_iff.1 turned] at last
    cases last
  | cons a front =>
    have split : statuses = front.reverse ++ [a] := by
      rw [← List.reverse_reverse statuses, turned, List.reverse_cons]
    have ended : a = .ended := by simpa [split] using last
    subst ended
    cases front with
    | nil => exact .inl split
    | cons b front =>
      have pair : statuses = front.reverse ++ b :: .ended :: [] := by simpa using split
      have step : Follows b .ended := follows_of_chained h pair
      cases step
      rw [endsPromotion, turned]
      exact .inr rfl

/-- While domains are bound to a bulk token, a timeline that comes to an end passes just when it
says so from the start of time on. -/
theorem judged_ended_iff {count : Answer Int} (bound : ∀ n, count = .ok n → 0 < n)
    {t : Timeline Status} {token : String} :
    Answer.ofStep (Token.judgeTransitions .bulkPricing (Answer.lift count) t token) = .ok () ∧
      t.final = .ended ↔ t = Timeline.constant .ended := by
  rw [judged_eq_ok_iff]
  constructor
  · rintro ⟨⟨legal, free⟩, ended⟩
    have last := ended ▸ t.getLast?_values
    rcases endsPromotion_of_chained legal.chained last with lone | ends
    · exact Timeline.eq_constant lone legal.begins
    · obtain ⟨n, counted, none⟩ := free rfl ends
      have some := bound n counted
      omega
  · rintro rfl
    exact ⟨⟨legal_constant _, fun _ ends => nomatch ends⟩, rfl⟩

end Lifecycle

theorem Store.Column.ticks_of_writeStamp {s : Stamp} {i : Instant} (h : writeStamp s = .ok i) :
    (i.ticks : Int) = s.utcTicks := by
  unfold writeStamp at h
  split at h
  · rename_i read
    cases h
    exact Stamp.ticks_of_toInstant read
  · cases h

/-- Whether a domain that is live at a moment is bound to a token. -/
def Store.InUse (s : Store) (token : String) (moment : Stamp) : Prop :=
  ∃ domain row, s.domains.get? domain = some row ∧ row.bulkToken = some token ∧
    ∀ deleted, row.deleted = some deleted → moment.utcTicks < deleted.ticks

namespace Batch

theorem bound_pos {s : Store} {token : String} {c : Clock} {stamp : Stamp} {n : Int}
    (now : c.now = .ok stamp) (used : s.InUse token stamp) (h : bound token (some s) c = .ok n) :
    0 < n := by
  obtain ⟨domain, row, found, tied, live⟩ := used
  obtain ⟨instant, cut, h⟩ := Answer.bind_eq_ok.1 h
  cases h
  rw [now] at cut
  have written : Column.writeStamp stamp = .ok instant := cut
  have moment : (instant.ticks : Int) = stamp.utcTicks := Column.ticks_of_writeStamp written
  have counts : row.countsFor token instant = true := by
    unfold DomainRow.countsFor DomainRow.isLive
    rw [tied, beq_self_eq_true, Bool.true_and]
    cases deleted : row.deleted with
    | none => rfl
    | some gone =>
      have later := live gone deleted
      rw [← moment] at later
      exact decide_eq_true (Int.ofNat_lt.1 later)
  have member : (domain, row) ∈ s.domains.rows.filter fun row => row.2.countsFor token instant :=
    List.mem_filter.2 ⟨Table.get?_eq_some_iff.1 found, counts⟩
  exact Int.natCast_pos.2 (List.length_pos_of_mem member)

theorem shown_of_planned {request : Request} {before after : Store} {c : Clock}
    {deltas : List Delta} (h : planned request (some before) c = .ok (deltas, some after))
    {name : String} {t seen : Token} (shown : before.token? name = .ok (some t))
    (shownAfter : after.token? name = .ok (some seen)) : seen = t ∨
      ∃ d, change request.updates t (some before) c = .ok d ∧ seen.Alike d.after := by
  obtain ⟨row, stored, read⟩ := Store.token?_eq_some_iff.1 shown
  obtain ⟨rowAfter, storedAfter, readAfter⟩ := Store.token?_eq_some_iff.1 shownAfter
  cases row_of_planned h storedAfter with
  | kept there =>
    cases stored.symm.trans there
    exact .inl (Except.ok.inj (readAfter.symm.trans read))
  | @updated _ d _ _ _ _ _ there oldRead changed =>
    cases stored.symm.trans there
    cases Except.ok.inj (read.symm.trans oldRead)
    exact .inr ⟨d, changed, TokenRow.alike_update oldRead changed readAfter⟩

/-- A batch that replaces the timeline of a bulk token in use lets it end just if the new timeline
says ended from the start of time on. -/
theorem ended_iff_of_inUse {identifier : String} {request : Request} {w : World} {r : Result}
    {before after : Store} {stamp : Stamp} {name : String} {t seen : Token}
    (there : w.store = some before) (now : w.clock.now = .ok stamp)
    (shown : before.token? name = .ok (some t)) (bulk : t.kind = .bulkPricing)
    (used : before.InUse name stamp)
    (ran : ((run identifier request).run w).1 = .ok r)
    (left : ((run identifier request).run w).2.store = some after)
    (shownAfter : after.token? name = .ok (some seen))
    (replaced : seen.transitions ≠ t.transitions) :
    seen.transitions.final = .ended ↔ seen.transitions = Timeline.constant .ended := by
  obtain ⟨deltas, planning, -⟩ := planned_of_run ran
  rw [there, left] at planning
  rcases shown_of_planned planning shown shownAfter with rfl | ⟨d, changed, alike⟩
  · exact absurd rfl replaced
  have new : seen.transitions = d.after.transitions := alike.content .transitions nofun
  rw [new] at replaced ⊢
  rcases Token.ok_of_applied changed with ⟨rfl, -⟩ | ⟨-, -, updated⟩
  · exact absurd rfl replaced
  cases supplied : request.updates.supplied? .transitions with
  | none => exact absurd (updated.kept .transitions supplied) replaced
  | some v =>
    have judged := updated.judged v supplied
    rw [bulk] at judged
    constructor
    · intro ended
      have named : t.identifier = name := by
        obtain ⟨row, -, read⟩ := Store.token?_eq_some_iff.1 shown
        exact TokenRow.identifier_toToken read
      have some (n : Int) : bound t.identifier (some before) w.clock = .ok n → 0 < n :=
        bound_pos now (named ▸ used)
      exact (Lifecycle.judged_ended_iff some).1 ⟨judged, ended⟩
    · intro same
      rw [same]
      rfl

end Batch

def soldStore : Option Store :=
  ((Operation.session [.createToken "T1" (.text "BULK_PRICING") [
    ("renewal_price_behavior", .text "SPECIFIED"),
    ("allowed_registrar_ids", .text "TheRegistrar"),
    ("token_status_transitions",
      .text "START_OF_TIME=NOT_STARTED,2023-05-01T00:00:00Z=VALID")]] false).run
    freshWorld).store.map fun s => { s with
      domains := ⟨[("example.tld", ⟨some "T1", none, Instant.epoch, Instant.epoch⟩)],
        List.pairwise_singleton _ _⟩ }

def endOutright : Batch.Request :=
  ⟨⟨some ["T1"], none⟩, Updates.empty.give .transitions (.assigned (.text "START_OF_TIME=ENDED")),
    false⟩

def soldWorld (s : Store) : World := { freshWorld with store := some s }

theorem reachable_soldStore {s : Store} (h : soldStore = some s) :
    Reachable s ∧ ∀ moment, s.InUse "T1" moment := by
  obtain ⟨before, left, rfl⟩ := Option.map_eq_some_iff.1 h
  exact ⟨.domains (.step .empty rfl left) _, fun _ => ⟨"example.tld", _, rfl, rfl, nofun⟩⟩

theorem soldStore_ends : ∃ s t r after seen, soldStore = some s ∧
    s.token? "T1" = .ok (some t) ∧ t.kind = .bulkPricing ∧
    ((Batch.run "B1" endOutright).run (soldWorld s)).1 = .ok r ∧ r.committed = true ∧
    ((Batch.run "B1" endOutright).run (soldWorld s)).2.store = some after ∧
    after.token? "T1" = .ok (some seen) ∧ seen.transitions ≠ t.transitions ∧
    seen.transitions.final = .ended := by
  have facts : soldStore.map (fun s =>
      ((s.token? "T1").toOption.join.map fun t => (t.kind, t.transitions.values),
        ((Batch.run "B1" endOutright).run (soldWorld s)).1.toOption.map (·.committed),
        ((Batch.run "B1" endOutright).run (soldWorld s)).2.store.bind fun after =>
          (after.token? "T1").toOption.join.map (·.transitions.values))) =
      some (some (.bulkPricing, [.notStarted, .valid]), some true, some [.ended]) := by
    decide +kernel
  obtain ⟨s, sold, facts⟩ := Option.map_eq_some_iff.1 facts
  obtain ⟨before, facts⟩ := Prod.mk.inj facts
  obtain ⟨answered, facts⟩ := Prod.mk.inj facts
  obtain ⟨t, shown, before⟩ := Store.exists_of_shown before
  obtain ⟨kind, values⟩ := Prod.mk.inj before
  obtain ⟨r, ran, committed⟩ := Option.map_eq_some_iff.1 answered
  obtain ⟨after, left, ended⟩ := Option.bind_eq_some_iff.1 facts
  obtain ⟨seen, shownAfter, ended⟩ := Store.exists_of_shown ended
  refine ⟨s, t, r, after, seen, sold, shown, kind, Answer.eq_ok_of_toOption ran, committed, left,
    shownAfter, ?_, ?_⟩
  · intro same
    rw [same, values] at ended
    cases ended
  · have last := seen.transitions.getLast?_values
    rw [ended] at last
    exact (Option.some.inj last).symm

theorem Batch.outright_of_sold : ∃ s t r after seen, s.token? "T1" = .ok (some t) ∧
    t.kind = .bulkPricing ∧ s.InUse "T1" Clock.defaultStart ∧
    ((run "B1" endOutright).run (soldWorld s)).1 = .ok r ∧
    ((run "B1" endOutright).run (soldWorld s)).2.store = some after ∧
    after.token? "T1" = .ok (some seen) ∧ seen.transitions ≠ t.transitions ∧
    seen.transitions = Timeline.constant .ended := by
  obtain ⟨s, t, r, after, seen, sold, shown, bulk, ran, -, left, shownAfter, replaced, ended⟩ :=
    soldStore_ends
  have used := (reachable_soldStore sold).2 Clock.defaultStart
  exact ⟨s, t, r, after, seen, shown, bulk, used, ran, left, shownAfter, replaced,
    (ended_iff_of_inUse rfl (Clock.now_start _) shown bulk used ran left shownAfter replaced).1 ended⟩

/-- A bulk token in use can be ended. -/
theorem Batch.promotion_ended_in_use : ∃ s t r after seen, Reachable s ∧
    s.token? "T1" = .ok (some t) ∧ t.kind = .bulkPricing ∧ s.InUse "T1" Clock.defaultStart ∧
    ((run "B1" endOutright).run (soldWorld s)).1 = .ok r ∧ r.committed = true ∧
    ((run "B1" endOutright).run (soldWorld s)).2.store = some after ∧
    after.token? "T1" = .ok (some seen) ∧ seen.transitions ≠ t.transitions ∧
    seen.transitions.final = .ended := by
  obtain ⟨s, t, r, after, seen, sold, shown, bulk, ran, committed, left, shownAfter, replaced,
    ended⟩ := soldStore_ends
  obtain ⟨reachable, used⟩ := reachable_soldStore sold
  exact ⟨s, t, r, after, seen, reachable, shown, bulk, used _, ran, committed, left, shownAfter,
    replaced, ended⟩

end RegistryTokens
