import RegistryTokens.Proofs.History

/-!
# Looking up a status

A look-up answers what the timeline of the stored token says of the moment; the clock of the
registry has no part in it. In a reachable store that timeline begins at the start of time and is a
legal lifecycle, so any two moments since then are told statuses of which the later comes after the
earlier, and any moment before is refused.
-/

set_option autoImplicit false

namespace RegistryTokens

open RegistryTokens.Time RegistryTokens.Store

namespace Job

theorem reads_statusAt (identifier : String) (moment : Stamp) :
    Reads (statusAt identifier moment) fun s _ => Batch.tokenIn s identifier >>= fun t =>
      (t.statusAt moment).mapError fun fault => .refused (Refusal.noValue fault) := by
  refine (reads_token identifier).bind fun t => ?_
  cases t.statusAt moment with
  | ok status => exact reads_pure status
  | error fault => exact reads_ofAnswer _

theorem answer_statusAt {w : World} {s : Store} (there : w.store = some s) {name : String}
    {t : Token} (shown : s.token? name = .ok (some t)) (moment : Stamp) :
    ((statusAt name moment).run w).1 =
      (t.statusAt moment).mapError fun fault => .refused (Refusal.noValue fault) := by
  rw [(reads_statusAt name moment).answer, there]
  dsimp only
  rw [Batch.tokenIn_eq_ok shown]
  rfl

end Job

theorem Token.statusAt_of_early {t : Token} {moment : Stamp}
    (early : moment.utcTicks < t.transitions.firstInstant.ticks) :
    t.statusAt moment = .error ⟨moment.assumingUtc, t.transitions.firstInstant⟩ := by
  rw [Token.statusAt, Timeline.valueAt_eq]
  rw [(t.transitions.valueAtTicks?_eq_none_iff _).2 early]

/-- Two moments since the start of time, the second not before the first, are told statuses that
legal steps lead through, and a token that was cancelled or ended stays so. Every moment before the
start of time is refused. -/
theorem Reachable.status_over_time {s : Store} (h : Reachable s) {w : World}
    (there : w.store = some s) {name : String} (stored : name ∈ s.tokens.keys) :
    (∀ early late : Stamp, (Instant.epoch.ticks : Int) ≤ early.utcTicks →
      early.utcTicks ≤ late.utcTicks → ∃ a b, ((Job.statusAt name early).run w).1 = .ok a ∧
        ((Job.statusAt name late).run w).1 = .ok b ∧ Lifecycle.Reaches a b ∧
        (a = .cancelled ∨ a = .ended → b = a)) ∧
    ∀ moment : Stamp, moment.utcTicks < Instant.epoch.ticks →
      ((Job.statusAt name moment).run w).1 =
        .error (.refused (Refusal.noValue ⟨moment.assumingUtc, Instant.epoch⟩)) := by
  obtain ⟨t, shown, legal, defined⟩ := h.statusAt stored
  constructor
  · intro early late begun onward
    obtain ⟨a, first⟩ := defined early begun
    obtain ⟨b, second⟩ := defined late (Int.le_trans begun onward)
    have reaches : Lifecycle.Reaches a b := Lifecycle.reaches_of_valueAtTicks? legal.chained onward
      (Token.statusAt_eq_ok_iff.1 first) (Token.statusAt_eq_ok_iff.1 second)
    refine ⟨a, b, ?_, ?_, reaches, fun done => Lifecycle.eq_of_reaches ?_ reaches⟩
    · rw [Job.answer_statusAt there shown, first]
      rfl
    · rw [Job.answer_statusAt there shown, second]
      rfl
    · rcases done with rfl | rfl <;> rfl
  · intro moment early
    rw [Job.answer_statusAt there shown]
    rw [← legal.begins] at early ⊢
    rw [Token.statusAt_of_early early]
    rfl

/-- The fifteenth of May 2024 at five in the morning, by a clock six hours ahead: still a day that
has not begun in universal time. -/
def earlyInMay : Stamp where
  reading := ⟨Instant.epoch.ticks + 1715749200 * ticksPerSecond, by decide⟩
  offset := some ⟨6 * 3600 * ticksPerSecond, by decide⟩

/-- The token that is cancelled on that day, looked up by that clock and by one without an offset,
and at the beginning of the calendar. -/
theorem Reachable.status_of_cancelled : ∃ s a b, Reachable s ∧
    ((Job.statusAt "T1" earlyInMay).run (worldInJune s)).1 = .ok a ∧
    ((Job.statusAt "T1" ⟨june, none⟩).run (worldInJune s)).1 = .ok b ∧ Lifecycle.Reaches a b ∧
    ((Job.statusAt "T1" ⟨default, none⟩).run (worldInJune s)).1 =
      .error (.refused (Refusal.noValue ⟨⟨default, some Offset.utc⟩, Instant.epoch⟩)) := by
  obtain ⟨s, t, -, -, created, -, january, -, -⟩ := cancelledStore_restarts
  have reachable : Reachable s := .step .empty (w := freshWorld) (o := cancelInMay) rfl created
  obtain ⟨row, found, -⟩ := Store.token?_eq_some_iff.1 january.token
  obtain ⟨defined, refused⟩ := reachable.status_over_time (w := worldInJune s) rfl
    (Table.mem_keys_iff.2 ⟨row, found⟩)
  obtain ⟨a, b, first, second, reaches, -⟩ :=
    defined earlyInMay ⟨june, none⟩ (by decide) (by decide)
  exact ⟨s, a, b, reachable, first, second, reaches, refused ⟨default, none⟩ (by decide)⟩

end RegistryTokens
