import RegistryTokens.Proofs.Job.Usage
import RegistryTokens.Proofs.Promotion

/-!
# The live domains of a token

A domain tells for itself whether it is live at a moment, by the moments that the stamps stand for.
The store counts by the instants that are written. Both find the same domains as long as the clock's
time can be written, whatever offsets it and the deletion times were given in.
-/

set_option autoImplicit false

namespace RegistryTokens

open RegistryTokens.Time RegistryTokens.Store

namespace Store

/-- The domains that are bound to a token and are live at a moment by their own account. -/
def liveRows (s : Store) (moment : Stamp) (token : String) : List (String × DomainRow) :=
  s.domains.rows.filter fun row =>
    row.2.bulkToken == some token && (row.2.isLiveAt moment).toOption == some true

namespace DomainRow

variable {row : DomainRow} {moment other : Stamp} {instant : Instant}

theorem isLiveAt_of_same (same : moment.same other = true) :
    row.isLiveAt moment = row.isLiveAt other := by
  obtain ⟨naive, ticks⟩ := Bool.and_eq_true_iff.1 same
  rw [isLiveAt, isLiveAt, eq_of_beq naive, eq_of_beq ticks]

theorem isLiveAt_of_written (written : Column.writeStamp moment = .ok instant)
    (aware : moment.isNaive = false) : row.isLiveAt moment = .ok (row.isLive instant) := by
  have ticks := Column.ticks_of_writeStamp written
  unfold isLiveAt isLive
  cases row.deleted with
  | none => rfl
  | some deleted =>
    have order : (moment.utcTicks < deleted.ticks) ↔ instant < deleted := by
      rw [← ticks]
      exact Int.ofNat_lt
    simp [aware, order]

theorem tells_whether_live (aware : moment.isNaive = false) :
    ∃ live, row.isLiveAt moment = .ok live := by
  unfold isLiveAt
  split
  · exact ⟨_, rfl⟩
  · rw [aware, if_neg Bool.false_ne_true]
    exact ⟨_, rfl⟩

theorem isLiveAt_deletion {given : Stamp} (written : Column.writeStamp given = .ok instant)
    (same : given.same moment = true) (aware : moment.isNaive = false)
    (deleted : row.deleted = some instant) : row.isLiveAt moment = .ok false := by
  have ticks := Column.ticks_of_writeStamp written
  obtain ⟨-, equal⟩ := Bool.and_eq_true_iff.1 same
  rw [eq_of_beq equal] at ticks
  rw [isLiveAt, deleted, aware]
  simp [ticks]

end DomainRow

variable {s : Store} {moment : Stamp} {instant : Instant} {token : String}

theorem length_liveRows (told : ∀ row : DomainRow, row.isLiveAt moment = .ok (row.isLive instant)) :
    (s.liveRows moment token).length = s.countBound token instant := by
  refine congrArg List.length (List.filter_congr fun row _ => ?_)
  rw [told row.2, DomainRow.countsFor]
  cases row.2.isLive instant <;> rfl

end Store

namespace Job

/-- The ways to count the live domains of tokens agree at the clock's time: the domains that say they
are live, the count of one token, and the counts of several, which have each listed token once and
no other. -/
structure LiveCountsAgree (s : Store) (w : World) (moment : Stamp) (tokens : List String) : Prop where
  told : ∀ row ∈ s.domains.rows, ∃ live, row.2.isLiveAt moment = .ok live
  alone : ∀ token ∈ tokens,
    ((countBound token).run w).1 = .ok ((s.liveRows moment token).length : Int)
  together : ∃ counts : Keyed String Int, ((countsBound tokens).run w).1 = .ok counts ∧
    counts.keys.Nodup ∧
    (∀ token n, (token, n) ∈ counts ↔ token ∈ tokens ∧ n = (s.liveRows moment token).length) ∧
    ∀ token ∈ tokens, (∀ row ∈ s.domains.rows, row.2.bulkToken ≠ some token) → (token, 0) ∈ counts
  ended : ∀ row ∈ s.domains.rows, ∀ given deleted, Column.writeStamp given = .ok deleted →
    given.same moment = true → row.2.deleted = some deleted →
    row.2.isLiveAt moment = .ok false ∧ ∀ token, row ∉ s.liveRows moment token

section
variable {s : Store} {w : World} {reading moment : Stamp} {instant : Instant} {tokens : List String}

theorem exists_written_iff (aware : reading.isNaive = false) :
    (∃ instant, Column.writeStamp reading = .ok instant) ↔
      0 ≤ reading.utcTicks ∧ reading.utcTicks < calendarTicks := by
  constructor
  · rintro ⟨instant, written⟩
    rw [← Column.ticks_of_writeStamp written]
    exact ⟨Int.natCast_nonneg _, Int.ofNat_lt.2 instant.inCalendar⟩
  · rintro ⟨begun, inside⟩
    obtain ⟨instant, placed, -⟩ := Stamp.toInstant_of_aware aware begun inside
    exact ⟨instant, by rw [Column.writeStamp, placed]⟩

theorem countBound_of_written (there : w.store = some s) (now : w.clock.now = .ok reading)
    (written : Column.writeStamp reading = .ok instant) (token : String) :
    ((countBound token).run w).1 = .ok (s.countBound token instant : Int) := by
  rw [(reads_countBound token).answer, there, Batch.bound, now]
  change Column.writeStamp reading >>= _ = _
  rw [written]
  rfl

theorem countsBound_of_written (there : w.store = some s) (now : w.clock.now = .ok reading)
    (written : Column.writeStamp reading = .ok instant) : ((countsBound tokens).run w).1 =
      .ok ((distinct tokens).map fun token => (token, (s.countBound token instant : Int))) := by
  rw [(reads_countsBound tokens).answer, there, countsIn, now]
  cases tokens with
  | nil => rfl
  | cons token rest =>
    rw [List.isEmpty_cons, if_neg Bool.false_ne_true]
    change Column.writeStamp reading >>= _ = _
    rw [written]
    rfl

theorem countsBound_of_unwritten (now : w.clock.now = .ok reading) {failure : Failure}
    (unwritten : Column.writeStamp reading = .error failure) (given : tokens ≠ []) :
    ((countsBound tokens).run w).1 = .error failure := by
  obtain ⟨token, rest, rfl⟩ := List.exists_cons_of_ne_nil given
  rw [(reads_countsBound _).answer, countsIn, now, List.isEmpty_cons, if_neg Bool.false_ne_true]
  change Column.writeStamp reading >>= _ = _
  rw [unwritten]
  rfl

theorem mem_counts_iff (told : ∀ row : DomainRow, row.isLiveAt moment = .ok (row.isLive instant))
    {token : String} {n : Int} :
    (token, n) ∈ (distinct tokens).map (fun token => (token, (s.countBound token instant : Int))) ↔
      token ∈ tokens ∧ n = (s.liveRows moment token).length := by
  rw [length_liveRows told]
  constructor
  · intro member
    obtain ⟨listed, given, same⟩ := List.mem_map.1 member
    cases same
    exact ⟨mem_distinct.1 given, rfl⟩
  · rintro ⟨listed, rfl⟩
    exact List.mem_map.2 ⟨token, mem_distinct.2 listed, rfl⟩

theorem not_mem_liveRows_of_deletion (aware : moment.isNaive = false) {row : String × DomainRow}
    {given : Stamp} {deleted : Instant} (written : Column.writeStamp given = .ok deleted)
    (same : given.same moment = true) (ended : row.2.deleted = some deleted) :
    row.2.isLiveAt moment = .ok false ∧ ∀ token, row ∉ s.liveRows moment token := by
  have gone := DomainRow.isLiveAt_deletion written same aware ended
  refine ⟨gone, fun token live => ?_⟩
  rw [liveRows, List.mem_filter, gone] at live
  simp [Except.toOption] at live

/-- The counts agree at a clock with an offset just when its moment lies in the calendar of universal
time, in which the store writes; where no token is listed there is nothing to count. -/
theorem liveCounts_agree_iff (there : w.store = some s) (now : w.clock.now = .ok reading)
    (aware : reading.isNaive = false) (same : moment.same reading = true) :
    LiveCountsAgree s w moment tokens ↔
      tokens = [] ∨ (0 ≤ reading.utcTicks ∧ reading.utcTicks < calendarTicks) := by
  have momentAware : moment.isNaive = false :=
    (eq_of_beq (Bool.and_eq_true_iff.1 same).1).trans aware
  rw [← exists_written_iff aware]
  constructor
  · intro agree
    refine Classical.or_iff_not_imp_left.2 fun given => ?_
    obtain ⟨counts, answered, -⟩ := agree.together
    cases written : Column.writeStamp reading with
    | ok instant => exact ⟨instant, rfl⟩
    | error failure =>
      rw [countsBound_of_unwritten now written given] at answered
      cases answered
  · intro countable
    refine ⟨fun row _ => DomainRow.tells_whether_live momentAware, ?alone, ?together,
      fun row _ given deleted written equal ended =>
        not_mem_liveRows_of_deletion momentAware written equal ended⟩
    case alone =>
      intro token listed
      rcases countable with rfl | ⟨instant, written⟩
      · cases listed
      · rw [length_liveRows fun row => (DomainRow.isLiveAt_of_same same).trans
          (DomainRow.isLiveAt_of_written written aware)]
        exact countBound_of_written there now written token
    case together =>
      rcases countable with rfl | ⟨instant, written⟩
      · exact ⟨[], by rw [(reads_countsBound []).answer]; rfl, List.nodup_nil, by simp, by simp⟩
      · have told (row : DomainRow) : row.isLiveAt moment = .ok (row.isLive instant) :=
          (DomainRow.isLiveAt_of_same same).trans (DomainRow.isLiveAt_of_written written aware)
        refine ⟨_, countsBound_of_written there now written, ?_, fun token n => mem_counts_iff told,
          fun token listed unbound => (mem_counts_iff told).2 ⟨listed, ?_⟩⟩
        · rw [Keyed.keys, List.map_map]
          exact (List.map_id (distinct tokens)).symm ▸ nodup_distinct tokens
        · have none : s.liveRows moment token = [] := by
            refine List.filter_eq_nil_iff.2 fun row there => ?_
            simp [unbound row there]
          rw [none]
          rfl

end

def threeDomains : Store where
  tokens := .empty
  packages := .empty
  domains :=
    let bound (deleted : Option Instant) : DomainRow := ⟨some "T1", deleted, .epoch, .epoch⟩
    ⟨[("bound.tld", bound none), ("ended.tld", bound (some Clock.defaultStart)),
      ("free.tld", ⟨none, none, .epoch, .epoch⟩)], by decide⟩

def twoHoursAhead : Stamp where
  reading := ⟨Clock.defaultStart.ticks + 7200 * ticksPerSecond, by decide⟩
  offset := some ⟨7200 * ticksPerSecond, by decide⟩

def worldAt (s : Store) (reading : Stamp) : World := { store := some s, clock := ⟨reading, 0⟩ }

/-- The domain that is deleted at this very moment is not counted for the token. -/
theorem liveCounts_agree_of_threeDomains :
    LiveCountsAgree threeDomains (worldAt threeDomains twoHoursAhead) Clock.defaultStart
      ["T1", "T2", "T1"] :=
  (liveCounts_agree_iff rfl (Clock.now_start _) rfl (by decide)).2 (.inr (by decide))

/-- The last second of the calendar by a clock an hour behind, whose moment is in no year that
universal time has. -/
def lastSecond : Stamp where
  reading := ⟨calendarTicks - ticksPerSecond, by decide⟩
  offset := some ⟨-3600 * ticksPerSecond, by decide⟩

/-- The bound domain says it is live then, but no count can be had. -/
theorem liveCounts_disagree_of_lastSecond : lastSecond.isNaive = false ∧
    (worldAt threeDomains lastSecond).clock.now = .ok lastSecond ∧
    (threeDomains.liveRows lastSecond "T1").length = 1 ∧
    ((countBound "T1").run (worldAt threeDomains lastSecond)).1 = .error .unwritable ∧
    ((countsBound ["T1"]).run (worldAt threeDomains lastSecond)).1 = .error .unwritable ∧
    ¬ LiveCountsAgree threeDomains (worldAt threeDomains lastSecond) lastSecond ["T1"] := by
  have now : (worldAt threeDomains lastSecond).clock.now = .ok lastSecond := Clock.now_start _
  have counts : ((countsBound ["T1"]).run (worldAt threeDomains lastSecond)).1 =
      .error .unwritable :=
    countsBound_of_unwritten now rfl (List.cons_ne_nil _ _)
  refine ⟨rfl, now, rfl, rfl, counts, fun agree => ?_⟩
  obtain ⟨_, answered, -⟩ := agree.together
  rw [counts] at answered
  cases answered

end Job

end RegistryTokens
