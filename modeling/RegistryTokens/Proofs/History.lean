import RegistryTokens.Proofs.Lookup
import RegistryTokens.Proofs.Timeline

/-!
# Statuses as they are seen

A registry is looked at after every operation, at the time that its clock shows, and that clock
never goes back. A token that was seen is seen again; what its timeline says of the later moment
comes by legal steps after what the same timeline says of the earlier one. An update judges a new
timeline by itself, so nothing ties it to what was seen before it.
-/

set_option autoImplicit false

namespace RegistryTokens

open RegistryTokens.Time RegistryTokens.Store

structure Sighting where
  store : Store
  now : Stamp

structure Sighting.Shows (s : Sighting) (name : String) (t : Token) (status : Status) : Prop where
  token : s.store.token? name = .ok (some t)
  status : t.statusAt s.now = .ok status

/-- What is seen of a registry that begins empty, the latest sighting first. The clock is never
before the start of time and never goes back; domains come and go between the operations. -/
inductive History : List Sighting → Prop where
  | start {now : Stamp} (begun : (Instant.epoch.ticks : Int) ≤ now.utcTicks) :
      History [⟨.empty, now⟩]
  | step {seen : Sighting} {rest : List Sighting} {domains : Table DomainRow} {o : Operation}
      {w : World} {after : Store} {now : Stamp} (before : History (seen :: rest))
      (there : w.store = some { seen.store with domains }) (clock : w.clock.now = .ok now)
      (onward : seen.now.utcTicks ≤ now.utcTicks) (left : (o.run w).store = some after) :
      History (⟨after, now⟩ :: seen :: rest)

namespace History

variable {sightings : List Sighting}

theorem reachable (h : History sightings) : ∀ s ∈ sightings,
    Reachable s.store ∧ (Instant.epoch.ticks : Int) ≤ s.now.utcTicks := by
  induction h with
  | start begun =>
    intro s member
    rw [List.mem_singleton.1 member]
    exact ⟨.empty, begun⟩
  | step _ there _ onward left ih =>
    intro s member
    rcases List.mem_cons.1 member with rfl | old
    · obtain ⟨reachable, begun⟩ := ih _ List.mem_cons_self
      exact ⟨.step (.domains reachable _) there left, Int.le_trans begun onward⟩
    · exact ih s old

theorem ordered (h : History sightings) : sightings.Pairwise fun later earlier =>
    Leads earlier.store later.store ∧ earlier.now.utcTicks ≤ later.now.utcTicks := by
  induction h with
  | start => exact List.pairwise_singleton _ _
  | @step seen rest domains o w after now _ there _ onward left ih =>
    obtain ⟨_, stays, leads⟩ := o.leads there
    cases left.symm.trans stays
    have lately : Leads seen.store after := (Leads.domains .refl domains).trans leads
    refine List.pairwise_cons.2 ⟨fun s old => ?_, ih⟩
    rcases List.mem_cons.1 old with rfl | older
    · exact ⟨lately, onward⟩
    · obtain ⟨first, before⟩ := (List.pairwise_cons.1 ih).1 s older
      exact ⟨first.trans lately, Int.le_trans before onward⟩

end History

theorem Reachable.statusAt {s : Store} (h : Reachable s) {name : String}
    (stored : name ∈ s.tokens.keys) : ∃ t, s.token? name = .ok (some t) ∧
      Lifecycle.Legal t.transitions ∧
      ∀ moment : Stamp, (Instant.epoch.ticks : Int) ≤ moment.utcTicks →
        ∃ status, t.statusAt moment = .ok status := by
  obtain ⟨row, found⟩ := Table.mem_keys_iff.1 stored
  obtain ⟨t, shown, legal⟩ := h.toToken found
  refine ⟨t, Store.token?_eq_ok found shown, legal, fun moment begun => ?_⟩
  rw [Token.statusAt, Timeline.valueAt_eq]
  cases value : t.transitions.valueAtTicks? moment.utcTicks with
  | some status => exact ⟨status, rfl⟩
  | none =>
    have early := (t.transitions.valueAtTicks?_eq_none_iff _).1 value
    rw [legal.begins] at early
    omega

theorem Token.statusAt_eq_ok_iff {t : Token} {moment : Stamp} {status : Status} :
    t.statusAt moment = .ok status ↔
      t.transitions.valueAtTicks? moment.utcTicks = some status := by
  rw [Token.statusAt, Timeline.valueAt_eq]
  cases t.transitions.valueAtTicks? moment.utcTicks <;> simp

/-- A token that is seen has not come to an end unless the last entry of its timeline was reached
and is terminal. Seen again, with a timeline that says the same of the earlier time, it has the same
status or one that comes after it by legal steps. -/
theorem History.statuses {sightings : List Sighting} (h : History sightings) :
    (∀ s ∈ sightings, ∀ name ∈ s.store.tokens.keys, ∃ t status, s.Shows name t status ∧
      (status = .notStarted ∨ status = .valid ↔
        ¬(Lifecycle.terminal t.transitions.final = true ∧
          (t.transitions.last.1.ticks : Int) ≤ s.now.utcTicks))) ∧
    sightings.Pairwise fun later earlier => ∀ name t a, earlier.Shows name t a →
      ∃ t' b, later.Shows name t' b ∧ (t'.statusAt earlier.now = .ok a →
        Lifecycle.Reaches a b ∧ (Lifecycle.terminal a = true → b = a)) := by
  constructor
  · intro s member name stored
    obtain ⟨reachable, begun⟩ := h.reachable s member
    obtain ⟨t, shown, legal, defined⟩ := reachable.statusAt stored
    obtain ⟨status, value⟩ := defined s.now begun
    refine ⟨t, status, ⟨shown, value⟩, ?_⟩
    have going : status = .notStarted ∨ status = .valid ↔ ¬Lifecycle.terminal status = true := by
      cases status <;> decide
    rw [going, Lifecycle.terminal_valueAtTicks?_iff legal.chained
      (Token.statusAt_eq_ok_iff.1 value)]
  · refine (List.Pairwise.and_mem.1 h.ordered).imp fun {later earlier} both name t a shown => ?_
    obtain ⟨here, -, leads, onward⟩ := both
    obtain ⟨reachable, begun⟩ := h.reachable later here
    obtain ⟨row, found, -⟩ := Store.token?_eq_some_iff.1 shown.token
    have stored := leads.keys (Table.mem_keys_iff.2 ⟨row, found⟩)
    obtain ⟨t', again, legal, defined⟩ := reachable.statusAt stored
    obtain ⟨b, value⟩ := defined later.now begun
    refine ⟨t', b, ⟨again, value⟩, fun same => ?_⟩
    have reaches : Lifecycle.Reaches a b := Lifecycle.reaches_of_valueAtTicks? legal.chained onward
      (Token.statusAt_eq_ok_iff.1 same) (Token.statusAt_eq_ok_iff.1 value)
    exact ⟨reaches, fun done => Lifecycle.eq_of_reaches done reaches⟩

/-- Noon of the first of June 2024, five months after the default clock. -/
def june : Instant := ⟨Instant.epoch.ticks + 1717243200 * ticksPerSecond, by decide⟩

def worldInJune (s : Store) : World := { store := some s, clock := ⟨june, 0⟩ }

def cancelInMay : Operation :=
  .session [.createToken "T1" (.text "SINGLE_USE") [("token_status_transitions", .text
    "START_OF_TIME=NOT_STARTED,2023-05-01T00:00:00Z=VALID,2024-05-15T00:00:00Z=CANCELLED")]] false

def cancelledStore : Option Store := (cancelInMay.run freshWorld).store

def restart : Operation :=
  .batch "B1" ⟨⟨some ["T1"], none⟩,
    Updates.empty.give .transitions (.assigned (.text "START_OF_TIME=NOT_STARTED")), false⟩

theorem history_of_cancelledStore {s : Store} (h : cancelledStore = some s) :
    History [⟨s, june⟩, ⟨s, Clock.defaultStart⟩, ⟨.empty, Clock.defaultStart⟩] := by
  have begun : History [⟨.empty, Clock.defaultStart⟩] := .start (by decide)
  have created : (cancelInMay.run freshWorld).store = some s := by rw [← h, cancelledStore]
  have january : History [⟨s, Clock.defaultStart⟩, ⟨.empty, Clock.defaultStart⟩] :=
    .step begun rfl (Clock.now_start _) (Int.le_refl _) created
  have idle : ((Operation.session [] false).run (worldInJune s)).store = some s := rfl
  have onward : Stamp.utcTicks Clock.defaultStart ≤ Stamp.utcTicks june := by decide
  exact .step january rfl (Clock.now_start _) onward idle

theorem cancelledStore_restarts : ∃ s t after t', cancelledStore = some s ∧
    (restart.run (worldInJune s)).store = some after ∧
    Sighting.Shows ⟨s, Clock.defaultStart⟩ "T1" t .valid ∧
    Sighting.Shows ⟨s, june⟩ "T1" t .cancelled ∧
    Sighting.Shows ⟨after, june⟩ "T1" t' .notStarted := by
  have facts : cancelledStore.map (fun s =>
      ((s.token? "T1").toOption.join.map fun t =>
          ((t.statusAt Clock.defaultStart).toOption, (t.statusAt june).toOption),
        (restart.run (worldInJune s)).store.bind fun after =>
          (after.token? "T1").toOption.join.map fun t => (t.statusAt june).toOption)) =
      some (some (some .valid, some .cancelled), some (some .notStarted)) := by decide +kernel
  obtain ⟨s, created, facts⟩ := Option.map_eq_some_iff.1 facts
  obtain ⟨before, facts⟩ := Prod.mk.inj facts
  obtain ⟨t, shown, statuses⟩ := Store.exists_of_shown before
  obtain ⟨january, inJune⟩ := Prod.mk.inj statuses
  obtain ⟨after, left, again⟩ := Option.bind_eq_some_iff.1 facts
  obtain ⟨t', shownAfter, anew⟩ := Store.exists_of_shown again
  exact ⟨s, t, after, t', created, left, ⟨shown, Answer.eq_ok_of_toOption january⟩,
    ⟨shown, Answer.eq_ok_of_toOption inJune⟩, shownAfter, Answer.eq_ok_of_toOption anew⟩

theorem History.statuses_of_cancelled : ∃ s t t' b,
    History [⟨s, june⟩, ⟨s, Clock.defaultStart⟩, ⟨.empty, Clock.defaultStart⟩] ∧
    Sighting.Shows ⟨s, Clock.defaultStart⟩ "T1" t .valid ∧ Sighting.Shows ⟨s, june⟩ "T1" t' b ∧
    Lifecycle.Reaches .valid b := by
  obtain ⟨s, t, -, -, created, -, january, -, -⟩ := cancelledStore_restarts
  have seen := history_of_cancelledStore created
  obtain ⟨lately, -⟩ := List.pairwise_cons.1 seen.statuses.2
  obtain ⟨t', b, again, reaches⟩ := lately _ List.mem_cons_self "T1" t .valid january
  have same : t' = t := by
    have token := january.token.symm.trans again.token
    exact (Option.some.inj (Except.ok.inj token)).symm
  exact ⟨s, t, t', b, seen, january, again, (reaches (same ▸ january.status)).1⟩

/-- A token that was seen cancelled is seen as not started. -/
theorem History.restarted_after_cancelled : ∃ s after t t',
    History [⟨after, june⟩, ⟨s, june⟩, ⟨s, Clock.defaultStart⟩, ⟨.empty, Clock.defaultStart⟩] ∧
    Sighting.Shows ⟨s, Clock.defaultStart⟩ "T1" t .valid ∧
    Sighting.Shows ⟨s, june⟩ "T1" t .cancelled ∧
    Sighting.Shows ⟨after, june⟩ "T1" t' .notStarted := by
  obtain ⟨s, t, after, t', created, left, january, inJune, anew⟩ := cancelledStore_restarts
  have seen := history_of_cancelledStore created
  exact ⟨s, after, t, t', .step seen rfl (Clock.now_start _) (Int.le_refl _) left, january, inJune,
    anew⟩

end RegistryTokens
