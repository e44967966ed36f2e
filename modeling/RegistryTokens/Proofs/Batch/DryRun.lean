import RegistryTokens.Proofs.Batch.Breakdown

/-!
# What a dry run foretells

A dry run and a live run compute the same changes, and the live run goes on to write them. So the
dry run foretells the live one except where everything is taken and the writing fails: the clock
cannot be read, its time cannot be written though something changed, or new years do not fit into
their column.
-/

set_option autoImplicit false

namespace RegistryTokens

open RegistryTokens.Time RegistryTokens.Store

namespace Batch

open Job Answer

namespace Request

def dry (request : Request) : Request := { request with dryRun := true }

def live (request : Request) : Request := { request with dryRun := false }

end Request

/-- The same outcomes in the same order, or the same failure. -/
inductive Foretells : Answer Result → Answer Result → Prop where
  | returns {dry live : Result} (same : dry.outcomes = live.outcomes) :
      Foretells (.ok dry) (.ok live)
  | fails (failure : Failure) : Foretells (.error failure) (.error failure)

structure Taken (request : Request) (w : World) (ts : List Token) : Prop where
  found : ((resolve request.selection).run w).1 = .ok ts
  changed : ∀ t ∈ ts, ∃ d, answerFor request.updates t w = .ok d

/-- Everything is taken, and cannot be written. -/
inductive Unwritten (request : Request) (w : World) : Prop where
  | unread {ts : List Token} {fault : ClockFault} (taken : Taken request w ts)
      (clock : w.clock.now = .error fault)
  | unstamped {ts : List Token} {t : Token} {d : Delta} {stamp : Stamp}
      (taken : Taken request w ts) (now : w.clock.now = .ok stamp)
      (unwritable : ∀ instant, Column.writeStamp stamp ≠ .ok instant) (target : t ∈ ts)
      (answer : answerFor request.updates t w = .ok d) (differs : d.changed = true)
  | exceeds (h : Exceeds request.live w)

theorem Taken.targets {request : Request} {w : World} {ts : List Token} (h : Taken request w ts) :
    targets request.selection w.store = .ok ts := by
  have found := h.found
  rw [(reads_resolve request.selection).answer] at found
  exact found

theorem Taken.changes {request : Request} {w : World} {ts : List Token}
    (h : Taken request w ts) : ∃ deltas, changes request w.store w.clock = .ok deltas := by
  have each := h.changed
  simp only [answerFor_eq] at each
  obtain ⟨deltas, changing⟩ := exists_mapM_eq_ok each
  exact ⟨deltas, bind_eq_ok.2 ⟨ts, h.targets, changing⟩⟩

theorem Unwritten.exists_taken {request : Request} {w : World} (h : Unwritten request w) :
    ∃ ts, Taken request w ts := by
  cases h with
  | unread taken => exact ⟨_, taken⟩
  | unstamped taken => exact ⟨_, taken⟩
  | exceeds h =>
    obtain ⟨_, _, _, found, changed⟩ := h
    exact ⟨_, found, changed⟩

theorem taken_of_changes {request : Request} {w : World} {deltas : List Delta}
    (changing : changes request w.store w.clock = .ok deltas) : ∃ ts, Taken request w ts ∧
      (∀ t ∈ ts, ∃ d ∈ deltas, answerFor request.updates t w = .ok d) ∧
      ∀ d ∈ deltas, ∃ t ∈ ts, Stands w.store t ∧ answerFor request.updates t w = .ok d := by
  obtain ⟨ts, found, each⟩ := bind_eq_ok.1 changing
  have made : ∀ t ∈ ts, ∃ d ∈ deltas, answerFor request.updates t w = .ok d := by
    intro t ht
    simp only [answerFor_eq]
    exact exists_of_mem_items (f := fun t => change request.updates t w.store w.clock) each ht
  refine ⟨ts, ⟨?_, fun t ht => (made t ht).imp fun _ h => h.2⟩, made, fun d hd => ?_⟩
  · rw [(reads_resolve request.selection).answer]
    exact found
  · obtain ⟨t, ht, change⟩ := exists_of_mem_mapM each hd
    rw [← answerFor_eq] at change
    exact ⟨t, ht, (selected_of_targets found).2 t ht, change⟩

theorem planned_dry (request : Request) (s : Option Store) (c : Clock) :
    planned request.dry s c = (changes request s c).map fun deltas => (deltas, s) := by
  have same : changes request.dry s c = changes request s c := rfl
  rw [planned, same]
  cases changes request s c <;> rfl

theorem planned_live (request : Request) (s : Option Store) (c : Clock) :
    planned request.live s c = changes request s c >>= fun deltas =>
      (written deltas s c).map fun after => (deltas, after) := by
  have same : changes request.live s c = changes request s c := rfl
  rw [planned, same]
  cases changes request s c with
  | error _ => rfl
  | ok deltas =>
    change (written deltas s c >>= fun after => .ok (deltas, after)) = (written deltas s c).map _
    cases written deltas s c <;> rfl

theorem unwritten_of_writtenAt {request : Request} {w : World} {deltas : List Delta}
    (changing : changes request w.store w.clock = .ok deltas) {stamp : Stamp}
    (now : w.clock.now = .ok stamp) {failure : Failure}
    (failed : writtenAt stamp deltas w.store = .error failure) : Unwritten request w := by
  obtain ⟨ts, taken, -, back⟩ := taken_of_changes changing
  unfold writtenAt at failed
  split at failed
  · cases failed
  · rename_i some
    obtain ⟨d, kept⟩ := List.exists_mem_of_ne_nil _ (mt List.isEmpty_iff.2 some)
    obtain ⟨hd, differs⟩ := List.mem_filter.1 kept
    obtain ⟨t, target, ⟨s, _, there, -⟩, answer⟩ := back d hd
    rcases bind_eq_error.1 failed with unwritable | ⟨instant, stamped, failed⟩
    · refine .unstamped taken now (fun instant stamped => ?_) target answer differs
      cases unwritable.symm.trans stamped
    · rw [there] at failed
      have folded : (deltas.filter (·.changed)).foldlM (writeDelta instant) s = .error failure :=
        map_eq_error.1 failed
      obtain ⟨-, e, kept, unfit⟩ := foldlM_writeDelta_eq_error_iff.1 folded
      obtain ⟨u, target, -, answer⟩ := back e (List.mem_filter.1 kept).1
      rw [answerFor_eq] at answer
      obtain ⟨v, n, supplied, read, unfit, other⟩ := (unfit_iff_of_change answer).1 unfit
      exact .exceeds
        ⟨rfl, now, stamped, taken.found, taken.changed, supplied, read, unfit, target, other⟩

theorem written_eq_error_iff {request : Request} {w : World} {deltas : List Delta}
    (changing : changes request w.store w.clock = .ok deltas) :
    (∃ failure, written deltas w.store w.clock = .error failure) ↔ Unwritten request w := by
  constructor
  · rintro ⟨failure, failed⟩
    cases now : w.clock.now with
    | error fault =>
      obtain ⟨ts, taken, -⟩ := taken_of_changes changing
      exact .unread taken now
    | ok stamp =>
      rw [written_of_now now] at failed
      exact unwritten_of_writtenAt changing now failed
  · intro h
    cases h with
    | @unread _ fault _ clock =>
      refine ⟨Failure.ofClock fault, ?_⟩
      rw [written, clock]
      rfl
    | @unstamped _ t d stamp taken now unwritable target answer differs =>
      obtain ⟨ts, again, made, -⟩ := taken_of_changes changing
      cases taken.found.symm.trans again.found
      obtain ⟨e, he, same⟩ := made t target
      cases answer.symm.trans same
      have some : ¬(deltas.filter (·.changed)).isEmpty = true := by
        simp [List.ne_nil_of_mem (List.mem_filter.2 ⟨he, differs⟩)]
      rw [written_of_now now, writtenAt, if_neg some]
      cases stamped : Column.writeStamp stamp with
      | ok instant => exact absurd stamped (unwritable instant)
      | error failure => exact ⟨failure, rfl⟩
    | exceeds exceeds =>
      obtain ⟨live, now, stamped, found, changed, supplied, read, unfit, target, other⟩ := exceeds
      have taken : Taken request w _ := ⟨found, changed⟩
      obtain ⟨s, _, there, -⟩ := (selected_of_targets taken.targets).2 _ target
      have failed := planned_of_exceeds there
        (.exceeds live now stamped found changed supplied read unfit target other)
      rw [planned_live, changing] at failed
      exact ⟨.overflow, map_eq_error.1 failed⟩

/-- A dry run foretells the live run unless everything is taken and cannot be written. -/
theorem foretells_iff (dryIdentifier identifier : String) (request : Request) (w : World) :
    Foretells ((run dryIdentifier request.dry).run w).1 ((run identifier request.live).run w).1 ↔
      ¬Unwritten request w := by
  rw [answer_run, answer_run, planned_dry, planned_live]
  cases changing : changes request w.store w.clock with
  | error failure =>
    refine iff_of_true (.fails (told failure)) fun unwritten => ?_
    obtain ⟨ts, taken⟩ := unwritten.exists_taken
    obtain ⟨deltas, known⟩ := taken.changes
    cases changing.symm.trans known
  | ok deltas =>
    rw [← written_eq_error_iff changing]
    change Foretells (.ok (report request.dry deltas)) ((((written deltas w.store w.clock).map
      fun after => (deltas, after)).mapError told).map fun plan => report request.live plan.1) ↔ _
    cases writing : written deltas w.store w.clock with
    | ok after => exact iff_of_true (.returns rfl) fun ⟨_, h⟩ => nomatch h
    | error failure => exact iff_of_false nofun fun h => h ⟨failure, rfl⟩

/-- A dry run that answers may foretell nothing, even in a store that was reached. -/
theorem unforeseen : ∃ (s : Store) (request : Request) (w : World), Reachable s ∧
    w.store = some s ∧ w.clock.now = .ok Clock.defaultStart ∧
    ¬Foretells ((run "B1" request.dry).run w).1 ((run "B2" request.live).run w).1 := by
  have apart : ((askedOf longOptions false).map fun asked =>
      (((run "B1" asked.1.dry).run asked.2).1.toOption.isSome,
        breakdown? ((run "B2" asked.1.live).run asked.2).1)) = some (true, some .overflow) := by
    decide +kernel
  obtain ⟨⟨request, w⟩, asked, apart⟩ := Option.map_eq_some_iff.1 apart
  obtain ⟨s, reachable, there, now, -⟩ := of_askedOf asked
  obtain ⟨answers, overflows⟩ := Prod.mk.inj apart
  refine ⟨s, request, w, reachable, there, now, fun foretold => ?_⟩
  rw [eq_broke_of_breakdown? overflows] at foretold
  generalize ((run "B1" request.dry).run w).1 = dry at answers foretold
  cases foretold
  cases answers

end Batch

end RegistryTokens
