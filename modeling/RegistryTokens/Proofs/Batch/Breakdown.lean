import RegistryTokens.Proofs.Batch.Atomicity
import RegistryTokens.Proofs.Discount

/-!
# When a batch breaks down

A batch refuses what it cannot do, also where the store fails. With updates that are given as texts
it can still break down in one way, by an overflow: the new timeline has a moment outside the
calendar in universal time, or the new years do not fit into their column.
-/

set_option autoImplicit false

namespace RegistryTokens

open RegistryTokens.Time RegistryTokens.Store

namespace Batch

open Job Answer

/-- The first target takes everything but the new timeline, which is displaced. -/
inductive Displaces (request : Request) (w : World) : Prop where
  | displaces {t : Token} {rest : List Token}
      (found : ((resolve request.selection).run w).1 = .ok (t :: rest))
      (displaced : t.Displaces request.updates) : Displaces request w

/-- All targets are changed as asked, and the years that are to be written for one do not fit. -/
inductive Exceeds (request : Request) (w : World) : Prop where
  | exceeds {ts : List Token} {t : Token} {v : Value} {n : Int} {stamp : Stamp} {instant : Instant}
      (live : request.dryRun = false) (now : w.clock.now = .ok stamp)
      (stamped : Column.writeStamp stamp = .ok instant)
      (found : ((resolve request.selection).run w).1 = .ok ts)
      (changed : ∀ t ∈ ts, ∃ d, answerFor request.updates t w = .ok d)
      (supplied : request.updates.supplied? .years = some v) (read : Field.readYears v = .ok n)
      (unfit : Column.fits n = false) (target : t ∈ ts) (other : t.years ≠ n) : Exceeds request w

theorem told_eq_broke_iff {failure : Failure} {b : Breakdown} :
    told failure = .broke b ↔ failure = .broke b ∧ ∀ fault, b ≠ .store fault := by
  cases failure with
  | refused r => exact ⟨nofun, fun h => nomatch h.1⟩
  | broke c =>
    cases c with
    | store fault => exact ⟨nofun, fun h => by cases h.1; exact absurd rfl (h.2 fault)⟩
    | _ =>
      constructor
      · rintro ⟨⟩
        exact ⟨rfl, nofun⟩
      · exact fun h => h.1

theorem fails_targets {s : Store} (h : Reachable s) (selection : Selection) :
    Fails (fun failure => ∃ r, failure = .refused r) (targets selection (some s)) := by
  obtain ⟨identifiers, start⟩ := selection
  have refused {α : Type} (r : Refusal) :
      Fails (fun failure => ∃ r, failure = .refused r) (refuse r : Answer α) :=
    fails_error ⟨r, rfl⟩
  cases identifiers with
  | some identifiers =>
    cases start with
    | some start => exact refused _
    | none =>
      apply Fails.mapM
      intro name _
      obtain ⟨found, read⟩ := h.exists_token? name
      change Fails _ (s.token? name >>= fun found => _)
      rw [read]
      cases found with
      | none => exact refused _
      | some t => exact fails_ok t
  | none =>
    cases start with
    | none => exact refused _
    | some start =>
      simp only [targets]
      split
      · exact refused _
      · apply Fails.mapM
        intro row kept
        have stored := Table.mem_sorted.1 (List.mem_filter.1 kept).1
        obtain ⟨t, shown, -⟩ := h.toToken (Table.get?_eq_some_iff.2 stored)
        rw [shown]
        exact fails_ok t

theorem fails_change {s : Store} (h : Reachable s) {c : Clock} {stamp : Stamp}
    (now : c.now = .ok stamp) {u : Updates} (texts : u.Textual) {t : Token}
    (stands : Stands (some s) t) : Fails (fun failure => ∀ b, told failure = .broke b →
      b = .overflow ∧ t.Displaces u) (change u t (some s) c) := by
  intro failure failed b broke
  obtain ⟨rfl, apart⟩ := told_eq_broke_iff.1 broke
  have breaks := Token.fails_applied (fails_bound t.identifier t.identifier (some s) c) u _ failed
  cases breaks with
  | counting h =>
    rcases h with ⟨fault, rfl⟩ | ⟨fault, clock⟩
    · exact absurd rfl (apart fault)
    · rw [now] at clock
      cases clock
  | untold supplied h =>
    obtain ⟨text, rfl⟩ := texts _ _ supplied
    cases h
  | displaced same h => exact ⟨same, h⟩
  | unnumbered number =>
    obtain ⟨_, row, ⟨⟩, stored, shown⟩ := stands
    exact absurd (h.isFraction stored shown) number

theorem displaces_of_changes {s : Store} (h : Reachable s) {c : Clock} {stamp : Stamp}
    (now : c.now = .ok stamp) {request : Request} (texts : request.updates.Textual)
    {failure : Failure} (failed : changes request (some s) c = .error failure) {b : Breakdown}
    (broke : told failure = .broke b) : b = .overflow ∧ ∃ t rest,
      targets request.selection (some s) = .ok (t :: rest) ∧ t.Displaces request.updates := by
  rcases bind_eq_error.1 failed with missing | ⟨ts, found, failed⟩
  · obtain ⟨r, rfl⟩ := fails_targets h _ failure missing
    cases broke
  · obtain ⟨before, t, after, deltas, rfl, passed, failed⟩ := first_of_mapM failed
    have stands := (selected_of_targets found).2 t (by simp)
    obtain ⟨same, displaces⟩ := fails_change h now texts stands failure failed b broke
    cases before with
    | nil => exact ⟨same, t, after, found, displaces⟩
    | cons x before =>
      -- A target that comes before would have taken what no target takes.
      cases deltas with
      | nil => cases passed
      | cons d deltas =>
        obtain ⟨v, supplied, displaced⟩ := displaces.displaced
        have taken : change request.updates x (some s) c = .ok d := (List.cons.inj passed).1
        exact absurd taken (Token.applied_ne_ok_of_displaced _ texts supplied displaced d)

/-- Years that are to be written and do not fit. -/
def Unfit (d : Delta) : Prop := .years ∈ d.fields ∧ Column.fits d.after.years = false

theorem writeDelta_eq_error_iff {instant : Instant} {s : Store} {d : Delta} {failure : Failure} :
    writeDelta instant s d = .error failure ↔ failure = .overflow ∧ Unfit d := by
  unfold writeDelta Column.requireFit Unfit
  by_cases years : .years ∈ d.fields
  · cases fits : Column.fits d.after.years with
    | true => simp [years, bind, Except.bind, pure, Except.pure]
    | false => simp [years, bind, Except.bind, eq_comm]
  · simp [years, pure, Except.pure]

theorem foldlM_writeDelta_eq_error_iff {instant : Instant} {deltas : List Delta} {s : Store}
    {failure : Failure} : deltas.foldlM (writeDelta instant) s = .error failure ↔
      failure = .overflow ∧ ∃ d ∈ deltas, Unfit d := by
  induction deltas generalizing s with
  | nil =>
    constructor
    · intro h
      cases h
    · rintro ⟨-, _, none, -⟩
      cases none
  | cons d rest ih =>
    rw [List.foldlM_cons, bind_eq_error]
    simp only [ih, writeDelta_eq_error_iff]
    constructor
    · rintro (⟨same, unfit⟩ | ⟨_, -, same, e, inRest, unfit⟩)
      · exact ⟨same, d, List.mem_cons_self, unfit⟩
      · exact ⟨same, e, List.mem_cons_of_mem _ inRest, unfit⟩
    · rintro ⟨same, e, within, unfit⟩
      -- An earlier write may break down first, but then over the same.
      cases first : writeDelta instant s d with
      | error other => exact .inl ⟨same, (writeDelta_eq_error_iff.1 first).2⟩
      | ok next =>
        refine .inr ⟨next, rfl, same, e, ?_, unfit⟩
        rcases List.mem_cons.1 within with rfl | inRest
        · rw [writeDelta_eq_error_iff.2 ⟨rfl, unfit⟩] at first
          cases first
        · exact inRest

theorem Unfit.changed {d : Delta} (h : Unfit d) : d.changed = true := by
  unfold Delta.changed
  simp [List.ne_nil_of_mem h.1]

theorem written_breaks_iff {s : Store} {c : Clock} {stamp : Stamp} (now : c.now = .ok stamp)
    {deltas : List Delta} {b : Breakdown} :
    (∃ failure, written deltas (some s) c = .error failure ∧ told failure = .broke b) ↔
      b = .overflow ∧ (∃ instant, Column.writeStamp stamp = .ok instant) ∧
        ∃ d ∈ deltas, Unfit d := by
  rw [written_of_now now, writtenAt]
  constructor
  · rintro ⟨failure, failed, broke⟩
    split at failed
    · cases failed
    · rcases bind_eq_error.1 failed with unwritable | ⟨instant, stamped, failed⟩
      · unfold Column.writeStamp at unwritable
        split at unwritable
        · cases unwritable
        · cases unwritable
          cases broke
      · have folded : (deltas.filter (·.changed)).foldlM (writeDelta instant) s = .error failure :=
          map_eq_error.1 failed
        obtain ⟨rfl, d, kept, unfit⟩ := foldlM_writeDelta_eq_error_iff.1 folded
        cases broke
        exact ⟨rfl, ⟨instant, stamped⟩, d, (List.mem_filter.1 kept).1, unfit⟩
  · rintro ⟨rfl, ⟨instant, stamped⟩, d, hd, unfit⟩
    have kept : d ∈ deltas.filter (·.changed) := List.mem_filter.2 ⟨hd, unfit.changed⟩
    have some : ¬(deltas.filter (·.changed)).isEmpty = true := by
      simp [List.ne_nil_of_mem kept]
    refine ⟨.overflow, ?_, rfl⟩
    rw [if_neg some]
    refine bind_eq_error.2 (.inr ⟨instant, stamped, ?_⟩)
    exact map_eq_error.2 (foldlM_writeDelta_eq_error_iff.2 ⟨rfl, d, kept, unfit⟩)

theorem unfit_iff_of_change {u : Updates} {t : Token} {s : Option Store} {c : Clock} {d : Delta}
    (changed : change u t s c = .ok d) : Unfit d ↔ ∃ v n, u.supplied? .years = some v ∧
      Field.readYears v = .ok n ∧ Column.fits n = false ∧ t.years ≠ n := by
  rcases Token.ok_of_applied changed with ⟨rfl, none⟩ | ⟨-, fields, updated⟩
  · constructor
    · rintro ⟨years, -⟩
      cases years
    · rintro ⟨v, _, supplied, -⟩
      rw [Updates.isEmpty_eq_false_of_supplied supplied] at none
      cases none
  · have differ : .years ∈ d.fields ↔ t.years ≠ d.after.years := by
      rw [fields, Token.mem_diff_iff]
      simp [Token.agree]
    unfold Unfit
    rw [differ]
    constructor
    · rintro ⟨other, unfit⟩
      obtain ⟨v, supplied⟩ := updated.supplied_of_differs (f := .years) (fields ▸ differ.2 other)
      exact ⟨v, d.after.years, supplied, updated.given .years v supplied, unfit, other⟩
    · rintro ⟨v, n, supplied, read, unfit, other⟩
      have same : d.after.years = n := Except.ok.inj ((updated.given .years v supplied).symm.trans read)
      rw [same]
      exact ⟨other, unfit⟩

theorem run_broke_iff_planned {identifier : String} {request : Request} {w : World}
    {b : Breakdown} : ((run identifier request).run w).1 = .error (.broke b) ↔
      ∃ failure, planned request w.store w.clock = .error failure ∧ told failure = .broke b := by
  rw [(does_run identifier request).answer]
  cases planned request w.store w.clock with
  | ok plan =>
    constructor
    · intro h
      cases h
    · rintro ⟨_, h, -⟩
      cases h
  | error failure =>
    constructor
    · intro h
      exact ⟨failure, rfl, Except.error.inj h⟩
    · rintro ⟨_, ⟨⟩, broke⟩
      exact congrArg Except.error broke

theorem planned_of_displaces {request : Request} {w : World} (texts : request.updates.Textual)
    (h : Displaces request w) : planned request w.store w.clock = .error .overflow := by
  obtain @⟨t, rest, found, displaced⟩ := h
  rw [(reads_resolve request.selection).answer] at found
  have first : targets request.selection w.store = .ok ([] ++ t :: rest) := found
  have none : ([] : List Token).map (fun x => change request.updates x w.store w.clock) =
      ([] : List Delta).map .ok := rfl
  exact planned_of_first first none (Token.applied_of_displaces _ texts displaced)

theorem planned_of_exceeds {request : Request} {w : World} {s : Store} (there : w.store = some s)
    (h : Exceeds request w) : planned request w.store w.clock = .error .overflow := by
  obtain ⟨live, now, stamped, found, changed, supplied, read, unfit, target, other⟩ := h
  rw [(reads_resolve request.selection).answer] at found
  simp only [answerFor_eq] at changed
  rw [there] at found changed ⊢
  obtain ⟨deltas, changing⟩ := exists_mapM_eq_ok changed
  obtain ⟨d, within, change⟩ := exists_of_mem_items changing target
  have exceeding : Unfit d :=
    (unfit_iff_of_change change).2 ⟨_, _, supplied, read, unfit, other⟩
  obtain ⟨failure, failed, broke⟩ :=
    (written_breaks_iff now).2 ⟨rfl, ⟨_, stamped⟩, d, within, exceeding⟩
  have same : failure = .overflow := (told_eq_broke_iff.1 broke).1
  have changes : changes request (some s) w.clock = .ok deltas :=
    bind_eq_ok.2 ⟨_, found, changing⟩
  rw [planned, changes]
  refine bind_eq_error.2 (.inr ⟨deltas, rfl, ?_⟩)
  rw [if_neg (by simp [live])]
  exact bind_eq_error.2 (.inl (same ▸ failed))

theorem breaks_of_planned {s : Store} (reachable : Reachable s) {request : Request} {w : World}
    {stamp : Stamp} (there : w.store = some s) (now : w.clock.now = .ok stamp)
    (texts : request.updates.Textual) {failure : Failure}
    (failed : planned request w.store w.clock = .error failure) {b : Breakdown}
    (broke : told failure = .broke b) : b = .overflow ∧ (Displaces request w ∨ Exceeds request w) := by
  have found {ts : List Token} (h : targets request.selection (some s) = .ok ts) :
      ((resolve request.selection).run w).1 = .ok ts := by
    rw [(reads_resolve request.selection).answer, there]
    exact h
  rw [there] at failed
  rcases bind_eq_error.1 failed with failed | ⟨deltas, changing, failed⟩
  · obtain ⟨same, t, rest, first, displaced⟩ :=
      displaces_of_changes reachable now texts failed broke
    exact ⟨same, .inl ⟨found first, displaced⟩⟩
  · split at failed
    · cases failed
    · rename_i live
      have unwritten : written deltas (some s) w.clock = .error failure := by
        rcases bind_eq_error.1 failed with failed | ⟨_, _, done⟩
        · exact failed
        · cases done
      obtain ⟨same, ⟨instant, stamped⟩, d, hd, exceeding⟩ :=
        (written_breaks_iff now).1 ⟨failure, unwritten, broke⟩
      obtain ⟨ts, first, each⟩ := bind_eq_ok.1 changing
      obtain ⟨t, target, change⟩ := exists_of_mem_mapM each hd
      obtain ⟨v, n, supplied, read, unfit, other⟩ := (unfit_iff_of_change change).1 exceeding
      refine ⟨same, .inr ⟨Bool.eq_false_iff.2 live, now, stamped, found first, fun x hx => ?_,
        supplied, read, unfit, target, other⟩⟩
      rw [answerFor_eq, there]
      obtain ⟨e, -, passed⟩ := exists_of_mem_items each hx
      exact ⟨e, passed⟩

/-- A batch whose updates are given as texts either answers, refuses or overflows, the last just
when a timeline is displaced or years do not fit. -/
theorem run_broke_iff {s : Store} (reachable : Reachable s) {identifier : String}
    {request : Request} {w : World} {stamp : Stamp} {options : Keyed String Value}
    (there : w.store = some s) (now : w.clock.now = .ok stamp)
    (texts : ∀ option ∈ options, ∃ text, option.2 = .text text)
    (given : Updates.ofOptions options = .ok request.updates) (b : Breakdown) :
    ((run identifier request).run w).1 = .error (.broke b) ↔
      b = .overflow ∧ (Displaces request w ∨ Exceeds request w) := by
  have textual := Updates.textual_of_ofOptions texts given
  rw [run_broke_iff_planned]
  constructor
  · rintro ⟨failure, failed, broke⟩
    exact breaks_of_planned reachable there now textual failed broke
  · rintro ⟨rfl, displaces | exceeds⟩
    · exact ⟨.overflow, planned_of_displaces textual displaces, rfl⟩
    · exact ⟨.overflow, planned_of_exceeds there exceeds, rfl⟩

def plainStore : Option Store :=
  ((Operation.session [.createToken "T1" (.text "SINGLE_USE") []] false).run freshWorld).store

/-- The last second of the calendar, but an hour west of universal time. -/
def lateOptions : List (String × String) :=
  [("token_status_transitions", "START_OF_TIME=VALID,9999-12-31T23:59:59-01:00=ENDED")]

def longOptions : List (String × String) :=
  [("discount_fraction", "0.5"), ("discount_years", "9223372036854775808")]

def asTexts (options : List (String × String)) : Keyed String Value :=
  options.map fun option => (option.1, .text option.2)

theorem texts_asTexts (options : List (String × String)) :
    ∀ option ∈ asTexts options, ∃ text, option.2 = .text text := by
  intro option within
  obtain ⟨given, -, rfl⟩ := List.mem_map.1 within
  exact ⟨given.2, rfl⟩

def askedOf (options : List (String × String)) (dryRun : Bool) : Option (Request × World) :=
  plainStore.bind fun s => (Updates.ofOptions (asTexts options)).toOption.map fun updates =>
    (⟨⟨some ["T1"], none⟩, updates, dryRun⟩, { freshWorld with store := some s })

def breakdown? (answer : Answer Result) : Option Breakdown :=
  match answer with
  | .error (.broke b) => some b
  | _ => none

theorem eq_broke_of_breakdown? {answer : Answer Result} {b : Breakdown}
    (h : breakdown? answer = some b) : answer = .error (.broke b) := by
  unfold breakdown? at h
  split at h
  · cases h
    rfl
  · cases h

theorem of_askedOf {options : List (String × String)} {dryRun : Bool} {request : Request}
    {w : World} (h : askedOf options dryRun = some (request, w)) : ∃ s, Reachable s ∧
      w.store = some s ∧ w.clock.now = .ok Clock.defaultStart ∧ request.dryRun = dryRun ∧
      Updates.ofOptions (asTexts options) = .ok request.updates := by
  unfold askedOf at h
  obtain ⟨s, left, h⟩ := Option.bind_eq_some_iff.1 h
  obtain ⟨updates, given, h⟩ := Option.map_eq_some_iff.1 h
  cases h
  exact ⟨s, .step .empty rfl left, rfl, Clock.now_start _, rfl, eq_ok_of_toOption given⟩

theorem displaces_of_late : ∃ s request w, Reachable s ∧ w.store = some s ∧
    w.clock.now = .ok Clock.defaultStart ∧
    Updates.ofOptions (asTexts lateOptions) = .ok request.updates ∧ Displaces request w := by
  have overflows : ((askedOf lateOptions true).bind fun asked =>
      breakdown? ((run "B1" asked.1).run asked.2).1) = some .overflow := by decide +kernel
  obtain ⟨⟨request, w⟩, asked, overflows⟩ := Option.bind_eq_some_iff.1 overflows
  obtain ⟨s, reachable, there, now, dry, given⟩ := of_askedOf asked
  have broke := eq_broke_of_breakdown? overflows
  refine ⟨s, request, w, reachable, there, now, given, ?_⟩
  rcases (run_broke_iff reachable there now (texts_asTexts _) given .overflow).1 broke with
    ⟨-, displaces | exceeds⟩
  · exact displaces
  · obtain ⟨live⟩ := exceeds
    rw [dry] at live
    cases live

/-- A batch overflows in a reachable store over updates that are given as these texts. -/
def OverflowsOn (options : List (String × String)) : Prop :=
  ∃ s request w, Reachable s ∧ w.store = some s ∧ w.clock.now = .ok Clock.defaultStart ∧
    Updates.ofOptions (asTexts options) = .ok request.updates ∧
    ((run "B1" request).run w).1 = .error (.broke .overflow)

theorem overflowsOn_of_breakdown? {options : List (String × String)}
    (h : ((askedOf options false).bind fun asked =>
      breakdown? ((run "B1" asked.1).run asked.2).1) = some .overflow) : OverflowsOn options := by
  obtain ⟨⟨request, w⟩, asked, overflows⟩ := Option.bind_eq_some_iff.1 h
  obtain ⟨s, reachable, there, now, -, given⟩ := of_askedOf asked
  exact ⟨s, request, w, reachable, there, now, given, eq_broke_of_breakdown? overflows⟩

/-- Texts can break a batch down, in either of the two ways. -/
theorem broken_by_texts : OverflowsOn lateOptions ∧ OverflowsOn longOptions :=
  ⟨overflowsOn_of_breakdown? (by decide +kernel), overflowsOn_of_breakdown? (by decide +kernel)⟩

end Batch

end RegistryTokens
