import Mathlib.Data.List.Induction
import RegistryTokens.Log.Logbook
import RegistryTokens.Proofs.Openings

/-!
# What a logbook writes

The first attempt to set up logging since the last reset decides: with a known level its stream
takes every record from that level on until the next reset, in order, and no other stream takes any;
with an unknown level it fails, and nothing is written until the next reset, whatever is attempted
meanwhile. So logging follows the first attempt that succeeds just when none fails.
-/

set_option autoImplicit false

namespace RegistryTokens.Log

theorem Level.admits_of_pos {threshold level : Level} (above : 0 < threshold.rank) :
    threshold.admits level = decide (threshold.rank ≤ level.rank) := by
  rw [admits, effective, if_neg (Nat.ne_of_gt above)]

namespace Logbook

namespace Step

def isReset : Step → Bool
  | reset => true
  | _ => false

def isConfigure : Step → Bool
  | configure _ => true
  | _ => false

def record? : Step → Option Record
  | log r => some r
  | _ => none

end Step

def handed (steps : List Step) : Nat := steps.countP Step.isConfigure

/-- Nobody tried to set up logging since the last reset. -/
def Idle (steps : List Step) : Prop := Shut (fun _ s => s.isConfigure = true) (·.isReset = true) steps

/-- The records from a level on, up to the next reset. -/
def heard (level : Level) (steps : List Step) : List Record :=
  ((steps.takeWhile fun s => !s.isReset).filterMap Step.record?).filter
    fun r => level.rank ≤ r.level.rank

variable {b : Logbook} {n : Nat} {steps : List Step}

theorem run_cons (b : Logbook) (s : Step) (steps : List Step) :
    b.run (s :: steps) = (b.step s).2.run steps := rfl

theorem run_append (b : Logbook) (front back : List Step) :
    b.run (front ++ back) = (b.run front).run back :=
  List.foldl_append

theorem getElem?_write_of_not_mem (apart : n ∉ b.handlers) (r : Record) :
    (b.write r).streams[n]? = b.streams[n]? := by
  have untouched (handlers : List Nat) (apart : n ∉ handlers) (streams : List (List Record)) :
      (handlers.foldl (fun s i => s.modify i (· ++ [r])) streams)[n]? = streams[n]? := by
    induction handlers generalizing streams with
    | nil => rfl
    | cons i rest ih =>
      rw [List.mem_cons, not_or] at apart
      have other : i ≠ n := fun same => apart.1 same.symm
      rw [List.foldl_cons, ih apart.2, List.getElem?_modify_ne _ _ other]
  unfold write
  split
  · exact untouched b.handlers apart b.streams
  · rfl

theorem length_write (b : Logbook) (r : Record) :
    (b.write r).streams.length = b.streams.length := by
  have same (handlers : List Nat) (streams : List (List Record)) :
      (handlers.foldl (fun s i => s.modify i (· ++ [r])) streams).length = streams.length := by
    induction handlers generalizing streams with
    | nil => rfl
    | cons i rest ih => rw [List.foldl_cons, ih, List.length_modify]
  unfold write
  split
  · exact same b.handlers b.streams
  · rfl

theorem streams_configure (b : Logbook) (level : Option Level) :
    (b.configure level).2.streams = b.streams ++ [[]] := by
  unfold configure
  by_cases configured : b.configured = true
  · rw [if_pos configured]
  · rw [if_neg configured]
    cases level <;> rfl

theorem handlers_write (b : Logbook) (r : Record) : (b.write r).handlers = b.handlers := by
  unfold write
  split <;> rfl

theorem level_write (b : Logbook) (r : Record) : (b.write r).level = b.level := by
  unfold write
  split <;> rfl

theorem configured_write (b : Logbook) (r : Record) : (b.write r).configured = b.configured := by
  unfold write
  split <;> rfl

theorem configure_of_configured (configured : b.configured = true) (level : Option Level) :
    b.configure level = (.ok (), { b with streams := b.streams ++ [[]] }) := by
  unfold configure
  rw [if_pos configured]

theorem run_of_configured (configured : b.configured = true)
    (free : ∀ s ∈ steps, s.isReset = false) : (b.run steps).handlers = b.handlers := by
  induction steps generalizing b with
  | nil => rfl
  | cons s rest ih =>
    obtain ⟨last, later⟩ := List.forall_mem_cons.1 free
    rw [run_cons]
    cases s with
    | configure level =>
      show ((b.configure level).2.run rest).handlers = b.handlers
      rw [configure_of_configured configured]
      exact ih configured later
    | reset => cases last
    | log r =>
      show ((b.write r).run rest).handlers = b.handlers
      rw [ih ((configured_write b r).trans configured) later, handlers_write]

theorem run_of_not_mem (there : n < b.streams.length) (apart : n ∉ b.handlers) :
    (b.run steps).streams[n]? = b.streams[n]? := by
  induction steps generalizing b with
  | nil => rfl
  | cons s rest ih =>
    rw [run_cons]
    cases s with
    | configure level =>
      have streams := streams_configure b level
      have longer : n < (b.configure level).2.streams.length := by
        rw [streams, List.length_append]
        omega
      have still : n ∉ (b.configure level).2.handlers := by
        unfold configure
        by_cases configured : b.configured = true
        · rw [if_pos configured]
          exact apart
        · rw [if_neg configured]
          cases level with
          | none => exact apart
          | some level => simp [apart, Nat.ne_of_lt there]
      show ((b.configure level).2.run rest).streams[n]? = b.streams[n]?
      rw [ih longer still, streams, List.getElem?_append_left there]
    | reset => exact ih (b := b.reset) there List.not_mem_nil
    | log r =>
      show ((b.write r).run rest).streams[n]? = b.streams[n]?
      rw [ih (by rwa [length_write]) (by rwa [handlers_write]), getElem?_write_of_not_mem apart]

/-- A stream with the only handler takes what its level admits, up to the next reset. -/
theorem run_of_handler (configured : b.configured = true) (alone : b.handlers = [n])
    (there : n < b.streams.length) (above : 0 < b.level.rank) :
    (b.run steps).streams[n]? = b.streams[n]?.map (· ++ heard b.level steps) := by
  induction steps generalizing b with
  | nil => simp [heard, run]
  | cons s rest ih =>
    rw [run_cons]
    cases s with
    | configure level =>
      show ((b.configure level).2.run rest).streams[n]? = _
      rw [configure_of_configured configured]
      have longer : n < (b.streams ++ [[]]).length := by
        rw [List.length_append]
        omega
      have later := ih (b := { b with streams := b.streams ++ [[]] }) configured alone longer above
      rw [later, List.getElem?_append_left there]
      rfl
    | reset =>
      show (b.reset.run rest).streams[n]? = _
      rw [run_of_not_mem (b := b.reset) there List.not_mem_nil]
      simp [heard, Step.isReset, reset]
    | log r =>
      have later := ih (b := b.write r) ((configured_write b r).trans configured)
        ((handlers_write b r).trans alone) (by rwa [length_write]) (by rwa [level_write])
      show ((b.write r).run rest).streams[n]? = _
      rw [later, level_write, write, alone, Level.admits_of_pos above]
      by_cases admitted : b.level.rank ≤ r.level.rank
      · simp [heard, Step.isReset, Step.record?, admitted, Function.comp_def]
      · simp [heard, Step.isReset, Step.record?, admitted]

/-- What holds after any steps: logging counts as set up from the first attempt since the last reset
on, and handlers are attached only then and write to streams that were handed in. -/
structure Follows (steps : List Step) (b : Logbook) : Prop where
  idle : b.configured = false ↔ Idle steps
  unattached : b.configured = false → b.handlers = []
  length : b.streams.length = handed steps
  within : ∀ i ∈ b.handlers, i < b.streams.length

theorem Follows.configure (h : Follows steps b) (level : Option Level) :
    Follows (steps ++ [.configure level]) (b.configure level).2 := by
  have set : (b.configure level).2.configured = true := by
    unfold Logbook.configure
    by_cases configured : b.configured = true
    · rw [if_pos configured]
      exact configured
    · rw [if_neg configured]
      cases level <;> rfl
  have streams := streams_configure b level
  refine ⟨?_, ?_, ?_, ?_⟩
  · rw [set, Idle, shut_concat_iff]
    exact ⟨nofun, fun shut => absurd rfl shut.1⟩
  · rw [set]
    nofun
  · rw [streams, List.length_append, h.length, handed, handed, List.countP_append]
    rfl
  · intro i there
    have last : i ∈ b.handlers ∨ i = b.streams.length := by
      unfold Logbook.configure at there
      split at there
      · exact .inl there
      · cases level with
        | none => exact .inl there
        | some level => exact (List.mem_append.1 there).imp_right List.mem_singleton.1
    rw [streams, List.length_append, List.length_singleton]
    rcases last with there | rfl
    · exact Nat.lt_succ_of_lt (h.within i there)
    · exact Nat.lt_succ_self _

theorem Follows.reset (h : Follows steps b) : Follows (steps ++ [.reset]) b.reset := by
  refine ⟨?_, fun _ => rfl, ?_, nofun⟩
  · rw [Idle, shut_concat_iff]
    exact ⟨fun _ => ⟨nofun, .inl rfl⟩, fun _ => rfl⟩
  · rw [handed, List.countP_append]
    exact h.length

theorem Follows.write (h : Follows steps b) (r : Record) :
    Follows (steps ++ [.log r]) (b.write r) := by
  refine ⟨?_, ?_, ?_, ?_⟩
  · rw [configured_write, h.idle, Idle, Idle, shut_concat_iff]
    exact ⟨fun shut => ⟨nofun, .inr shut⟩, fun shut => shut.2.resolve_left nofun⟩
  · rw [configured_write, handlers_write]
    exact h.unattached
  · rw [length_write, handed, List.countP_append]
    exact h.length
  · rw [handlers_write, length_write]
    exact h.within

theorem follows_run (steps : List Step) : Follows steps (start.run steps) := by
  induction steps using List.reverseRecOn with
  | nil => exact ⟨⟨fun _ => shut_nil, fun _ => rfl⟩, fun _ => rfl, rfl, nofun⟩
  | append_singleton steps s ih =>
    rw [run_append]
    cases s with
    | configure level => exact ih.configure level
    | reset => exact ih.reset
    | log r => exact ih.write r

theorem Follows.getElem?_handed (h : Follows steps b) :
    (b.streams ++ [[]])[handed steps]? = some [] := by
  rw [← h.length, List.getElem?_append_right (Nat.le_refl _), Nat.sub_self]
  rfl

theorem Follows.handed_lt (h : Follows steps b) : handed steps < (b.streams ++ [[]]).length := by
  rw [List.length_append, h.length]
  exact Nat.lt_succ_self _

theorem Follows.handed_not_mem (h : Follows steps b) : handed steps ∉ b.handlers := by
  intro attached
  exact absurd (h.within _ attached) (h.length ▸ Nat.lt_irrefl _)

def Accepted (steps : List Step) (level : Option Level) : Prop :=
  ((start.run steps).configure level).1 = .ok ()

theorem accepted_iff {level : Option Level} :
    Accepted steps level ↔ (Idle steps → level.isSome = true) := by
  rw [Accepted, ← (follows_run steps).idle]
  generalize start.run steps = b
  unfold configure
  by_cases configured : b.configured = true
  · rw [if_pos configured, configured]
    exact ⟨fun _ => nofun, fun _ => rfl⟩
  · rw [if_neg configured]
    have idle : b.configured = false := Bool.eq_false_iff.2 configured
    cases level with
    | none => exact ⟨nofun, fun known => nomatch known idle⟩
    | some level => exact ⟨fun _ _ => rfl, fun _ => rfl⟩

variable {before after : List Step} {level : Option Level}

theorem configure_of_idle (h : Follows before b) (idle : Idle before) (level : Option Level) :
    (b.configure level).2 = { b with
      configured := true, level := level.getD b.level, streams := b.streams ++ [[]],
      handlers := level.toList.map fun _ => handed before } := by
  have configured := h.idle.2 idle
  unfold configure
  rw [if_neg (Bool.eq_false_iff.1 configured)]
  cases level <;> simp [h.unattached configured, h.length]

theorem run_of_idle (idle : Idle before) (above : ∀ l, level = some l → 0 < l.rank) :
    (start.run (before ++ .configure level :: after)).streams[handed before]? =
        some (level.elim [] (heard · after)) ∧
      ((∀ s ∈ after, s.isReset = false) →
        (start.run (before ++ .configure level :: after)).handlers =
          level.toList.map fun _ => handed before) := by
  have follows := follows_run before
  rw [run_append, run_cons, step, configure_of_idle follows idle]
  generalize start.run before = b at follows
  constructor
  · cases level with
    | none => exact (run_of_not_mem follows.handed_lt List.not_mem_nil).trans follows.getElem?_handed
    | some level =>
      refine (run_of_handler rfl rfl follows.handed_lt (above level rfl)).trans ?_
      show (b.streams ++ [[]])[handed before]?.map _ = _
      rw [follows.getElem?_handed]
      rfl
  · exact run_of_configured rfl

theorem run_of_not_idle (busy : ¬Idle before) :
    (start.run (before ++ .configure level :: after)).streams[handed before]? = some [] := by
  have follows := follows_run before
  have configured : ¬(start.run before).configured = false := fun idle => busy (follows.idle.1 idle)
  rw [run_append, run_cons, step, configure_of_configured (eq_true_of_ne_false configured)]
  generalize start.run before = b at follows
  refine (run_of_not_mem (b := { b with streams := b.streams ++ [[]] })
    follows.handed_lt follows.handed_not_mem).trans ?_
  exact follows.getElem?_handed

theorem exists_first_attempt (busy : ¬Idle steps) : ∃ before level after,
    steps = before ++ .configure level :: after ∧ Idle before ∧
      ∀ s ∈ after, s.isReset = false := by
  have apart (before : List Step) (s : Step) (attempt : s.isConfigure = true) :
      ¬s.isReset = true := by
    cases s <;> cases attempt
    nofun
  obtain ⟨before, s, after, parts, attempt, idle, free⟩ := exists_first_opening apart busy
  cases s with
  | configure level =>
    exact ⟨before, level, after, parts, idle, fun s there => Bool.eq_false_iff.2 (free s there)⟩
  | reset => cases attempt
  | log r => cases attempt

/-- Every level that is asked for is above the one that is none. -/
def Above (steps : List Step) : Prop :=
  ∀ level, .configure (some level) ∈ steps → 0 < level.rank

theorem Above.of_parts (above : Above steps) (parts : steps = before ++ .configure level :: after) :
    ∀ l, level = some l → 0 < l.rank := by
  rintro l rfl
  exact above l (by simp [parts])

/-- No attempt that was accepted stands since the last reset. -/
def Closed (steps : List Step) : Prop :=
  Shut (fun before s => ∃ level, s = .configure level ∧ Accepted before level) (·.isReset = true) steps

/-- Logging as the attempts that are accepted ask for it. -/
structure Lawful (steps : List Step) : Prop where
  closed : Closed steps → (start.run steps).handlerCount = 0
  opened : ¬Closed steps → (start.run steps).handlerCount = 1
  heard : ∀ before level after, steps = before ++ .configure (some level) :: after →
    Accepted before (some level) → Closed before →
      (start.run steps).streams[handed before]? = some (heard level after)
  silent : ∀ before level after, steps = before ++ .configure level :: after →
    ¬Accepted before level ∨ ¬Closed before → (start.run steps).streams[handed before]? = some []
  unharmed : ∀ before level after, steps = before ++ .configure level :: after →
    ¬Accepted before level →
      ((start.run before).configure level).2.level = (start.run before).level ∧
      ((start.run before).configure level).2.handlers = (start.run before).handlers ∧
      ∀ next, (((start.run before).configure level).2.configure (some next)).2.handlers =
        [handed before + 1]

def Untroubled (steps : List Step) : Prop :=
  ∀ before level after, steps = before ++ .configure level :: after → Accepted before level

theorem Untroubled.of_append {rest : List Step} (h : Untroubled (steps ++ rest)) :
    Untroubled steps := by
  intro before level after parts
  exact h before level (after ++ rest) (by rw [parts]; simp)

theorem Untroubled.closed_iff (h : Untroubled steps) : Closed steps ↔ Idle steps := by
  constructor
  · intro closed before s after parts attempt
    cases s with
    | configure level => exact closed before _ after parts ⟨level, rfl, h before level after parts⟩
    | reset => cases attempt
    | log r => cases attempt
  · rintro idle before s after parts ⟨level, rfl, -⟩
    exact idle before _ after parts rfl

theorem Untroubled.lawful (h : Untroubled steps) (above : Above steps) : Lawful steps := by
  have front {before after : List Step} {level : Option Level}
      (parts : steps = before ++ .configure level :: after) : Closed before ↔ Idle before := by
    rw [parts] at h
    exact h.of_append.closed_iff
  constructor
  · intro closed
    have follows := follows_run steps
    rw [handlerCount, follows.unattached (follows.idle.2 (h.closed_iff.1 closed))]
    rfl
  · intro opened
    have busy : ¬Idle steps := fun idle => opened (h.closed_iff.2 idle)
    obtain ⟨before, level, after, parts, idle, free⟩ := exists_first_attempt busy
    obtain ⟨level, rfl⟩ :=
      Option.isSome_iff_exists.1 (accepted_iff.1 (h before level after parts) idle)
    have positive := above.of_parts parts
    rw [handlerCount, parts, (run_of_idle idle positive).2 free]
    rfl
  · intro before level after parts _ closed
    have positive := above.of_parts parts
    rw [parts]
    exact (run_of_idle ((front parts).1 closed) positive).1
  · intro before level after parts failed
    have busy : ¬Idle before := by
      intro idle
      exact failed.elim (fun failed => failed (h before level after parts))
        fun opened => opened ((front parts).2 idle)
    rw [parts]
    exact run_of_not_idle busy
  · intro before level after parts failed
    exact absurd (h before level after parts) failed

theorem untroubled_of_lawful (h : ∀ moment, moment <+: steps → Lawful moment) :
    Untroubled steps := by
  intro before level after parts
  by_contra failed
  have early : before ++ [.configure level] <+: steps := ⟨after, by rw [parts]; simp⟩
  obtain ⟨-, -, effective⟩ := (h _ early).unharmed before level [] rfl failed
  have first : Idle before ∧ level = none := by
    rw [accepted_iff, Classical.not_imp, Option.not_isSome_iff_eq_none] at failed
    exact failed
  obtain ⟨idle, rfl⟩ := first
  have next := effective .info
  rw [configure_of_idle (follows_run before) idle, configure_of_configured rfl] at next
  cases next

/-- The first attempt to set up logging since the last reset decides. If its level is known, its
stream takes the records from that level on, in order and up to the next reset, and its handler is
the only one; if its level is unknown it fails, and there is no handler up to the next reset. No
other stream takes anything. So logging is at all moments as the accepted attempts ask for it just
when no attempt fails. -/
theorem written_as_set_up (steps : List Step)
    (above : ∀ level, .configure (some level) ∈ steps → 0 < level.rank) :
    (Idle steps → (start.run steps).handlers = []) ∧
    (∀ before level after, steps = before ++ .configure level :: after →
      (Accepted before level ↔ (Idle before → level.isSome = true)) ∧
      (Idle before →
        (start.run steps).streams[handed before]? = some (level.elim [] (heard · after)) ∧
        ((∀ s ∈ after, s.isReset = false) →
          (start.run steps).handlers = level.toList.map fun _ => handed before)) ∧
      (¬Idle before → (start.run steps).streams[handed before]? = some [])) ∧
    ((∀ moment, moment <+: steps → Lawful moment) ↔ Untroubled steps) := by
  refine ⟨?_, ?_, untroubled_of_lawful, ?_⟩
  · intro idle
    have follows := follows_run steps
    exact follows.unattached (follows.idle.2 idle)
  · intro before level after parts
    have positive := Above.of_parts above parts
    rw [parts]
    exact ⟨accepted_iff, fun idle => run_of_idle idle positive, run_of_not_idle⟩
  · rintro untroubled moment ⟨rest, rfl⟩
    exact untroubled.of_append.lawful fun level there => above level (List.mem_append_left rest there)

def said (level : Level) (message : String) : Record := { level, logger := loggerName "x", message }

def twiceSetUp : List Step := [.log (said .error "early"), .configure (some .info),
  .log (said .debug "quiet"), .log (said .info "first"), .configure (some .debug),
  .log (said .warning "second"), .reset, .log (said .critical "lost"),
  .configure (some (.custom 35 "Level 35")), .log (said .warning "faint")]

theorem written_as_set_up_of_twice :
    (∀ level, .configure (some level) ∈ twiceSetUp → 0 < level.rank) ∧
    (start.run twiceSetUp).streams[0]? = some [said .info "first", said .warning "second"] ∧
    (start.run twiceSetUp).streams[1]? = some [] ∧ (start.run twiceSetUp).handlers = [2] ∧
    (start.run twiceSetUp).streams[2]? = some [] := by
  have above : ∀ level, .configure (some level) ∈ twiceSetUp → 0 < level.rank := by
    intro level there
    simp only [twiceSetUp, List.mem_cons, reduceCtorEq, Step.configure.injEq, Option.some.injEq,
      false_or, List.not_mem_nil, or_false] at there
    rcases there with rfl | rfl | rfl <;> decide
  obtain ⟨-, attempts, -⟩ := written_as_set_up twiceSetUp above
  have idle (steps : List Step) (unset : (start.run steps).configured = false) : Idle steps :=
    (follows_run steps).idle.1 unset
  have first := (attempts (twiceSetUp.take 1) (some .info) (twiceSetUp.drop 2) rfl).2.1 (idle _ rfl)
  have again := (attempts (twiceSetUp.take 4) (some .debug) (twiceSetUp.drop 5) rfl).2.2
    fun unset => nomatch (follows_run (twiceSetUp.take 4)).idle.2 unset
  have anew := (attempts (twiceSetUp.take 8) (some (.custom 35 "Level 35")) (twiceSetUp.drop 9) rfl).2.1
    (idle _ rfl)
  refine ⟨above, first.1, again, anew.2 ?_, anew.1⟩
  decide

/-- An attempt with a name that is no level, one with a level, and a record of an error. -/
def silencedSteps : List Step :=
  [.configure (Level.ofName? "LOUD"), .configure (Level.ofName? "INFO"), .log (said .error "m")]

theorem silenced_by_unknown_level : ¬Accepted [] (Level.ofName? "LOUD") ∧
    Accepted [.configure (Level.ofName? "LOUD")] (Level.ofName? "INFO") ∧
    (start.run silencedSteps).handlerCount = 0 ∧ (start.run silencedSteps).streams = [[], []] ∧
    ¬Lawful silencedSteps := by
  have unknown : Level.ofName? "LOUD" = none := by decide
  have known : Level.ofName? "INFO" = some .info := by decide
  rw [silencedSteps, unknown, known]
  have failed : ¬Accepted [] none := by
    rw [accepted_iff]
    exact fun known => nomatch known shut_nil
  refine ⟨failed, rfl, rfl, rfl, fun lawful => ?_⟩
  obtain ⟨-, -, effective⟩ := lawful.unharmed [] none _ rfl failed
  cases effective .info

end Logbook

end RegistryTokens.Log
