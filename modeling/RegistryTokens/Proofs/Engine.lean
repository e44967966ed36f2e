import RegistryTokens.Engine.Connection
import RegistryTokens.Proofs.Answer
import RegistryTokens.Proofs.Openings

/-!
# The engine in force

After any steps, engine, sessions and what opens them go to one connection, or are all refused: it is
the connection that was made last since the last reset. An address to which no connection can be
made leaves it in force, and takes nothing away but the tables that it keeps in memory.
-/

set_option autoImplicit false

namespace RegistryTokens.Engine

/-- What is done with an engine. A transaction makes what it likes of the tables, or fails. -/
inductive Step where
  | connect (address : String) (poolSize : Int) (echo : Bool)
  | createTables
  | dropTables
  | transact (change : Store → Answer Store)
  | reset

def step (e : Engine) : Step → Engine
  | .connect address poolSize echo => (e.connect address poolSize echo).2
  | .createTables => e.createTables.2
  | .dropTables => e.dropTables.2
  | .transact change => (e.transact change).2
  | .reset => e.reset

def run (e : Engine) (steps : List Step) : Engine := steps.foldl step e

def Step.Connects (s : Step) (t : Target) : Prop :=
  ∃ address poolSize echo, s = .connect address poolSize echo ∧ Target.read address = .ok t

def Unconnected (steps : List Step) : Prop :=
  Shut (fun _ s => ∃ t, s.Connects t) (· = .reset) steps

def targets (e : Engine) : List Target := e.connections.map (·.target)

def shown (e : Engine) (connection : Answer Nat) : Answer (Place × Option Store) := do
  let i ← connection
  let p ← e.place i
  pure (p, e.tablesAt i p)

variable {e after : Engine}

structure Keeps (e after : Engine) : Prop where
  current : after.current = e.current
  factory : after.factory = e.factory
  targets : after.targets = e.targets

theorem run_concat (steps : List Step) (s : Step) : start.run (steps ++ [s]) = (start.run steps).step s := by
  simp [run]

theorem length_targets (e : Engine) : e.targets.length = e.connections.length :=
  List.length_map _

theorem targets_modify {connections : List Connection} (i : Nat) {f : Connection → Connection}
    (same : ∀ c, (f c).target = c.target) :
    (connections.modify i f).map (·.target) = connections.map (·.target) := by
  apply List.ext_getElem?
  intro j
  rw [List.getElem?_map, List.getElem?_map, List.getElem?_modify]
  cases connections[j]? with
  | none => rfl
  | some c => by_cases h : i = j <;> simp [h, same]

theorem keeps_dispose (e : Engine) : Keeps e e.dispose := by
  unfold dispose
  split
  · exact ⟨rfl, rfl, rfl⟩
  · exact ⟨rfl, rfl, targets_modify _ fun _ => rfl⟩

theorem keeps_putAt (e : Engine) (i : Nat) (p : Place) (store : Option Store) :
    Keeps e (e.putAt i p store) := by
  unfold putAt
  cases p.file with
  | none => exact ⟨rfl, rfl, targets_modify i fun _ => rfl⟩
  | some path => exact ⟨rfl, rfl, rfl⟩

theorem keeps_work {α : Type} (e : Engine) (connection : Answer Nat)
    (task : Option Store → Answer (α × Option Store)) : Keeps e (e.work connection task).2 := by
  unfold work
  split
  · exact ⟨rfl, rfl, rfl⟩
  · rename_i i p _
    dsimp only
    split
    · exact keeps_putAt e i p _
    · split
      · exact keeps_putAt e i p _
      · split <;> exact keeps_putAt e i p _

theorem connect_of_error {address : String} {failure : Failure}
    (bad : Target.read address = .error failure) (poolSize : Int) (echo : Bool) :
    e.connect address poolSize echo = (.error failure, e.dispose) := by
  unfold connect
  rw [bad]

theorem connect_of_ok {address : String} {t : Target} (good : Target.read address = .ok t)
    (poolSize : Int) (echo : Bool) :
    (e.connect address poolSize echo).1 = .ok t.dialect.name ∧
      (e.connect address poolSize echo).2.current = some e.connections.length ∧
      (e.connect address poolSize echo).2.factory = some e.connections.length ∧
      (e.connect address poolSize echo).2.targets = e.targets ++ [t] := by
  have length : e.dispose.connections.length = e.connections.length := by
    rw [← length_targets, (keeps_dispose e).targets, length_targets]
  have targets : (e.dispose.connections ++ [Connection.fresh t]).map (·.target) = e.targets ++ [t] := by
    rw [List.map_append]
    exact congrArg (· ++ [t]) (keeps_dispose e).targets
  unfold connect
  rw [good]
  exact ⟨rfl, congrArg some length, congrArg some length, targets⟩

theorem step_cases (e : Engine) (s : Step) :
    (∃ t, s.Connects t ∧ (e.step s).current = some e.connections.length ∧
      (e.step s).factory = some e.connections.length ∧ (e.step s).targets = e.targets ++ [t]) ∨
    (s = .reset ∧ (e.step s).current = none ∧ (e.step s).factory = none) ∨
    ((∀ t, ¬s.Connects t) ∧ s ≠ .reset ∧ Keeps e (e.step s)) := by
  have idle (other : ∀ address poolSize echo, s ≠ .connect address poolSize echo) (t : Target) :
      ¬s.Connects t := by
    rintro ⟨address, poolSize, echo, same, -⟩
    exact other address poolSize echo same
  cases s with
  | connect address poolSize echo =>
    cases read : Target.read address with
    | ok t => exact .inl ⟨t, ⟨address, poolSize, echo, rfl, read⟩, (connect_of_ok read poolSize echo).2⟩
    | error failure =>
      refine .inr (.inr ⟨?_, nofun, ?_⟩)
      · rintro t ⟨_, _, _, ⟨⟩, good⟩
        cases read.symm.trans good
      · show Keeps e (e.connect address poolSize echo).2
        rw [connect_of_error read]
        exact keeps_dispose e
  | createTables => exact .inr (.inr ⟨idle nofun, nofun, keeps_work e _ _⟩)
  | dropTables => exact .inr (.inr ⟨idle nofun, nofun, keeps_work e _ _⟩)
  | transact change => exact .inr (.inr ⟨idle nofun, nofun, keeps_work e _ _⟩)
  | reset => exact .inr (.inl ⟨rfl, rfl, rfl⟩)

/-- The last step since the last reset that made a connection, with the place of this connection. -/
def Latest (steps : List Step) (n : Nat) (t : Target) : Prop :=
  ∃ before s after, steps = before ++ s :: after ∧ s.Connects t ∧
    (∀ c ∈ after, c ≠ .reset ∧ ∀ t, ¬c.Connects t) ∧ n = (start.run before).connections.length

theorem Latest.concat {steps : List Step} {n : Nat} {t : Target} (h : Latest steps n t) {s : Step}
    (stays : s ≠ .reset) (idle : ∀ t, ¬s.Connects t) : Latest (steps ++ [s]) n t := by
  obtain ⟨before, o, after, rfl, connects, free, place⟩ := h
  refine ⟨before, o, after ++ [s], by simp, connects, fun c there => ?_, place⟩
  rcases List.mem_append.1 there with there | last
  · exact free c there
  · exact List.mem_singleton.1 last ▸ ⟨stays, idle⟩

/-- The connection of an engine, if there is one, is the one that the steps before it made last. -/
inductive Follows (steps : List Step) (e : Engine) : Prop where
  | without (shut : Unconnected steps) (current : e.current = none) (factory : e.factory = none)
  | with {n : Nat} {t : Target} (latest : Latest steps n t) (current : e.current = some n)
    (factory : e.factory = some n) (target : e.targets[n]? = some t)

theorem follows_run (steps : List Step) : Follows steps (start.run steps) := by
  induction steps using List.reverseRecOn with
  | nil => exact .without shut_nil rfl rfl
  | append_singleton steps s ih =>
    rw [run_concat]
    rcases step_cases (start.run steps) s with
      ⟨t, connects, current, factory, targets⟩ | ⟨rfl, current, factory⟩ | ⟨idle, stays, keeps⟩
    · refine .with ⟨steps, s, [], rfl, connects, nofun, rfl⟩ current factory ?_
      rw [targets, ← length_targets, List.getElem?_append_right (Nat.le_refl _), Nat.sub_self]
      rfl
    · refine .without (shut_concat_iff.2 ⟨?_, .inl rfl⟩) current factory
      rintro ⟨_, _, _, _, ⟨⟩, -⟩
    · have shy : ¬∃ t, s.Connects t := fun ⟨t, connects⟩ => idle t connects
      cases ih with
      | without shut current factory =>
        exact .without (shut_concat_iff.2 ⟨shy, .inr shut⟩) (keeps.current.trans current)
          (keeps.factory.trans factory)
      | «with» latest current factory target =>
        exact .with (latest.concat stays idle) (keeps.current.trans current)
          (keeps.factory.trans factory) (keeps.targets ▸ target)

theorem place_congr (targets : after.targets = e.targets) (files : after.files = e.files) (i : Nat) :
    after.place i = e.place i := by
  have target (e : Engine) : e.place i =
      Answer.ofOption notReady e.targets[i]? >>= fun t => t.place fun path => Keyed.has e.files path := by
    unfold place Engine.targets
    rw [List.getElem?_map]
    cases e.connections[i]? <;> rfl
  rw [target, target, targets, files]

theorem files_dispose (e : Engine) : e.dispose.files = e.files := by
  unfold dispose
  split <;> rfl

theorem tablesAt_dispose {i : Nat} (current : e.current = some i) (p : Place) :
    e.dispose.tablesAt i p = if p.file.isNone then none else e.tablesAt i p := by
  unfold tablesAt
  rw [files_dispose]
  cases p.file with
  | none =>
    unfold dispose
    rw [current]
    dsimp only
    rw [List.getElem?_modify_eq]
    cases e.connections[i]? <;> rfl
  | some path => rfl

theorem inForce_eq_ok_iff {i : Nat} : e.inForce = .ok i ↔ e.current = some i := by
  unfold inForce
  cases e.current <;> simp [Answer.ofOption]

theorem shown_dispose (e : Engine) : e.dispose.shown e.inForce =
    (e.shown e.inForce).map fun r => (r.1, if r.1.file.isNone then none else r.2) := by
  unfold shown
  cases inForce : e.inForce with
  | error failure => rfl
  | ok i =>
    show (e.dispose.place i >>= _) = (e.place i >>= _).map _
    rw [place_congr (keeps_dispose e).targets (files_dispose e)]
    cases e.place i with
    | error failure => rfl
    | ok p =>
      have left := tablesAt_dispose (inForce_eq_ok_iff.1 inForce) p
      show Except.ok (p, e.dispose.tablesAt i p) = Except.ok (p, _)
      rw [left]

/-- Engine, sessions and what opens them are answered alike. -/
def Answers (e : Engine) (answer : Answer Nat) : Prop :=
  e.inForce = answer ∧ e.sessionFactory = answer ∧ e.session = answer

/-- What is left of an engine after an address to which no connection can be made. -/
structure Survives (e after : Engine) : Prop where
  answers : after.inForce = e.inForce ∧ after.sessionFactory = e.sessionFactory ∧
    after.session = e.session
  targets : after.targets = e.targets
  files : after.files = e.files
  logbook : after.logbook = e.logbook
  others : ∀ i, e.inForce ≠ .ok i → after.connections[i]? = e.connections[i]?
  shown : after.shown after.inForce =
    (e.shown e.inForce).map fun r => (r.1, if r.1.file.isNone then none else r.2)

/-- The tables in force are kept in memory. -/
def KeptInMemory (e : Engine) : Prop := ∃ p s, e.shown e.inForce = .ok (p, some s) ∧ p.file = none

theorem survives_dispose (e : Engine) : Survives e e.dispose := by
  have keeps := keeps_dispose e
  have inForce : e.dispose.inForce = e.inForce := congrArg (Answer.ofOption notReady) keeps.current
  have factory : e.dispose.sessionFactory = e.sessionFactory :=
    congrArg (Answer.ofOption notReady) keeps.factory
  refine ⟨⟨inForce, factory, factory⟩, keeps.targets, files_dispose e, ?_, ?_, ?_⟩
  · unfold dispose
    split <;> rfl
  · intro i other
    unfold dispose
    split
    · rfl
    · rename_i j current
      have apart : j ≠ i := fun same => other (inForce_eq_ok_iff.2 (same ▸ current))
      rw [List.getElem?_modify_ne _ _ apart]
  · rw [inForce]
    exact shown_dispose e

theorem Survives.shown_eq_iff (h : Survives e after) :
    after.shown after.inForce = e.shown e.inForce ↔ ¬e.KeptInMemory := by
  rw [h.shown, KeptInMemory]
  cases shown : e.shown e.inForce with
  | error failure => exact ⟨fun _ => nofun, fun _ => rfl⟩
  | ok r =>
    obtain ⟨p, present⟩ := r
    constructor
    · rintro same ⟨_, s, ⟨⟩, memory⟩
      simp [Except.map, memory] at same
    · intro kept
      cases file : p.file with
      | some path => simp [Except.map, file]
      | none =>
        cases present with
        | none => simp [Except.map]
        | some s => exact absurd ⟨p, s, rfl, file⟩ kept

/-- Engine, sessions and what opens them go to the connection that was made last since the last
reset, or are all refused where there is none. An address to which no connection can be made changes
nothing of this, and of all tables and files only tables in memory are lost with it: those of the
connection in force. So everything stays as it was just when these are not kept in memory. -/
theorem connected_as_last_asked (steps : List Step) :
    (Unconnected steps ∧ (start.run steps).Answers (.error notReady) ∨
      ∃ n t, Latest steps n t ∧ (start.run steps).Answers (.ok n) ∧
        (start.run steps).targets[n]? = some t) ∧
    ∀ address poolSize echo failure,
      ((start.run steps).connect address poolSize echo).1 = .error failure →
      Survives (start.run steps) ((start.run steps).connect address poolSize echo).2 ∧
      (((start.run steps).connect address poolSize echo).2.shown
          ((start.run steps).connect address poolSize echo).2.inForce =
        (start.run steps).shown (start.run steps).inForce ↔ ¬(start.run steps).KeptInMemory) := by
  constructor
  · have answers {e : Engine} {place : Option Nat} (current : e.current = place)
        (factory : e.factory = place) : e.Answers (Answer.ofOption notReady place) :=
      ⟨congrArg _ current, congrArg _ factory, congrArg _ factory⟩
    cases follows_run steps with
    | without shut current factory => exact .inl ⟨shut, answers current factory⟩
    | «with» latest current factory target =>
      exact .inr ⟨_, _, latest, answers current factory, target⟩
  · intro address poolSize echo failure failed
    have bad : ∃ failure, Target.read address = .error failure := by
      cases read : Target.read address with
      | error failure => exact ⟨failure, rfl⟩
      | ok t => cases (connect_of_ok read poolSize echo).1.symm.trans failed
    obtain ⟨failure, bad⟩ := bad
    rw [connect_of_error bad]
    have survives := survives_dispose (start.run steps)
    exact ⟨survives, survives.shown_eq_iff⟩

def fault? (address : String) : Option String :=
  match Target.read address with
  | .ok _ => none
  | .error failure => some failure.name

theorem exists_failure {address name : String} (fault : fault? address = some name) (e : Engine)
    (poolSize : Int) (echo : Bool) :
    ∃ failure, (e.connect address poolSize echo).1 = .error failure ∧ failure.name = name := by
  unfold fault? at fault
  cases read : Target.read address with
  | ok t =>
    rw [read] at fault
    cases fault
  | error failure =>
    rw [read] at fault
    exact ⟨failure, by rw [connect_of_error read], Option.some.inj fault⟩

def filed : List Step := [.connect "sqlite:///tokens.db" 5 false, .createTables]

def tokensFile : Place := ⟨some ⟨false, ["tokens.db"]⟩, false⟩

theorem connected_of_filed : ∃ failure,
    ((start.run filed).connect "nosuchdb://h/d" 5 false).1 = .error failure ∧
    failure.name = "NoSuchModuleError" ∧
    (start.run filed).shown (start.run filed).inForce = .ok (tokensFile, some .empty) ∧
    ((start.run filed).connect "nosuchdb://h/d" 5 false).2.shown
      ((start.run filed).connect "nosuchdb://h/d" 5 false).2.inForce =
        .ok (tokensFile, some .empty) := by
  have fault : fault? "nosuchdb://h/d" = some "NoSuchModuleError" := by decide +kernel
  obtain ⟨failure, failed, name⟩ := exists_failure fault (start.run filed) 5 false
  have before : (start.run filed).shown (start.run filed).inForce =
      .ok (tokensFile, some .empty) := by
    apply Answer.eq_ok_of_toOption
    decide +kernel
  obtain ⟨-, kept⟩ := (connected_as_last_asked filed).2 _ _ _ _ failed
  refine ⟨failure, failed, name, before, (kept.2 ?_).trans before⟩
  rintro ⟨p, s, shown, memory⟩
  cases before.symm.trans shown
  cases memory

def remembered : List Step := [.connect "sqlite://" 5 false, .createTables]

/-- An address that cannot be read takes away tables in memory. -/
theorem lost_by_bad_address : ∃ failure,
    ((start.run remembered).connect "" 5 false).1 = .error failure ∧
    failure.name = "ArgumentError" ∧
    (start.run remembered).shown (start.run remembered).inForce = .ok (⟨none, false⟩, some .empty) ∧
    ((start.run remembered).connect "" 5 false).2.shown
      ((start.run remembered).connect "" 5 false).2.inForce = .ok (⟨none, false⟩, none) := by
  have fault : fault? "" = some "ArgumentError" := by decide +kernel
  obtain ⟨failure, failed, name⟩ := exists_failure fault (start.run remembered) 5 false
  refine ⟨failure, failed, name, ?_, ?_⟩ <;> apply Answer.eq_ok_of_toOption <;> decide +kernel

end RegistryTokens.Engine
