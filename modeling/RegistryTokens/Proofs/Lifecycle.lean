import RegistryTokens.Proofs.Job.Origin
import RegistryTokens.Proofs.Store.Column

/-!
# Stored lifecycles

A timeline is judged wherever one enters the registry, at a creation as at an update, and its column
gives it back unchanged. So every token that is read back has a lifecycle that begins at the start
of time and goes on by legal steps.
-/

set_option autoImplicit false

namespace RegistryTokens

open RegistryTokens.Time RegistryTokens.Store

namespace Lifecycle

inductive Follows : Status → Status → Prop where
  | starts : Follows .notStarted .valid
  | isCancelled : Follows .valid .cancelled
  | ends : Follows .valid .ended

theorem follows_of_legal {a b : Status} (h : legal a b = true) : Follows a b := by
  cases a <;> cases b <;> first | exact .starts | exact .isCancelled | exact .ends | cases h

theorem follows_of_chained {statuses front back : List Status} {a b : Status}
    (h : Chained statuses) (pair : statuses = front ++ a :: b :: back) : Follows a b := by
  induction front generalizing statuses with
  | nil =>
    subst pair
    exact follows_of_legal h.1
  | cons c front ih =>
    subst pair
    cases front with
    | nil => exact ih h.2 rfl
    | cons d front => exact ih h.2 rfl

/-- A lifecycle begins at the start of time and goes on by legal steps. -/
structure Legal (t : Timeline Status) : Prop where
  begins : t.firstInstant = Instant.epoch
  chained : Chained t.values

theorem legal_constant (a : Status) : Legal (Timeline.constant a) :=
  ⟨rfl, trivial⟩

theorem judge_eq_ok_iff {kind : TokenKind} {count : Answer Int} {t : Timeline Status}
    {token : Option String} : Answer.ofStep (judge kind (Answer.lift count) t token) = .ok () ↔
      Chained t.values ∧ (kind = .bulkPricing → endsPromotion t.values = true →
        ∃ n, count = .ok n ∧ n ≤ 0) := by
  rw [← firstIllegal?_eq_none_iff]
  unfold judge
  cases firstIllegal? t.values with
  | some pair => simp
  | none =>
    simp only [Answer.ofStep_ite, Answer.ofStep_bind, Answer.ofStep_lift, Answer.ofStep_throw,
      Answer.ofStep_pure, true_and]
    by_cases ends : kind = .bulkPricing ∧ endsPromotion t.values = true
    · rw [if_pos ends, Answer.bind_eq_ok]
      constructor
      · rintro ⟨n, counted, passed⟩ _ _
        refine ⟨n, counted, ?_⟩
        split at passed
        · cases passed
        · omega
      · intro free
        obtain ⟨n, counted, none⟩ := free ends.1 ends.2
        exact ⟨n, counted, if_neg (by omega)⟩
    · rw [if_neg ends]
      exact ⟨fun _ bulk last => absurd ⟨bulk, last⟩ ends, fun _ => rfl⟩

theorem judged_eq_ok_iff {kind : TokenKind} {count : Answer Int} {t : Timeline Status}
    {token : String} :
    Answer.ofStep (Token.judgeTransitions kind (Answer.lift count) t token) = .ok () ↔
      Legal t ∧ (kind = .bulkPricing → endsPromotion t.values = true →
        ∃ n, count = .ok n ∧ n ≤ 0) := by
  simp only [Token.judgeTransitions, Answer.ofStep_bind, Answer.ofStep_lift]
  rw [Answer.bind_eq_ok]
  unfold requireEpoch
  constructor
  · rintro ⟨_, judged, first⟩
    obtain ⟨chained, free⟩ := judge_eq_ok_iff.1 judged
    split at first
    · rename_i begins
      exact ⟨⟨begins, chained⟩, free⟩
    · cases first
  · rintro ⟨legal, free⟩
    exact ⟨(), judge_eq_ok_iff.2 ⟨legal.chained, free⟩, if_pos legal.begins⟩

theorem legal_of_judged {kind : TokenKind} {count : Answer Int} {t : Timeline Status}
    {token : String}
    (h : Answer.ofStep (Token.judgeTransitions kind (Answer.lift count) t token) = .ok ()) :
    Legal t :=
  (judged_eq_ok_iff.1 h).1

theorem legal_of_createTransitions {identifier : String} {kind : TokenKind}
    {given : Keyed String Value} {t : Timeline Status}
    (h : Token.createTransitions identifier kind given = .ok t) : Legal t := by
  unfold Token.createTransitions at h
  split at h
  · cases h
    exact legal_constant _
  · obtain ⟨timeline, -, h⟩ := Answer.bind_eq_ok.1 h
    obtain ⟨_, judged, h⟩ := Answer.bind_eq_ok.1 h
    cases h
    have judged : Answer.ofStep (Token.judgeTransitions kind (Answer.lift (.ok 0)) t
        identifier) = .ok () := judged
    exact legal_of_judged judged

theorem legal_invariant : FieldInvariant .transitions Legal :=
  ⟨fun created => legal_of_createTransitions created.transitions,
    fun updated supplied => legal_of_judged (updated.judged _ supplied)⟩

end Lifecycle

theorem Reachable.toToken {s : Store} (h : Reachable s) {name : String} {row : TokenRow}
    (stored : s.tokens.get? name = some row) :
    ∃ t, row.toToken name = .ok t ∧ Lifecycle.Legal t.transitions := by
  have timeline : ∃ t, row.transitions = Column.writeTransitions t ∧ Lifecycle.Legal t :=
    h.cell Lifecycle.legal_invariant stored
  have actions : ∃ a, row.actions = Column.writeActions a ∧ True :=
    h.cell (f := .actions) ⟨fun _ => trivial, fun _ _ => trivial⟩ stored
  obtain ⟨timeline, written, legal⟩ := timeline
  obtain ⟨actions, listed, -⟩ := actions
  unfold TokenRow.toToken
  rw [written, listed, Column.readTransitions_writeTransitions, Column.readActions_writeActions]
  exact ⟨_, rfl, legal⟩

theorem Store.token?_eq_some_iff {s : Store} {name : String} {t : Token} :
    s.token? name = .ok (some t) ↔
      ∃ row, s.tokens.get? name = some row ∧ row.toToken name = .ok t := by
  unfold Store.token?
  cases s.tokens.get? name with
  | none =>
    constructor
    · intro missing
      cases missing
    · rintro ⟨_, found, -⟩
      cases found
  | some row =>
    change Except.map some (row.toToken name) = _ ↔ _
    rw [Answer.map_eq_ok]
    constructor
    · rintro ⟨_, read, same⟩
      cases same
      exact ⟨row, rfl, read⟩
    · rintro ⟨_, found, read⟩
      cases found
      exact ⟨t, read, rfl⟩

theorem Store.exists_of_shown {α : Type} {s : Store} {name : String} {f : Token → α} {a : α}
    (h : (s.token? name).toOption.join.map f = some a) :
    ∃ t, s.token? name = .ok (some t) ∧ f t = a := by
  obtain ⟨t, found, same⟩ := Option.map_eq_some_iff.1 h
  cases read : s.token? name with
  | error _ =>
    rw [read] at found
    cases found
  | ok answer =>
    rw [read] at found
    exact ⟨t, congrArg Except.ok found, same⟩

theorem Store.token?_eq_ok {s : Store} {name : String} {row : TokenRow} {t : Token}
    (stored : s.tokens.get? name = some row) (shown : row.toToken name = .ok t) :
    s.token? name = .ok (some t) :=
  Store.token?_eq_some_iff.2 ⟨row, stored, shown⟩

def Store.Readable (s : Store) : Prop :=
  ∀ name row, s.tokens.get? name = some row → ∃ t, row.toToken name = .ok t

theorem Reachable.readable {s : Store} (h : Reachable s) : s.Readable := fun _ _ stored =>
  (h.toToken stored).imp fun _ shown => shown.1

theorem Store.Readable.token? {s : Store} (h : s.Readable) {name : String}
    (stored : name ∈ s.tokens.keys) : ∃ t, s.token? name = .ok (some t) := by
  obtain ⟨row, stored⟩ := Table.mem_keys_iff.1 stored
  obtain ⟨t, shown⟩ := h name row stored
  exact ⟨t, Store.token?_eq_ok stored shown⟩

theorem Store.Readable.tokenIn {s : Store} (h : s.Readable) {name : String}
    (stored : name ∈ s.tokens.keys) : ∃ t, Batch.tokenIn (some s) name = .ok t :=
  (h.token? stored).imp fun _ => Batch.tokenIn_eq_ok

theorem Store.token?_of_not_mem {s : Store} {name : String} (h : name ∉ s.tokens.keys) :
    s.token? name = .ok none := by
  cases stored : s.tokens.get? name with
  | none =>
    rw [Store.token?, stored]
    rfl
  | some row => exact absurd (Table.mem_keys_iff.2 ⟨row, stored⟩) h

theorem Reachable.exists_token? {s : Store} (h : Reachable s) (name : String) :
    ∃ found, s.token? name = .ok found := by
  by_cases stored : name ∈ s.tokens.keys
  · exact (h.readable.token? stored).imp' some fun _ => id
  · exact ⟨none, Store.token?_of_not_mem stored⟩

/-- A token that is read back from a reachable store has a lifecycle that increases in time, begins
at the start of time and goes on by legal steps. -/
theorem Reachable.lifecycle {s : Store} (h : Reachable s) {name : String}
    (stored : name ∈ s.tokens.keys) : ∃ t, s.token? name = .ok (some t) ∧
      t.transitions.entries ≠ [] ∧
      t.transitions.entries.Pairwise (fun a b => a.1 < b.1) ∧
      t.transitions.firstInstant = Instant.epoch ∧
      ∀ front a b back, t.transitions.values = front ++ a :: b :: back →
        Lifecycle.Follows a b := by
  obtain ⟨row, stored⟩ := Table.mem_keys_iff.1 stored
  obtain ⟨t, shown, legal⟩ := h.toToken stored
  exact ⟨t, Store.token?_eq_ok stored shown, t.transitions.nonempty, t.transitions.increasing,
    legal.begins, fun _ _ _ _ => Lifecycle.follows_of_chained legal.chained⟩

def freshWorld : World where
  store := some .empty
  clock := ⟨Clock.defaultStart, 0⟩

def planForMay : Operation :=
  .session [.createToken "T1" (.text "SINGLE_USE") [("token_status_transitions",
    .text "START_OF_TIME=NOT_STARTED,2023-05-01T00:00:00Z=VALID")]] false

def bringForward : Operation :=
  .batch "B1" ⟨⟨some ["T1"], none⟩, Updates.empty.give .transitions (.assigned (.text <|
    "START_OF_TIME=NOT_STARTED,2023-04-01T00:00:00Z=VALID," ++
      "2023-06-01T00:00:00+02:00=CANCELLED")), false⟩

theorem lifecycle_of_cancelled : ∃ s t, Reachable s ∧ "T1" ∈ s.tokens.keys ∧
    s.token? "T1" = .ok (some t) ∧ t.transitions.values = [.notStarted, .valid, .cancelled] ∧
    t.transitions.entries.Pairwise (fun a b => a.1 < b.1) ∧
    t.transitions.firstInstant = Instant.epoch ∧
    Lifecycle.Follows .notStarted .valid ∧ Lifecycle.Follows .valid .cancelled := by
  have facts : (bringForward.run (planForMay.run freshWorld)).store.map (fun s =>
      (s.tokens.keys, (s.token? "T1").toOption.join.map (·.transitions.values))) =
        some (["T1"], some [.notStarted, .valid, .cancelled]) := by decide +kernel
  obtain ⟨s, left, facts⟩ := Option.map_eq_some_iff.1 facts
  obtain ⟨keys, shows⟩ := Prod.mk.inj facts
  obtain ⟨t, shown, values⟩ := Store.exists_of_shown shows
  obtain ⟨first, there, leads⟩ := planForMay.leads (rfl : freshWorld.store = some .empty)
  have reachable : Reachable s :=
    .step (o := bringForward) (w := planForMay.run freshWorld) (.of_leads leads) there left
  have stored : "T1" ∈ s.tokens.keys := by
    rw [keys]
    exact List.mem_singleton_self _
  obtain ⟨t', read, -, increasing, begins, pairs⟩ := reachable.lifecycle stored
  cases shown.symm.trans read
  exact ⟨s, t, reachable, stored, shown, values, increasing, begins,
    pairs [] _ _ [.cancelled] values, pairs [.notStarted] _ _ [] values⟩

end RegistryTokens
