import Mathlib.Data.List.Forall2
import RegistryTokens.Proofs.Price

/-!
# Listed names

A list of names is resolved name by name, each name once and in the order in which the names first
come; and the first name that is not stored fails the whole list. The packages of a list are found
that way too, with one exception: a package whose price was too large for its column is stored but
cannot be read back, and no list that names it can be resolved.
-/

set_option autoImplicit false

namespace RegistryTokens

open RegistryTokens.Time RegistryTokens.Store

structure FirstOccurrences (items out : List String) : Prop where
  members : ∀ a, a ∈ out ↔ a ∈ items
  ordered : out.Pairwise fun a b => items.idxOf a < items.idxOf b

theorem firstOccurrences_distinct (items : List String) :
    FirstOccurrences items (distinct items) := by
  refine ⟨fun a => mem_distinct, ?_⟩
  induction items with
  | nil => exact .nil
  | cons a rest ih =>
    have later {b : String} (hb : b ∈ (distinct rest).filter fun b => !(a == b)) :
        (a :: rest).idxOf b = rest.idxOf b + 1 := by
      have other : a ≠ b := by simpa using (List.mem_filter.1 hb).2
      exact List.idxOf_cons_ne rest other
    rw [distinct, List.pairwise_cons]
    constructor
    · intro b hb
      rw [List.idxOf_cons_self, later hb]
      omega
    · refine (ih.sublist List.filter_sublist).imp_of_mem fun ha hb before => ?_
      rw [later ha, later hb]
      omega

/-- A list of names is resolved all or nothing. -/
structure Resolves {β : Type} (names : List String) (stored : String → Prop)
    (unknown : String → Refusal) (entry : String → β → Prop) (answer : Answer (List β)) : Prop where
  all : (∀ name ∈ names, stored name) → ∃ found out, answer = .ok found ∧
    FirstOccurrences names out ∧ List.Forall₂ entry out found
  missing : ∀ front name back, names = front ++ name :: back → (∀ other ∈ front, stored other) →
    ¬stored name → answer = .error (.refused (unknown name))

theorem exists_found {β : Type} {names : List String} {f : String → Answer β}
    (passes : ∀ name ∈ names, ∃ b, f name = .ok b) : ∃ found out,
      (distinct names).mapM f = .ok found ∧ FirstOccurrences names out ∧
        List.Forall₂ (fun name b => f name = .ok b) out found := by
  obtain ⟨found, looked⟩ := Answer.exists_mapM_eq_ok fun name named =>
    passes name (mem_distinct.1 named)
  refine ⟨found, distinct names, looked, firstOccurrences_distinct names, ?_⟩
  have same := Answer.mapM_eq_ok.1 looked
  rw [← List.forall₂_eq_eq_eq, List.forall₂_map_left_iff, List.forall₂_map_right_iff] at same
  exact same

theorem mapM_distinct_of_first {β : Type} {f : String → Answer β} {failure : Failure}
    {front back : List String} {name : String} (passes : ∀ other ∈ front, ∃ b, f other = .ok b)
    (fails : f name = .error failure) :
    (distinct (front ++ name :: back)).mapM f = .error failure := by
  let failing (name : String) : Bool := (f name).toOption.isNone
  have passing {other : String} : (!failing other) = true ↔ ∃ b, f other = .ok b := by
    cases h : f other <;> simp [failing, h, Except.toOption]
  have first : (distinct (front ++ name :: back)).find? failing = some name := by
    rw [find?_distinct, List.find?_eq_some_iff_append]
    refine ⟨?_, front, back, rfl, fun other there => passing.2 (passes other there)⟩
    simp [failing, fails, Except.toOption]
  obtain ⟨-, before, after, split, passed⟩ := List.find?_eq_some_iff_append.1 first
  obtain ⟨found, looked⟩ := Answer.exists_mapM_eq_ok fun other there => passing.1 (passed other there)
  rw [split]
  exact Answer.mapM_eq_error_of_first (Answer.mapM_eq_ok.1 looked) fails

structure Store.SameRows (s other : Store) : Prop where
  tokens : s.tokens.rows.Perm other.tokens.rows
  packages : s.packages.rows.Perm other.packages.rows
  domains : s.domains.rows.Perm other.domains.rows

namespace Store.SameRows

variable {s other : Store}

theorem countBound (h : s.SameRows other) (token : String) (now : Instant) :
    s.countBound token now = other.countBound token now :=
  (h.domains.filter _).length_eq

theorem tokenIn (h : s.SameRows other) (name : String) :
    Batch.tokenIn (some s) name = Batch.tokenIn (some other) name :=
  Batch.tokenIn_of_row (Table.get?_of_perm h.tokens name)

theorem countsIn (h : s.SameRows other) (names : List String) (c : Clock) :
    Job.countsIn names (some s) c = Job.countsIn names (some other) c := by
  unfold Job.countsIn
  split
  · rfl
  · cases c.now.mapError Failure.ofClock >>= Column.writeStamp with
    | error _ => rfl
    | ok instant =>
      change (.ok (List.map _ _) : Answer (List (String × Int))) = .ok (List.map _ _)
      simp only [h.countBound]

theorem packagesIn (h : s.SameRows other) (names : List String) (c : Clock) :
    Job.packagesIn names (some s) c = Job.packagesIn names (some other) c := by
  by_cases given : names = []
  · rw [given, Job.packagesIn_nil, Job.packagesIn_nil]
  · have has (name : String) : s.packages.has name = other.packages.has name := by
      rw [Bool.eq_iff_iff, Table.has, Table.has, List.contains_iff_mem, List.contains_iff_mem]
      exact Table.mem_keys_of_perm h.packages name
    simp only [Job.packagesIn_of_ne_nil given, h.countsIn, has, Table.get?_of_perm h.packages]

end Store.SameRows

/-- A package is stored under a name, but its price cannot be read back. -/
def Store.Spoiled (s : Store) (name : String) : Prop :=
  ∃ row, s.packages.get? name = some row ∧ ∀ price, row.price ≠ .ok price

theorem Store.spoiled_iff {s : Store} {name : String} {row : PackageRow}
    (stored : s.packages.get? name = some row) :
    s.Spoiled name ↔ ¬∃ price, row.price = .ok price := by
  simp [Spoiled, stored]

namespace Job

theorem reads_byIdentifiers (names : List String) : Reads (byIdentifiers names) fun s _ =>
    (distinct names).mapM (Batch.tokenIn s) :=
  Reads.mapM (distinct names) reads_token

/-- The package that is stored under a name, with the live domains that are bound to its token. -/
structure Shown (s : Store) (instant : Instant) (name : String) (p : Package) : Prop where
  read : ∃ row, s.packages.get? name = some row ∧
    row.toPackage name (s.countBound name instant) = .ok p
  token : p.token = name
  inUse : p.inUse = s.countBound name instant

theorem packageIn_eq_ok_iff {s : Store} {instant : Instant} {name : String} {p : Package} :
    packageIn s instant name = .ok p ↔ Shown s instant name p := by
  unfold packageIn
  constructor
  · intro shown
    cases found : s.packages.get? name with
    | none =>
      rw [found] at shown
      cases shown
    | some row =>
      rw [found] at shown
      obtain ⟨price, -, made⟩ := Answer.bind_eq_ok.1 shown
      cases made
      exact ⟨⟨row, found, shown⟩, rfl, rfl⟩
  · rintro ⟨⟨row, found, shown⟩, -, -⟩
    rw [found]
    exact shown

theorem exists_packageIn_iff {s : Store} {instant : Instant} {name : String}
    (stored : name ∈ s.packages.keys) :
    (∃ p, packageIn s instant name = .ok p) ↔ ¬s.Spoiled name := by
  obtain ⟨row, found⟩ := Table.mem_keys_iff.1 stored
  have shown : packageIn s instant name = row.toPackage name (s.countBound name instant) := by
    rw [packageIn, found]
  rw [shown, Store.spoiled_iff found, not_not, PackageRow.toPackage]
  cases row.price with
  | error _ => simp [bind, Except.bind]
  | ok price => simp [bind, Except.bind, pure, Except.pure]

/-- How lists of names are resolved against a store. -/
structure Resolved (s : Store) (w : World) (instant : Instant) (names : List String) : Prop where
  tokens : Resolves names (· ∈ s.tokens.keys) Refusal.unknownToken
    (fun name t => s.token? name = .ok (some t)) ((byIdentifiers names).run w).1
  packed : names ≠ [] → Resolves names (· ∈ s.packages.keys) Refusal.unknownPackage
    (Shown s instant) ((packages names).run w).1
  nothing : names = [] → ((packages names).run w).1 = .error (.refused
    (Refusal.malformed "tokens" (.list []) "at least one token identifier is required"))
  anyOrder : ∀ v other, v.store = some other → v.clock = w.clock → s.SameRows other →
    ((byIdentifiers names).run v).1 = ((byIdentifiers names).run w).1 ∧
      ((packages names).run v).1 = ((packages names).run w).1

section
variable {s : Store} {w : World} {stamp : Stamp} {instant : Instant} {names : List String}

theorem answer_byIdentifiers (names : List String) (there : w.store = some s) :
    ((byIdentifiers names).run w).1 = (distinct names).mapM (Batch.tokenIn (some s)) := by
  rw [(reads_byIdentifiers names).answer, there]

theorem answer_packages (names : List String) (there : w.store = some s) :
    ((packages names).run w).1 = packagesIn names (some s) w.clock := by
  rw [(reads_packages names).answer, there]

theorem resolves_byIdentifiers (there : w.store = some s) (readable : s.Readable) :
    Resolves names (· ∈ s.tokens.keys) Refusal.unknownToken
      (fun name t => s.token? name = .ok (some t)) ((byIdentifiers names).run w).1 := by
  have answer := answer_byIdentifiers names there
  constructor
  · intro stored
    obtain ⟨ts, out, looked, first, each⟩ := exists_found fun name named =>
      readable.tokenIn (stored name named)
    refine ⟨ts, out, answer.trans looked, first, each.imp fun name t shown => ?_⟩
    obtain ⟨rfl, _, row, ⟨⟩, kept, read⟩ := Batch.stands_of_tokenIn shown
    exact Store.token?_eq_ok kept read
  · rintro front name back rfl before missing
    have fails : Batch.tokenIn (some s) name = .error (.refused (Refusal.unknownToken name)) := by
      change (s.token? name >>= _) = _
      rw [Store.token?_of_not_mem missing]
      rfl
    have passes : ∀ other ∈ front, ∃ t, Batch.tokenIn (some s) other = .ok t := fun other there =>
      readable.tokenIn (before other there)
    exact answer.trans (mapM_distinct_of_first passes fails)

theorem resolves_packages_iff (there : w.store = some s) (now : w.clock.now = .ok stamp)
    (placed : Column.writeStamp stamp = .ok instant) (given : names ≠ []) :
    Resolves names (· ∈ s.packages.keys) Refusal.unknownPackage (Shown s instant)
        ((packages names).run w).1 ↔
      ((∀ name ∈ names, name ∈ s.packages.keys) → ∀ name ∈ names, ¬s.Spoiled name) := by
  have answer := answer_packages names there
  constructor
  · intro resolves stored name named
    obtain ⟨listed, -, looked, -, -⟩ := resolves.all stored
    rw [packagesIn_of_stored given stored now placed] at answer
    obtain ⟨p, -, shown⟩ :=
      Answer.exists_of_mem_items (answer.symm.trans looked) (mem_distinct.2 named)
    exact (exists_packageIn_iff (stored name named)).1 ⟨p, shown⟩
  · intro sound
    constructor
    · intro stored
      have passes : ∀ name ∈ names, ∃ p, packageIn s instant name = .ok p := fun name named =>
        (exists_packageIn_iff (stored name named)).2 (sound stored name named)
      obtain ⟨listed, out, looked, first, each⟩ := exists_found passes
      rw [packagesIn_of_stored given stored now placed, looked] at answer
      exact ⟨listed, out, answer, first, each.imp fun _ _ => packageIn_eq_ok_iff.1⟩
    · rintro front name back rfl before missing
      exact answer.trans (packagesIn_of_missing before missing)

/-- Lists of names are resolved in every store whose tokens can be read back, at every time that can
be read, just if the list names no spoiled package or some package is missing. -/
theorem resolved_iff (there : w.store = some s) (readable : s.Readable)
    (now : w.clock.now = .ok stamp) (placed : Column.writeStamp stamp = .ok instant) :
    Resolved s w instant names ↔
      ((∀ name ∈ names, name ∈ s.packages.keys) → ∀ name ∈ names, ¬s.Spoiled name) := by
  constructor
  · intro resolved stored name named
    have given : names ≠ [] := List.ne_nil_of_mem named
    exact (resolves_packages_iff there now placed given).1 (resolved.packed given) stored name named
  · intro sound
    constructor
    · exact resolves_byIdentifiers there readable
    · exact fun given => (resolves_packages_iff there now placed given).2 sound
    · rintro rfl
      exact answer_packages [] there
    · intro v other stored clock same
      constructor
      · rw [answer_byIdentifiers names there, answer_byIdentifiers names stored, funext same.tokenIn]
      · rw [answer_packages names there, answer_packages names stored, clock, same.packagesIn]

end

def worldWith (price : Money) : World :=
  { freshWorld with store := ((Operation.session
      [createBulkToken, .createPackage (packageAt price)] false).run freshWorld).store }

theorem reachable_worldWith {price : Money} {s : Store} (there : (worldWith price).store = some s) :
    Reachable s :=
  .step (o := .session [createBulkToken, .createPackage (packageAt price)] false) (w := freshWorld)
    .empty rfl there

theorem resolved_of_tenDollars : ∃ s, (worldWith tenDollars).store = some s ∧
    "T1" ∈ s.packages.keys ∧
    Resolved s (worldWith tenDollars) Clock.defaultStart ["T1", "T1"] := by
  have priced : ((worldWith tenDollars).store.bind fun s => (s.packages.get? "T1").map fun row =>
      row.price.toOption.isSome) = some true := by decide +kernel
  obtain ⟨s, there, priced⟩ := Option.bind_eq_some_iff.1 priced
  obtain ⟨row, stored, priced⟩ := Option.map_eq_some_iff.1 priced
  obtain ⟨price, read⟩ := Option.isSome_iff_exists.1 priced
  refine ⟨s, there, Table.mem_keys_iff.2 ⟨row, stored⟩, ?_⟩
  refine (resolved_iff there (reachable_worldWith there).readable (Clock.now_start _) rfl).2 ?_
  rintro - name named ⟨found, kept, spoiled⟩
  have same : name = "T1" := by simpa using named
  subst same
  cases stored.symm.trans kept
  exact spoiled price (Answer.eq_ok_of_toOption read)

def vastPrice : Money := { tenDollars with amount := .finite false 1 400, finite := rfl }

def breakdown? {α : Type} : Answer α → Option Breakdown
  | .error (.broke b) => some b
  | _ => none

/-- A package that is stored cannot be listed. -/
theorem unresolved_of_vastPrice : ∃ s, Reachable s ∧ (worldWith vastPrice).store = some s ∧
    "T1" ∈ s.packages.keys ∧
    ((packages ["T1"]).run (worldWith vastPrice)).1 =
      .error (.broke (.badValue (some "Money amount must be finite: Infinity"))) ∧
    ∀ instant, ¬Resolved s (worldWith vastPrice) instant ["T1"] := by
  have stored : (worldWith vastPrice).store.map (·.packages.keys) = some ["T1"] := by decide +kernel
  have failed : breakdown? ((packages ["T1"]).run (worldWith vastPrice)).1 =
      some (.badValue (some "Money amount must be finite: Infinity")) := by decide +kernel
  obtain ⟨s, there, keys⟩ := Option.map_eq_some_iff.1 stored
  have answered : ((packages ["T1"]).run (worldWith vastPrice)).1 =
      .error (.broke (.badValue (some "Money amount must be finite: Infinity"))) := by
    generalize ((packages ["T1"]).run (worldWith vastPrice)).1 = answer at failed
    unfold breakdown? at failed
    split at failed
    · rw [Option.some.inj failed]
    · cases failed
  refine ⟨s, reachable_worldWith there, there, by simp [keys], answered, fun instant resolved => ?_⟩
  obtain ⟨listed, -, looked, -, -⟩ := (resolved.packed (by decide)).all (by simp [keys])
  cases answered.symm.trans looked

end Job

end RegistryTokens
