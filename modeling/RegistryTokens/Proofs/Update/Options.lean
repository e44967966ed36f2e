import Mathlib.Data.List.Induction
import RegistryTokens.Proofs.Answer
import RegistryTokens.Proofs.Keyed
import RegistryTokens.Update

/-!
# Named options

Options are put into their fields one after the other, and the last one that stands for a field is
what the field is given. Two names stand for the field of registrars. Where they are given different
values, one of the two is lost, and which one it is depends on the order.
-/

set_option autoImplicit false

namespace RegistryTokens

namespace TokenField

theorem ofName?_eq_some_iff {name : String} {f : TokenField} : ofName? name = some f ↔ name = f.name := by
  constructor
  · intro found
    have named := List.find?_some found
    exact (eq_of_beq named).symm
  · rintro rfl
    exact ofName?_name f

theorem ofOption?_eq_some_iff {name : String} {f : TokenField} : ofOption? name = some f ↔
    name = f.name ∨ name = "allowed_client_ids" ∧ f = .registrars := by
  have other : "allowed_client_ids" ≠ f.name := by
    cases f <;> decide
  unfold ofOption?
  by_cases client : name = "allowed_client_ids"
  · subst client
    simp [other, eq_comm]
  · rw [if_neg client, ofName?_eq_some_iff]
    simp [client]

end TokenField

namespace Updates

open TokenField

def lastGiven (options : Keyed String Value) (f : TokenField) : Option Value :=
  (options.filter fun option => ofOption? option.1 = some f).getLast?.map (·.2)

variable {options : Keyed String Value} {u : Updates} {f : TokenField} {v : Value}

theorem lastGiven_concat (options : Keyed String Value) (option : String × Value) (f : TokenField) :
    lastGiven (options ++ [option]) f =
      if ofOption? option.1 = some f then some option.2 else lastGiven options f := by
  unfold lastGiven
  by_cases stands : ofOption? option.1 = some f
  · simp [List.filter_append, stands]
  · simp [List.filter_append, stands]

theorem exists_of_lastGiven (h : lastGiven options f = some v) :
    ∃ option ∈ options, ofOption? option.1 = some f ∧ option.2 = v := by
  obtain ⟨option, last, rfl⟩ := Option.map_eq_some_iff.1 h
  have there := List.mem_filter.1 (List.mem_of_getLast? last)
  exact ⟨option, there.1, of_decide_eq_true there.2, rfl⟩

theorem exists_lastGiven {option : String × Value} (there : option ∈ options)
    (stands : ofOption? option.1 = some f) : ∃ v, lastGiven options f = some v := by
  have kept : option ∈ options.filter fun option => ofOption? option.1 = some f :=
    List.mem_filter.2 ⟨there, decide_eq_true stands⟩
  cases last : (options.filter fun option => ofOption? option.1 = some f).getLast? with
  | none =>
    rw [List.getLast?_eq_none_iff.1 last] at kept
    cases kept
  | some other =>
    refine ⟨other.2, ?_⟩
    rw [lastGiven, last]
    rfl

theorem ofOptions_concat (options : Keyed String Value) (option : String × Value) :
    ofOptions (options ++ [option]) =
      ofOptions options >>= fun u => u.giveOption option.1 option.2 := by
  unfold ofOptions
  rw [List.foldlM_append]
  show (_ >>= fun u => List.foldlM _ u [option]) = _
  simp

theorem giveOption_eq_ok {u' : Updates} {name : String} : u.giveOption name v = .ok u' ↔
    ∃ f, ofOption? name = some f ∧ u' = u.give f (assignment v) := by
  unfold giveOption
  cases ofOption? name with
  | none => simp [Answer.refuse]
  | some f => simp [eq_comm]

theorem exists_ofOptions_iff : (∃ u, ofOptions options = .ok u) ↔
    ∀ option ∈ options, ∃ f, ofOption? option.1 = some f := by
  induction options using List.reverseRecOn with
  | nil => simp [ofOptions, pure, Except.pure]
  | append_singleton options option ih =>
    rw [ofOptions_concat, List.forall_mem_append, List.forall_mem_singleton, ← ih]
    constructor
    · rintro ⟨u, h⟩
      obtain ⟨before, accepted, given⟩ := Answer.bind_eq_ok.1 h
      obtain ⟨f, stands, -⟩ := giveOption_eq_ok.1 given
      exact ⟨⟨before, accepted⟩, f, stands⟩
    · rintro ⟨⟨before, accepted⟩, f, stands⟩
      refine ⟨before.give f (assignment option.2), Answer.bind_eq_ok.2 ⟨before, accepted, ?_⟩⟩
      exact giveOption_eq_ok.2 ⟨f, stands, rfl⟩

theorem given_of_ofOptions (h : ofOptions options = .ok u) (f : TokenField) :
    u.given f = (lastGiven options f).elim .unassigned assignment := by
  induction options using List.reverseRecOn generalizing u with
  | nil =>
    cases h
    rfl
  | append_singleton options option ih =>
    rw [ofOptions_concat] at h
    obtain ⟨before, accepted, given⟩ := Answer.bind_eq_ok.1 h
    obtain ⟨g, stands, rfl⟩ := giveOption_eq_ok.1 given
    rw [lastGiven_concat, stands]
    by_cases same : f = g
    · subst same
      simp [give]
    · have other : ¬g = f := fun equal => same equal.symm
      simp [give, same, other, ih accepted]

theorem given_cases (h : ofOptions options = .ok u) (f : TokenField) :
    (∃ option ∈ options, ofOption? option.1 = some f ∧ u.given f = assignment option.2) ∨
      (∀ option ∈ options, ofOption? option.1 ≠ some f) ∧ u.given f = .unassigned := by
  rw [given_of_ofOptions h]
  cases last : lastGiven options f with
  | some v =>
    obtain ⟨option, there, stands, rfl⟩ := exists_of_lastGiven last
    exact .inl ⟨option, there, stands, rfl⟩
  | none =>
    refine .inr ⟨?_, rfl⟩
    intro option there stands
    obtain ⟨v, given⟩ := exists_lastGiven there stands
    cases last.symm.trans given

/-- Options that stand for one field give it the same. -/
def Agreed (options : Keyed String Value) : Prop :=
  ∀ f, ∀ a ∈ options, ∀ b ∈ options, ofOption? a.1 = some f → ofOption? b.1 = some f →
    assignment a.2 = assignment b.2

/-- What each option gives stands in the field that its name stands for. -/
def Kept (options : Keyed String Value) (u : Updates) : Prop :=
  ∀ option ∈ options, ∃ f, ofOption? option.1 = some f ∧ u.given f = assignment option.2

theorem stands_of_kept {option : String × Value} (kept : Kept options u)
    (there : option ∈ options) (stands : ofOption? option.1 = some f) :
    u.given f = assignment option.2 := by
  obtain ⟨g, stands', given⟩ := kept option there
  cases stands.symm.trans stands'
  exact given

theorem agreed_of_kept (kept : Kept options u) : Agreed options := by
  intro f a ha b hb standsA standsB
  rw [← stands_of_kept kept ha standsA, ← stands_of_kept kept hb standsB]

theorem kept_of_agreed (h : ofOptions options = .ok u) (agreed : Agreed options) :
    Kept options u := by
  intro option there
  obtain ⟨f, stands⟩ := exists_ofOptions_iff.1 ⟨u, h⟩ option there
  rcases given_cases h f with ⟨other, there', stands', given⟩ | ⟨none, -⟩
  · exact ⟨f, stands, given.trans (agreed f other there' option there stands' stands)⟩
  · exact absurd stands (none option there)

theorem kept_iff_agreed (h : ofOptions options = .ok u) : Kept options u ↔ Agreed options :=
  ⟨agreed_of_kept, kept_of_agreed h⟩

/-- The options in any other order make the same update. -/
def Unordered (options : Keyed String Value) (u : Updates) : Prop :=
  ∀ others : Keyed String Value, others.Perm options → ofOptions others = .ok u

theorem unordered_of_agreed (h : ofOptions options = .ok u) (agreed : Agreed options) :
    Unordered options u := by
  intro others perm
  have known : ∀ option ∈ others, ∃ f, ofOption? option.1 = some f := by
    intro option there
    exact exists_ofOptions_iff.1 ⟨u, h⟩ option (perm.mem_iff.1 there)
  obtain ⟨u', h'⟩ := exists_ofOptions_iff.2 known
  have same : u'.given = u.given := by
    funext f
    rcases given_cases h' f with ⟨option, there, stands, given'⟩ | ⟨none, given'⟩
    · rw [given']
      exact (stands_of_kept (kept_of_agreed h agreed) (perm.mem_iff.1 there) stands).symm
    · rcases given_cases h f with ⟨option, there, stands, -⟩ | ⟨-, given⟩
      · exact absurd stands (none option (perm.mem_iff.2 there))
      · rw [given', given]
  cases u
  cases u'
  cases same
  exact h'

theorem kept_of_unordered (h : Unordered options u) : Kept options u := by
  intro option there
  obtain ⟨front, back, rfl⟩ := List.append_of_mem there
  have moved : (front ++ back ++ [option]).Perm (front ++ option :: back) := by
    rw [List.append_assoc]
    exact (List.perm_append_singleton option back).append_left front
  have accepted := h _ moved
  obtain ⟨f, stands⟩ := exists_ofOptions_iff.1 ⟨u, accepted⟩ option (by simp)
  refine ⟨f, stands, ?_⟩
  rw [given_of_ofOptions accepted, lastGiven_concat, if_pos stands]
  rfl

/-- Both names of the field of registrars are there, with different values. -/
def Collides (options : Keyed String Value) : Prop :=
  ∃ v w, ("allowed_client_ids", v) ∈ options ∧ ("allowed_registrar_ids", w) ∈ options ∧
    assignment v ≠ assignment w

theorem agreed_iff (apart : options.keys.Nodup) : Agreed options ↔ ¬Collides options := by
  constructor
  · rintro agreed ⟨v, w, client, registrar, differ⟩
    exact differ (agreed .registrars _ client _ registrar rfl rfl)
  · rintro none f ⟨a, v⟩ ha ⟨b, w⟩ hb standsA standsB
    have together : ∀ name, (name, v) ∈ options → (name, w) ∈ options →
        assignment v = assignment w := by
      intro name hv hw
      rw [← Keyed.get?_eq_some_iff apart] at hv hw
      cases hv.symm.trans hw
      rfl
    -- Two options of one field have one name, unless each has one of the two names of registrars.
    rcases ofOption?_eq_some_iff.1 standsA with rfl | ⟨rfl, rfl⟩ <;>
      rcases ofOption?_eq_some_iff.1 standsB with rfl | ⟨rfl, sameField⟩
    · exact together _ ha hb
    · subst sameField
      exact (not_not.1 fun differ => none ⟨w, v, hb, ha, differ⟩).symm
    · exact not_not.1 fun differ => none ⟨v, w, ha, hb, differ⟩
    · exact together _ ha hb

theorem exists_assigned (v : Value) : ∃ w, assignment v = .assigned w := by
  cases v <;> exact ⟨_, rfl⟩

theorem isSome_supplied?_iff (h : ofOptions options = .ok u) (f : TokenField) :
    (u.supplied? f).isSome = true ↔ ∃ option ∈ options, ofOption? option.1 = some f := by
  unfold supplied?
  rcases given_cases h f with ⟨option, there, stands, given⟩ | ⟨none, given⟩
  · obtain ⟨w, assigned⟩ := exists_assigned option.2
    rw [given, assigned]
    exact ⟨fun _ => ⟨option, there, stands⟩, fun _ => rfl⟩
  · rw [given]
    constructor
    · intro supplied
      cases supplied
    · rintro ⟨option, there, stands⟩
      exact absurd stands (none option there)

theorem suppliedFields_of_ofOptions (h : ofOptions options = .ok u) : u.suppliedFields =
    TokenField.all.filter fun f => options.any fun option => ofOption? option.1 = some f := by
  apply List.filter_congr
  intro f _
  rw [Bool.eq_iff_iff, isSome_supplied?_iff h, List.any_eq_true]
  simp only [decide_eq_true_eq]

/-- Named options that are accepted supply the fields that their names stand for, and each of these
fields what the last of its options gives. No option is lost exactly when the two names of one field
do not collide, and that is when their order is nothing. -/
theorem kept_unless_collision (apart : options.keys.Nodup) (h : ofOptions options = .ok u) :
    (u.suppliedFields =
      TokenField.all.filter fun f => options.any fun option => ofOption? option.1 = some f) ∧
    (∀ f, u.given f = (lastGiven options f).elim .unassigned assignment) ∧
    (Kept options u ↔ ¬Collides options) ∧ (Unordered options u ↔ ¬Collides options) := by
  refine ⟨suppliedFields_of_ofOptions h, given_of_ofOptions h, ?_, ?_⟩
  · rw [kept_iff_agreed h, agreed_iff apart]
  · rw [← agreed_iff apart]
    constructor
    · intro unordered
      exact agreed_of_kept (kept_of_unordered unordered)
    · exact unordered_of_agreed h

theorem kept_of_clients :
    let options : Keyed String Value := [("discount_years", "2"), ("allowed_client_ids", "")]
    ∃ u, ofOptions options = .ok u ∧ u.suppliedFields = [.registrars, .years] ∧
      Kept options u ∧ Unordered options u := by
  intro options
  have none : ¬Collides options := by
    rintro ⟨v, w, -, registrar, -⟩
    simp [options] at registrar
  have accepted : ofOptions options =
      .ok ((empty.give .years (assignment "2")).give .registrars (assignment "")) := rfl
  obtain ⟨supplied, -, kept, unordered⟩ := kept_unless_collision (by decide) accepted
  exact ⟨_, accepted, supplied, kept.2 none, unordered.2 none⟩

/-- Of clients and registrars the later ones stay. -/
theorem clients_lost :
    let options : Keyed String Value :=
      [("allowed_client_ids", "a"), ("allowed_registrar_ids", "b")]
    ∃ u, ofOptions options = .ok u ∧ u.given .registrars = .assigned "b" ∧
      ofOptions options.reverse ≠ .ok u ∧ ¬Kept options u ∧ ¬Unordered options u := by
  intro options
  have apart : (Value.assigned "a" : Value) ≠ .assigned "b" := by simp
  have accepted : ofOptions options =
      .ok ((empty.give .registrars (assignment "a")).give .registrars (assignment "b")) := rfl
  have turned : ofOptions options.reverse =
      .ok ((empty.give .registrars (assignment "b")).give .registrars (assignment "a")) := rfl
  have differ : ofOptions options.reverse ≠ ofOptions options := by
    rw [accepted, turned]
    intro same
    exact apart (congrFun (congrArg given (Except.ok.inj same)) .registrars)
  refine ⟨_, accepted, rfl, accepted ▸ differ, ?_, ?_⟩
  · intro kept
    exact apart (stands_of_kept kept (f := .registrars) List.mem_cons_self rfl).symm
  · intro unordered
    exact differ ((unordered _ (List.reverse_perm _)).trans accepted.symm)

end Updates

end RegistryTokens
