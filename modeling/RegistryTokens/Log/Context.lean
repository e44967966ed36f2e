/-!
# The context of log lines

A context holds the identifier of the running batch and of the token at hand. It is changed by
setting fields, by clearing, and by scopes: entering one binds fields and remembers what they
held, leaving it brings that back, whatever happened in between. Absent values and unknown names
bind nothing.
-/

set_option autoImplicit false

namespace RegistryTokens.Log

inductive ContextField where
  | batch
  | token
  deriving DecidableEq, Repr

namespace ContextField

def all : List ContextField := [batch, token]

def name : ContextField → String
  | batch => "batch_id"
  | token => "token_identifier"

def ofName? (name : String) : Option ContextField := all.find? fun f => f.name == name

end ContextField

structure Context where
  batch : Option String := none
  token : Option String := none
  deriving DecidableEq, Repr, Inhabited

namespace Context

def empty : Context := {}

def get (c : Context) : ContextField → Option String
  | .batch => c.batch
  | .token => c.token

def put (c : Context) (f : ContextField) (v : Option String) : Context :=
  match f with
  | .batch => { c with batch := v }
  | .token => { c with token := v }

def fields (c : Context) : List (String × String) :=
  ContextField.all.filterMap fun f => (c.get f).map (f.name, ·)

abbrev Saved := List (ContextField × Option String)

def bindable (given : List (String × Option String)) : List (ContextField × String) :=
  given.filterMap fun (name, value) => do pure (← ContextField.ofName? name, ← value)

def assign (c : Context) (bindings : List (ContextField × String)) : Context :=
  bindings.foldl (fun c b => c.put b.1 (some b.2)) c

def saved (c : Context) (bindings : List (ContextField × String)) : Saved :=
  bindings.map fun b => (b.1, c.get b.1)

def restore (c : Context) (saved : Saved) : Context :=
  saved.foldl (fun c s => c.put s.1 s.2) c

/-- Sets fields; a name that is unknown spoils the whole step. -/
def setFields (c : Context) (given : List (String × Option String)) : Context :=
  if given.all fun g => (ContextField.ofName? g.1).isSome then c.assign (bindable given) else c

theorem get_put_self (c : Context) (f : ContextField) (v : Option String) :
    (c.put f v).get f = v := by
  cases f <;> rfl

theorem get_put_of_ne (c : Context) {f g : ContextField} (v : Option String) (h : g ≠ f) :
    (c.put f v).get g = c.get g := by
  cases f <;> cases g <;> simp_all [put, get]

end Context

/-- A context with the scopes that are open, the innermost first. -/
structure Scoped where
  context : Context
  scopes : List Context.Saved
  deriving Repr

namespace Scoped

def start : Scoped := ⟨.empty, []⟩

inductive Step where
  | set (given : List (String × Option String))
  | clear
  | enter (given : List (String × Option String))
  | leave
  deriving Repr

def step (s : Scoped) : Step → Scoped
  | .set given => { s with context := s.context.setFields given }
  | .clear => { s with context := .empty }
  | .enter given =>
    let bindings := Context.bindable given
    ⟨s.context.assign bindings, s.context.saved bindings :: s.scopes⟩
  | .leave =>
    match s.scopes with
    | [] => s
    | saved :: rest => ⟨s.context.restore saved, rest⟩

def run (s : Scoped) (steps : List Step) : Scoped := steps.foldl step s

end Scoped

end RegistryTokens.Log
