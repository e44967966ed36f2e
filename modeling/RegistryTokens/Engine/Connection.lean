import RegistryTokens.Config
import RegistryTokens.Engine.Target
import RegistryTokens.Log.Logbook
import RegistryTokens.Store

/-!
# The engine

An engine keeps the connections that were made, the one in force among them and the one on which
sessions are opened; further the files of file-based databases, and the logbook to which its work is
noted. Connecting anew first disposes of the connection in force, and an in-memory database does not
outlive that, even if the new address turns out to be bad.
-/

set_option autoImplicit false

namespace RegistryTokens

namespace Engine

structure Connection where
  target : Target
  memory : Option Store

namespace Connection

def fresh (t : Target) : Connection := ⟨t, none⟩

def disposed (c : Connection) : Connection := { c with memory := none }

end Connection

end Engine

structure Engine where
  connections : List Engine.Connection
  current : Option Nat
  factory : Option Nat
  files : Keyed Engine.Path (Option Store)
  logbook : Log.Logbook

namespace Engine

def start : Engine := ⟨[], none, none, [], (Log.Logbook.start.configure (some .info)).2⟩

def notReady : Failure :=
  .broke (.notReady "Engine not initialized. Call init_engine_from_url() first.")

def loggerName : String := Log.loggerName "db.engine"

def note (e : Engine) (r : Log.Record) : Engine := { e with logbook := e.logbook.write r }

def dispose (e : Engine) : Engine :=
  match e.current with
  | none => e
  | some i => { e with connections := e.connections.modify i (·.disposed) }

/-- The pool of a file-based database has no size. -/
def connectedRecord (t : Target) (poolSize : Int) (echo : Bool) : Log.Record where
  level := .info
  logger := loggerName
  message := "engine_initialized"
  extras := [("dialect", .text t.dialect.name),
    ("pool_size", if t.dialect.isFileBased then .null else .int poolSize), ("echo", .bool echo)]

def connect (e : Engine) (address : String) (poolSize : Int) (echo : Bool) :
    Answer String × Engine :=
  let disposed := e.dispose
  match Target.read address with
  | .error failure => (.error failure, disposed)
  | .ok t =>
    let made := { disposed with
      connections := disposed.connections ++ [Connection.fresh t]
      current := some disposed.connections.length }
    let connected := { made with factory := made.current }
    (.ok t.dialect.name, connected.note (connectedRecord t poolSize echo))

def inForce (e : Engine) : Answer Nat := Answer.ofOption notReady e.current

def sessionFactory (e : Engine) : Answer Nat := Answer.ofOption notReady e.factory

def session (e : Engine) : Answer Nat := e.sessionFactory

def place (e : Engine) (i : Nat) : Answer Place := do
  let c ← Answer.ofOption notReady e.connections[i]?
  c.target.place fun path => Keyed.has e.files path

def tablesAt (e : Engine) (i : Nat) (p : Place) : Option Store :=
  match p.file with
  | none => e.connections[i]?.bind (·.memory)
  | some path => (Keyed.get? e.files path).getD none

def putAt (e : Engine) (i : Nat) (p : Place) (store : Option Store) : Engine :=
  match p.file with
  | none =>
    { e with connections := e.connections.modify i fun c => { c with memory := store } }
  | some path => { e with files := Keyed.put path store e.files }

/-- Does something with the tables of a connection. Where they cannot be written nothing may
change. -/
def work {α : Type} (e : Engine) (connection : Answer Nat)
    (task : Option Store → Answer (α × Option Store)) : Answer α × Engine :=
  match do let i ← connection; pure (i, ← e.place i) with
  | .error failure => (.error failure, e)
  | .ok (i, p) =>
    let present := e.tablesAt i p
    match task present with
    | .error failure => (.error failure, e.putAt i p present)
    | .ok (a, after) =>
      if after = present then (.ok a, e.putAt i p present)
      else if p.readOnly then (.error (.broke (.store .operational)), e.putAt i p present)
      else (.ok a, e.putAt i p after)

def createTables (e : Engine) : Answer Unit × Engine :=
  e.work e.inForce fun present => .ok ((), some (present.getD .empty))

def dropTables (e : Engine) : Answer Unit × Engine := e.work e.inForce fun _ => .ok ((), none)

def tables (e : Engine) : Answer (List String) × Engine :=
  e.work e.inForce fun present => .ok (if present.isSome then Store.tableNames else [], present)

/-- A transaction of a session, which keeps what it makes of the tables unless it fails. -/
def transact (e : Engine) (change : Store → Answer Store) : Answer Unit × Engine :=
  e.work e.session fun
    | none => .error (.broke (.store .operational))
    | some s => do pure ((), some (← change s))

def reset (e : Engine) : Engine := { e.dispose with current := none, factory := none }

def configure (e : Engine) (c : Config) : Answer String × Engine :=
  let e := { e with logbook := (e.logbook.configure (some c.level)).2 }
  e.connect c.url c.poolSize c.echo

def applyDocument (e : Engine) (v : Value) : Answer String × Engine :=
  let e := { e with logbook := e.logbook.reset }
  match v with
  | .map d =>
    match Config.read none d with
    | .error failure => (.error failure, e)
    | .ok c => e.configure c
  | _ => (.error (.broke .missingAttribute), e)

end Engine

end RegistryTokens
