import RegistryTokens.Log.Record

/-!
# Setting up logging

A logbook has a level and the handlers that are attached to it, each of which writes to a stream of
its own. It is set up once: setting it up again gives a stream that stays silent, until a reset.
Records below the level, or without a handler, go nowhere.
-/

set_option autoImplicit false

namespace RegistryTokens.Log

structure Logbook where
  configured : Bool
  level : Level
  /-- The handlers that are attached, by the numbers of their streams. -/
  handlers : List Nat
  streams : List (List Record)

namespace Logbook

def start : Logbook := ⟨false, .warning, [], []⟩

def handlerCount (b : Logbook) : Nat := b.handlers.length

def reset (b : Logbook) : Logbook :=
  { b with configured := false, level := .warning, handlers := [] }

/-- Hands in a stream. The logbook counts as set up from the first attempt on, even if its level
turns out to be unknown. -/
def configure (b : Logbook) (level : Option Level) : Answer Unit × Logbook :=
  let handed := { b with streams := b.streams ++ [[]] }
  if b.configured then (.ok (), handed)
  else match level with
    | none => (.error (.broke (.badValue none)), { handed with configured := true })
    | some level =>
      (.ok (), { handed with
        configured := true, level, handlers := b.handlers ++ [b.streams.length] })

def write (b : Logbook) (r : Record) : Logbook :=
  if b.level.admits r.level then
    { b with streams := b.handlers.foldl (fun s i => s.modify i (· ++ [r])) b.streams }
  else b

inductive Step where
  | configure (level : Option Level)
  | reset
  | log (r : Record)

def step (b : Logbook) : Step → Answer Unit × Logbook
  | .configure level => b.configure level
  | .reset => (.ok (), b.reset)
  | .log r => (.ok (), b.write r)

def run (b : Logbook) (steps : List Step) : Logbook := steps.foldl (fun b s => (b.step s).2) b

end Logbook

end RegistryTokens.Log
