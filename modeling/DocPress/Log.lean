/-!
# Log records

Operations say what they did in records: a level, the part of the program that speaks, and a
message. `Logged` is a value together with the records that were written on the way to it.
-/

namespace DocPress

/-- How much a record matters. -/
inductive Level where
  | debug
  | info
  | warning
  | error
deriving Repr, DecidableEq

namespace Level

/-- The place of the level in the order of levels; the standard ones are ten apart. -/
def rank : Level → Nat
  | debug => 10
  | info => 20
  | warning => 30
  | error => 40

def name : Level → String
  | debug => "DEBUG"
  | info => "INFO"
  | warning => "WARNING"
  | error => "ERROR"

end Level

/-- The part of the program that writes a record. -/
inductive Channel where
  | main
  | builder
  | cli
  | config
  | directive
  | files
  | markdown
  | writer
deriving Repr, DecidableEq

/-- The name under which a channel appears in the log. -/
def Channel.name : Channel → String
  | main => "jsmkdocs"
  | builder => "jsmkdocs.builder"
  | cli => "jsmkdocs.cli"
  | config => "jsmkdocs.config"
  | directive => "jsmkdocs.directive"
  | files => "jsmkdocs.files"
  | markdown => "jsmkdocs.markdown"
  | writer => "jsmkdocs.writer"

structure Record where
  level : Level
  channel : Channel
  message : String
deriving Repr, DecidableEq

/-- The record as a line of the log. -/
def Record.line (r : Record) : String := s!"{r.level.name}:{r.channel.name}:{r.message}"

abbrev Log := List Record

/-- A value and the records written on the way to it, the first one first. -/
structure Logged (α : Type) where
  value : α
  log : Log

namespace Logged

/-- The value with nothing to say. -/
protected def pure {α : Type} (a : α) : Logged α := ⟨a, []⟩

/-- First `x`, then what `f` makes of its value. -/
protected def bind {α β : Type} (x : Logged α) (f : α → Logged β) : Logged β :=
  let y := f x.value
  ⟨y.value, x.log ++ y.log⟩

instance : Monad Logged where
  pure := Logged.pure
  bind := Logged.bind

/-- Writes a record. -/
def say (r : Record) : Logged Unit := ⟨(), [r]⟩

/-- Writes records. -/
def sayAll (rs : Log) : Logged Unit := ⟨(), rs⟩

variable {α β : Type}

@[simp] theorem value_pure (a : α) : (pure a : Logged α).value = a := rfl

@[simp] theorem log_pure (a : α) : (pure a : Logged α).log = [] := rfl

@[simp] theorem value_bind (x : Logged α) (f : α → Logged β) :
    (x >>= f).value = (f x.value).value := rfl

@[simp] theorem log_bind (x : Logged α) (f : α → Logged β) :
    (x >>= f).log = x.log ++ (f x.value).log := rfl

end Logged
end DocPress
