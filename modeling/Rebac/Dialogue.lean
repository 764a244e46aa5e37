import Rebac.Failure

set_option autoImplicit false

/-!
# Dialogues with a server

An operation on a server is a dialogue: it sends requests, each of which waits for one answer, and
writes records to a log. A dialogue is a function of the answers that it will get. Run on a list of
answers it yields what could be observed (requests, log records, the closing of a connection, in
order), how it ended, and the answers it did not use. A dialogue whose answers run out is waiting.

Dialogues form a monad. The lemmas say what a run of each combinator is.
-/

namespace Rebac

/-- The severity of a log record. -/
inductive Severity
  | debug
  | info
  | warning
deriving DecidableEq

/-- The name of a severity. -/
def Severity.name : Severity → String
  | .debug => "DEBUG"
  | .info => "INFO"
  | .warning => "WARNING"

/-- The parts of the library that write to the log. -/
inductive Component
  | client
  | tenancy
  | writer
  | schemaWriter
  | relationships
  | permissions
deriving DecidableEq

/-- The name under which a part of the library writes to the log. -/
def Component.logger : Component → String
  | .client => "permify_toolkit.client"
  | .tenancy => "permify_toolkit.tenancy"
  | .writer => "permify_toolkit.writer"
  | .schemaWriter => "permify_toolkit.schema_writer"
  | .relationships => "permify_toolkit.relationships"
  | .permissions => "permify_toolkit.permissions"

/-- A record of the log. -/
structure LogRecord where
  severity : Severity
  component : Component
  message : String
deriving DecidableEq

/-- What can be observed of a dialogue. -/
inductive Event (Req : Type)
  | sent (request : Req)
  | logged (record : LogRecord)
  | closed

/-- How a run of a dialogue ends: with a result, with a failure, or waiting for an answer. -/
inductive Ending (α : Type)
  | returned (a : α)
  | failed (f : Failure)
  | waiting

/-- The ending of something that needs no answer. -/
def Ending.ofExcept {α : Type} : Except Failure α → Ending α
  | .ok a => .returned a
  | .error f => .failed f

/-- A run of a dialogue: its events, its ending and the answers that are left. -/
structure Run (Req Ans α : Type) where
  events : List (Event Req)
  ending : Ending α
  rest : List Ans

/-- An operation on a server, as a function of the answers that it will get. -/
def Dialogue (Req Ans α : Type) : Type := List Ans → Run Req Ans α

namespace Event

variable {Req : Type}

/-- The request that an event sends, if it sends one. -/
def request? : Event Req → Option Req
  | .sent r => some r
  | _ => none

/-- The record that an event writes, if it writes one. -/
def record? : Event Req → Option LogRecord
  | .logged r => some r
  | _ => none

end Event

namespace Run

variable {Req Ans α : Type}

/-- The requests of a run, in order. -/
def requests (r : Run Req Ans α) : List Req := r.events.filterMap Event.request?

/-- The log of a run, in order. -/
def log (r : Run Req Ans α) : List LogRecord := r.events.filterMap Event.record?

/-- The run with earlier events in front. -/
def prepend (events : List (Event Req)) (r : Run Req Ans α) : Run Req Ans α :=
  { r with events := events ++ r.events }

end Run

namespace Dialogue

variable {Req Ans α β : Type}

/-- A dialogue that ends at once. -/
protected def pure (a : α) : Dialogue Req Ans α := fun answers => ⟨[], .returned a, answers⟩

/-- A dialogue followed by one that depends on its result. -/
protected def bind (d : Dialogue Req Ans α) (k : α → Dialogue Req Ans β) : Dialogue Req Ans β :=
  fun answers =>
    let first := d answers
    match first.ending with
    | .returned a => (k a first.rest).prepend first.events
    | .failed f => ⟨first.events, .failed f, first.rest⟩
    | .waiting => ⟨first.events, .waiting, first.rest⟩

instance : Monad (Dialogue Req Ans) where
  pure := Dialogue.pure
  bind := Dialogue.bind

/-- A dialogue that fails at once. -/
def fail (f : Failure) : Dialogue Req Ans α := fun answers => ⟨[], .failed f, answers⟩

/-- A dialogue that needs no answer. -/
def ofExcept (r : Except Failure α) : Dialogue Req Ans α :=
  fun answers => ⟨[], .ofExcept r, answers⟩

/-- Writes a record to the log. -/
def write (record : LogRecord) : Dialogue Req Ans Unit :=
  fun answers => ⟨[.logged record], .returned (), answers⟩

/-- Writes a message to the log. -/
def log (severity : Severity) (component : Component) (message : String) :
    Dialogue Req Ans Unit :=
  write ⟨severity, component, message⟩

/-- Runs a dialogue and returns how it ended instead of failing. -/
def attempt (d : Dialogue Req Ans α) : Dialogue Req Ans (Except Failure α) := fun answers =>
  let run := d answers
  match run.ending with
  | .returned a => ⟨run.events, .returned (.ok a), run.rest⟩
  | .failed f => ⟨run.events, .returned (.error f), run.rest⟩
  | .waiting => ⟨run.events, .waiting, run.rest⟩

/-- Runs a dialogue and closes its connection, however it ends. -/
def closing (d : Dialogue Req Ans α) : Dialogue Req Ans α := fun answers =>
  let run := d answers
  match run.ending with
  | .waiting => run
  | _ => { run with events := run.events ++ [.closed] }

theorem pure_apply (a : α) (answers : List Ans) :
    (pure a : Dialogue Req Ans α) answers = ⟨[], .returned a, answers⟩ := rfl

theorem bind_apply (d : Dialogue Req Ans α) (k : α → Dialogue Req Ans β) (answers : List Ans) :
    (d >>= k) answers =
      match (d answers).ending with
      | .returned a => (k a (d answers).rest).prepend (d answers).events
      | .failed f => ⟨(d answers).events, .failed f, (d answers).rest⟩
      | .waiting => ⟨(d answers).events, .waiting, (d answers).rest⟩ := rfl

theorem fail_apply (f : Failure) (answers : List Ans) :
    (fail f : Dialogue Req Ans α) answers = ⟨[], .failed f, answers⟩ := rfl

theorem write_apply (record : LogRecord) (answers : List Ans) :
    (write record : Dialogue Req Ans Unit) answers =
      ⟨[.logged record], .returned (), answers⟩ := rfl

theorem ofExcept_ok (a : α) : (ofExcept (.ok a) : Dialogue Req Ans α) = pure a := rfl

@[simp] theorem prepend_nil (r : Run Req Ans α) : r.prepend [] = r := rfl

theorem prepend_append (first second : List (Event Req)) (r : Run Req Ans α) :
    r.prepend (first ++ second) = (r.prepend second).prepend first := by
  simp [Run.prepend]

/-- A dialogue that only passes its result on adds nothing. -/
theorem bind_pure_eq (d : Dialogue Req Ans α) : (d >>= fun a => pure a) = d := by
  funext answers
  rw [bind_apply]
  rcases d answers with ⟨events, ending, rest⟩
  cases ending <;> simp [pure_apply, Run.prepend]

/-- It does not matter how dialogues in a row are grouped. -/
theorem bind_assoc_eq {γ : Type} (d : Dialogue Req Ans α) (k : α → Dialogue Req Ans β)
    (l : β → Dialogue Req Ans γ) : ((d >>= k) >>= l) = (d >>= fun a => k a >>= l) := by
  funext answers
  rw [bind_apply, bind_apply, bind_apply]
  rcases d answers with ⟨events, ending, rest⟩
  cases ending with
  | returned a =>
      simp only
      rw [bind_apply]
      rcases k a rest with ⟨events', ending', rest'⟩
      cases ending' <;> simp [Run.prepend]
  | failed f => rfl
  | waiting => rfl

instance : LawfulMonad (Dialogue Req Ans) :=
  LawfulMonad.mk' _ bind_pure_eq (fun _ _ => rfl) bind_assoc_eq

/-- The requests of two runs in a row are those of the first and then those of the second. -/
theorem requests_prepend (events : List (Event Req)) (r : Run Req Ans α) :
    (r.prepend events).requests = events.filterMap Event.request? ++ r.requests := by
  simp [Run.requests, Run.prepend]

end Dialogue

end Rebac
