import Rebac.Failure

set_option autoImplicit false

/-!
# What callers are told

A failure is a cause, and its message is made when the cause is found. A message that is to show a
value without a text cannot be made, and then callers are told of this instead. So the failure that
a call ends with is the cause or, in its place, the fault of the first value that its message shows
in vain.

Defining a schema makes messages on the way: the name of a permission is part of whatever is said
about its references and is put into words before they are looked at.
-/

namespace Rebac

/-- Checks that the message of a malformed declaration can be made. -/
def Malformed.checkMessage : Malformed → Except TextFault Unit
  | .noMapping => pure ()
  | .unknownKey e k _ => do
      k.checkShown
      e.checkShown
  | .noObject e | .sectionShape _ e => e.checkShown
  | .noTargets e k | .noExpression e k => do
      e.checkShown
      k.checkShown
  | .invalidType e k type => do
      -- A type is put into words twice; the first time, too many digits are no type like any other.
      match type.checkShown with
      | .ok _ | .error .tooLong => pure ()
      | .error f => throw f
      e.checkShown
      k.checkShown
      type.checkShown

/-- Checks that the message of a dangling reference can be made. -/
def Dangling.checkMessage (d : Dangling) : Except TextFault Unit := do
  d.entity.checkShown
  d.holder.checkShown

/-- Checks that the message for a parameter can be made. -/
def ParameterFault.checkMessage : ParameterFault → Except TextFault Unit
  | .invalidTuple data _ | .invalidFilter data _ => data.checkShownQuoted
  | .invalidMode mode => mode.checkShown
  | _ => pure ()

/-- Checks that the message for a setting can be made. -/
def ConfigFault.checkMessage : ConfigFault → Except TextFault Unit
  | .logLevel level => level.checkShown
  | _ => pure ()

namespace Failure

/-- Checks that the message of a failure can be made. -/
def checkMessage : Failure → Except TextFault Unit
  | .malformed f => f.checkMessage
  | .dangling f => f.checkMessage
  | .parameter f => f.checkMessage
  | .config f => f.checkMessage
  | .tenantNotFound tenant => tenant.checkShown
  | _ => pure ()

/-- The failure that callers are told of. -/
def told (f : Failure) : Failure :=
  match f.checkMessage with
  | .ok _ => f
  | .error cause => .noText cause

/-- What has no message of its own to make is told as it is. -/
theorem told_of_checkMessage {f : Failure} (h : f.checkMessage = .ok ()) : f.told = f := by
  rw [told, h]

theorem told_of_fault {f : Failure} {cause : TextFault} (h : f.checkMessage = .error cause) :
    f.told = .noText cause := by
  rw [told, h]

/-- A failure is told as it is, or its message cannot be made. -/
theorem told_cases (f : Failure) : f.checkMessage = .ok () ∧ f.told = f ∨
    ∃ cause, f.checkMessage = .error cause ∧ f.told = .noText cause := by
  cases h : f.checkMessage with
  | ok u => exact Or.inl ⟨rfl, told_of_checkMessage h⟩
  | error cause => exact Or.inr ⟨cause, rfl, told_of_fault h⟩

/-- What is told as a fault of a parameter is one. -/
theorem eq_parameter_of_told {f : Failure} {p : ParameterFault} (h : f.told = .parameter p) :
    f = .parameter p := by
  rcases told_cases f with ⟨-, htold⟩ | ⟨cause, -, htold⟩
  · exact htold.symm.trans h
  · cases htold.symm.trans h

end Failure

namespace Schema

/-- Checks a permission as `checkPermission` does, after its name has been put into words. -/
def tellPermission (s : Schema) (e : Entity) (p : Permission) : Except Failure Unit := do
  (do
    e.name.checkShown
    p.name.checkShown : Except TextFault Unit).mapError Failure.noText
  (s.checkPermission e p).mapError fun d => (Failure.dangling d).told

/-- Checks the references of an entity as `checkEntity` does. -/
def tellEntity (s : Schema) (e : Entity) : Except Failure Unit := do
  e.relations.values.forM fun r =>
    (s.checkTargets e r).mapError fun d => (Failure.dangling d).told
  e.permissions.values.forM (s.tellPermission e)

/-- Validates a schema as `validate` does, and fails as callers are told. -/
def tellReferences (s : Schema) : Except Failure Unit := s.entities.values.forM s.tellEntity

/-- Defines a schema as `define` does, and fails as callers are told. -/
def defineAloud (declarations : Value) : Except Failure Schema :=
  match declarations with
  | .map es => do
      let s ← (build es).mapError fun f => (Failure.ofBuild f).told
      s.tellReferences
      return s
  | _ => throw (.malformed .noMapping)

end Schema

end Rebac
