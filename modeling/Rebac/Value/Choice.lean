import Rebac.Number.Numeral
import Rebac.Value

set_option autoImplicit false

/-!
# Choices that values stand for

A server answers with a result of a check, and a caller chooses a mode of seeding; either may be
given by the choice itself or by a text.
-/

/-!
## Reading the result of a check

A server may answer with the name of a result, with or without a common beginning, with its number,
or with the digits of its number in any script.
-/

namespace Rebac

/-- Why an answer denotes no result. -/
inductive ResultFault
  /-- A text that is neither a name nor a number. -/
  | unknownName (text : String)
  /-- Characters with a digit value that do not make up a number. -/
  | noNumber (text : String)
  /-- More digits than are read. -/
  | tooLong (digits : Nat)
  /-- A number without a result. -/
  | unknownNumber (number : Int)
  /-- A value that is neither a text nor a number. -/
  | noResult (value : Value)

namespace ResultFault

/-- How much of a text is shown. -/
def maxShown : Nat := 200

/-- The message of a fault. -/
def message : ResultFault → String
  | .unknownName s => "Invalid check result: " ++ s
  | .noNumber s =>
      -- Only the beginning of a long text is shown, without the closing quote.
      "invalid literal for int() with base 10: " ++
        String.ofList ((Text.quoted s.toList).take maxShown)
  | .tooLong n => Numeral.tooLongMessage n
  | .unknownNumber i => toString i ++ " is not a valid CheckResult"
  | .noResult v => v.quoted ++ " is not a valid CheckResult"

end ResultFault

namespace CheckResult

/-- What the long names of results begin with. -/
def nameStart : List Char := "CHECK_RESULT_".toList

/-- A name without the beginning of long names. -/
def shortName (s : String) : String :=
  if nameStart.isPrefixOf s.toList then String.ofList (s.toList.drop nameStart.length) else s

/-- The result that a text denotes. -/
def ofText (s : String) : Except ResultFault CheckResult :=
  match ofName? (shortName s) with
  | some r => pure r
  | none =>
      let cs := s.toList
      if !cs.isEmpty && cs.all Text.isDigitLike then
        -- The decimal digits are counted up to the first character that is none.
        let digits := (cs.takeWhile Text.isDecimal).length
        if Numeral.maxDigits < digits then throw (.tooLong digits)
        else
          match Text.decimalNumber? cs with
          | none => throw (.noNumber s)
          | some n =>
              match ofNumber? n with
              | some r => pure r
              | none => throw (.unknownNumber n)
      else throw (.unknownName s)

/-- The result that a value denotes. -/
def parse (v : Value) : Except ResultFault CheckResult :=
  match v with
  | .checkResult r => pure r
  | .text s => ofText s
  | v =>
      match v.integer?.bind ofNumber? with
      | some r => pure r
      | none => throw (.noResult v)

@[simp] theorem parse_checkResult (r : CheckResult) : parse (.checkResult r) = .ok r := rfl

end CheckResult

end Rebac

/-!
## Choosing a seeding mode

A caller chooses a mode by the mode itself or by its text.
-/

namespace Rebac.SeedingMode

/-- The mode that a value denotes. -/
def ofValue? : Value → Option SeedingMode
  | .seedingMode m => some m
  | .text s => ofText? s
  | _ => none

/-- The message for a value that denotes no mode. -/
def faultMessage (v : Value) : String := v.quoted ++ " is not a valid SeedingMode"

@[simp] theorem ofValue?_seedingMode (m : SeedingMode) : ofValue? (.seedingMode m) = some m := rfl

theorem ofValue?_text (m : SeedingMode) : ofValue? (.text m.text) = some m := ofText?_text m

end Rebac.SeedingMode
