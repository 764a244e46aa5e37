import Rebac.Client.Call

set_option autoImplicit false

/-!
# Runs of composed dialogues

A run is described by the requests that it sends, by its ending and by the answers that it leaves.
The log and the closing of a connection are no part of this description. `Runs` is the relation
between a dialogue, its answers and the description of its run. The rules say what a run of each
combinator is, so that a run of a dialogue is put together from runs of its parts and no definition
of a combinator is opened again.
-/

namespace Rebac

namespace Ending

variable {α β : Type}

/-- An ending with something made of its result. -/
def map (g : α → β) : Ending α → Ending β
  | .returned a => .returned (g a)
  | .failed f => .failed f
  | .waiting => .waiting

theorem exists_returned_of_map_eq {g : α → β} {e : Ending α} {b : β} (h : e.map g = .returned b) :
    ∃ a, e = .returned a ∧ g a = b := by
  cases e with
  | returned a =>
      cases h
      exact ⟨a, rfl, rfl⟩
  | failed f => cases h
  | waiting => cases h

/-- An ending without its result. -/
def void : Ending α → Ending Unit
  | .returned _ => .returned ()
  | .failed f => .failed f
  | .waiting => .waiting

/-- Endings that fail alike without their results fail alike. -/
theorem eq_failed_of_void_eq {e : Ending α} {f : Failure} (h : e.void = .failed f) :
    e = .failed f := by
  cases e with
  | returned a => cases h
  | failed g => cases h; rfl
  | waiting => cases h

/-- An ending that returns without its result returns. -/
theorem exists_returned_of_void_eq {e : Ending α} (h : e.void = .returned ()) :
    ∃ a, e = .returned a := by
  cases e with
  | returned a => exact ⟨a, rfl⟩
  | failed f => cases h
  | waiting => cases h

end Ending

/-- Run on these answers, a dialogue sends these requests, ends so and leaves these answers. -/
structure Runs {Req Ans α : Type} (d : Dialogue Req Ans α) (answers : List Ans)
    (requests : List Req) (ending : Ending α) (rest : List Ans) : Prop where
  requests_eq : (d answers).requests = requests
  ending_eq : (d answers).ending = ending
  rest_eq : (d answers).rest = rest

namespace Runs

variable {Req Ans α β : Type} {d : Dialogue Req Ans α} {k : α → Dialogue Req Ans β}
variable {answers rest rest' : List Ans} {requests requests' : List Req}

/-- Every dialogue has its run. -/
theorem self (d : Dialogue Req Ans α) (answers : List Ans) :
    Runs d answers (d answers).requests (d answers).ending (d answers).rest :=
  ⟨rfl, rfl, rfl⟩

/-- Every dialogue has its run, with the ending that it is known to have. -/
theorem of_ending {ending : Ending α} (h : (d answers).ending = ending) :
    Runs d answers (d answers).requests ending (d answers).rest :=
  ⟨rfl, h, rfl⟩

theorem pure (a : α) (answers : List Ans) :
    Runs (Pure.pure a : Dialogue Req Ans α) answers [] (.returned a) answers :=
  ⟨rfl, rfl, rfl⟩

theorem fail (f : Failure) (answers : List Ans) :
    Runs (Dialogue.fail f : Dialogue Req Ans α) answers [] (.failed f) answers :=
  ⟨rfl, rfl, rfl⟩

theorem ofExcept_ok (a : α) (answers : List Ans) :
    Runs (Dialogue.ofExcept (.ok a) : Dialogue Req Ans α) answers [] (.returned a) answers :=
  ⟨rfl, rfl, rfl⟩

theorem log (severity : Severity) (component : Component) (message : String)
    (answers : List Ans) :
    Runs (Dialogue.log severity component message : Dialogue Req Ans Unit) answers []
      (.returned ()) answers :=
  ⟨rfl, rfl, rfl⟩

/-- A dialogue that returns goes on with the next one, on the answers that it leaves. -/
theorem bind {a : α} {ending : Ending β} (h : Runs d answers requests (.returned a) rest)
    (hk : Runs (k a) rest requests' ending rest') :
    Runs (d >>= k) answers (requests ++ requests') ending rest' := by
  obtain ⟨hq, he, hr⟩ := h
  obtain ⟨hq', he', hr'⟩ := hk
  have hrun : (d >>= k) answers = (k a rest).prepend (d answers).events := by
    rw [Dialogue.bind_apply, he, hr]
  refine ⟨?_, ?_, ?_⟩
  · rw [hrun, Dialogue.requests_prepend, hq', ← hq]
    rfl
  · rw [hrun]
    exact he'
  · rw [hrun]
    exact hr'

/-- A dialogue that fails ends what follows it. -/
theorem bind_failed {f : Failure} (h : Runs d answers requests (.failed f) rest) :
    Runs (d >>= k) answers requests (.failed f) rest := by
  obtain ⟨hq, he, hr⟩ := h
  have hrun : (d >>= k) answers = ⟨(d answers).events, .failed f, rest⟩ := by
    rw [Dialogue.bind_apply, he, hr]
  exact ⟨by rw [hrun]; exact hq, by rw [hrun], by rw [hrun]⟩

/-- A dialogue that waits holds up what follows it. -/
theorem bind_waiting (h : Runs d answers requests .waiting rest) :
    Runs (d >>= k) answers requests .waiting rest := by
  obtain ⟨hq, he, hr⟩ := h
  have hrun : (d >>= k) answers = ⟨(d answers).events, .waiting, rest⟩ := by
    rw [Dialogue.bind_apply, he, hr]
  exact ⟨by rw [hrun]; exact hq, by rw [hrun], by rw [hrun]⟩

/-- Nothing follows a dialogue that does not return. -/
theorem bind_of_not_returned (h : ∀ a, (d answers).ending ≠ .returned a) :
    ((d >>= k) answers).requests = (d answers).requests ∧
      ∀ b, ((d >>= k) answers).ending ≠ .returned b := by
  cases hend : (d answers).ending with
  | returned a => exact absurd hend (h a)
  | failed f =>
      have hrun : Runs (d >>= k) answers _ _ _ := (of_ending hend).bind_failed
      exact ⟨hrun.requests_eq, by simp [hrun.ending_eq]⟩
  | waiting =>
      have hrun : Runs (d >>= k) answers _ _ _ := (of_ending hend).bind_waiting
      exact ⟨hrun.requests_eq, by simp [hrun.ending_eq]⟩

/-- What follows a dialogue and sends nothing only makes something of its result. -/
theorem bind_map {g : α → β} {ending : Ending α} (h : Runs d answers requests ending rest)
    (hk : ∀ a, Runs (k a) rest [] (.returned (g a)) rest) :
    Runs (d >>= k) answers requests (ending.map g) rest := by
  cases ending with
  | returned a =>
      rw [← List.append_nil requests]
      exact h.bind (hk a)
  | failed f => exact h.bind_failed
  | waiting => exact h.bind_waiting

/-- What follows a dialogue and sends nothing only drops its result. -/
theorem bind_quiet {ending : Ending α} {k : α → Dialogue Req Ans Unit}
    (h : Runs d answers requests ending rest)
    (hk : ∀ a, Runs (k a) rest [] (.returned ()) rest) :
    Runs (d >>= k) answers requests ending.void rest := by
  have hvoid : ending.void = ending.map fun _ => () := by
    cases ending with
    | returned a => rfl
    | failed f => rfl
    | waiting => rfl
  rw [hvoid]
  exact h.bind_map hk

/-- An attempt returns the result of a dialogue that returns. -/
theorem attempt_returned {a : α} (h : Runs d answers requests (.returned a) rest) :
    Runs d.attempt answers requests (.returned (.ok a)) rest := by
  obtain ⟨hq, he, hr⟩ := h
  have hrun : d.attempt answers = ⟨(d answers).events, .returned (.ok a), rest⟩ := by
    rw [Dialogue.attempt, he, hr]
  exact ⟨by rw [hrun]; exact hq, by rw [hrun], by rw [hrun]⟩

/-- An attempt returns the failure of a dialogue that fails. -/
theorem attempt_failed {f : Failure} (h : Runs d answers requests (.failed f) rest) :
    Runs d.attempt answers requests (.returned (.error f)) rest := by
  obtain ⟨hq, he, hr⟩ := h
  have hrun : d.attempt answers = ⟨(d answers).events, .returned (.error f), rest⟩ := by
    rw [Dialogue.attempt, he, hr]
  exact ⟨by rw [hrun]; exact hq, by rw [hrun], by rw [hrun]⟩

theorem attempt_waiting (h : Runs d answers requests .waiting rest) :
    Runs d.attempt answers requests .waiting rest := by
  obtain ⟨hq, he, hr⟩ := h
  have hrun : d.attempt answers = ⟨(d answers).events, .waiting, rest⟩ := by
    rw [Dialogue.attempt, he, hr]
  exact ⟨by rw [hrun]; exact hq, by rw [hrun], by rw [hrun]⟩

/-- Closing the connection afterwards changes nothing in the description of a run. -/
theorem closing {ending : Ending α} (h : Runs d answers requests ending rest) :
    Runs d.closing answers requests ending rest := by
  obtain ⟨rfl, rfl, rfl⟩ := h
  have hrun : (d.closing answers).requests = (d answers).requests ∧
      (d.closing answers).ending = (d answers).ending ∧
      (d.closing answers).rest = (d answers).rest := by
    unfold Dialogue.closing
    rcases d answers with ⟨events, ending, rest⟩
    cases ending <;> simp [Run.requests, Event.request?]
  exact ⟨hrun.1, hrun.2.1, hrun.2.2⟩

end Runs

/-! ## Calls -/

namespace Client

variable {Req Ans α : Type}

/-- The request that a call sends: none if the client cannot make it. -/
def sent (c : Client Req Ans) (call : Call α) : List Req :=
  match c.request call with
  | .ok r => [r]
  | .error _ => []

theorem sent_of_ok {c : Client Req Ans} {call : Call α} {r : Req} (h : c.request call = .ok r) :
    c.sent call = [r] := by
  rw [sent, h]

theorem sent_ne_nil_iff {c : Client Req Ans} {call : Call α} :
    c.sent call ≠ [] ↔ ∃ r, c.request call = .ok r := by
  rw [sent]
  cases c.request call with
  | error f => simp
  | ok q => simp

theorem sent_eq_nil_or (c : Client Req Ans) (call : Call α) :
    c.sent call = [] ∨ ∃ r, c.request call = .ok r ∧ c.sent call = [r] := by
  rw [sent]
  cases c.request call with
  | error f => exact Or.inl rfl
  | ok q => exact Or.inr ⟨q, rfl, rfl⟩

theorem mem_sent_iff {c : Client Req Ans} {call : Call α} {r : Req} :
    r ∈ c.sent call ↔ c.request call = .ok r := by
  rw [sent]
  cases c.request call with
  | error f => simp
  | ok q => simp [eq_comm]

/-- A call sends its one request, whatever the answers are. -/
theorem requests_ask (c : Client Req Ans) (call : Call α) (answers : List Ans) :
    (c.ask call answers).requests = c.sent call := by
  rw [sent]
  cases h : c.request call with
  | error f =>
      rw [ask_of_error h]
      rfl
  | ok r =>
      cases answers with
      | nil =>
          rw [ask, h]
          rfl
      | cons a rest =>
          rw [ask_cons h]
          simp [Run.requests, Event.request?]

theorem runs_ask {c : Client Req Ans} {call : Call α} {answers : List Ans} {ending : Ending α}
    (h : (c.ask call answers).ending = ending) :
    Runs (c.ask call) answers (c.sent call) ending (c.ask call answers).rest :=
  ⟨requests_ask c call answers, h, rfl⟩

end Client

end Rebac
