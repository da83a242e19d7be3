import OperatorShell.Agent.Scripted

/-!
# Lines sent to an agent one after another

What lines bring back depends on the agent and on the lines alone, not on when they are sent.

* `Agent.after`, `Agent.outcomes`: the agent after lines, and their outcomes.
* `Tapped`: an agent with a record of every line that it was sent and of what came back.
* `ScriptedAgent.after_eq`, `ScriptedAgent.outcomes_eq`: a scripted agent answers the k-th line with
  its k-th response.
-/

namespace OperatorShell

namespace Agent

variable {α : Type} [Agent α]

/-- The agent after lines, sent one after another. -/
def after (a : α) (lines : List Text) : α := lines.foldl (fun a line => (send a line).agent) a

/-- The outcomes of lines, sent one after another. -/
def outcomes (a : α) : List Text → List Outcome
  | [] => []
  | line :: rest => (send a line).outcome :: outcomes (send a line).agent rest

/-- Lines with their outcomes. -/
def exchanges (a : α) (lines : List Text) : List (Text × Outcome) := lines.zip (outcomes a lines)

@[simp] theorem after_nil (a : α) : after a [] = a := rfl

@[simp] theorem after_cons (a : α) (line : Text) (rest : List Text) :
    after a (line :: rest) = after (send a line).agent rest := rfl

theorem after_append (a : α) (lines lines' : List Text) :
    after a (lines ++ lines') = after (after a lines) lines' :=
  List.foldl_append

@[simp] theorem outcomes_nil (a : α) : outcomes a [] = [] := rfl

@[simp] theorem outcomes_cons (a : α) (line : Text) (rest : List Text) :
    outcomes a (line :: rest) =
      (send a line).outcome :: outcomes (send a line).agent rest := rfl

theorem length_outcomes (a : α) (lines : List Text) : (outcomes a lines).length = lines.length := by
  induction lines generalizing a with
  | nil => rfl
  | cons line rest ih => rw [outcomes_cons, List.length_cons, ih, List.length_cons]

theorem outcomes_append (a : α) (lines lines' : List Text) :
    outcomes a (lines ++ lines') = outcomes a lines ++ outcomes (after a lines) lines' := by
  induction lines generalizing a with
  | nil => rfl
  | cons line rest ih => simp [ih]

@[simp] theorem exchanges_nil (a : α) : exchanges a [] = [] := rfl

@[simp] theorem exchanges_cons (a : α) (line : Text) (rest : List Text) :
    exchanges a (line :: rest) =
      (line, (send a line).outcome) :: exchanges (send a line).agent rest := rfl

theorem length_exchanges (a : α) (lines : List Text) :
    (exchanges a lines).length = lines.length := by
  rw [exchanges, List.length_zip, length_outcomes, Nat.min_self]

theorem map_fst_exchanges (a : α) (lines : List Text) :
    (exchanges a lines).map Prod.fst = lines :=
  List.map_fst_zip (Nat.le_of_eq (length_outcomes a lines).symm)

theorem exchanges_append (a : α) (lines lines' : List Text) :
    exchanges a (lines ++ lines') = exchanges a lines ++ exchanges (after a lines) lines' := by
  have hlength : lines.length = (outcomes a lines).length := (length_outcomes a lines).symm
  rw [exchanges, outcomes_append, List.zip_append hlength]
  rfl

end Agent

/-! ## Tapped agents -/

/-- An agent with a record of what it was sent and what came of it, oldest first. -/
structure Tapped (α : Type) where
  agent : α
  exchanges : List (Text × Outcome) := []

namespace Tapped

variable {α : Type} [Agent α]

instance : Agent (Tapped α) where
  send a line :=
    let answer := Agent.send a.agent line
    { outcome := answer.outcome
      agent := ⟨answer.agent, a.exchanges ++ [(line, answer.outcome)]⟩
      diagnostics := answer.diagnostics }

theorem send_eq (a : Tapped α) (line : Text) :
    Agent.send a line =
      { outcome := (Agent.send a.agent line).outcome
        agent := ⟨(Agent.send a.agent line).agent,
          a.exchanges ++ [(line, (Agent.send a.agent line).outcome)]⟩
        diagnostics := (Agent.send a.agent line).diagnostics } := rfl

theorem after_eq (a : Tapped α) (lines : List Text) :
    Agent.after a lines =
      ⟨Agent.after a.agent lines, a.exchanges ++ Agent.exchanges a.agent lines⟩ := by
  induction lines generalizing a with
  | nil => simp
  | cons line rest ih => simp [send_eq, ih]

end Tapped

/-! ## Scripted agents -/

namespace ScriptedAgent

/-- The response to the line that comes after `k` others. -/
def responseTo (a : ScriptedAgent) (k : Nat) : Response := a.responses[k]?.getD a.fallback

theorem responseTo_zero (a : ScriptedAgent) : a.responseTo 0 = a.next := by
  rw [responseTo, next, ← List.head?_eq_getElem?, List.headD_eq_head?_getD]

theorem responseTo_succ (a : ScriptedAgent) (command : Text) (k : Nat) :
    a.responseTo (k + 1) = (a.send command).agent.responseTo k := by
  rw [responseTo, responseTo, send, List.getElem?_tail]

theorem after_eq (a : ScriptedAgent) (lines : List Text) :
    Agent.after a lines =
      { a with responses := a.responses.drop lines.length, sent := a.sent ++ lines } := by
  induction lines generalizing a with
  | nil => simp
  | cons line rest ih =>
    rw [Agent.after_cons, ih]
    simp [Agent.send, send]

theorem exchanges_eq (a : ScriptedAgent) (lines : List Text) :
    Agent.exchanges a lines = lines.mapIdx fun k line => (line, (a.responseTo k).resolve line) := by
  induction lines generalizing a with
  | nil => rfl
  | cons line rest ih =>
    rw [Agent.exchanges_cons, ih, List.mapIdx_cons, responseTo_zero]
    simp only [responseTo_succ a line]
    rfl

end ScriptedAgent

end OperatorShell
