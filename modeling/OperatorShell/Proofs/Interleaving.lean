import OperatorShell.Agent.Stub
import Mathlib.Data.List.Nodup
import Mathlib.Logic.Function.Basic

/-!
# Calls that interleave

A stub agent may be called by many at once. A call is two atomic steps, of which the first keeps the
command and the second takes a reply, and replies may be queued at any time. Other steps may come
between the two of a call, so that calls overtake each other. Whatever the order of steps, nothing is
lost and nothing is given twice.

* `StubAgent.Shared`, `Shared.Step`, `Shared.Run`: an agent with its calls, one step, and steps in any
  order.
* `receipts`, `answers`, `handouts`, `pushes`: what a run did, read off its moves.
* `Shared.Tracked`: the invariant, kept by a step (`Tracked.step`) and so by a run (`Tracked.run`).
* `Shared.Apart`: no two calls overlap; then answers come in the order of commands (`InTurn.run`).
* `Conserved`, `Served`: what a run keeps, and what one answer was taken from.
* `run_conserves`: what holds of every state that can be reached.
-/

namespace OperatorShell

namespace StubAgent

/-- How far a call has come. -/
inductive Stage where
  | idle
  /-- Between its steps. -/
  | received (command : Text)
  | answered (command : Text) (answer : Except Status Text)

/-- An agent and the calls that it serves. -/
structure Shared (ι : Type) where
  agent : StubAgent
  stage : ι → Stage

/-- An atomic step. The second step of a call says what the queue handed it, if it held anything. -/
inductive Move (ι : Type) where
  | receive (call : ι) (command : Text)
  | take (call : ι) (handed : Option StubReply)
  | push (reply : StubReply)

namespace Move

variable {ι : Type}

@[simp] def call? : Move ι → Option ι
  | receive call _ | take call _ => some call
  | push _ => none

@[simp] def receipt? : Move ι → Option (ι × Text)
  | receive call command => some (call, command)
  | take _ _ | push _ => none

@[simp] def answer? : Move ι → Option ι
  | take call _ => some call
  | receive _ _ | push _ => none

@[simp] def handout? : Move ι → Option (ι × StubReply)
  | take call handed => handed.map (call, ·)
  | receive _ _ | push _ => none

@[simp] def push? : Move ι → Option StubReply
  | push reply => some reply
  | receive _ _ | take _ _ => none

end Move

namespace Shared

/-! ## What a run did

Read off its moves, in their order: the calls that began, with their commands; the calls that were
answered; the replies that were handed out, with the calls that got them; the replies that were
queued. -/

section

variable {ι β : Type} {a : StubAgent} {s : Shared ι} {m : Move ι} {moves : List (Move ι)} {call : ι}
  {command : Text}

def receipts (moves : List (Move ι)) : List (ι × Text) := moves.filterMap Move.receipt?

def answers (moves : List (Move ι)) : List ι := moves.filterMap Move.answer?

def handouts (moves : List (Move ι)) : List (ι × StubReply) := moves.filterMap Move.handout?

def pushes (moves : List (Move ι)) : List StubReply := moves.filterMap Move.push?

theorem filterMap_concat (f : Move ι → Option β) (moves : List (Move ι)) (m : Move ι) :
    (moves ++ [m]).filterMap f = moves.filterMap f ++ (f m).toList := by
  rw [List.filterMap_append]
  cases h : f m <;> simp [h]

@[simp] theorem receipts_concat (moves : List (Move ι)) (m : Move ι) :
    receipts (moves ++ [m]) = receipts moves ++ m.receipt?.toList :=
  filterMap_concat _ moves m

@[simp] theorem answers_concat (moves : List (Move ι)) (m : Move ι) :
    answers (moves ++ [m]) = answers moves ++ m.answer?.toList :=
  filterMap_concat _ moves m

@[simp] theorem handouts_concat (moves : List (Move ι)) (m : Move ι) :
    handouts (moves ++ [m]) = handouts moves ++ m.handout?.toList :=
  filterMap_concat _ moves m

@[simp] theorem pushes_concat (moves : List (Move ι)) (m : Move ι) :
    pushes (moves ++ [m]) = pushes moves ++ m.push?.toList :=
  filterMap_concat _ moves m

theorem handouts_sublist_answers (moves : List (Move ι)) :
    ((handouts moves).map Prod.fst).Sublist (answers moves) := by
  induction moves with
  | nil => exact List.Sublist.slnil
  | cons m moves ih =>
    cases m with
    | receive call command => exact ih
    | push reply => exact ih
    | take call handed =>
      cases handed with
      | none => exact ih.cons call
      | some reply => exact ih.cons_cons call

theorem take_fst (a : StubAgent) : a.take.1 = a.script.head?.getD .echo := by
  rw [take, List.headD_eq_head?_getD]

/-! ## The invariant -/

/-- What the moves say of a call that has come to a stage. -/
def Fits (moves : List (Move ι)) (call : ι) : Stage → Prop
  | .idle => call ∉ (receipts moves).map Prod.fst ∧ call ∉ answers moves
  | .received command => (call, command) ∈ receipts moves ∧ call ∉ answers moves
  | .answered command _ => (call, command) ∈ receipts moves ∧ call ∈ answers moves

theorem Fits.concat {stage : Stage} (h : Fits moves call stage) (hother : m.call? ≠ some call) :
    Fits (moves ++ [m]) call stage := by
  cases m with
  | push reply => cases stage <;> simpa [Fits] using h
  | receive other command =>
    have hne : call ≠ other := fun heq => hother (heq ▸ rfl)
    cases stage <;> simpa [Fits, hne] using h
  | take other handed =>
    have hne : call ≠ other := fun heq => hother (heq ▸ rfl)
    cases stage <;> simpa [Fits, hne] using h

/-- The moves from an agent `a` to a state account for all that is in the state. -/
structure Tracked (a : StubAgent) (moves : List (Move ι)) (s : Shared ι) : Prop where
  received : s.agent.received = a.received ++ (receipts moves).map Prod.snd
  queue : (handouts moves).map Prod.snd ++ s.agent.script = a.script ++ pushes moves
  stages : ∀ call, Fits moves call (s.stage call)
  begunOnce : ((receipts moves).map Prod.fst).Nodup
  answeredOnce : (answers moves).Nodup

def start (a : StubAgent) : Shared ι := ⟨a, fun _ => .idle⟩

theorem tracked_start (a : StubAgent) : Tracked a [] (start a : Shared ι) where
  received := (List.append_nil _).symm
  queue := (List.append_nil _).symm
  stages _ := ⟨List.not_mem_nil, List.not_mem_nil⟩
  begunOnce := List.nodup_nil
  answeredOnce := List.nodup_nil

theorem Tracked.push (h : Tracked a moves s) (reply : StubReply) :
    Tracked a (moves ++ [.push reply]) ⟨s.agent.push reply, s.stage⟩ := by
  refine ⟨?_, ?_, fun call => (h.stages call).concat (by simp), ?_, ?_⟩
  · simp [StubAgent.push, h.received]
  · have hqueue := h.queue
    simp [StubAgent.push, ← hqueue, ← List.append_assoc]
  · simpa using h.begunOnce
  · simpa using h.answeredOnce

theorem Tracked.command_unique (h : Tracked a moves s) {command' : Text}
    (hmem : (call, command) ∈ receipts moves) (hmem' : (call, command') ∈ receipts moves) :
    command = command' :=
  congrArg Prod.snd (List.inj_on_of_nodup_map h.begunOnce hmem hmem' rfl)

theorem Tracked.mem_receipts_iff (h : Tracked a moves s) :
    (call, command) ∈ receipts moves ↔
      s.stage call = .received command ∨ ∃ answer, s.stage call = .answered command answer := by
  have hfits := h.stages call
  constructor
  · -- a call that began is at a later stage, and with the command of that stage
    intro hmem
    cases hstage : s.stage call with
    | idle =>
      rw [hstage] at hfits
      exact absurd (List.mem_map_of_mem hmem) hfits.1
    | received command' =>
      rw [hstage] at hfits
      exact .inl (by rw [h.command_unique hmem hfits.1])
    | answered command' answer =>
      rw [hstage] at hfits
      exact .inr ⟨answer, by rw [h.command_unique hmem hfits.1]⟩
  · rintro (hstage | ⟨answer, hstage⟩)
    · rw [hstage] at hfits
      exact hfits.1
    · rw [hstage] at hfits
      exact hfits.1

/-! ## Calls that do not overlap -/

/-- No call begins between the steps of another. -/
def Apart (moves : List (Move ι)) : Prop :=
  ∀ front call command back, moves = front ++ .receive call command :: back →
    ∀ call' ∈ (receipts front).map Prod.fst, call' ∈ answers front

/-- The calls are answered in the order in which they began, and all but the last one are. -/
def InTurn (moves : List (Move ι)) : Prop :=
  (receipts moves).map Prod.fst = answers moves ∨
    ∃ call, (receipts moves).map Prod.fst = answers moves ++ [call]

end

/-! ## Steps -/

variable {ι : Type} [DecidableEq ι]

/-- One atomic step, of a call or of one that queues a reply. -/
inductive Step : Shared ι → Move ι → Shared ι → Prop where
  | receive {s : Shared ι} (call : ι) (command : Text) (h : s.stage call = .idle) :
    Step s (.receive call command)
      ⟨s.agent.receive command, Function.update s.stage call (.received command)⟩
  | take {s : Shared ι} (call : ι) (command : Text) (h : s.stage call = .received command) :
    Step s (.take call s.agent.script.head?)
      ⟨s.agent.take.2,
        Function.update s.stage call (.answered command (s.agent.take.1.resolve command))⟩
  | push {s : Shared ι} (reply : StubReply) : Step s (.push reply) ⟨s.agent.push reply, s.stage⟩

inductive Run : Shared ι → List (Move ι) → Shared ι → Prop where
  | nil {s : Shared ι} : Run s [] s
  | cons {s t u : Shared ι} {m : Move ι} {moves : List (Move ι)} (hstep : Step s m t)
    (hrun : Run t moves u) : Run s (m :: moves) u

variable {a : StubAgent} {s t u : Shared ι} {m : Move ι} {front back moves : List (Move ι)} {call : ι}
  {command : Text}

theorem Run.append (h : Run s front t) (h' : Run t back u) : Run s (front ++ back) u := by
  induction h with
  | nil => exact h'
  | cons hstep _ ih => exact .cons hstep (ih h')

theorem Run.split (h : Run s (front ++ back) u) : ∃ t, Run s front t ∧ Run t back u := by
  induction front generalizing s with
  | nil => exact ⟨s, .nil, h⟩
  | cons m front ih =>
    cases h with
    | cons hstep hrun =>
      obtain ⟨t, hfront, hback⟩ := ih hrun
      exact ⟨t, .cons hstep hfront, hback⟩

theorem Step.answered {answer : Except Status Text} (h : Step s m t)
    (hcall : s.stage call = .answered command answer) :
    t.stage call = .answered command answer := by
  cases h with
  | push reply => exact hcall
  | receive other _ hidle =>
    have hne : call ≠ other := by
      rintro rfl
      rw [hcall] at hidle
      cases hidle
    exact (Function.update_of_ne hne _ _).trans hcall
  | take other _ hreceived =>
    have hne : call ≠ other := by
      rintro rfl
      rw [hcall] at hreceived
      cases hreceived
    exact (Function.update_of_ne hne _ _).trans hcall

theorem Run.answered {answer : Except Status Text} (h : Run s moves t)
    (hcall : s.stage call = .answered command answer) :
    t.stage call = .answered command answer := by
  induction h with
  | nil => exact hcall
  | cons hstep _ ih => exact ih (hstep.answered hcall)

/-- The two steps of a call, with no other between them, serve its command. -/
theorem run_serve (hidle : s.stage call = .idle) (command : Text) :
    Run s [.receive call command, .take call s.agent.script.head?]
      ⟨(s.agent.serve command).2,
        Function.update s.stage call (.answered command (s.agent.serve command).1)⟩ := by
  have htake := Step.take (s := ⟨s.agent.receive command,
    Function.update s.stage call (.received command)⟩) call command (Function.update_self call _ _)
  rw [Function.update_idem] at htake
  exact .cons (.receive call command hidle) (.cons htake .nil)

/-! ## Runs -/

theorem Tracked.stages_update (h : Tracked a moves s) {stage : Stage} (hcall : m.call? = some call)
    (hstage : Fits (moves ++ [m]) call stage) (other : ι) :
    Fits (moves ++ [m]) other (Function.update s.stage call stage other) := by
  by_cases hother : other = call
  · subst hother
    rwa [Function.update_self]
  · rw [Function.update_of_ne hother]
    apply (h.stages other).concat
    rw [hcall]
    exact fun heq => hother (Option.some.inj heq).symm

theorem Tracked.receive (h : Tracked a moves s) (hidle : s.stage call = .idle) (command : Text) :
    Tracked a (moves ++ [.receive call command])
      ⟨s.agent.receive command, Function.update s.stage call (.received command)⟩ := by
  obtain ⟨hbegun, hanswered⟩ : Fits moves call .idle := hidle ▸ h.stages call
  refine ⟨?_, ?_, h.stages_update rfl ?_, ?_, ?_⟩
  · simp [StubAgent.receive, h.received]
  · simp [StubAgent.receive, h.queue]
  · simpa [Fits] using hanswered
  · simpa using h.begunOnce.concat hbegun
  · simpa using h.answeredOnce

theorem Tracked.take (h : Tracked a moves s) (hreceived : s.stage call = .received command) :
    Tracked a (moves ++ [.take call s.agent.script.head?])
      ⟨s.agent.take.2,
        Function.update s.stage call (.answered command (s.agent.take.1.resolve command))⟩ := by
  obtain ⟨hbegun, hanswered⟩ : Fits moves call (.received command) := hreceived ▸ h.stages call
  refine ⟨?_, ?_, h.stages_update rfl ?_, ?_, ?_⟩
  · simp [StubAgent.take, h.received]
  · -- what the queue hands out was at its front
    have hqueue := h.queue
    cases hscript : s.agent.script with
    | nil => simpa [StubAgent.take, hscript] using hqueue
    | cons reply rest => simpa [StubAgent.take, hscript] using hqueue
  · simpa [Fits] using hbegun
  · simpa using h.begunOnce
  · simpa using h.answeredOnce.concat hanswered

theorem Tracked.step (h : Tracked a moves s) (hstep : Step s m t) : Tracked a (moves ++ [m]) t := by
  cases hstep with
  | receive call command hidle => exact h.receive hidle command
  | take call command hreceived => exact h.take hreceived
  | push reply => exact h.push reply

theorem Tracked.run (h : Tracked a front s) (hrun : Run s back t) : Tracked a (front ++ back) t := by
  induction hrun generalizing front with
  | nil => rwa [List.append_nil]
  | @cons s t u m moves hstep _ ih =>
    have hnext := ih (h.step hstep)
    rwa [List.append_assoc] at hnext

theorem InTurn.step (hturn : InTurn moves) (h : Tracked a moves s) (hstep : Step s m t)
    (hapart : ∀ call command, m = .receive call command →
      ∀ call' ∈ (receipts moves).map Prod.fst, call' ∈ answers moves) :
    InTurn (moves ++ [m]) := by
  cases hstep with
  | push reply => simpa [InTurn] using hturn
  | receive call command hidle =>
    rcases hturn with heq | ⟨last, heq⟩
    · exact .inr ⟨call, by simp [heq]⟩
    · -- the last call would not be answered yet
      have hlast := hapart call command rfl last (by simp [heq])
      have hnodup := h.begunOnce
      rw [heq, List.nodup_append] at hnodup
      exact absurd rfl (hnodup.2.2 last hlast last List.mem_cons_self)
  | take call command hreceived =>
    obtain ⟨hbegun, hanswered⟩ : Fits moves call (.received command) := hreceived ▸ h.stages call
    have hmem : call ∈ (receipts moves).map Prod.fst := List.mem_map_of_mem hbegun
    rcases hturn with heq | ⟨last, heq⟩
    · rw [heq] at hmem
      exact absurd hmem hanswered
    · rw [heq, List.mem_append, List.mem_singleton] at hmem
      obtain rfl := hmem.resolve_left hanswered
      exact .inl (by simp [heq])

theorem InTurn.run (hturn : InTurn front) (h : Tracked a front s) (hrun : Run s back t)
    (hapart : Apart (front ++ back)) : InTurn (front ++ back) := by
  induction hrun generalizing front with
  | nil => rwa [List.append_nil]
  | @cons s t u m moves hstep _ ih =>
    have hnext := hturn.step h hstep (by
      rintro call command rfl
      exact hapart front call command moves rfl)
    have hsplit : front ++ m :: moves = front ++ [m] ++ moves := by simp
    rw [hsplit] at hapart ⊢
    exact ih hnext (h.step hstep) hapart

/-! ## What is conserved -/

/-- Nothing is lost between an agent `a` and a state, and nothing is given twice. -/
structure Conserved (a : StubAgent) (moves : List (Move ι)) (s : Shared ι) : Prop where
  received : s.agent.received = a.received ++ (receipts moves).map Prod.snd
  begun : ∀ call command, (call, command) ∈ receipts moves ↔
    s.stage call = .received command ∨ ∃ answer, s.stage call = .answered command answer
  begunOnce : ((receipts moves).map Prod.fst).Nodup
  handed : (handouts moves).map Prod.snd ++ s.agent.script = a.script ++ pushes moves
  handedOnce : ((handouts moves).map Prod.fst).Nodup
  count : (handouts moves).length + s.agent.script.length =
    a.script.length + (pushes moves).length

omit [DecidableEq ι] in
theorem Tracked.conserved (h : Tracked a moves s) : Conserved a moves s where
  received := h.received
  begun _ _ := h.mem_receipts_iff
  begunOnce := h.begunOnce
  handed := h.queue
  handedOnce := h.answeredOnce.sublist (handouts_sublist_answers moves)
  count := by simpa using congrArg List.length h.queue

/-- The second step of a call, of which a run has kept the answer: the queue gave the reply at its
front, or nothing if it was empty, and then the call's own command was repeated. -/
structure Served (a : StubAgent) (front : List (Move ι)) (call : ι) (handed : Option StubReply)
    (s : Shared ι) (command : Text) : Prop where
  begun : (call, command) ∈ receipts front
  queue : ∃ t, Run (start a) front t ∧ t.stage call = .received command ∧
    handed = t.agent.script.head? ∧ (handed = none ↔ t.agent.script = [])
  answer : s.stage call = .answered command ((handed.getD .echo).resolve command)
  echo : handed.getD .echo = .echo →
    s.stage call = .answered command (.ok ("Output for ".toList ++ command))

theorem Run.served {handed : Option StubReply}
    (h : Run (start a) (front ++ .take call handed :: back) s) :
    ∃ command, Served a front call handed s command := by
  obtain ⟨t, hfront, hrest⟩ := h.split
  have htracked := (tracked_start a).run hfront
  cases hrest with
  | cons hstep hback =>
    cases hstep with
    | take _ command hreceived =>
      have hbegun := htracked.mem_receipts_iff.2 (.inl hreceived)
      have hanswer := hback.answered (Function.update_self call _ _)
      rw [take_fst] at hanswer
      refine ⟨command, hbegun, ⟨t, hfront, hreceived, rfl, List.head?_eq_none_iff⟩, hanswer, ?_⟩
      intro hecho
      rw [hanswer, hecho]
      rfl

/-- If no calls overlap, the answers are to the commands in the order in which these were kept. -/
theorem Run.in_turn (h : Run (start a) moves s) (hapart : Apart moves) {n : Nat}
    (hcall : (answers moves)[n]? = some call) :
    ∃ command answer, (receipts moves)[n]? = some (call, command) ∧
      s.agent.received[a.received.length + n]? = some command ∧
      s.stage call = .answered command answer := by
  have htracked := (tracked_start a).run h
  have hturn := InTurn.run (.inl rfl) (tracked_start a) h hapart
  rw [List.nil_append] at htracked hturn
  have hfst : ((receipts moves).map Prod.fst)[n]? = some call := by
    rcases hturn with heq | ⟨last, heq⟩
    · rwa [heq]
    · rw [heq, List.getElem?_append_left (List.getElem?_eq_some_iff.1 hcall).1, hcall]
  obtain ⟨⟨call, command⟩, hreceipt, rfl⟩ := Option.map_eq_some_iff.1 (List.getElem?_map.symm.trans hfst)
  have hanswered : call ∈ answers moves := List.mem_of_getElem? hcall
  have hfits := htracked.stages call
  rcases htracked.mem_receipts_iff.1 (List.mem_of_getElem? hreceipt) with hstage | ⟨answer, hstage⟩
  · rw [hstage] at hfits
    exact absurd hanswered hfits.2
  · refine ⟨command, answer, hreceipt, ?_, hstage⟩
    rw [htracked.received, List.getElem?_append_right (Nat.le_add_right _ _), Nat.add_sub_cancel_left,
      List.getElem?_map, hreceipt]
    rfl

/-- **Nothing is lost, and nothing is given twice.** Whatever the order of the steps of calls and of
those who queue replies, commands are kept as calls begin, and replies are handed out in the order of
the queue, each to one call. A call repeats its command only if it was handed an echo or if the queue
was empty at its second step. If no calls overlap, answers come in the order of commands. A call whose
two steps have no other between them is served as by `StubAgent.serve`. -/
theorem run_conserves (a : StubAgent) (moves : List (Move ι)) (s : Shared ι)
    (hrun : Run (start a) moves s) :
    Conserved a moves s ∧
      (∀ front call handed back, moves = front ++ .take call handed :: back →
        ∃ command, Served a front call handed s command) ∧
      (Apart moves → ∀ n call, (answers moves)[n]? = some call →
        ∃ command answer, (receipts moves)[n]? = some (call, command) ∧
          s.agent.received[a.received.length + n]? = some command ∧
          s.stage call = .answered command answer) ∧
      ∀ call command, s.stage call = .idle →
        Run (start a) (moves ++ [.receive call command, .take call s.agent.script.head?])
          ⟨(s.agent.serve command).2,
            Function.update s.stage call (.answered command (s.agent.serve command).1)⟩ := by
  refine ⟨((tracked_start a).run hrun).conserved, ?_, ?_, ?_⟩
  · rintro front call handed back rfl
    exact hrun.served
  · exact fun hapart n call hcall => hrun.in_turn hapart hcall
  · exact fun call command hidle => hrun.append (run_serve hidle command)

/-- A call that is overtaken between its steps, with a reply queued in the meantime, and two calls
that do not overlap. -/
theorem run_conserves_overtaken :
    let a : StubAgent := { script := [.text "1".toList] }
    let crossed : List (Move Nat) :=
      [.receive 0 "x".toList, .receive 1 "y".toList, .take 1 (some (.text "1".toList)),
        .push (.text "2".toList), .receive 2 "z".toList, .take 0 (some (.text "2".toList)),
        .take 2 none]
    let orderly : List (Move Nat) :=
      [.receive 5 "x".toList, .take 5 (some (.text "1".toList)), .receive 3 "y".toList,
        .take 3 none]
    (∃ s, Run (start a) crossed s ∧ Conserved a crossed s ∧
      s.agent.received = ["x", "y", "z"].map String.toList ∧
      s.stage 0 = .answered "x".toList (.ok "2".toList) ∧
      (∃ command, Served a (crossed.take 6) 2 none s command) ∧
      s.stage 2 = .answered "z".toList (.ok "Output for z".toList)) ∧
    Apart orderly ∧
    ∃ s, Run (start a) orderly s ∧
      ∃ command answer, (receipts orderly)[1]? = some (3, command) ∧
        s.agent.received[1]? = some command ∧ s.stage 3 = .answered command answer := by
  intro a crossed orderly
  have hcrossed : ∃ s, Run (start a) crossed s ∧
      s.agent.received = ["x", "y", "z"].map String.toList ∧
      s.stage 0 = .answered "x".toList (.ok "2".toList) ∧
      s.stage 2 = .answered "z".toList (.ok "Output for z".toList) :=
    ⟨_, .cons (.receive 0 _ rfl) <| .cons (.receive 1 _ rfl) <| .cons (.take 1 _ rfl) <|
      .cons (.push _) <| .cons (.receive 2 _ rfl) <| .cons (.take 0 _ rfl) <|
      .cons (.take 2 _ rfl) .nil, rfl, rfl, rfl⟩
  have horderly : ∃ s, Run (start a) orderly s :=
    ⟨_, .cons (.receive 5 _ rfl) <| .cons (.take 5 _ rfl) <| .cons (.receive 3 _ rfl) <|
      .cons (.take 3 _ rfl) .nil⟩
  have hapart : Apart orderly := by
    -- the only fronts that a command follows are the empty one and the first two moves
    intro front call command back heq
    rcases front with _ | ⟨_, _ | ⟨_, _ | ⟨_, _ | ⟨_, _⟩⟩⟩⟩ <;> simp [orderly] at heq
    · simp [receipts]
    · obtain ⟨rfl, rfl, -⟩ := heq
      simp [receipts, answers]
  obtain ⟨s, hrun, hreceived, hfirst, hlast⟩ := hcrossed
  obtain ⟨s', hrun'⟩ := horderly
  obtain ⟨hconserved, hserved, -⟩ := run_conserves a crossed s hrun
  obtain ⟨-, -, hturn, -⟩ := run_conserves a orderly s' hrun'
  refine ⟨⟨s, hrun, hconserved, hreceived, hfirst, hserved (crossed.take 6) 2 none [] rfl, hlast⟩,
    hapart, s', hrun', ?_⟩
  exact hturn hapart 1 3 rfl

end Shared

end StubAgent

end OperatorShell
