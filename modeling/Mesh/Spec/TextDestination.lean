import Mesh.Spec.RadioCorrect
import Mesh.Spec.Samples

/-!
# The destination of a text

`Intent` says what the manual queue is for: each waiting text stands next to the
destination in force when it was entered. The loop keeps the texts alone and reads
the destination once per tick, after all commands of the tick; so what it sends
equals what was intended exactly if no tick transmits a text that was entered for
another destination than the one in force by then.
-/

namespace Mesh

/-- The texts waiting, each with the destination in force when it was entered. -/
structure Intent where
  running : Bool
  mode : SimMode
  dest : UInt32
  waiting : List (String × UInt32)

namespace Intent

/-- Nothing is waiting at the start. -/
def boot : Intent := { running := true, mode := .listen, dest := broadcast, waiting := [] }

/-- A text waits for the destination selected when it is submitted. -/
def apply (i : Intent) : Command → Intent
  | .setMode m => { i with mode := m }
  | .setTxDest id => { i with dest := id }
  | .setRunning on => { i with running := on }
  | .sendText s => { i with waiting := i.waiting ++ [(s, i.dest)] }
  | _ => i

/-- The texts a tick transmits after its commands, and for whom they were entered. -/
def due [Prost] (i : Intent) : List (String × UInt32) :=
  if i.running && i.mode != .listen then i.waiting.filter fun p => SimLoop.fits p.1 else []

/-- A tick empties the queue unless it is paused. -/
def drained (i : Intent) : Intent := if i.running then { i with waiting := [] } else i

/-- After the commands of a tick. -/
def commanded (i : Intent) (commands : List Command) : Intent := commands.foldl apply i

/-- What is waiting after an event. -/
def after (i : Intent) : LoopEvent → Intent
  | .tick inp => (i.commanded inp.commands).drained
  | .decode _ _ => i

/-- The loop has the same texts waiting, without their destinations. -/
structure Matches (c : Core) (i : Intent) : Prop where
  running : c.running = i.running
  mode : c.mode = i.mode
  dest : c.txDest = i.dest
  queue : c.txQueue = i.waiting.map Prod.fst

namespace Matches

variable {c : Core} {i : Intent}

/-- A command keeps what is waiting matched. -/
theorem apply (h : Matches c i) (cmd : Command) : Matches (c.apply cmd) (i.apply cmd) := by
  obtain ⟨hrunning, hmode, hdest, hqueue⟩ := h
  cases cmd with
  | sendText s =>
    have happend : c.txQueue ++ [s] = (i.waiting ++ [(s, i.dest)]).map Prod.fst := by
      rw [List.map_append, ← hqueue]
      rfl
    exact ⟨hrunning, hmode, hdest, happend⟩
  | _ => constructor <;> first | assumption | rfl

/-- Commands keep what is waiting matched. -/
theorem commanded (h : Matches c i) (commands : List Command) :
    Matches (commands.foldl Core.apply c) (i.commanded commands) := by
  induction commands generalizing c i with
  | nil => exact h
  | cons cmd commands ih => exact ih (h.apply cmd)

/-- A node rebuild has nothing waiting. -/
theorem rebuild (h : Matches c i) : Matches c.rebuild i := by
  obtain ⟨_, _, hrebuild⟩ := c.rebuild_eq
  rw [hrebuild]
  exact ⟨h.running, h.mode, h.dest, h.queue⟩

end Matches

/-! ## What is due -/

/-- Commands send nothing. -/
theorem sent_commanded (c : Core) (commands : List Command) :
    (commands.foldl Core.apply c).sent = c.sent := by
  induction commands generalizing c with
  | nil => rfl
  | cons cmd commands ih =>
    rw [List.foldl_cons, ih]
    cases cmd <;> rfl

/-- Readdressing changes nothing exactly if everything was addressed there. -/
private theorem map_readdress_eq_iff {xs : List (String × UInt32)} {d : UInt32} :
    (xs.map fun p => (p.1, d)) = xs ↔ ∀ p ∈ xs, p.2 = d := by
  induction xs with
  | nil => simp
  | cons x xs ih =>
    rw [List.map_cons, List.cons.injEq, ih, List.forall_mem_cons, Prod.ext_iff]
    simp [eq_comm]

section

variable [Prost]

/-- The texts an event has to transmit. -/
def dueAt (i : Intent) : LoopEvent → List (String × UInt32)
  | .tick inp => (i.commanded inp.commands).due
  | .decode _ _ => []

/-- No text the event transmits was entered for another destination than the one that its
    commands leave in force. -/
def SteadyAt (i : Intent) : LoopEvent → Prop
  | .tick inp => ∀ p ∈ (i.commanded inp.commands).due, p.2 = (i.commanded inp.commands).dest
  | .decode _ _ => True

/-- The texts a sequence of events has to transmit. -/
def dueTexts : Intent → List LoopEvent → List (String × UInt32) := Lts.outputs after dueAt

/-- Every event of a sequence is steady. -/
def Steady : Intent → List LoopEvent → Prop := Lts.Allowed after SteadyAt

/-- A tick sends what is due, to the destination in force after its commands. -/
theorem Matches.tick {c : Core} {i : Intent} (h : Matches c i) (inp : TickInput) :
    Matches (c.tick inp.commands) (i.after (.tick inp)) ∧
      (c.tick inp.commands).sent = c.sent ++ (i.dueAt (.tick inp)).map fun p =>
        (p.1, (i.commanded inp.commands).dest) := by
  have hcmd := h.commanded inp.commands
  obtain ⟨hrunning, hmode, hdest, hqueue⟩ := hcmd.rebuild
  -- neither the commands nor the node rebuild transmit
  have hsent : (inp.commands.foldl Core.apply c).rebuild.sent = c.sent := by
    rw [← sent_commanded c inp.commands, Core.rebuild]
    split <;> rfl
  unfold Core.tick after dueAt drained due
  simp only
  rw [hcmd.running]
  by_cases hrun : (i.commanded inp.commands).running = true
  · simp only [hrun, if_true, Bool.true_and]
    constructor
    · exact ⟨hrunning.trans hrun, hmode, hdest, rfl⟩
    · rw [hsent, hmode, hdest, hqueue]
      by_cases hlisten : (i.commanded inp.commands).mode = .listen
      · -- the queue is cleared unsent
        simp [hlisten]
      · simp only [hlisten, if_false, List.filter_map, List.map_map]
        simp [hlisten, Function.comp_def]
  · -- a paused tick keeps the queue and sends nothing
    simp only [hrun, Bool.false_and, Bool.false_eq_true, if_false, List.map_nil, List.append_nil]
    exact ⟨hcmd, sent_commanded c inp.commands⟩

end

end Intent

section

variable [Ieee.Arith] [Prost] [Features]

open Intent

/-- What was sent after some events, against what they had to transmit. -/
private structure Accounts (es : List LoopEvent) (t : SimLoop) : Prop where
  state : Matches t.core (es.foldl after boot)
  length_eq : t.core.sent.length = (dueTexts boot es).length
  sent_iff : t.core.sent = dueTexts boot es ↔ Steady boot es

/-- At the start nothing is due and nothing was sent. -/
private theorem accounts_start (random : UInt32) (probed : Bool) (uhdOpen : Except String Unit) :
    Accounts [] (SimLoop.start (bootView random probed) uhdOpen) := by
  constructor
  · rw [SimLoop.core_start]
    exact ⟨rfl, rfl, rfl, rfl⟩
  · rw [SimLoop.core_start]
    rfl
  · rw [SimLoop.core_start]
    exact iff_of_true rfl trivial

variable [Aes256]

/-- A step sends what it had due, and all of it as intended exactly if it was steady. -/
private theorem accounts_step {es : List LoopEvent} {s t : SimLoop} {e : LoopEvent}
    (h : Accounts es s) (hstep : s.Step e t) : Accounts (es ++ [e]) t := by
  obtain ⟨hstate, hlen, hiff⟩ := h
  rcases SimLoop.step_cases hstep with
    ⟨inp, rfl, -, rfl⟩ | ⟨sf, txAllowed, r, clock, rfl, -, rfl⟩
  · obtain ⟨hstate', hsent⟩ := hstate.tick inp
    -- equal lengths so far, so the two lists agree piecewise
    have hsplit : ∀ xs ys : List (String × UInt32),
        s.core.sent ++ xs = dueTexts boot es ++ ys ↔ s.core.sent = dueTexts boot es ∧ xs = ys :=
      fun xs ys => ⟨fun h => List.append_inj h hlen, fun h => by rw [h.1, h.2]⟩
    constructor
    · rw [List.foldl_append, SimLoop.core_tick]
      exact hstate'
    · rw [dueTexts, Lts.outputs_concat, SimLoop.core_tick, hsent]
      simp [hlen, dueTexts]
    · rw [dueTexts, Lts.outputs_concat, Steady, Lts.allowed_concat, SimLoop.core_tick, hsent,
        ← Steady, ← hiff, ← dueTexts, hsplit, map_readdress_eq_iff]
      rfl
  · -- a decoded payload neither sends a text nor queues one
    obtain ⟨node, hcore⟩ := SimLoop.core_decode_node s sf txAllowed clock r
    constructor
    · rw [List.foldl_append, hcore]
      exact ⟨hstate.running, hstate.mode, hstate.dest, hstate.queue⟩
    · rw [dueTexts, Lts.outputs_concat, hcore]
      exact hlen.trans (congrArg List.length (List.append_nil _).symm)
    · rw [dueTexts, Lts.outputs_concat, Steady, Lts.allowed_concat, hcore, dueAt, List.append_nil]
      exact hiff.trans (and_iff_left trivial).symm

/-- In every run of the loop, the texts sent because of `SendText`, with the destinations of
    their frames, are those entered, with the destinations then in force, if and only if
    every step is steady. -/
theorem texts_keep_destination_iff {random : UInt32} {probed : Bool}
    {uhdOpen : Except String Unit} {es : List LoopEvent} {t : SimLoop}
    (hrun : Lts.Run SimLoop.Step (SimLoop.start (bootView random probed) uhdOpen) es t) :
    manualTexts t.calls = dueTexts boot es ↔ Steady boot es :=
  (hrun.history_invariant (accounts_start random probed uhdOpen)
    fun _ _ _ _ h hstep => accounts_step h hstep).sent_iff

end

section

open Intent Samples

/-- One tick of node 1 from the start, and the core it leads to. -/
private theorem run_tick (commands : List Command) : ∃ t : SimLoop,
    Lts.Run SimLoop.Step (Samples.boot 1) [Samples.tick commands] t ∧
      t.core = Core.tick (Samples.boot 1).core commands := by
  obtain ⟨inp, hinp, hcmds⟩ := exists_tick commands
  rw [hinp, ← hcmds]
  exact ⟨_, Lts.Run.nil.snoc (SimLoop.step_tick rfl), SimLoop.core_tick _ _⟩

/-- The destination changes after the text was entered, before the tick is over. -/
theorem late_destination_redirects : ∃ (es : List LoopEvent) (t : SimLoop),
    Lts.Run SimLoop.Step (Samples.boot 1) es t ∧
      dueTexts Intent.boot es = [("hi", 1)] ∧ manualTexts t.calls = [("hi", 2)] := by
  obtain ⟨t, hrun, hcore⟩ :=
    run_tick [.setMode .terminal, .setTxDest 1, .sendText "hi", .setTxDest 2]
  refine ⟨_, t, hrun, by decide, ?_⟩
  rw [Samples.boot, SimLoop.core_start] at hcore
  have hsent : t.core.sent = [("hi", 2)] := by rw [hcore]; decide
  exact hsent

/-- Without that change the text goes where it was meant to go. -/
theorem texts_keep_destination_iff_sample : ∃ (es : List LoopEvent) (t : SimLoop),
    Lts.Run SimLoop.Step (Samples.boot 1) es t ∧ manualTexts t.calls = [("hi", 1)] := by
  obtain ⟨t, hrun, -⟩ := run_tick [.setMode .terminal, .setTxDest 1, .sendText "hi"]
  have hsteady : ∀ p ∈ dueTexts Intent.boot
      [Samples.tick [.setMode .terminal, .setTxDest 1, .sendText "hi"]], p.2 = 1 := by decide
  exact ⟨_, t, hrun, (texts_keep_destination_iff hrun).mpr ⟨hsteady, trivial⟩⟩

end

end Mesh
