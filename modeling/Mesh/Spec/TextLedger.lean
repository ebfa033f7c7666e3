import Mesh.Spec.TextDestination
import Mesh.Spec.Traffic

/-!
# Where every text goes

The manual queue is filled while commands are drained and emptied by the next
iteration that is not paused. `Window` collects the commands between two such
iterations: its texts are exactly those in the queue, and the mode at its end alone
decides about all of them.

## Key results

- `listen_texts_stay_off_air_iff`: which texts go out, and when none of them was
  submitted in listen mode
- `late_mode_change_airs`: a run in which one was
- `texts_once_and_counted`: in terminal mode every text that fits goes out once, in
  order, and the counter is exact

What a text frame says is read off its bytes (`CarriesText`); the label of a transmission
only tells which of the five sites made it.
-/

namespace Mesh

open Ieee (Arith)

/-- A text and the mode in force when it was submitted. -/
structure Submission where
  text : String
  mode : SimMode
deriving DecidableEq

/-- The mode some commands leave. -/
def modeAfter (mode : SimMode) : List Command → SimMode
  | [] => mode
  | .setMode m :: rest => modeAfter m rest
  | _ :: rest => modeAfter mode rest

/-- Whether some commands leave the loop running. -/
def runningAfter (running : Bool) : List Command → Bool
  | [] => running
  | .setRunning on :: rest => runningAfter on rest
  | _ :: rest => runningAfter running rest

/-- The text of a `SendText`. -/
def Command.submitted : Command → Option String
  | sendText text => some text
  | _ => none

/-- The texts of some commands, each with the mode in force. -/
def submissions (mode : SimMode) : List Command → List Submission
  | [] => []
  | .sendText text :: rest => { text, mode } :: submissions mode rest
  | .setMode m :: rest => submissions m rest
  | _ :: rest => submissions mode rest

/-- The mode after some commands and some more. -/
theorem modeAfter_append (mode : SimMode) (xs ys : List Command) :
    modeAfter mode (xs ++ ys) = modeAfter (modeAfter mode xs) ys := by
  induction xs generalizing mode with
  | nil => rfl
  | cons cmd xs ih => cases cmd <;> exact ih _

/-- The texts of the submissions, without the modes. -/
theorem submissions_text (mode : SimMode) (commands : List Command) :
    (submissions mode commands).map Submission.text = commands.filterMap Command.submitted := by
  induction commands generalizing mode with
  | nil => rfl
  | cons cmd commands ih =>
    cases cmd with
    | sendText text => exact congrArg (List.cons text) (ih mode)
    | _ => exact ih _

/-- Submissions of commands in a row. -/
theorem submissions_append (mode : SimMode) (xs ys : List Command) :
    submissions mode (xs ++ ys) = submissions mode xs ++ submissions (modeAfter mode xs) ys := by
  induction xs generalizing mode with
  | nil => rfl
  | cons cmd xs ih =>
    cases cmd with
    | sendText text => exact congrArg (List.cons _) (ih mode)
    | _ => exact ih _

namespace Core

/-- The loop has the mode that the commands leave. -/
theorem commanded_mode (c : Core) (commands : List Command) :
    (commands.foldl apply c).mode = modeAfter c.mode commands := by
  induction commands generalizing c with
  | nil => rfl
  | cons cmd commands ih => cases cmd <;> exact ih _

/-- The loop runs if the commands leave it so. -/
theorem commanded_running (c : Core) (commands : List Command) :
    (commands.foldl apply c).running = runningAfter c.running commands := by
  induction commands generalizing c with
  | nil => rfl
  | cons cmd commands ih => cases cmd <;> exact ih _

/-- The queue after some commands: their texts come last. -/
theorem commanded_txQueue (c : Core) (commands : List Command) :
    (commands.foldl apply c).txQueue =
      c.txQueue ++ commands.filterMap Command.submitted := by
  induction commands generalizing c with
  | nil => exact (List.append_nil _).symm
  | cons cmd commands ih =>
    cases cmd with
    | sendText text =>
      rw [List.foldl_cons, ih]
      exact List.append_assoc _ _ _
    | _ => exact ih _

end Core

/-- The commands since the last iteration that was not paused. -/
structure Window where
  running : Bool
  /-- The mode at its beginning. -/
  start : SimMode
  commands : List Command

namespace Window

/-- The window at the start. -/
def boot : Window := { running := true, start := .listen, commands := [] }

/-- The mode at its end. -/
def mode (w : Window) : SimMode := modeAfter w.start w.commands

/-- The texts submitted in it. -/
def texts (w : Window) : List Submission := submissions w.start w.commands

/-- The commands of a tick belong to the window. -/
def extend (w : Window) (commands : List Command) : Window :=
  { w with running := runningAfter w.running commands, commands := w.commands ++ commands }

/-- A tick that is not paused begins a new window. -/
def close (w : Window) : Window :=
  if w.running then { w with start := w.mode, commands := [] } else w

/-- The window after an event. -/
def after (w : Window) : LoopEvent → Window
  | .tick inp => (w.extend inp.commands).close
  | .decode _ _ => w

section

variable [Prost]

/-- What a tick transmits once its commands belong to the window. -/
def aired (w : Window) : List Submission :=
  if w.running && w.mode != .listen then w.texts.filter fun x => SimLoop.fits x.text else []

/-- The texts that an event airs. -/
def airedAt (w : Window) : LoopEvent → List Submission
  | .tick inp => (w.extend inp.commands).aired
  | .decode _ _ => []

/-- If the tick is not paused and a text that fits was submitted in listen mode since the
    last such tick, then its commands leave the loop in listen mode. -/
def Discards (w : Window) : Prop :=
  w.running = true → ∀ x ∈ w.texts, x.mode = .listen → SimLoop.fits x.text = true →
    w.mode = .listen

/-- An event discards what was submitted in listen mode. -/
def DiscardsAt (w : Window) : LoopEvent → Prop
  | .tick inp => (w.extend inp.commands).Discards
  | .decode _ _ => True

end

end Window

section

variable [Prost]

/-- The submissions whose texts a sequence of events transmits, in order. -/
def airedTexts (es : List LoopEvent) : List Submission :=
  Lts.outputs Window.after Window.airedAt Window.boot es

/-- Every event discards what was submitted in listen mode. -/
def DiscardsListen (es : List LoopEvent) : Prop :=
  Lts.Allowed Window.after Window.DiscardsAt Window.boot es

/-- A window airs no text submitted in listen mode iff it discards them. -/
theorem Window.aired_iff (w : Window) : (∀ x ∈ w.aired, x.mode ≠ .listen) ↔ w.Discards := by
  unfold Window.aired Discards
  cases w.running with
  | false => simp
  | true =>
    cases hmode : w.mode with
    | listen => simp
    | terminal =>
      -- in terminal mode the window airs every text that fits
      constructor
      · intro h _ x hx hlisten hfits
        exact absurd hlisten (h x (List.mem_filter.mpr ⟨hx, hfits⟩))
      · intro h x hx hlisten
        obtain ⟨hmem, hfits⟩ := List.mem_filter.mp hx
        exact absurd (h rfl x hmem hlisten hfits) (by simp)

/-- No text submitted in listen mode is aired exactly if every event discards those. -/
theorem aired_texts_iff (es : List LoopEvent) :
    (∀ x ∈ airedTexts es, x.mode ≠ .listen) ↔ DiscardsListen es := by
  rw [airedTexts, Lts.forall_outputs_iff]
  apply Lts.allowed_congr
  intro w e
  cases e with
  | tick inp => exact Window.aired_iff _
  | decode r clock => exact iff_of_true nofun trivial

end

/-! ## The loop keeps to its windows -/

/-- The queue holds the texts of the window. -/
structure Window.Holds (w : Window) (c : Core) : Prop where
  running : c.running = w.running
  mode : c.mode = w.mode
  queue : c.txQueue = w.texts.map Submission.text

namespace Window.Holds

variable {w : Window} {c : Core}

/-- Commands extend the window as they do the queue. -/
theorem extend (h : w.Holds c) (commands : List Command) :
    (w.extend commands).Holds (commands.foldl Core.apply c) := by
  obtain ⟨hrunning, hmode, hqueue⟩ := h
  constructor
  · rw [Core.commanded_running, hrunning]
    rfl
  · rw [Core.commanded_mode, hmode]
    exact (modeAfter_append _ _ _).symm
  · have happend : (w.extend commands).texts = w.texts ++ submissions w.mode commands :=
      submissions_append _ _ _
    rw [Core.commanded_txQueue, hqueue, happend, List.map_append, submissions_text]

/-- A tick transmits what its window airs, and empties the queue if it is not paused. -/
theorem tick [Prost] (h : w.Holds c) (commands : List Command) :
    (w.extend commands).close.Holds (c.tick commands) ∧
      (c.tick commands).sent.map Prod.fst =
        c.sent.map Prod.fst ++ (w.extend commands).aired.map Submission.text := by
  obtain ⟨hrunning, hmode, hqueue⟩ := h.extend commands
  have hsent := Intent.sent_commanded c commands
  unfold Core.tick Window.close Window.aired
  simp only
  rw [hrunning]
  generalize w.extend commands = v at hrunning hmode hqueue ⊢
  generalize commands.foldl Core.apply c = d at hrunning hmode hqueue hsent ⊢
  cases hrun : v.running with
  | false =>
    -- a paused tick sends nothing
    simp only [Bool.false_eq_true, if_false, Bool.false_and, List.map_nil, List.append_nil]
    exact ⟨⟨hrunning, hmode, hqueue⟩, congrArg _ hsent⟩
  | true =>
    obtain ⟨_, _, hrebuild⟩ := d.rebuild_eq
    simp only [hrebuild, if_true, Bool.true_and]
    rw [hmode, hqueue, hsent]
    constructor
    · exact ⟨hrunning.trans hrun, rfl, rfl⟩
    · -- in listen mode the queue is cleared, else what fits goes out
      cases v.mode with
      | listen => simp
      | terminal => simp [List.filter_map, Function.comp_def]

end Window.Holds

/-! ## What the frames say -/

/-- The samples that were handed over for typed texts, as the bytes they modulate. -/
def manualFrames (calls : List DriverCall) : List (List UInt8) :=
  (aired calls).filterMap fun x => match x.1 with
    | .manual _ => some x.2.payload
    | _ => none

/-- Frames that carry the texts of their labels carry those of the ledger. -/
theorem forall₂_manualFrames [Prost] [Aes256] {calls : List DriverCall}
    (h : ∀ x ∈ aired calls, ∀ text, x.1 = .manual text → CarriesText x.2.payload text) :
    List.Forall₂ CarriesText (manualFrames calls) ((manualTexts calls).map Prod.fst) := by
  induction calls with
  | nil => exact .nil
  | cons c calls ih =>
    have htail := ih fun x hx => h x (by
      rw [aired, List.filterMap_cons]
      split
      · exact hx
      · exact List.mem_cons_of_mem _ hx)
    cases c with
    | pushSamples site iq =>
      cases site with
      | manual text =>
        -- a frame that carries a text is one that names its destination
        have hcarries : CarriesText iq.payload text :=
          h (.manual text, iq) List.mem_cons_self text rfl
        have ⟨frame, hframe, _⟩ := hcarries
        have htexts : manualTexts (.pushSamples (.manual text) iq :: calls) =
            (text, frame.header.toNode) :: manualTexts calls := by
          rw [manualTexts, List.filterMap_cons_some]
          · rfl
          · rw [DriverCall.manualText, hframe]
            rfl
        rw [htexts]
        exact .cons hcarries htail
      | _ => exact htail
    | _ => exact htail

section

variable [Arith] [Prost] [Aes256] [Features]

/-- In every run the frames that go out for typed texts carry the texts of the ledger. -/
theorem SimLoop.manualFrames_run {random : UInt32} {probed : Bool} {uhdOpen : Except String Unit}
    {es : List LoopEvent} {t : SimLoop}
    (hrun : Lts.Run SimLoop.Step (SimLoop.start (bootView random probed) uhdOpen) es t) :
    List.Forall₂ CarriesText (manualFrames t.calls) ((manualTexts t.calls).map Prod.fst) :=
  forall₂_manualFrames fun x hx text hsite => SimLoop.carriesText_run hrun x hx text (.inl hsite)

end

section

variable [Arith] [Prost] [Features]

/-- The windows of some events hold what the loop has waiting, and air what it has sent. -/
private structure Tracks (es : List LoopEvent) (t : SimLoop) : Prop where
  holds : (es.foldl Window.after Window.boot).Holds t.core
  sent : t.core.sent.map Prod.fst = (airedTexts es).map Submission.text

/-- At the start the first window holds what is waiting, which is nothing. -/
private theorem tracks_start (random : UInt32) (probed : Bool) (uhdOpen : Except String Unit) :
    Tracks [] (SimLoop.start (bootView random probed) uhdOpen) := by
  constructor
  · rw [SimLoop.core_start]
    exact ⟨rfl, rfl, rfl⟩
  · rw [SimLoop.core_start]
    rfl

variable [Aes256]

/-- A step leaves the queue to its window, and airs what the window airs. -/
private theorem tracks_step {es : List LoopEvent} {s t : SimLoop} {e : LoopEvent}
    (h : Tracks es s) (hstep : s.Step e t) : Tracks (es ++ [e]) t := by
  obtain ⟨hholds, hsent⟩ := h
  rcases SimLoop.step_cases hstep with
    ⟨inp, rfl, -, rfl⟩ | ⟨sf, txAllowed, r, clock, rfl, -, rfl⟩
  · obtain ⟨hholds', hsent'⟩ := hholds.tick inp.commands
    constructor
    · rw [List.foldl_append, SimLoop.core_tick]
      exact hholds'
    · rw [airedTexts, Lts.outputs_concat, SimLoop.core_tick, hsent', hsent, List.map_append]
      rfl
  · -- a decoded payload neither sends a text nor queues one
    obtain ⟨node, hcore⟩ := SimLoop.core_decode_node s sf txAllowed clock r
    constructor
    · rw [List.foldl_append, hcore]
      exact ⟨hholds.running, hholds.mode, hholds.queue⟩
    · rw [airedTexts, Lts.outputs_concat, hcore]
      exact hsent.trans (congrArg _ (List.append_nil _).symm)

/-- In every run the texts handed to the driver because of `SendText` are, in order, those of
    `airedTexts`, and these are what the frames carry; and none of these was submitted in listen
    mode if and only if every event discards what was. -/
theorem listen_texts_stay_off_air_iff {random : UInt32} {probed : Bool}
    {uhdOpen : Except String Unit} {es : List LoopEvent} {t : SimLoop}
    (hrun : Lts.Run SimLoop.Step (SimLoop.start (bootView random probed) uhdOpen) es t) :
    (manualTexts t.calls).map Prod.fst = (airedTexts es).map Submission.text ∧
      List.Forall₂ CarriesText (manualFrames t.calls) ((airedTexts es).map Submission.text) ∧
      ((∀ x ∈ airedTexts es, x.mode ≠ .listen) ↔ DiscardsListen es) := by
  have htracks := hrun.history_invariant (tracks_start random probed uhdOpen)
    fun _ _ _ _ h hstep => tracks_step h hstep
  have hframes := SimLoop.manualFrames_run hrun
  rw [show (manualTexts t.calls).map Prod.fst = _ from htracks.sent] at hframes
  exact ⟨htracks.sent, hframes, aired_texts_iff es⟩

end

section

open Samples

/-- The mode changes after the text was submitted, before the tick is over. -/
theorem late_mode_change_airs : ∃ (es : List LoopEvent) (t : SimLoop),
    Lts.Run SimLoop.Step (Samples.boot 1) es t ∧
      airedTexts es = [{ text := "hi", mode := .listen }] ∧
      (manualTexts t.calls).map Prod.fst = ["hi"] := by
  obtain ⟨inp, hinp, hcmds⟩ := exists_tick [.sendText "hi", .setMode .terminal]
  have haired : airedTexts [.tick inp] = [{ text := "hi", mode := .listen }] := by
    rw [← hinp]
    decide
  have hcore : ((Samples.boot 1).tick inp).core.sent = [("hi", broadcast)] := by
    rw [SimLoop.core_tick, hcmds, Samples.boot, SimLoop.core_start]
    decide
  exact ⟨_, _, Lts.Run.single (SimLoop.step_tick rfl), haired, congrArg (List.map Prod.fst) hcore⟩

/-- Without that change nothing goes out. -/
theorem listen_texts_stay_off_air_iff_sample : ∃ (es : List LoopEvent) (t : SimLoop),
    Lts.Run SimLoop.Step (Samples.boot 1) es t ∧ ∀ x ∈ airedTexts es, x.mode ≠ .listen := by
  have hdiscards : DiscardsListen [tick [.sendText "hi"]] := ⟨fun _ _ _ _ _ => rfl, trivial⟩
  have hrun : Lts.Run SimLoop.Step (Samples.boot 1) [tick [.sendText "hi"]] _ :=
    Lts.Run.single (SimLoop.step_tick rfl)
  exact ⟨_, _, hrun, (listen_texts_stay_off_air_iff hrun).2.2.mpr hdiscards⟩

end

/-! ## Terminal mode -/

/-- The texts an event submits. -/
def LoopEvent.submitted : LoopEvent → List String
  | tick inp => inp.commands.filterMap Command.submitted
  | decode _ _ => []

/-- The event applies a `ResetStats`. -/
def LoopEvent.resets : LoopEvent → Bool
  | tick inp => decide (Command.resetStats ∈ inp.commands)
  | decode _ _ => false

/-- All texts submitted so far. -/
def submittedTexts (labels : List (LoopEvent × List TxSite)) : List String :=
  labels.flatMap fun l => l.1.submitted

/-- The text frames transmitted since the last `ResetStats`, typed and automatic. A tick
    applies its commands before it transmits. -/
def textsSinceReset (labels : List (LoopEvent × List TxSite)) : Nat :=
  labels.foldl (fun n l => (if l.1.resets then 0 else n) + l.2.countP TxSite.isText) 0

/-- The texts of the last event come last. -/
theorem submittedTexts_concat (labels : List (LoopEvent × List TxSite))
    (l : LoopEvent × List TxSite) :
    submittedTexts (labels ++ [l]) = submittedTexts labels ++ l.1.submitted := by
  rw [submittedTexts, List.flatMap_append, List.flatMap_singleton]
  rfl

/-- A reset forgets the texts before it. -/
theorem textsSinceReset_concat (labels : List (LoopEvent × List TxSite))
    (l : LoopEvent × List TxSite) : textsSinceReset (labels ++ [l]) =
      (if l.1.resets then 0 else textsSinceReset labels) + l.2.countP TxSite.isText :=
  List.foldl_concat _ _ _ _

namespace SimLoop

/-- If the event is a tick that is not paused, it sees terminal mode. -/
def SeesTerminal (s : SimLoop) : LoopEvent → Prop
  | .tick inp => (s.drainCommands inp.commands).vm.running = true →
      (s.drainCommands inp.commands).vm.mode = .terminal
  | .decode _ _ => True

/-- What `ResetStats` sets and no other command touches. -/
theorem reset_drainCommands {β : Type} {read : ViewModel → β} {zero : β}
    (hreset : ∀ vm, read (Command.resetStats.apply vm) = zero)
    (hkeep : ∀ (vm : ViewModel) (cmd : Command), cmd ≠ .resetStats → read (cmd.apply vm) = read vm)
    (s : SimLoop) (commands : List Command) : read (s.drainCommands commands).vm =
      if Command.resetStats ∈ commands then zero else read s.vm := by
  induction commands generalizing s with
  | nil => rfl
  | cons cmd commands ih =>
    refine (ih { s with vm := cmd.apply s.vm }).trans ?_
    -- the last reset decides, whatever came before it
    by_cases hmem : Command.resetStats ∈ commands
    · rw [if_pos hmem, if_pos (List.mem_cons_of_mem _ hmem)]
    · rw [if_neg hmem]
      by_cases hcmd : cmd = .resetStats
      · rw [hcmd, if_pos List.mem_cons_self]
        exact hreset s.vm
      · have hcons : Command.resetStats ∉ cmd :: commands := by
          rw [List.mem_cons, not_or]
          exact ⟨fun h => hcmd h.symm, hmem⟩
        rw [if_neg hcons]
        exact hkeep s.vm cmd hcmd

/-- The log and the counters, which start over together. -/
theorem stats_apply {vm : ViewModel} {cmd : Command} (hcmd : cmd ≠ .resetStats) :
    ((cmd.apply vm).log, (cmd.apply vm).txCount, (cmd.apply vm).rxCount) =
      (vm.log, vm.txCount, vm.rxCount) := by
  cases cmd <;> first | rfl | exact absurd rfl hcmd

/-- Commands reset the counter or leave it alone. -/
theorem txCount_drainCommands (s : SimLoop) (commands : List Command) :
    (s.drainCommands commands).vm.txCount =
      if Command.resetStats ∈ commands then 0 else s.vm.txCount :=
  reset_drainCommands (fun _ => rfl)
    (fun _ _ hcmd => congrArg (fun stats => stats.2.1) (stats_apply hcmd)) s commands

section

variable [Arith] [Prost] [Aes256] [Features]

/-- A step, labelled with its event and the transmissions it makes. -/
def Airs (s : SimLoop) (l : LoopEvent × List TxSite) (t : SimLoop) : Prop :=
  s.Step l.1 t ∧ pushed t.calls = pushed s.calls ++ l.2

/-- The counter after a step. -/
theorem txCount_airs {s t : SimLoop} {l : LoopEvent × List TxSite} (h : s.Airs l t) :
    t.vm.txCount = (if l.1.resets then 0 else s.vm.txCount) +
      UInt64.ofNat (l.2.countP TxSite.isText) := by
  obtain ⟨e, sites⟩ := l
  obtain ⟨hstep, hpushed⟩ := h
  rcases step_cases hstep with ⟨inp, rfl, -, rfl⟩ | ⟨sf, txAllowed, r, clock, rfl, -, rfl⟩
  · have hreset := txCount_drainCommands s inp.commands
    -- what a tick transmits is transmitted after its commands
    have htick : ∃ sites', (s.drainCommands inp.commands).Emits sites' (s.tick inp) := by
      cases hrun : (s.drainCommands inp.commands).vm.running with
      | true =>
        obtain ⟨n, autos, hemits, -⟩ := emits_tick hrun
        exact ⟨_, hemits⟩
      | false => exact ⟨[], tick_paused hrun ▸ .refl _⟩
    obtain ⟨sites', hpushed', hcounted, -⟩ := htick
    have hsites : sites = sites' := List.append_cancel_left (hpushed.symm.trans hpushed')
    rw [hcounted, hreset, hsites]
    simp only [LoopEvent.resets, decide_eq_true_eq]
  · obtain ⟨sites', ⟨hpushed', hcounted, -⟩, -⟩ := emits_decode s sf txAllowed clock r
    have hsites : sites = sites' := List.append_cancel_left (hpushed.symm.trans hpushed')
    rw [hcounted, hsites]
    rfl

omit [Arith] [Aes256] [Features] in
/-- A tick that does not see listen mode moves texts from the queue to the air, and leaves
    none waiting unless it is paused. -/
theorem tick_terminal {c : Core} {commands : List Command}
    (h : (commands.foldl Core.apply c).running = true →
      (commands.foldl Core.apply c).mode = .terminal) :
    (c.tick commands).sent.map Prod.fst ++ (c.tick commands).txQueue.filter fits =
        c.sent.map Prod.fst ++ c.txQueue.filter fits ++
          (commands.filterMap Command.submitted).filter fits ∧
      ((c.tick commands).running = true → (c.tick commands).txQueue = []) := by
  have hsent := Intent.sent_commanded c commands
  have hqueue := Core.commanded_txQueue c commands
  unfold Core.tick
  simp only
  generalize commands.foldl Core.apply c = d at h hsent hqueue ⊢
  cases hrun : d.running with
  | false =>
    -- paused: everything submitted waits
    simp only [Bool.false_eq_true, if_false]
    rw [hsent, hqueue, List.filter_append, List.append_assoc]
    exact ⟨rfl, fun hd => nomatch hrun.symm.trans hd⟩
  | true =>
    obtain ⟨_, _, hrebuild⟩ := d.rebuild_eq
    simp only [hrebuild, if_true]
    rw [h hrun, hqueue, hsent]
    constructor
    · simp [Function.comp_def]
    · simp

/-- What was submitted is on the air or waiting; the counter counts what is on the air. -/
private structure Balance (labels : List (LoopEvent × List TxSite)) (t : SimLoop) : Prop where
  texts : t.core.sent.map Prod.fst ++ t.core.txQueue.filter fits =
    (submittedTexts labels).filter fits
  waiting : t.core.running = true → t.core.txQueue = []
  counted : t.vm.txCount = UInt64.ofNat (textsSinceReset labels)

omit [Aes256] in
/-- At the start nothing was submitted. -/
private theorem balance_start (random : UInt32) (probed : Bool) (uhdOpen : Except String Unit) :
    Balance [] (start (bootView random probed) uhdOpen) := by
  constructor
  · rw [core_start]
    rfl
  · rw [core_start]
    exact fun _ => rfl
  · obtain ⟨_, _, hstart⟩ := vm_start (bootView random probed) uhdOpen
    rw [hstart]
    cases probed <;> rfl

/-- A step that sees terminal mode loses no text. -/
private theorem balance_step {labels : List (LoopEvent × List TxSite)} {s t : SimLoop}
    {l : LoopEvent × List TxSite} (h : Balance labels s) (hstep : s.Airs l t)
    (hterminal : s.SeesTerminal l.1) : Balance (labels ++ [l]) t := by
  obtain ⟨htexts, hwaiting, hcounted⟩ := h
  have hcounted' : t.vm.txCount = UInt64.ofNat (textsSinceReset (labels ++ [l])) := by
    rw [txCount_airs hstep, hcounted, textsSinceReset_concat, UInt64.ofNat_add]
    split <;> rfl
  obtain ⟨e, sites⟩ := l
  rcases step_cases hstep.1 with ⟨inp, rfl, -, rfl⟩ | ⟨sf, txAllowed, r, clock, rfl, -, rfl⟩
  · have hdrain := core_drainCommands s inp.commands
    have hsees : (inp.commands.foldl Core.apply s.core).running = true →
        (inp.commands.foldl Core.apply s.core).mode = .terminal := by
      rw [← hdrain]
      exact hterminal
    obtain ⟨htick, hidle⟩ := tick_terminal hsees
    refine ⟨?_, ?_, hcounted'⟩
    · rw [core_tick, htick, htexts, submittedTexts_concat, List.filter_append]
      rfl
    · rw [core_tick]
      exact hidle
  · -- a decoded payload neither sends a text nor queues one
    obtain ⟨node, hcore⟩ := core_decode_node s sf txAllowed clock r
    refine ⟨?_, ?_, hcounted'⟩
    · rw [hcore, submittedTexts_concat]
      exact htexts.trans (congrArg _ (List.append_nil _).symm)
    · rw [hcore]
      exact hwaiting

end

end SimLoop

section

variable [Arith] [Prost] [Aes256] [Features]

/-- In every run whose iterations see terminal mode unless they are paused: at every moment
    after one that was not, the frames handed to the driver because of `SendText` carry all
    the texts submitted that fit, once each and in order, and the counter is the number of text
    frames, typed and automatic, since the last `ResetStats`. -/
theorem texts_once_and_counted {random : UInt32} {probed : Bool} {uhdOpen : Except String Unit}
    {labels : List (LoopEvent × List TxSite)} {t : SimLoop}
    (hrun : Lts.Run (fun a l b => SimLoop.Airs a l b ∧ a.SeesTerminal l.1)
      (SimLoop.start (bootView random probed) uhdOpen) labels t)
    (hunpaused : t.vm.running = true) :
    List.Forall₂ CarriesText (manualFrames t.calls) ((submittedTexts labels).filter SimLoop.fits) ∧
      t.vm.txCount = UInt64.ofNat (textsSinceReset labels) := by
  obtain ⟨htexts, hwaiting, hcounted⟩ := hrun.history_invariant
    (SimLoop.balance_start random probed uhdOpen)
    fun _ _ _ _ h hstep => SimLoop.balance_step h hstep.1 hstep.2
  refine ⟨?_, hcounted⟩
  rw [hwaiting hunpaused, List.filter_nil, List.append_nil] at htexts
  -- the labels say how much was handed over, the frames what
  have hframes := SimLoop.manualFrames_run (hrun.map_label fun _ _ _ h => h.1.1)
  rw [show (manualTexts t.calls).map Prod.fst = _ from htexts] at hframes
  exact hframes

end

section

open Samples

/-- One text, submitted in terminal mode. -/
theorem texts_once_and_counted_sample : ∃ (labels : List (LoopEvent × List TxSite)) (t : SimLoop),
    List.Forall₂ CarriesText (manualFrames t.calls) ["hi"] ∧
      t.vm.txCount = UInt64.ofNat (textsSinceReset labels) := by
  obtain ⟨inp, -, hcmds⟩ := exists_tick [.setMode .terminal, .sendText "hi"]
  have hrunning : ((Samples.boot 1).drainCommands inp.commands).vm.running = true := by
    rw [hcmds]
    rfl
  -- the iteration that sends the text has just been put into terminal mode
  have hterminal : (Samples.boot 1).SeesTerminal (.tick inp) := by
    rw [SimLoop.SeesTerminal, hcmds]
    exact fun _ => rfl
  obtain ⟨n, autos, hemits, -⟩ := SimLoop.emits_tick hrunning
  have hunpaused : ((Samples.boot 1).tick inp).vm.running = true := by
    have hcore := congrArg Core.running (SimLoop.core_tick (Samples.boot 1) inp)
    rw [hcmds, Samples.boot, SimLoop.core_start] at hcore
    exact hcore
  have hrun : Lts.Run (fun a l b => SimLoop.Airs a l b ∧ a.SeesTerminal l.1) (Samples.boot 1)
      [(.tick inp, _)] ((Samples.boot 1).tick inp) :=
    Lts.Run.single ⟨⟨SimLoop.step_tick rfl, hemits.pushed_eq⟩, hterminal⟩
  obtain ⟨htexts, hcount⟩ := texts_once_and_counted hrun hunpaused
  have hfits : ∀ sites : List TxSite,
      (submittedTexts [(LoopEvent.tick inp, sites)]).filter SimLoop.fits = ["hi"] := by
    intro sites
    rw [submittedTexts, List.flatMap_singleton, LoopEvent.submitted, hcmds]
    decide
  rw [hfits] at htexts
  exact ⟨_, _, htexts, hcount⟩

end

end Mesh
