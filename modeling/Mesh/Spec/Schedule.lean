import Mesh.Spec.Rig

/-!
# The schedule of automatic messages

What the loop paces its automatic messages by is written in four places: at start-up,
by the driver rebuild, when the interval changes, and by the automatic message itself.
All other phases leave it alone, but for the driver's tick, which counts.

## Key results

- `SimLoop.tick_eq_autoTx`: an iteration as what it does up to the automatic message, that
  message, and the driver's tick
- `SimLoop.txClock_decode`: the decode loop
-/

namespace Mesh

open Ieee (F32 F64 Arith)

/-- The sample counter, the deadline, and the interval it was last set by. -/
structure TxClock where
  produced : UInt64
  nextTxAt : UInt64
  prevIntervalMs : UInt64

namespace SimLoop

/-- The schedule of a state. -/
def txClock (s : SimLoop) : TxClock where
  produced := s.produced
  nextTxAt := s.nextTxAt
  prevIntervalMs := s.prevIntervalMs

/-! ## Phases that leave the schedule alone -/

theorem txClock_rebuildNode (s : SimLoop) (now : String) :
    (s.rebuildNode now).txClock = s.txClock := by
  unfold rebuildNode
  split <;> rfl

/-- A node rebuild leaves a pending driver rebuild pending. -/
theorem rebuildDriver_rebuildNode (s : SimLoop) (now : String) :
    (s.rebuildNode now).vm.rebuildDriver = s.vm.rebuildDriver := by
  unfold rebuildNode
  split <;> rfl

/-- Settings other than the interval are not in the schedule. -/
theorem txClock_applyParams [Arith] (s : SimLoop) (sf : UInt8) :
    (s.applyParams sf).txClock = s.txClock :=
  applyParams_keeps (P := fun t => t.txClock = s.txClock) rfl (fun _ _ _ ht => ht)
    (fun _ _ _ ht => ht) (fun _ _ _ _ ht => ht) sf

section

variable [Prost] [Aes256]

/-- The beacon has a deadline of its own. -/
theorem txClock_sendBeacon (s : SimLoop) (random : UInt32) (txAllowed : Bool) :
    (s.sendBeacon random txAllowed).txClock = s.txClock :=
  sendBeacon_keeps (P := fun t => t.txClock = s.txClock) rfl (fun _ _ ht => ht)
    (fun _ _ ht => ht) (fun _ _ ht => ht) random txAllowed

theorem txClock_sendText (s : SimLoop) (site : TxSite) (o : Oracle) (txDest : UInt32)
    (text : String) : (s.sendText site o txDest text).txClock = s.txClock := by
  unfold sendText
  split <;> rfl

theorem txClock_sendTexts (s : SimLoop) (oracle : Nat → Oracle) (txDest : UInt32) (i : Nat)
    (texts : List String) : (s.sendTexts oracle txDest i texts).txClock = s.txClock := by
  induction texts generalizing s i with
  | nil => rfl
  | cons text rest ih =>
    rw [sendTexts, ih]
    exact txClock_sendText s _ _ txDest text

theorem txClock_manualTx (s : SimLoop) (oracle : Nat → Oracle) (txAllowed : Bool)
    (txDest : UInt32) : (s.manualTx oracle txAllowed txDest).txClock = s.txClock := by
  unfold manualTx
  cases txAllowed with
  | true => exact txClock_sendTexts _ oracle txDest 0 s.vm.txQueue
  | false => rfl

end

theorem txClock_relay (s : SimLoop) (site : TxSite) (txAllowed : Bool) (now : String)
    (fwd : MeshFrame) : (s.relay site txAllowed now fwd).txClock = s.txClock := by
  unfold relay
  split <;> rfl

section

variable [Arith] [Prost] [Aes256]

theorem txClock_receive (s : SimLoop) (txAllowed : Bool) (payload : List UInt8) (offHz : F64)
    (clock : RxClock) : (s.receive txAllowed payload offHz clock).txClock = s.txClock := by
  unfold receive
  -- an error, or a message or none with a frame to relay or none
  rcases s.node.processRxFrame payload with ⟨err | ⟨_ | msg, _ | fwd⟩, node⟩
  · rfl
  · rfl
  · exact txClock_relay _ _ _ _ _
  · rfl
  · exact txClock_relay _ _ _ _ _

/-- The decode loop leaves the schedule alone. -/
theorem txClock_decode (s : SimLoop) (sf : UInt8) (txAllowed : Bool) (clock : RxClock)
    (r : StreamDecodeResult) : (s.decode sf txAllowed clock r).txClock = s.txClock := by
  cases r with
  | ok payload bins => exact txClock_receive s txAllowed payload _ clock
  | crcFail len cr hasCrc bins => rfl
  | decodeFailed => rfl
  | none => rfl

/-! ## The driver rebuild -/

variable [Features]

omit [Arith] [Prost] [Aes256] [Features] in
/-- The commands of the iteration leave it a driver to rebuild. -/
def Rebuilds (s : SimLoop) (inp : TickInput) : Prop :=
  (s.drainCommands inp.commands).vm.rebuildDriver = true

omit [Prost] [Aes256] in
/-- A driver rebuild sets the deadline anew. -/
theorem nextTxAt_rebuilt {s : SimLoop} {inp : TickInput} (h : s.Rebuilds inp) :
    (s.rebuilt inp).nextTxAt = srHz := by
  have hflag := rebuildDriver_rebuildNode (s.drainCommands inp.commands) inp.rebuildNow
  rw [rebuilt, rebuildDriver, if_pos (hflag.trans h)]

omit [Prost] [Aes256] in
/-- Without one the schedule stays. -/
theorem txClock_rebuilt {s : SimLoop} {inp : TickInput} (h : ¬ s.Rebuilds inp) :
    (s.rebuilt inp).txClock = s.txClock := by
  have hflag := rebuildDriver_rebuildNode (s.drainCommands inp.commands) inp.rebuildNow
  rw [rebuilt, rebuildDriver, if_neg (hflag ▸ h), txClock_rebuildNode]
  rfl

/-! ## One iteration -/

omit [Arith] [Prost] [Aes256] [Features] in
/-- The gates of the automatic message. -/
def autoDue (s : SimLoop) (txAllowed : Bool) : Bool :=
  txAllowed && s.vm.autoTx && decide (s.produced ≥ s.nextTxAt)

omit [Arith] [Features] in
/-- An automatic message moves the deadline one interval ahead. -/
theorem txClock_autoTx (s : SimLoop) (o : Oracle) (txAllowed : Bool) (txDest : UInt32)
    (intervalSamples : UInt64) :
    (s.autoTx o txAllowed txDest intervalSamples).txClock =
      if s.autoDue txAllowed then { s.txClock with nextTxAt := s.produced + intervalSamples }
      else s.txClock := by
  unfold autoTx
  rw [← autoDue]
  split
  · exact txClock_sendText _ _ o txDest _
  · rfl

omit [Arith] [Features] in
/-- Automatic messages produce no samples by themselves. -/
theorem produced_autoTx (s : SimLoop) (o : Oracle) (txAllowed : Bool) (txDest : UInt32)
    (intervalSamples : UInt64) :
    (s.autoTx o txAllowed txDest intervalSamples).produced = s.produced := by
  refine (congrArg TxClock.produced (txClock_autoTx s o txAllowed txDest intervalSamples)).trans ?_
  split <;> rfl

/-- An unpaused iteration up to the automatic message. -/
def manualSent (s : SimLoop) (inp : TickInput) : SimLoop :=
  let r := s.rebuilt inp
  let t := (r.clampNextTx r.vm.intervalSamples).applyParams r.vm.sf
  let txAllowed := t.vm.mode != .listen
  let t := t.sendBeacon inp.beacon txAllowed
  t.manualTx inp.manual txAllowed t.vm.txDest

/-- Up to there the interval alone bears on the schedule. -/
theorem txClock_manualSent (s : SimLoop) (inp : TickInput) :
    (s.manualSent inp).txClock =
      ((s.rebuilt inp).clampNextTx (s.rebuilt inp).vm.intervalSamples).txClock := by
  rw [manualSent, txClock_manualTx, txClock_sendBeacon, txClock_applyParams]

/-- The interval step does not count. -/
theorem produced_manualSent (s : SimLoop) (inp : TickInput) :
    (s.manualSent inp).produced = (s.rebuilt inp).produced := by
  refine (congrArg TxClock.produced (txClock_manualSent s inp)).trans ?_
  show (clampNextTx _ _).produced = _
  unfold clampNextTx
  split <;> rfl

/-- What is sent before the automatic message leaves settings and devices alone. -/
theorem rig_manualSent (s : SimLoop) (inp : TickInput) :
    (s.manualSent inp).rig = (s.rebuilt inp).rig := by
  have hlasting := lasting_rig (s.rebuilt inp).rig
  apply hlasting.manualTx
  apply hlasting.sendBeacon
  exact (rig_applyParams _ _).trans (rig_clampNextTx _ _)

/-- The switch of the automatic messages is as the commands left it. -/
theorem autoTx_manualSent (s : SimLoop) (inp : TickInput) :
    (s.manualSent inp).vm.autoTx = (s.drainCommands inp.commands).vm.autoTx := by
  have hauto : Untouched ViewModel.autoTx := fun _ _ _ _ _ => rfl
  rw [hauto.of_rig (rig_manualSent s inp), hauto.rebuilt]

/-- What is left then are the automatic message and the driver's tick. -/
theorem tick_eq_autoTx {s : SimLoop} {inp : TickInput}
    (h : (s.drainCommands inp.commands).vm.running = true) :
    ∃ txDest, s.tick inp =
      { ((s.manualSent inp).autoTx inp.auto ((s.drainCommands inp.commands).vm.mode != .listen)
          txDest (s.rebuilt inp).vm.intervalSamples).tickDriver inp.mixedLen inp.spectra with
        phase := .rx (s.drainCommands inp.commands).vm.sf
          ((s.drainCommands inp.commands).vm.mode != .listen) } := by
  -- the gate and the modem of the rest of the iteration are those the commands left
  have hmode : Untouched ViewModel.mode := fun _ _ _ _ _ => rfl
  have hsf : Untouched ViewModel.sf := fun _ _ _ _ _ => rfl
  have hparams : (((s.rebuilt inp).clampNextTx (s.rebuilt inp).vm.intervalSamples).applyParams
      (s.rebuilt inp).vm.sf).vm.mode = (s.drainCommands inp.commands).vm.mode := by
    rw [hmode.of_rig ((rig_applyParams _ _).trans (rig_clampNextTx _ _)), hmode.rebuilt]
  rw [← hparams, ← hsf.rebuilt s inp, tick, if_pos h]
  exact ⟨_, rfl⟩

end

end SimLoop

end Mesh
