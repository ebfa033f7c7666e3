import Mesh.Native.ProtoWs
import Mesh.Native.Radio
import Mesh.Native.View

/-!
# The combined binary (`bin/mesh.rs`)

The radio loop, the desktop window and the web clients share one view-model and one
command channel. The loop takes commands off the channel one at a time before an
iteration, which then finds none left to drain; a frame of the window runs at any
moment between two steps of the loop. Snapshots change nothing, so they are no
events: `Station.snapshot` is one that is read between two steps. One that is read while
the loop takes a step can hold older and newer fields (`Snapshot.read`, `Site`).
-/

namespace Mesh

open Ieee (Arith)

/-- The parties, the shared view-model being the loop's. -/
structure Station where
  radio : SimLoop
  app : MeshSimApp
  channel : List Command

/-- What happens next. -/
inductive StationEvent
  /-- A web client sends a command. -/
  | client (cmd : Command)
  /-- The loop takes a command off the channel. -/
  | apply
  /-- The loop goes on with an iteration, once it has stopped taking commands. -/
  | tick (inp : TickInput)
  | decode (r : StreamDecodeResult) (clock : RxClock)
  /-- A frame of the desktop window. -/
  | frame (gestures : List Gesture)

namespace Station

/-- The snapshot a client gets if all of it is read in this state. -/
def snapshot (s : Station) : Snapshot := Snapshot.fromView s.radio.vm

/-- One step of one party. -/
def step [Arith] [Prost] [Aes256] [Features] (s : Station) : StationEvent → Option Station
  | .client cmd => some { s with channel := s.channel ++ [cmd] }
  | .apply =>
    -- the decode loop of an iteration takes no commands
    match s.radio.phase, s.channel with
    | .top, cmd :: rest => some { s with radio := s.radio.drainCommands [cmd], channel := rest }
    | _, _ => none
  | .tick inp =>
    if inp.commands = [] then
      (s.radio.step (.tick inp)).map fun radio => { s with radio }
    else none
  | .decode r clock => (s.radio.step (.decode r clock)).map fun radio => { s with radio }
  | .frame gestures =>
    let (app, vm, cmds) := s.app.update s.radio.vm gestures
    some { radio := { s.radio with vm }, app, channel := s.channel ++ cmds }

/-- The parties as `main` starts them; `early` is whether the window opens before the loop
    has opened its driver. -/
def start [Arith] [Features] (random : UInt32) (probed : Bool) (uhdOpen : Except String Unit)
    (early : Bool) : Station :=
  let radio := SimLoop.start (bootView random probed) uhdOpen
  let (app, cmds) := MeshSimApp.new (if early then bootView random probed else radio.vm)
  { radio, app, channel := cmds }

end Station

end Mesh
