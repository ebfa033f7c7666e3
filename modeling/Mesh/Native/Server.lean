import Mathlib.Logic.Function.Basic
import Mesh.Native.Station

/-!
# Web clients (`server.rs`, `bin/mesh_web.rs`)

The server and the page at the other end of one WebSocket: `Page` is what `start` runs in
the browser, `Conn` is `handle_socket` with the texts underway in both directions, and a
peer is a page or some other program, each step of which may come between any two steps of
the others. `Site` puts any number of peers beside the station.

The server reads a snapshot field by field beside the running loop. A reading therefore has a
beginning and an end, with any steps of the others in between, and each field is read at some
moment of it. Moments are as fine as the stages of an iteration: `Display` lists all
view-models that were on display, also those in the middle of a step of the loop. Whatever
happens during a step, a frame of the window for one, is taken to come after it, so a reading
that begins then may see what was on display before the step.

A socket that fails hands on nothing more, and the texts underway stay where they are.
Messages without text change nothing on either side and are left out, as is what the page
writes to its console.
-/

namespace Mesh

open Ieee (Arith)

/-! ## The page -/

/-- The web page: a mirror of the server's view-model, the view once it is up, the commands
    its writer has not sent yet, and whether the writer runs. -/
structure Page where
  vm : ViewModel
  app : Option MeshSimApp
  cmdRx : List Command
  writing : Bool

namespace Page

/-- The page before it is connected. Without a socket there is no writer. -/
def load [Arith] (random : UInt32) (opened : Bool) : Page where
  vm := ViewModel.new random
  app := none
  cmdRx := []
  writing := opened

/-- The reader: a snapshot is mirrored, everything else is ignored. -/
def read [SerdeJson] (self : Page) (text : String) : Page :=
  match ServerMsg.fromStr text with
  | some (.snapshot snap) => { self with vm := snap.apply self.vm }
  | some (.logAppend _) => self
  | some (.error _) => self
  | none => self

variable [Arith]

omit [Arith] in
/-- The view sends commands to the writer; without one they are dropped. -/
def issue (self : Page) (cmds : List Command) : Page :=
  { self with cmdRx := if self.writing then self.cmdRx ++ cmds else self.cmdRx }

/-- The egui canvas comes up, with the mirror as it is then. -/
def boot (self : Page) : Page × List Command :=
  let (app, cmds) := MeshSimApp.new self.vm
  ({ self with app := some app }.issue cmds, cmds)

/-- A frame of the view. -/
def frame (self : Page) (app : MeshSimApp) (gestures : List Gesture) : Page × List Command :=
  let (app, vm, cmds) := app.update self.vm gestures
  ({ self with vm, app := some app }.issue cmds, cmds)

omit [Arith] in
/-- The writer ends, and drops the command that it has taken and the channel with the others. -/
def hangUp (self : Page) : Page := { self with cmdRx := [], writing := false }

end Page

/-! ## The display -/

/-- The view-models that were on display before the current one, and the first of these that
    was when the last step of the loop began. -/
structure Display where
  past : List ViewModel
  since : Nat
  since_le : since ≤ past.length

namespace Display

/-- The start-up of the loop, which may not be over when the first reading begins. -/
def start (past : List ViewModel) : Display where
  past := past
  since := 0
  since_le := Nat.zero_le _

/-- All view-models on display so far. -/
def views (self : Display) (now : ViewModel) : List ViewModel := self.past ++ [now]

/-- The view-model some moments after another one, or the current one. -/
def moment (self : Display) (now : ViewModel) (first k : Nat) : ViewModel :=
  (self.views now).getD (first + k) now

/-- The loop takes a step, in the middle of which others are on display than `now`. -/
def step (self : Display) (now : ViewModel) (middle : List ViewModel) : Display where
  past := self.views now ++ middle
  since := self.past.length
  since_le := by simp only [views, List.length_append]; omega

/-- Something other than the loop writes to the view-model. -/
def write (self : Display) (now : ViewModel) : Display where
  past := self.views now
  since := self.since
  since_le := by simp only [views, List.length_append]; exact Nat.le_add_right_of_le self.since_le

end Display

/-! ## The connection -/

/-- Where `handle_socket` stands. -/
inductive Handler
  /-- The first snapshot is not sent yet. -/
  | connected
  | looping
  | ended
deriving DecidableEq

/-- The connection of one client: the handler, and the texts underway. -/
structure Conn where
  handler : Handler
  /-- While a snapshot is read: the first view-model that the reading may see. -/
  reading : Option Nat
  /-- Texts underway to the server. -/
  up : List String
  /-- Texts underway to the client. -/
  down : List String
deriving DecidableEq

namespace Conn

/-- A client has just connected. -/
def accept : Conn where
  handler := .connected
  reading := none
  up := []
  down := []

variable [SerdeJson]

/-- The message is on its way to the client. -/
def sendMsg (self : Conn) (msg : ServerMsg) : Conn :=
  { self with down := self.down ++ [msg.toText] }

/-- A snapshot has been read, the first of which starts the loop. -/
def snapshot (self : Conn) (snap : Snapshot) : Conn :=
  { self with handler := .looping, reading := none }.sendMsg (.snapshot snap)

/-- An incoming text, `err` being the reader's error: the commands for the radio loop. -/
def recv (self : Conn) (text err : String) : Conn × List Command :=
  match Command.fromStr text with
  | some cmd => (self, [cmd])
  | none => (self.sendMsg (.error err), [])

end Conn

/-! ## One peer -/

/-- Whoever connects: a page, unless it is some other program. -/
structure Peer where
  page : Option Page
  conn : Option Conn

/-- What happens next at one peer or to its connection. -/
inductive PeerEvent
  /-- The page is loaded; `opened` is whether `WebSocket::open` succeeds. -/
  | load (random : UInt32) (opened : Bool)
  | boot
  | frame (gestures : List Gesture)
  | accept
  /-- The writer sends the next command. -/
  | write
  /-- The writer's send of the next command fails. -/
  | hangUp
  /-- A program that is no page sends any text. -/
  | send (text : String)
  /-- The server begins to read a snapshot: on connect, or as its interval ticks. -/
  | begin
  /-- It has read the fields, each at its moment, and sends the snapshot. -/
  | snapshot (moments : Nat → Nat)
  /-- The server reads a text. -/
  | recv (err : String)
  /-- The server's handler ends: the client closed, or a send failed. -/
  | finish
  /-- The client reads a text. -/
  | read

namespace Peer

/-- Nobody is there yet. -/
def absent : Peer where
  page := none
  conn := none

variable [Arith] [SerdeJson]

/-- One step at a peer, `now` being the server's view-model: the commands it adds to the radio
    loop's channel. -/
def step (self : Peer) (display : Display) (now : ViewModel) :
    PeerEvent → Option (Peer × List Command)
  | .load random opened =>
    match self.page, self.conn with
    | none, none => some ({ self with page := some (.load random opened) }, [])
    | _, _ => none
  | .boot =>
    match self.page with
    | some page =>
      if page.app.isNone then some ({ self with page := some page.boot.1 }, []) else none
    | none => none
  | .frame gestures =>
    match self.page with
    | some page =>
      match page.app with
      | some app => some ({ self with page := some (page.frame app gestures).1 }, [])
      | none => none
    | none => none
  | .accept =>
    -- a page whose socket has failed is not connected any more
    match self.conn with
    | none =>
      if self.page.all Page.writing then some ({ self with conn := some .accept }, []) else none
    | some _ => none
  | .write =>
    match self.page, self.conn with
    | some page, some conn =>
      match page.writing, page.cmdRx with
      | true, cmd :: rest =>
        some ({ page := some { page with cmdRx := rest }
                conn := some { conn with up := conn.up ++ [cmd.toText] } }, [])
      | _, _ => none
    | _, _ => none
  | .hangUp =>
    match self.page with
    | some page =>
      match page.writing, page.cmdRx with
      | true, _ :: _ => some ({ self with page := some page.hangUp }, [])
      | _, _ => none
    | none => none
  | .send text =>
    match self.page, self.conn with
    | none, some conn => some ({ self with conn := some { conn with up := conn.up ++ [text] } }, [])
    | _, _ => none
  | .begin =>
    match self.conn with
    | some conn =>
      if conn.handler = .ended ∨ conn.reading.isSome then none
      else some ({ self with conn := some { conn with reading := some display.since } }, [])
    | none => none
  | .snapshot moments =>
    match self.conn with
    | some conn =>
      match conn.reading with
      | some first =>
        let snap := Snapshot.read fun k => display.moment now first (moments k)
        some ({ self with conn := some (conn.snapshot snap) }, [])
      | none => none
    | none => none
  | .recv err =>
    match self.conn with
    | some conn =>
      match conn.handler, conn.reading, conn.up with
      | .looping, none, text :: rest =>
        let (conn, cmds) := { conn with up := rest }.recv text err
        some ({ self with conn := some conn }, cmds)
      | _, _, _ => none
    | none => none
  | .finish =>
    self.conn.map fun conn =>
      ({ self with conn := some { conn with handler := .ended, reading := none } }, [])
  | .read =>
    match self.conn with
    | some conn =>
      match conn.down with
      | text :: rest =>
        some ({ page := self.page.map (·.read text), conn := some { conn with down := rest } }, [])
      | [] => none
    | none => none

end Peer

/-! ## The site -/

/-- The station and whoever may connect to it. Without a display it has no window. -/
structure Site (ι : Type*) where
  station : Station
  window : Bool
  peers : ι → Peer
  display : Display

/-- What happens next at the site. -/
inductive SiteEvent (ι : Type*)
  | station (e : StationEvent)
  | peer (i : ι) (e : PeerEvent)

namespace Site

/-- The view-model on display. -/
def now {ι : Type*} (s : Site ι) : ViewModel := s.station.radio.vm

/-- All view-models on display so far, the current one last. -/
def views {ι : Type*} (s : Site ι) : List ViewModel := s.display.views s.now

variable {ι : Type*} [DecidableEq ι] [Arith] [Prost] [Aes256] [Features] [SerdeJson]

omit [DecidableEq ι] [SerdeJson] in
/-- The view-models that an event of the station puts on display. -/
def shown (s : Site ι) : StationEvent → Display
  | .tick inp => s.display.step s.now (s.station.radio.tickViews inp)
  | .apply => s.display.step s.now []
  | .decode _ _ => s.display.step s.now []
  | .client _ => s.display
  | .frame _ => s.display.write s.now

/-- One step of one party. Commands of peers reach the loop's channel through the server. -/
def step (s : Site ι) : SiteEvent ι → Option (Site ι)
  | .station e =>
    match e with
    | .client _ => none
    | .frame gestures =>
      if s.window then
        (s.station.step (.frame gestures)).map fun station =>
          { s with station, display := s.shown (.frame gestures) }
      else none
    | e => (s.station.step e).map fun station => { s with station, display := s.shown e }
  | .peer i e =>
    ((s.peers i).step s.display s.now e).map fun (peer, cmds) =>
      { s with
        station := { s.station with channel := s.station.channel ++ cmds }
        peers := Function.update s.peers i peer }

omit [DecidableEq ι] [Prost] [Aes256] [SerdeJson] in
/-- The site as `main` starts it, nobody connected; a station without a window has nobody
    who sends the window's first commands. -/
def start (random : UInt32) (probed : Bool) (uhdOpen : Except String Unit) (early window : Bool) :
    Site ι where
  station :=
    let station := Station.start random probed uhdOpen early
    { station with channel := if window then station.channel else [] }
  window := window
  peers := fun _ => .absent
  display := .start (SimLoop.startViews (bootView random probed) uhdOpen)

end Site

end Mesh
