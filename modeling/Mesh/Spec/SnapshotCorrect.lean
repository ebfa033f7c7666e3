import Mesh.Native.ProtoWs
import Mesh.Spec.Rig
import Mesh.Spec.Samples

/-!
# Snapshots are read back

A snapshot is written by the server and read by the web client. All of it is read back
as it was but for the floats: one that is not finite is written as `null`, which is
no float, and a finite one is only as good as the digits `serde_json` reads.

The settings that are double precision stay finite (`finite_run`), as a number out of
range is an error; single precision ones do not, as such a number is infinite.

## Key results

- `Snapshot.survives_iff`: the snapshots that are read back
- `finite_run`: what text frames can do to the settings
- `snapshots_read_back_iff`: over every run
- `loud_signal_is_lost`: one frame after which no snapshot is
-/

namespace Mesh

open Ieee (F32 F64 Arith)
open Serde (Json Codec Fields)

/-! ## Codecs -/

@[simp] theorem SimMode.survives (m : SimMode) : SimMode.codec.Survives m := by
  cases m <;> rfl

@[simp] theorem MsgDir.survives (d : MsgDir) : MsgDir.codec.Survives d := by
  cases d <;> rfl

/-- An option of something that is never written as `null`. -/
theorem survives_option {α : Type} {c : Codec α} (hnull : ∀ x, c.enc x ≠ .null)
    (hc : ∀ x, c.Survives x) (o : Option α) : c.option.Survives o := by
  cases o with
  | none => exact Codec.survives_none c
  | some x => exact (Codec.survives_some_iff (hnull x)).mpr (hc x)

/-- Lines of text are read back. -/
theorem survives_lines (lines : List String) : Codec.string.list.Survives lines :=
  Codec.survives_list_iff.mpr fun _ _ => Codec.survives_string _

/-- A warning is read back, as is its absence. -/
theorem survives_warning (warning : Option String) : Codec.string.option.Survives warning :=
  survives_option nofun Codec.survives_string warning

/-- Whatever is in it, a log entry is read back as itself. -/
theorem LogEntry.survives (e : LogEntry) : LogEntry.codec.Survives e := by
  have hfrom := survives_option (c := Codec.uint32) nofun Codec.survives_uint32 e.fromId
  have hhops := survives_option (c := Codec.uint8) nofun Codec.survives_uint8 e.hops
  have hnames : LogEntry.fields.names.Nodup := by decide
  refine Codec.survives_map rfl ((Fields.survives_record_iff hnames).mpr ?_)
  simp [LogEntry.fields, hfrom, hhops]

section

variable [SerdeJson]

/-- A single precision number is read back exactly if it is finite and its digits say all of it. -/
theorem survives_f32_iff {x : F32} :
    f32.Survives x ↔ x.isFinite = true ∧ SerdeJson.readF32 (SerdeJson.showF32 x) = some x :=
  Codec.survives_float_iff

/-- A double precision number is read back exactly if it is finite and its digits say all of it. -/
theorem survives_f64_iff {x : F64} :
    f64.Survives x ↔ x.isFinite = true ∧ SerdeJson.readF64 (SerdeJson.showF64 x) = some x :=
  Codec.survives_float_iff

/-- A snapshot is read back as itself exactly if its floats are. -/
theorem Snapshot.survives_iff (s : Snapshot) :
    Snapshot.codec.Survives s ↔
      f32.Survives s.signalDb ∧ f32.Survives s.noiseDb ∧ f64.Survives s.uhdFreqHz ∧
      f64.Survives s.uhdRxGainDb ∧ f64.Survives s.uhdTxGainDb ∧
      (∀ x ∈ s.spectrum, f32.Survives x) ∧ ∀ x ∈ s.waterfallRow, f32.Survives x := by
  -- all but the floats survive whatever their values
  have hnames : Snapshot.fields.names.Nodup := by simp [Snapshot.fields]
  have hcodec : Snapshot.codec.Survives s ↔ Snapshot.fields.Reads s.members s.members :=
    (Codec.survives_map_iff (fun _ => rfl) (fun _ => rfl)).trans
      (Fields.survives_record_iff hnames)
  have hneighbours := survives_lines s.neighbours
  rw [hcodec]
  simp only [Snapshot.fields, Snapshot.members, Fields.reads_self_cons, Fields.reads_nil,
    Codec.survives_bool, Codec.survives_string, Codec.survives_uint8, Codec.survives_uint32,
    Codec.survives_uint64, SimMode.survives, hneighbours, survives_warning, true_and, and_true,
    Codec.survives_list_iff]

/-- What is read of a snapshot is read field by field. -/
theorem Snapshot.dec_enc_iff (s t : Snapshot) :
    Snapshot.codec.dec (Snapshot.codec.enc s) = some t ↔
      Snapshot.fields.Reads s.members t.members := by
  have hnames : Snapshot.fields.names.Nodup := by simp [Snapshot.fields]
  rw [← Fields.dec_record_enc_iff hnames]
  show (Snapshot.fields.record.dec (Snapshot.fields.record.enc s.members)).map _ = some t ↔ _
  rw [Option.map_eq_some_iff]
  constructor
  · rintro ⟨members, hdec, rfl⟩
    exact hdec
  · intro hdec
    exact ⟨t.members, hdec, rfl⟩

/-- A level that is not finite makes the whole snapshot unreadable. -/
theorem Snapshot.dec_enc_of_infinite {s : Snapshot}
    (h : s.signalDb.isFinite = false ∨ s.noiseDb.isFinite = false) :
    Snapshot.codec.dec (Snapshot.codec.enc s) = none := by
  -- such a level is written as `null`
  have hnull : ∀ x : F32, x.isFinite = false → f32.dec (f32.enc x) = none := by
    intro x hx
    simp [f32, Codec.float, hx]
  rw [Option.eq_none_iff_forall_ne_some]
  intro t ht
  rw [Snapshot.dec_enc_iff] at ht
  simp only [Snapshot.fields, Snapshot.members, Fields.reads_cons] at ht
  obtain ⟨-, -, hsignal, hnoise, -⟩ := ht
  cases h with
  | inl h => exact nomatch (hnull _ h).symm.trans hsignal
  | inr h => exact nomatch (hnull _ h).symm.trans hnoise

/-! ## Messages -/

/-- What the client reads of a snapshot is that snapshot exactly if it survives. -/
theorem ServerMsg.dec_enc_snapshot_iff (s : Snapshot) :
    ServerMsg.dec (ServerMsg.snapshot s).enc = some (.snapshot s) ↔ Snapshot.codec.Survives s :=
  Serde.newtype_enc_iff fun _ _ => ServerMsg.snapshot.inj

/-- A snapshot with a level that is not finite is an error. -/
theorem ServerMsg.dec_enc_of_infinite {s : Snapshot}
    (h : s.signalDb.isFinite = false ∨ s.noiseDb.isFinite = false) :
    ServerMsg.dec (ServerMsg.snapshot s).enc = none := by
  have hdec := Snapshot.dec_enc_of_infinite h
  show Serde.newtype Snapshot.codec ServerMsg.snapshot (some (Snapshot.codec.enc s)) = none
  rw [Serde.newtype, Option.bind_some, hdec, Option.map_none]

/-- A float that the command carries is read back. -/
def Command.Exact : Command → Prop
  | setSignalDb v => f32.Survives v
  | setNoiseDb v => f32.Survives v
  | setUhdFreqHz hz => f64.Survives hz
  | setUhdRxGainDb v => f64.Survives v
  | setUhdTxGainDb v => f64.Survives v
  | _ => True

/-- What the server reads of a command of the web client is that command exactly if its
    float survives. -/
theorem Command.dec_enc_iff (cmd : Command) : Command.dec cmd.enc = some cmd ↔ cmd.Exact := by
  -- variants without a float
  have hsure : ∀ {α : Type} {c : Codec α} {mk : α → Command} {x : α}, Function.Injective mk →
      c.Survives x → (Serde.newtype c mk (some (c.enc x)) = some (mk x) ↔ True) :=
    fun hmk h => iff_true_intro ((Serde.newtype_enc_iff hmk).mpr h)
  cases cmd with
  | setSf n => exact hsure (fun _ _ => setSf.inj) (Codec.survives_uint8 n)
  | setSignalDb v => exact Serde.newtype_enc_iff fun _ _ => setSignalDb.inj
  | setNoiseDb v => exact Serde.newtype_enc_iff fun _ _ => setNoiseDb.inj
  | setIntervalMs v => exact hsure (fun _ _ => setIntervalMs.inj) (Codec.survives_uint64 v)
  | setMode m => exact hsure (fun _ _ => setMode.inj) m.survives
  | setTxDest id => exact hsure (fun _ _ => setTxDest.inj) (Codec.survives_uint32 id)
  | setUhdFreqHz hz => exact Serde.newtype_enc_iff fun _ _ => setUhdFreqHz.inj
  | setUhdRxGainDb v => exact Serde.newtype_enc_iff fun _ _ => setUhdRxGainDb.inj
  | setUhdTxGainDb v => exact Serde.newtype_enc_iff fun _ _ => setUhdTxGainDb.inj
  | _ => exact iff_of_true rfl trivial

-- `serde` reads the tag in its other form too
example : Command.dec (.obj [("t", .obj [("SetSf", .null)]), ("c", .num "9")]) =
    some (.setSf 9) := rfl

/-! ## Settings that stay finite -/

/-- The double precision settings are finite. -/
def ViewModel.Finite64 (vm : ViewModel) : Prop :=
  vm.uhdFreqHz.isFinite = true ∧ vm.uhdRxGainDb.isFinite = true ∧ vm.uhdTxGainDb.isFinite = true

/-- A double precision number that the command carries is finite. -/
def Command.Finite64 : Command → Prop
  | setUhdFreqHz hz => hz.isFinite = true
  | setUhdRxGainDb v => v.isFinite = true
  | setUhdTxGainDb v => v.isFinite = true
  | _ => True

/-- If numbers out of range are an error, a command that is read is finite. -/
theorem Command.finite64_of_dec (hread : ∀ text x, SerdeJson.readF64 text = some x →
    x.isFinite = true) {j : Json} {cmd : Command} (h : Command.dec j = some cmd) :
    cmd.Finite64 := by
  have hf64 : ∀ j x, f64.dec j = some x → x.isFinite = true := by
    intro j x hx
    cases j with
    | num text => exact hread text x hx
    | _ => exact nomatch hx
  unfold Command.dec at h
  obtain ⟨⟨tag, content⟩, -, h⟩ := Option.bind_eq_some_iff.mp h
  have hnewtype : ∀ {α : Type} {c : Codec α} {mk : α → Command},
      Serde.newtype c mk content = some cmd → (∀ j x, c.dec j = some x → (mk x).Finite64) →
        cmd.Finite64 := by
    intro α c mk h hmk
    obtain ⟨j, x, -, hx, rfl⟩ := Serde.newtype_eq_some_iff.mp h
    exact hmk j x hx
  -- one variant for each tag
  simp only at h
  split at h
  all_goals first
    | exact hnewtype h fun _ _ _ => trivial
    | exact hnewtype h hf64
    | skip
  · -- no content
    unfold Serde.unit at h
    split at h
    · exact Option.some.inj h ▸ trivial
    · exact Option.some.inj h ▸ trivial
    · exact nomatch h
  · exact nomatch h

omit [SerdeJson] in
/-- Finite commands keep the settings finite. -/
theorem finite64_drainCommands {s : SimLoop} {commands : List Command} (h : s.vm.Finite64)
    (hcmds : ∀ cmd ∈ commands, cmd.Finite64) : (s.drainCommands commands).vm.Finite64 := by
  have hone : ∀ (vm : ViewModel) (cmd : Command), vm.Finite64 → cmd.Finite64 →
      (cmd.apply vm).Finite64 := by
    intro vm cmd ⟨hfreq, hrx, htx⟩ hcmd
    cases cmd with
    | setUhdFreqHz hz => exact ⟨hcmd, hrx, htx⟩
    | setUhdRxGainDb v => exact ⟨hfreq, hcmd, htx⟩
    | setUhdTxGainDb v => exact ⟨hfreq, hrx, hcmd⟩
    | _ => exact ⟨hfreq, hrx, htx⟩
  apply List.foldlRecOn commands (fun vm cmd => cmd.apply vm) h
  intro vm hvm cmd hcmd
  exact hone vm cmd hvm (hcmds cmd hcmd)

variable [Arith] [Prost] [Aes256] [Features]

/-- The commands of all events came in text frames. -/
def FromFrames (es : List LoopEvent) : Prop :=
  ∀ e ∈ es, ∀ cmd ∈ e.commands, ∃ text, Command.fromStr text = some cmd

/-- Text frames keep the double precision settings finite. -/
theorem finite_run (hread : ∀ text x, SerdeJson.readF64 text = some x → x.isFinite = true)
    {random : UInt32} {probed : Bool} {uhdOpen : Except String Unit} {es : List LoopEvent}
    {t : SimLoop} (hfreq : (bootView random probed).uhdFreqHz.isFinite = true)
    (hrun : Lts.Run SimLoop.Step (SimLoop.start (bootView random probed) uhdOpen) es t)
    (hframes : FromFrames es) : t.vm.Finite64 := by
  -- the loop itself writes none of the three settings
  have huntouched : Untouched ViewModel.Finite64 := fun _ _ _ _ _ => rfl
  have hboot : (bootView random probed).Finite64 := by
    have hgain : F64.isFinite 40.0 = true := by decide +kernel
    cases probed <;> exact ⟨hfreq, hgain, hgain⟩
  have hinv : FromFrames es → t.vm.Finite64 := by
    refine hrun.history_invariant (I := fun es t => FromFrames es → t.vm.Finite64) ?_ ?_
    · intro _
      rw [huntouched.start]
      exact hboot
    · intro es a e b ih hstep hframes
      have ha := ih fun e' he' => hframes e' (List.mem_append_left _ he')
      have hlast := hframes e (List.mem_append_right _ (List.mem_singleton_self _))
      rcases SimLoop.step_cases hstep with
        ⟨inp, rfl, -, rfl⟩ | ⟨sf, txAllowed, r, clock, rfl, -, rfl⟩
      · -- each command of the tick came in a frame of its own
        rw [huntouched.tick]
        refine finite64_drainCommands ha fun cmd hcmd => ?_
        obtain ⟨text, htext⟩ := hlast cmd hcmd
        obtain ⟨j, -, hdec⟩ := Option.bind_eq_some_iff.mp htext
        exact Command.finite64_of_dec hread hdec
      · rw [huntouched.decode]
        exact ha
  exact hinv hframes

/-! ## Snapshots of a run -/

omit [Arith] [Prost] [Aes256] [Features] in
/-- `serde_json` reads the digits it writes for each float of a snapshot as that float. -/
structure Snapshot.Exact (s : Snapshot) : Prop where
  signalDb : SerdeJson.readF32 (SerdeJson.showF32 s.signalDb) = some s.signalDb
  noiseDb : SerdeJson.readF32 (SerdeJson.showF32 s.noiseDb) = some s.noiseDb
  uhdFreqHz : SerdeJson.readF64 (SerdeJson.showF64 s.uhdFreqHz) = some s.uhdFreqHz
  uhdRxGainDb : SerdeJson.readF64 (SerdeJson.showF64 s.uhdRxGainDb) = some s.uhdRxGainDb
  uhdTxGainDb : SerdeJson.readF64 (SerdeJson.showF64 s.uhdTxGainDb) = some s.uhdTxGainDb
  spectrum : ∀ x ∈ s.spectrum, SerdeJson.readF32 (SerdeJson.showF32 x) = some x
  waterfallRow : ∀ x ∈ s.waterfallRow, SerdeJson.readF32 (SerdeJson.showF32 x) = some x

/-- A snapshot taken after any text frames, its spectrum and its waterfall row finite, is
    read back by the client exactly if the signal and the noise level are finite, and no
    digits are lost. -/
theorem snapshots_read_back_iff
    (hread : ∀ text x, SerdeJson.readF64 text = some x → x.isFinite = true)
    {random : UInt32} {probed : Bool} {uhdOpen : Except String Unit} {es : List LoopEvent}
    {t : SimLoop} (hfreq : (bootView random probed).uhdFreqHz.isFinite = true)
    (hrun : Lts.Run SimLoop.Step (SimLoop.start (bootView random probed) uhdOpen) es t)
    (hframes : FromFrames es) (hspectrum : ∀ x ∈ t.vm.latestSpectrum, x.isFinite = true)
    (hrow : ∀ x ∈ t.vm.latestWaterfallRow, x.isFinite = true)
    (htext : SerdeJson.parse (ServerMsg.snapshot (Snapshot.fromView t.vm)).toText =
      some (ServerMsg.snapshot (Snapshot.fromView t.vm)).enc) :
    ServerMsg.fromStr (ServerMsg.snapshot (Snapshot.fromView t.vm)).toText =
        some (.snapshot (Snapshot.fromView t.vm)) ↔
      t.vm.signalDb.isFinite = true ∧ t.vm.noiseDb.isFinite = true ∧
        (Snapshot.fromView t.vm).Exact := by
  obtain ⟨hfreq', hrx, htx⟩ := finite_run hread hfreq hrun hframes
  rw [ServerMsg.fromStr, htext, Option.bind_some, ServerMsg.dec_enc_snapshot_iff,
    Snapshot.survives_iff]
  simp only [survives_f32_iff, survives_f64_iff]
  -- of the seven fields with floats only the two levels can be infinite
  constructor
  · intro ⟨⟨hsignal, hsignal'⟩, ⟨hnoise, hnoise'⟩, ⟨_, hfreq''⟩, ⟨_, hrx'⟩, ⟨_, htx'⟩, hspec, hwf⟩
    exact ⟨hsignal, hnoise, hsignal', hnoise', hfreq'', hrx', htx', fun x hx => (hspec x hx).2,
      fun x hx => (hwf x hx).2⟩
  · intro ⟨hsignal, hnoise, hexact⟩
    exact ⟨⟨hsignal, hexact.signalDb⟩, ⟨hnoise, hexact.noiseDb⟩, ⟨hfreq', hexact.uhdFreqHz⟩,
      ⟨hrx, hexact.uhdRxGainDb⟩, ⟨htx, hexact.uhdTxGainDb⟩,
      fun x hx => ⟨hspectrum x hx, hexact.spectrum x hx⟩,
      fun x hx => ⟨hrow x hx, hexact.waterfallRow x hx⟩⟩

end

section

open Samples

mutual

/-- A document as `serde_json` writes it, if no string needs an escape. -/
private def compact : Json → String
  | .null => "null"
  | .bool b => toString b
  | .num text => text
  | .str s => "\"" ++ s ++ "\""
  | .arr items => "[" ++ ",".intercalate (compactItems items) ++ "]"
  | .obj members => "\x7b" ++ ",".intercalate (compactMembers members) ++ "\x7d"

private def compactItems : List Json → List String
  | [] => []
  | j :: items => compact j :: compactItems items

private def compactMembers : List (String × Json) → List String
  | [] => []
  | (name, j) :: members => ("\"" ++ name ++ "\":" ++ compact j) :: compactMembers members

end

/-- What `serde_json` writes and reads for the numbers in these documents. -/
@[reducible] private def sampleJson (documents : List Json) : SerdeJson where
  parse text := documents.find? fun j => compact j == text
  print := compact
  showF32 x := if x = -20.0 then "-20.0" else "-60.0"
  readF32 text :=
    if text = "-20.0" then some (-20.0)
    else if text = "-60.0" then some (-60.0)
    else if text = "1e39" then some ⟨0x7F800000⟩
    else none
  showF64 x := if x = 40.0 then "40.0" else "920125000.0"
  readF64 text :=
    if text = "40.0" then some 40.0
    else if text = "920125000.0" then some 920125000.0
    else none

/-- The document of a snapshot, which the documents to be read play no part in. -/
private def document (s : Snapshot) : Json := @ServerMsg.enc (sampleJson []) (.snapshot s)

/-- The sample parser knows the documents it is given. -/
private theorem parse_document (s : Snapshot) (documents : List Json) :
    (sampleJson (document s :: documents)).parse
      (@ServerMsg.toText (sampleJson (document s :: documents)) (.snapshot s)) =
        some (document s) :=
  List.find?_cons_of_pos (beq_self_eq_true _)

/-- The text of a snapshot differs from that of any command in its tag. -/
private theorem compact_document_ne (s : Snapshot) {text : String}
    (h : text.toList[7]? ≠ some 'n') : (compact (document s) == text) = false := by
  rw [beq_eq_false_iff_ne]
  intro heq
  apply h
  rw [← heq]
  simp [document, ServerMsg.enc, variant, compact, compactMembers]

/-- The frame that pauses the loop. -/
private def pauseFrame : Json := .obj [("t", .str "SetRunning"), ("c", .bool false)]

/-- The frame that sets a signal level out of the range of an `f32`. -/
private def loudFrame : Json := .obj [("t", .str "SetSignalDb"), ("c", .num "1e39")]

/-- A frame with a number too large for an `f32`: no snapshot after it can be read. The loop
    is paused, so nothing else changes. -/
theorem loud_signal_is_lost : ∃ (_ : SerdeJson) (inp : TickInput) (t : SimLoop),
    Command.fromStr "\x7b\"t\":\"SetRunning\",\"c\":false\x7d" = some (.setRunning false) ∧
      Command.fromStr "\x7b\"t\":\"SetSignalDb\",\"c\":1e39\x7d" =
        some (.setSignalDb ⟨0x7F800000⟩) ∧
      inp.commands = [.setRunning false, .setSignalDb ⟨0x7F800000⟩] ∧
      Lts.Run SimLoop.Step (Samples.boot 1) [.tick inp] t ∧
      t.vm.latestSpectrum = [] ∧ t.vm.latestWaterfallRow = [] ∧
      SerdeJson.parse (ServerMsg.snapshot (Snapshot.fromView t.vm)).toText =
        some (ServerMsg.snapshot (Snapshot.fromView t.vm)).enc ∧
      ServerMsg.fromStr (ServerMsg.snapshot (Snapshot.fromView t.vm)).toText = none := by
  obtain ⟨inp, -, hcmds⟩ := exists_tick [.setRunning false, .setSignalDb ⟨0x7F800000⟩]
  -- paused first, so no step is needed that looks at the level
  have hpaused : ((Samples.boot 1).drainCommands inp.commands).vm.running = false := by
    rw [hcmds]
    rfl
  obtain ⟨t, ht⟩ : ∃ t, t = (Samples.boot 1).tick inp := ⟨_, rfl⟩
  have hdrained : t = (Samples.boot 1).drainCommands
      [.setRunning false, .setSignalDb ⟨0x7F800000⟩] := by
    rw [ht, SimLoop.tick_paused hpaused, hcmds]
  have hloud : t.vm.signalDb = ⟨0x7F800000⟩ := by rw [hdrained]; rfl
  let json := sampleJson [document (Snapshot.fromView t.vm), pauseFrame, loudFrame]
  have hparse := parse_document (Snapshot.fromView t.vm) [pauseFrame, loudFrame]
  refine ⟨json, inp, t, ?_, ?_, hcmds, ?_, by rw [hdrained]; rfl, by rw [hdrained]; rfl, hparse, ?_⟩
  · have hframe : json.parse "\x7b\"t\":\"SetRunning\",\"c\":false\x7d" = some pauseFrame := by
      show List.find? _ (_ :: _) = _
      rw [List.find?_cons_of_neg (by rw [compact_document_ne _ (by decide)]; decide)]
      rfl
    rw [Command.fromStr, hframe]
    rfl
  · have hframe : json.parse "\x7b\"t\":\"SetSignalDb\",\"c\":1e39\x7d" = some loudFrame := by
      show List.find? _ (_ :: _) = _
      rw [List.find?_cons_of_neg (by rw [compact_document_ne _ (by decide)]; decide)]
      rfl
    rw [Command.fromStr, hframe]
    rfl
  · rw [ht]
    exact Lts.Run.single (SimLoop.step_tick rfl)
  · -- an infinite level is written as `null`, which is no number
    rw [ServerMsg.fromStr, hparse, Option.bind_some]
    refine @ServerMsg.dec_enc_of_infinite json (Snapshot.fromView t.vm) (.inl ?_)
    show t.vm.signalDb.isFinite = false
    rw [hloud]
    rfl

/-- The snapshot a client gets first. -/
theorem snapshots_read_back_iff_sample : ∃ _ : SerdeJson,
    ServerMsg.fromStr (ServerMsg.snapshot (Snapshot.fromView (Samples.boot 1).vm)).toText =
      some (.snapshot (Snapshot.fromView (Samples.boot 1).vm)) := by
  let json := sampleJson [document (Snapshot.fromView (Samples.boot 1).vm)]
  refine ⟨json, ?_⟩
  -- the sample parser reads finite numbers alone
  have hread : ∀ text x, json.readF64 text = some x → x.isFinite = true := by
    intro text x hx
    have hcases : (if text = "40.0" then some 40.0
      else if text = "920125000.0" then some 920125000.0 else none) = some x := hx
    split at hcases
    · rw [← Option.some.inj hcases]
      decide +kernel
    · split at hcases
      · rw [← Option.some.inj hcases]
        decide +kernel
      · exact nomatch hcases
  have hfreq : (bootView 1 false).uhdFreqHz.isFinite = true := by decide +kernel
  have hexact : (Snapshot.fromView (Samples.boot 1).vm).Exact := by
    constructor
    · decide +kernel
    · decide +kernel
    · decide +kernel
    · decide +kernel
    · decide +kernel
    · exact nofun
    · exact nofun
  have hframes : FromFrames [] := nofun
  have hspectrum : ∀ x ∈ (Samples.boot 1).vm.latestSpectrum, x.isFinite = true := by
    rw [show (Samples.boot 1).vm.latestSpectrum = [] from rfl]
    exact nofun
  have hrow : ∀ x ∈ (Samples.boot 1).vm.latestWaterfallRow, x.isFinite = true := by
    rw [show (Samples.boot 1).vm.latestWaterfallRow = [] from rfl]
    exact nofun
  exact (snapshots_read_back_iff hread hfreq .nil hframes hspectrum hrow
    (parse_document _ [])).mpr ⟨by decide, by decide, hexact⟩

end

end Mesh
