import AvbStreamHandler.Video.SourcePacketRing
import Mathlib.Data.List.Chain

/-!
# Source packet headers, over a whole run

In every run each unit of a packet is stamped, and the data block count goes on by eight for
each of them. Where no TSP came with an SPH, that is what is asked for. Where one did, its SPH
is replaced.
-/

namespace AvbStreamHandler

open Kit Kit.Run Kit.RingIndex Kit.RingQueue LocalVideoBuffer VideoTxStream PlacedTsp

/-! ## Whole runs -/

namespace TsTalker

variable {w : TsTalker} {maxPacketSize : Nat} {b : LocalVideoBuffer}

/-- What every step keeps, with or without SPHs. -/
structure Inv (maxPacketSize : Nat) (w : TsTalker) : Prop where
  size : w.video.buffer.mMaxPacketSize = maxPacketSize
  format : w.stream.mVideoFormat = .eIasAvbVideoFormatIec61883
  offset : w.video.buffer.payloadOffset = w.stream.payloadOffset
  lined : Lined w.video.buffer.payloadOffset w.video.buffer w.tsps
  /-- Each unit is stamped, whatever came in it. -/
  stamped : ∀ s ∈ w.sent, ∀ k, k < s.tsps.length →
    s.frame.avtp.be32 (32 + 192 * k) = s.presentationTime
  headed : ∀ s ∈ w.sent, (∀ tsp ∈ s.tsps, tsp.sph = false) → Headed s
  covers : ∀ s ∈ w.sent, ∀ i, i ∈ s.packet.payload.touched ↔ ∃ tsp ∈ s.tsps, tsp.Covers i
  counts : w.sent.IsChain Counts
  /-- The count of the packet to come. -/
  next : ∀ s ∈ w.sent.head?,
    w.stream.mDatablockSeqNum = s.frame.avtp 27 + UInt8.ofNat (8 * s.tsps.length)

/-- What the transmit stream is set up with. -/
structure SameStream (t t' : VideoTxStream) : Prop where
  format : t'.mVideoFormat = t.mVideoFormat
  offset : t'.payloadOffset = t.payloadOffset

theorem sameStream_started (t : VideoTxStream) (localTime : Nat) :
    SameStream t (t.started localTime)
      ∧ (t.started localTime).mDatablockSeqNum = t.mDatablockSeqNum := by
  unfold started
  split <;> exact ⟨⟨rfl, rfl⟩, rfl⟩

/-- The count is only changed by packets. -/
theorem Inv.restream (h : Inv maxPacketSize w) {t : VideoTxStream} (hsame : SameStream w.stream t)
    (hcount : t.mDatablockSeqNum = w.stream.mDatablockSeqNum) :
    Inv maxPacketSize { w with stream := t } :=
  { h with
    format := hsame.format.trans h.format
    offset := h.offset.trans hsame.offset.symm
    next := fun s hs => hcount.trans (h.next s hs) }

theorem Inv.returned (h : Inv maxPacketSize w) (ptr : PacketPtr) :
    Inv maxPacketSize { w with video := w.video.step (.returned ptr) } := by
  unfold VideoWorld.step
  dsimp only
  split
  · exact { h with lined := ⟨h.lined.blind, h.lined.queue⟩ }
  · exact h

theorem Inv.reset (h : Inv maxPacketSize w) :
    Inv maxPacketSize { w with video := w.video.step .reset } :=
  have hkept := kept_reset w.video.buffer
  { h with
    size := hkept.size.trans h.size
    offset := hkept.offset.trans h.offset
    lined := by
      show Lined w.video.buffer.reset.payloadOffset _ _
      rw [hkept.offset]
      exact h.lined.reset }

theorem Inv.writeMpegTS (h : Inv maxPacketSize w) (hsize : maxPacketSize < 65536) {desc : TxDesc}
    (hpushed : Pushed maxPacketSize desc) (stale : Nat → UInt8) :
    Inv maxPacketSize (w.step (.writeMpegTS desc stale)) := by
  have hsetup := sameSetup_writeMpegTS w.video.buffer desc stale
  have hmax : w.video.buffer.maxTspsInAvbPacket ≤ cMaxTsps := by
    unfold maxTspsInAvbPacket sphSize cMaxTsps
    rw [h.size]
    omega
  rw [← h.size] at hpushed
  refine { h with
    size := hsetup.size.trans h.size
    offset := hsetup.offset.trans h.offset
    lined := ?_ }
  show Lined (w.video.buffer.writeMpegTS desc stale).2.payloadOffset _ _
  rw [hsetup.offset]
  exact h.lined.writeMpegTS hpushed hmax stale

/-- **TSPs without SPH, one behind the other, get theirs.** -/
theorem headed_of_sends {t : VideoTxStream} {locked : Bool} {d : RingDesc} {p : AvbPacket}
    {n : Nat} {header : Bytes} (h : Sends t d p n) (length attime : Nat) :
    Headed
      { tsps := placed false 0 n
        packet := p
        presentationTime := t.presentationTime
        frame := ⟨t.fillHeader locked d p (t.avtpBytes header p), length, attime⟩ } where
  stamped := by
    intro tsp htsp _
    obtain ⟨k, hk, rfl⟩ := mem_placed.mp htsp
    dsimp only
    rw [Nat.zero_add]
    exact h.stamped hk
  kept := by
    intro i hi
    refine (h.kept fun k hk => ?_).trans (avtpBytes_payload h.format i)
    have hclear := hi ⟨0 + 192 * k, false⟩ (mem_placed.mpr ⟨k, hk, rfl⟩) rfl
    rwa [Nat.zero_add] at hclear

theorem Inv.read (h : Inv maxPacketSize w) :
    Inv maxPacketSize { w with video := w.video.step .read } := by
  have hkept : w.video.buffer.read.2.mMaxPacketSize = w.video.buffer.mMaxPacketSize
      ∧ w.video.buffer.read.2.payloadOffset = w.video.buffer.payloadOffset := by
    unfold LocalVideoBuffer.read
    split <;> exact ⟨rfl, rfl⟩
  refine { h with
    size := hkept.1.trans h.size
    offset := hkept.2.trans h.offset
    lined := ?_ }
  show Lined w.video.buffer.read.2.payloadOffset w.video.buffer.read.2 w.tsps
  rw [hkept.2]
  rcases h.lined.read_cases with hnone | ⟨d, p, -, -, -, -, hlined⟩
  · rw [hnone]
    exact h.lined
  · exact hlined

/-- A packet that was in order in the ring is sent. -/
theorem Inv.send (h : Inv maxPacketSize w) {t : VideoTxStream} (hsame : SameStream w.stream t)
    (hcount : t.mDatablockSeqNum = w.stream.mDatablockSeqNum) {locked : Bool} {d : RingDesc}
    {tsps : List PlacedTsp} (hblind : d.hasSph = false)
    (hslot : Slot w.video.buffer.payloadOffset (d, tsps)) {p : AvbPacket}
    (hp : d.avbPacket = some p) (header : Bytes) (length attime : Nat) :
    Inv maxPacketSize { w with
      stream := t.advance d p
      sent :=
        { tsps := tsps
          packet := p
          presentationTime := t.presentationTime
          frame := ⟨t.fillHeader locked d p (t.avtpBytes header p), length, attime⟩ } :: w.sent } := by
  obtain ⟨p', hp', hlen, htouched⟩ := hslot.packet
  obtain rfl : p' = p := Option.some.inj (hp'.symm.trans hp)
  have hsends : Sends t d p' d.tspsInAvbPacket := {
    format := hsame.format.trans h.format
    iec := hslot.iec
    blind := hblind
    len := by rw [hsame.offset, ← h.offset, hlen]
    fits := hslot.fits }
  have hcounted := @Sends.counted t locked d p' (t.avtpBytes header p') _ hsends
  refine ⟨h.size, hsame.format.trans h.format, h.offset.trans hsame.offset.symm, h.lined,
    ?_, ?_, ?_, ?_, ?_⟩
  · intro s hs k hk
    rcases List.mem_cons.mp hs with rfl | hold
    · exact hsends.stamped (Nat.lt_of_lt_of_eq hk hslot.count)
    · exact h.stamped s hold k hk
  · intro s hs hplain
    rcases List.mem_cons.mp hs with rfl | hold
    · have haligned := hslot.aligned hplain
      dsimp only at haligned ⊢
      rw [haligned]
      exact headed_of_sends hsends ..
    · exact h.headed s hold hplain
  · intro s hs
    rcases List.mem_cons.mp hs with rfl | hold
    · exact htouched
    · exact h.covers s hold
  · refine List.isChain_cons.mpr ⟨fun earlier hearlier => ?_, h.counts⟩
    show t.fillHeader locked d p' _ 27 = _
    rw [hcounted, hcount]
    exact h.next earlier hearlier
  · intro s hs
    obtain rfl := Option.some.inj hs
    show _ = t.fillHeader locked d p' _ 27 + UInt8.ofNat (8 * tsps.length)
    rw [hcounted, hslot.count]
    exact hsends.advance

/-- **A packet is prepared.** -/
theorem Inv.preparePacket (h : Inv maxPacketSize w) (localTime : Nat) (locked dummy : Bool)
    (header : Bytes) : Inv maxPacketSize (w.preparePacket localTime locked dummy header) := by
  obtain ⟨hsame, hcount⟩ := sameStream_started w.stream localTime
  unfold TsTalker.preparePacket
  rcases h.lined.read_cases with hnone | ⟨d, p, hd, hp, hblind, hslot, -⟩
  · -- there is nothing in the ring: the stream goes on with a dummy packet
    rw [hnone]
    refine h.read.restream ?_ ?_
    · unfold prepareDummyAvbPacket
      split
      · split
        · exact ⟨rfl, rfl⟩
        · exact ⟨hsame.format, hsame.offset⟩
      · exact ⟨rfl, rfl⟩
    · unfold prepareDummyAvbPacket
      split
      · split
        · rfl
        · exact hcount
      · rfl
  · rw [hd, Option.bind_some, hp, Option.map_some]
    dsimp only
    cases hactive : w.stream.mActive with
    | false =>
        have hfinal : w.stream.finalizeAvbPacket localTime locked d p header
            = (none, w.stream) := by
          unfold finalizeAvbPacket
          rw [if_pos hactive]
        rw [hfinal]
        exact h.read.returned p.ptr
    | true =>
        have hoffset : (w.video.step .read).buffer.payloadOffset
            = w.video.buffer.payloadOffset := h.read.offset.trans h.offset.symm
        rw [finalizeAvbPacket_active hactive]
        exact h.read.send hsame hcount hblind (hoffset ▸ hslot) hp header _ _

theorem inv_step (hsize : maxPacketSize < 65536) (w : TsTalker) (e : TsEvent)
    (h : Inv maxPacketSize w) (hpushed : ∀ desc ∈ tsWrites [e], Pushed maxPacketSize desc) :
    Inv maxPacketSize (w.step e) := by
  cases e with
  | writeMpegTS desc stale =>
      exact h.writeMpegTS hsize (hpushed desc List.mem_cons_self) stale
  | preparePacket localTime locked dummy header =>
      exact h.preparePacket localTime locked dummy header
  | activationChanged active =>
      have hstream : Inv maxPacketSize { w with stream := w.stream.activationChanged active } := by
        unfold VideoTxStream.activationChanged
        split <;> exact h.restream ⟨rfl, rfl⟩ rfl
      show Inv maxPacketSize (w.activationChanged active)
      unfold TsTalker.activationChanged
      split
      · exact { hstream.reset with }
      · exact { hstream with }
  | resetBuffers => exact h.reset
  | returned ptr => exact h.returned ptr

theorem inv_start {numPackets : Nat} {pool : AvbPacketPool.PoolWorld} {t : VideoTxStream}
    (hformat : t.mVideoFormat = .eIasAvbVideoFormatIec61883)
    (hinit : init numPackets maxPacketSize t.payloadOffset pool = some b) :
    Inv maxPacketSize (start b t) := by
  unfold init at hinit
  split at hinit
  · cases hinit
  · rename_i hargs
    rw [not_or] at hargs
    obtain rfl := Option.some.inj hinit
    refine ⟨rfl, hformat, rfl, ⟨fun i => rfl, [], holds_nil ?_, fun x hx => ?_⟩, ?_, ?_, ?_,
      .nil, ?_⟩
    · show 0 < numPackets
      omega
    · exact absurd hx List.not_mem_nil
    · exact fun s hs => absurd hs List.not_mem_nil
    · exact fun s hs => absurd hs List.not_mem_nil
    · exact fun s hs => absurd hs List.not_mem_nil
    · exact fun s hs => nomatch hs

theorem mem_tsWrites {es : List TsEvent} {e : TsEvent} (he : e ∈ es) :
    ∀ desc ∈ tsWrites [e], desc ∈ tsWrites es := by
  intro desc hdesc
  induction es with
  | nil => exact absurd he List.not_mem_nil
  | cons e' es ih =>
      rcases List.mem_cons.mp he with rfl | hrest
      · cases e with
        | writeMpegTS desc' stale => exact List.mem_cons.mpr (Or.inl (List.mem_singleton.mp hdesc))
        | _ => exact absurd hdesc List.not_mem_nil
      · cases e' with
        | writeMpegTS desc' stale => exact List.mem_cons_of_mem _ (ih hrest)
        | _ => exact ih hrest

/-- The calls of `writeMpegTS` are, in order, those that `eventOnNewPacketMpegTS` makes for the
packets of the client. -/
def Delivers (maxPacketSize : Nat) (clients : List PacketMpegTS) (es : List TsEvent) : Prop :=
  tsWrites es <+: clients.flatMap (eventOnNewPacketMpegTS maxPacketSize)

theorem pushed_of_delivers (hsize : maxPacketSize < 65536) {clients : List PacketMpegTS}
    {es : List TsEvent} (hes : Delivers maxPacketSize clients es) {e : TsEvent} (he : e ∈ es)
    {desc : TxDesc} (hdesc : desc ∈ tsWrites [e]) :
    ∃ packet ∈ clients, Pushed maxPacketSize desc ∧ desc.hasSph = packet.sph := by
  have hmem := hes.subset (mem_tsWrites he desc hdesc)
  obtain ⟨packet, hpacket, hportion⟩ := List.mem_flatMap.mp hmem
  exact ⟨packet, hpacket, pushed_of_mem hsize hportion⟩

/-- **Every run**, with SPHs or without: the data block count goes on by eight for each TSP, and
a packet of TSPs without SPH gets them. -/
theorem inv_run {numPackets : Nat} {pool : AvbPacketPool.PoolWorld} {t : VideoTxStream}
    (hformat : t.mVideoFormat = .eIasAvbVideoFormatIec61883)
    (hinit : init numPackets maxPacketSize t.payloadOffset pool = some b)
    (hsize : maxPacketSize < 65536) {clients : List PacketMpegTS} {es : List TsEvent}
    (hes : Delivers maxPacketSize clients es) : Inv maxPacketSize (exec step (start b t) es) := by
  have hpushed : ∀ e ∈ es, ∀ desc ∈ tsWrites [e], Pushed maxPacketSize desc := by
    intro e he desc hdesc
    obtain ⟨-, -, hpushed, -⟩ := pushed_of_delivers hsize hes he hdesc
    exact hpushed
  exact inv_exec_mem (fun w e h hok => inv_step hsize w e h hok) (inv_start hformat hinit) hpushed

/-! ## Runs without SPHs -/

/-- No TSP on record came with an SPH. -/
structure NoSph (w : TsTalker) : Prop where
  tsps : ∀ i, ∀ tsp ∈ w.tsps i, tsp.sph = false
  sent : ∀ s ∈ w.sent, ∀ tsp ∈ s.tsps, tsp.sph = false

theorem noSph_step (w : TsTalker) (e : TsEvent) (h : NoSph w)
    (hplain : ∀ desc ∈ tsWrites [e], desc.hasSph = false) : NoSph (w.step e) := by
  cases e with
  | writeMpegTS desc stale =>
      have hdesc := hplain desc List.mem_cons_self
      have hplaced : ∀ start n, ∀ tsp ∈ placed desc.hasSph start n, tsp.sph = false := by
        intro start n tsp htsp
        obtain ⟨k, -, rfl⟩ := mem_placed.mp htsp
        exact hdesc
      refine ⟨fun i tsp htsp => ?_, h.sent⟩
      replace htsp : tsp ∈ recorded w.video.buffer _ desc w.tsps i := htsp
      unfold recorded at htsp
      split at htsp
      · exact hplaced _ _ tsp htsp
      · rcases List.mem_append.mp htsp with hold | hnew
        · exact h.tsps i tsp hold
        · exact hplaced _ _ tsp hnew
  | preparePacket localTime locked dummy header =>
      show NoSph (w.preparePacket localTime locked dummy header)
      unfold TsTalker.preparePacket
      split
      · exact ⟨h.tsps, h.sent⟩
      · split
        · exact ⟨h.tsps, h.sent⟩
        · refine ⟨h.tsps, fun s hs => ?_⟩
          rcases List.mem_cons.mp hs with rfl | hold
          · exact h.tsps _
          · exact h.sent s hold
  | activationChanged active => exact ⟨h.tsps, h.sent⟩
  | resetBuffers => exact ⟨h.tsps, h.sent⟩
  | returned ptr => exact ⟨h.tsps, h.sent⟩

/--
**Who brings no SPH, gets one.**

For every ring and every MPEG-TS stream, every sequence of client packets without SPHs, and
every interleaving of the writer with the reader, with activations and resets: in each packet
that was sent, an SPH stands where a TSP begins, and nothing else was changed; and the data
block count goes on by eight for each TSP.
-/
theorem sourceHeaders_of_plain {numPackets : Nat} {pool : AvbPacketPool.PoolWorld}
    {t : VideoTxStream} (hformat : t.mVideoFormat = .eIasAvbVideoFormatIec61883)
    (hinit : init numPackets maxPacketSize t.payloadOffset pool = some b)
    (hsize : maxPacketSize < 65536) {clients : List PacketMpegTS}
    (hplain : ∀ packet ∈ clients, packet.sph = false) {es : List TsEvent}
    (hes : Delivers maxPacketSize clients es) : SourceHeaders (exec step (start b t) es) := by
  have hinv := inv_run hformat hinit hsize hes
  have hno : NoSph (exec step (start b t) es) := by
    have hstart : NoSph (start b t) :=
      ⟨fun i tsp htsp => absurd htsp List.not_mem_nil, fun s hs => absurd hs List.not_mem_nil⟩
    refine inv_exec_mem noSph_step hstart fun e he desc hdesc => ?_
    obtain ⟨packet, hpacket, -, hsph⟩ := pushed_of_delivers hsize hes he hdesc
    rw [hsph]
    exact hplain packet hpacket
  exact ⟨fun s hs => hinv.headed s hs (hno.sent s hs), hinv.covers, hinv.counts⟩

/-- **The SPH of a client is only left as it was if it says what it would be replaced by.** -/
theorem Inv.sph_of_headed (h : Inv maxPacketSize w) {s : SentTs} (hs : s ∈ w.sent)
    (hheaded : Headed s) {n : Nat} (htsps : s.tsps = placed true 0 n) {k : Nat} (hk : k < n) :
    Bytes.be32 s.packet.payload.cell (192 * k) = s.presentationTime := by
  have hkept : s.packet.payload.cell = fun i => s.frame.avtp (32 + i) := by
    funext i
    refine (hheaded.kept i fun tsp htsp hplain => ?_).symm
    rw [htsps] at htsp
    obtain ⟨j, -, rfl⟩ := mem_placed.mp htsp
    exact Bool.noConfusion hplain
  have hstamped := h.stamped s hs k (by rw [htsps, length_placed]; exact hk)
  rw [hkept, Bytes.be32_shift]
  exact hstamped

/-- A stream of MPEG-TS packets. -/
def tsStream : VideoTxStream where
  mCompatibility := .eCompCurrent
  mVideoFormat := .eIasAvbVideoFormatIec61883
  streamId := fun _ => 0
  presentationTimeOffset := 2000000
  mLaunchTimeDelta := 250000

/-- Four client packets of one TSP each, the last of which goes behind the third. -/
def plainRun : List TsEvent :=
  .activationChanged true :: List.replicate 4 (.writeMpegTS (oneTsp false) fun _ => 0)
    ++ List.replicate 4 (.preparePacket 1000 true true fun _ => 0)

theorem sourceHeaders_of_plain_run :
    SourceHeaders (exec step (start (mpegTsBuffer 584) tsStream) plainRun) :=
  sourceHeaders_of_plain rfl
    (show init 8 584 tsStream.payloadOffset _ = some (mpegTsBuffer 584) from rfl) (by decide)
    (show ∀ packet ∈ List.replicate 4 (PacketMpegTS.mk (oneTsp false).data false), _ by decide)
    (by
      refine ⟨[], ?_⟩
      decide +kernel)

/-- One client packet of one TSP, with its SPH. -/
def sphRun : List TsEvent :=
  [.activationChanged true, .writeMpegTS (oneTsp true) fun _ => 0,
    .preparePacket 1000 true true fun _ => 0]

/-- The SPH of the client does not arrive. -/
theorem source_packet_header_replaced :
    Delivers 584 [⟨(oneTsp true).data, true⟩] sphRun
      ∧ ¬ SourceHeaders (exec step (start (mpegTsBuffer 584) tsStream) sphRun) := by
  refine ⟨⟨[], by decide +kernel⟩, fun h => ?_⟩
  have hsent : (exec step (start (mpegTsBuffer 584) tsStream) sphRun).sent.map
      (fun s => (s.tsps, s.packet.payload.cell 0, s.frame.avtp 32)) = [([⟨0, true⟩], 0x47, 0)] := by
    decide +kernel
  have hmem : ([⟨0, true⟩], 0x47, 0) ∈ (exec step (start (mpegTsBuffer 584) tsStream) sphRun).sent.map
      (fun s => (s.tsps, s.packet.payload.cell 0, s.frame.avtp 32)) := by
    rw [hsent]
    exact List.mem_cons_self
  obtain ⟨s, hs, heq⟩ := List.mem_map.mp hmem
  rw [Prod.mk.injEq, Prod.mk.injEq] at heq
  obtain ⟨htsps, hgiven, harrived⟩ := heq
  have hkept := (h.headed s hs).kept 0 (by rw [htsps]; decide)
  rw [hgiven] at hkept
  exact absurd (harrived.symm.trans hkept) (by decide)

end TsTalker

end AvbStreamHandler
