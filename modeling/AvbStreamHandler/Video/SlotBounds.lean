import AvbStreamHandler.Kit.Run
import AvbStreamHandler.Video.LocalVideoOutStream

/-!
# When a listener stays in the slots of its ring

The size of a received packet comes from the network, the size of a slot from the
configuration, and which transfer packet is written from the subtype of the packet. Nobody
compares them. A slot of a stream for `maxPacketSize` takes, for a packet that declares
`declared` bytes:

* H.264, handed over with an RTP header of twelve bytes: up to `maxPacketSize - 4` bytes, or
  `maxPacketSize + 4` if the slots are made for MPEG-TS;
* MPEG-TS, handed over without the CIP header of eight bytes: up to `maxPacketSize + 16`
  bytes, or `maxPacketSize + 8` if the slots are made for H.264. A declared length that is
  shorter than the CIP header comes out as nearly `2 ^ 32` bytes.
-/

namespace AvbStreamHandler

open Kit Kit.Run Kit.Word IasAvbStreamState AvbVideoStream AvbVideoConfig IasAvbVideoRingBufferShm

/-- A receive stream, its local stream, and the pushes made so far. -/
structure VideoListener where
  config : AvbVideoConfig
  mMaxPacketRate : Nat
  mMaxPacketSize : Nat
  rx : VideoRxStream IasLocalVideoOutStream
  pushes : List Push := []

namespace VideoListener

/-- `IasAvbVideoStream::initReceive`. -/
def initReceive (config : AvbVideoConfig) (maxPacketRate maxPacketSize : Nat) :
    Option VideoListener :=
  if maxPacketRate = 0 ∨ maxPacketSize = 0 then none
  else if 1500 < maxPacketSize then none
  else some {
    config := config
    mMaxPacketRate := maxPacketRate
    mMaxPacketSize := maxPacketSize
    rx := { toRxStream := .init config.toRxConfig none } }

def setLocalStream (l : VideoListener) (o : IasLocalVideoOutStream) : VideoListener :=
  { l with rx := { l.rx with mLocalStream := some o } }

/-- `IasAvbVideoStream::connectTo`, for the first local stream. -/
def connectTo (l : VideoListener) (o : IasLocalVideoOutStream) : Option VideoListener :=
  if l.mMaxPacketRate = 0 ∨ l.mMaxPacketSize = 0 ∨ l.mMaxPacketRate ≠ o.mMaxPacketRate
      ∨ l.mMaxPacketSize ≠ o.mMaxPacketSize then none
  else some (l.setLocalStream o)

/-- The calls of `writeLocalVideoBuffer` that a packet leads to. -/
def deliver (l : VideoListener) (packet : Bytes) (now : Nat) : List (Option VideoDesc) → VideoListener
  | [] => l
  | d :: ds =>
      match l.rx.mLocalStream with
      | none => l
      | some o =>
          let (o', pushes) := o.writeLocalVideoBuffer packet now d
          deliver { l.setLocalStream o' with pushes := l.pushes ++ pushes } packet now ds

inductive Event
  /-- A packet of `length` bytes arrives. -/
  | packet (packet : Bytes) (length now : Nat)
  /-- Nothing has arrived for a while. -/
  | nothing (now : Nat)
  | activate
  | deactivate
  /-- A client reads from the ring. -/
  | client (call : ReaderCall)

def setRx (l : VideoListener) (rx : VideoRxStream IasLocalVideoOutStream) : VideoListener :=
  { l with rx := rx }

def receive (l : VideoListener) (packet : Option Bytes) (length now : Nat) : VideoListener :=
  let read := l.config.readFromAvbPacket l.rx packet length
  (l.setRx read.1).deliver (packet.getD fun _ => 0) now read.2

def clientCall (l : VideoListener) (call : ReaderCall) : VideoListener :=
  match l.rx.mLocalStream with
  | none => l
  | some o => l.setLocalStream (o.setRing (o.ring.readerCall call))

def step (l : VideoListener) : Event → VideoListener
  | .packet packet length now => l.receive (some packet) length now
  | .nothing now => l.receive none 0 now
  | .activate => l.setRx { l.rx with toRxStream := l.rx.activate }
  | .deactivate => l.setRx { l.rx with toRxStream := l.rx.deactivate }
  | .client call => l.clientCall call

/-- **No push has written outside its slot.** -/
def Contained (l : VideoListener) : Prop :=
  ∀ p ∈ l.pushes, TransferPacket.InSlot p.bufferSize p.slot p.touched

/-- The packet is accepted, and there is a slot for what it carries. -/
def Takes (l : VideoListener) (o : IasLocalVideoOutStream) (packet : Bytes) (length : Nat) : Prop :=
  l.rx.verdict l.config.toRxConfig (headerOk packet length) (packet 2) = eIasAvbStreamValid
    ∧ payloadLength packet ≠ 0
    ∧ o.ring.mWriteInProgress = false ∧ o.ring.grantWrite 1 ≠ 0

instance (l : VideoListener) (o : IasLocalVideoOutStream) (packet : Bytes) (length : Nat) :
    Decidable (l.Takes o packet length) := inferInstanceAs (Decidable (_ ∧ _ ∧ _ ∧ _))

/-- The payload fits into a slot that is made for packets of format `format`, taken for an
MPEG-TS packet or for an H.264 packet. -/
def FitsSlot (mMaxPacketSize : Nat) (format : IasAvbVideoFormat) (isIec : Bool)
    (declared : Nat) : Prop :=
  match format, isIec with
  | .eIasAvbVideoFormatRtp, false => declared + 4 ≤ mMaxPacketSize
  | .eIasAvbVideoFormatIec61883, false => declared ≤ mMaxPacketSize + 4
  | .eIasAvbVideoFormatRtp, true => 8 ≤ declared ∧ declared ≤ mMaxPacketSize + 8
  | .eIasAvbVideoFormatIec61883, true => 8 ≤ declared ∧ declared ≤ mMaxPacketSize + 16

instance (size declared : Nat) (format : IasAvbVideoFormat) (isIec : Bool) :
    Decidable (FitsSlot size format isIec declared) := by
  unfold FitsSlot
  split <;> infer_instance

/-- What has to hold of a packet that arrives. -/
def PacketOk (l : VideoListener) : Event → Prop
  | .packet packet length _ =>
      ∀ o, l.rx.mLocalStream = some o → l.Takes o packet length →
        FitsSlot o.mMaxPacketSize o.mFormat
          (l.config.isIec61883Packet l.rx packet length) (payloadLength packet)
  | _ => True

/-- The local stream is as `init` made it, but for what readers and pushes do. -/
structure LocalOk (o : IasLocalVideoOutStream) : Prop where
  placed : o.ring.WritePlaced
  few : o.ring.mNumBuffers < 65536
  small : o.mMaxPacketSize ≤ 1500
  bufferSize : o.bufferSize = o.mMaxPacketSize + sizeofTransferPacket o.mFormat

variable {l : VideoListener} {o : IasLocalVideoOutStream} {packet : Bytes} {length now : Nat}
  {put : Memory UInt8 → Nat → Memory UInt8}

/-! ## A push -/

/-- Where a push goes, if there is a slot for it. -/
theorem pushPayload_of_free (hidle : o.ring.mWriteInProgress = false)
    (hfree : o.ring.grantWrite 1 ≠ 0) : (o.pushPayload put now).2.2 =
      [{ bufferSize := o.bufferSize
         slot := o.ring.mWriteOffset
         touched := (put ⟨o.cell, []⟩ (o.ring.mWriteOffset * o.bufferSize % 4294967296)).touched }] := by
  unfold IasLocalVideoOutStream.pushPayload beginAccessWrite
  rw [if_neg (by rw [hidle]; simp)]
  dsimp only
  rw [if_neg hfree]

/-- Without a slot nothing is written. -/
theorem pushPayload_of_full (hfull : ¬ (o.ring.mWriteInProgress = false ∧ o.ring.grantWrite 1 ≠ 0)) :
    (o.pushPayload put now).2.2 = [] := by
  unfold IasLocalVideoOutStream.pushPayload beginAccessWrite
  split
  · rfl
  · rename_i access q haccess
    by_cases hbusy : o.ring.mWriteInProgress = true
    · rw [if_pos hbusy] at haccess
      simp at haccess
    · rw [if_neg hbusy] at haccess
      obtain ⟨rfl, rfl⟩ : _ ∧ _ := by simpa using haccess
      have hzero : o.ring.grantWrite 1 = 0 := by
        by_contra hne
        exact hfull ⟨by simpa using hbusy, hne⟩
      dsimp only
      rw [if_pos hzero]

theorem localOk_endPush (h : LocalOk o) (n now : Nat) : LocalOk (o.endPush n now).2 := by
  have hend := endAccessWrite_placed h.placed n now
  exact ⟨hend.1, hend.2 ▸ h.few, h.small, h.bufferSize⟩

theorem localOk_beginAccess (h : LocalOk o) (n : Nat) :
    LocalOk (o.setRing (o.ring.beginAccessWrite n).2) := by
  have hbegin := beginAccessWrite_offset o.ring n
  refine ⟨?_, ?_, h.small, h.bufferSize⟩
  · show (o.ring.beginAccessWrite n).2.mWriteOffset < (o.ring.beginAccessWrite n).2.mNumBuffers
    rw [hbegin.1, hbegin.2]
    exact h.placed
  · show (o.ring.beginAccessWrite n).2.mNumBuffers < 65536
    rw [hbegin.2]
    exact h.few

theorem LocalOk.setCell (h : LocalOk o) (cell : Nat → UInt8) : LocalOk (o.setCell cell) :=
  ⟨h.placed, h.few, h.small, h.bufferSize⟩

theorem localOk_pushPayload (h : LocalOk o) : LocalOk (o.pushPayload put now).2.1 := by
  have hbegin := localOk_beginAccess h 1
  unfold IasLocalVideoOutStream.pushPayload
  split
  · exact h
  · rename_i access q haccess
    rw [haccess] at hbegin
    dsimp only at hbegin ⊢
    split
    · exact localOk_endPush hbegin 0 now
    · exact localOk_endPush (hbegin.setCell _) 1 now

theorem localOk_write (h : LocalOk o) (d : Option VideoDesc) :
    LocalOk (o.writeLocalVideoBuffer packet now d).1 := by
  unfold IasLocalVideoOutStream.writeLocalVideoBuffer
  split
  · exact localOk_endPush (localOk_beginAccess h 0) 0 now
  · split
    · exact localOk_pushPayload h
    · exact localOk_pushPayload h

/-- The start of a slot is not cut off. -/
theorem LocalOk.slot_start (h : LocalOk o) :
    o.ring.mWriteOffset * o.bufferSize % 4294967296 = o.ring.mWriteOffset * o.bufferSize := by
  refine Nat.mod_eq_of_lt ?_
  have hoffset : o.ring.mWriteOffset ≤ 65535 := by
    have hplaced : o.ring.mWriteOffset < o.ring.mNumBuffers := h.placed
    have hfew := h.few
    omega
  have hsize : o.bufferSize ≤ 1524 := by
    have hsmall := h.small
    rw [h.bufferSize]
    cases o.mFormat <;> simp only [sizeofTransferPacket] <;> omega
  exact Nat.lt_of_le_of_lt (Nat.mul_le_mul hoffset hsize) (by decide)

/-- Everything a push wrote lies in its slot. -/
def AllInSlot (pushes : List Push) : Prop :=
  ∀ p ∈ pushes, TransferPacket.InSlot p.bufferSize p.slot p.touched

theorem allInSlot_push {fits : Prop} (h : LocalOk o)
    (hput : TransferPacket.InSlot o.bufferSize o.ring.mWriteOffset
      (put ⟨o.cell, []⟩ (o.ring.mWriteOffset * o.bufferSize)).touched ↔ fits) :
    AllInSlot (o.pushPayload put now).2.2 ↔
      (o.ring.mWriteInProgress = false ∧ o.ring.grantWrite 1 ≠ 0 → fits) := by
  by_cases hfree : o.ring.mWriteInProgress = false ∧ o.ring.grantWrite 1 ≠ 0
  · unfold AllInSlot
    rw [pushPayload_of_free hfree.1 hfree.2, h.slot_start]
    simp only [List.mem_singleton, forall_eq]
    exact hput.trans ⟨fun hn _ => hn, fun hn => hn hfree⟩
  · rw [pushPayload_of_full hfree]
    exact iff_of_true (fun p hp => absurd hp List.not_mem_nil) fun hcontra => absurd hcontra hfree

/-- **A packet stays in its slot exactly if its payload fits.** -/
theorem allInSlot_write (h : LocalOk o) {c : AvbVideoConfig}
    {v : VideoRxStream IasLocalVideoOutStream} :
    AllInSlot (o.writeLocalVideoBuffer packet now (some (c.describe v packet length))).2 ↔
      (o.ring.mWriteInProgress = false ∧ o.ring.grantWrite 1 ≠ 0 →
        FitsSlot o.mMaxPacketSize o.mFormat (c.isIec61883Packet v packet length)
          (payloadLength packet)) := by
  have hdeclared : payloadLength packet < 65536 := packet.be16_lt 20
  have hsmall := h.small
  unfold IasLocalVideoOutStream.writeLocalVideoBuffer
  cases hiec : c.isIec61883Packet v packet length with
  | false =>
      have hflag : (c.describe v packet length).isIec61883Packet = false := hiec
      have hsize : (c.describe v packet length).size = payloadLength packet :=
        if_neg (by rw [hiec]; simp)
      dsimp only
      rw [if_pos hflag]
      refine allInSlot_push h (TransferPacket.putH264_inSlot.trans ?_)
      unfold IasLocalVideoOutStream.rtpPacketSize
      rw [hsize, add32_of_lt (by omega), h.bufferSize]
      cases o.mFormat <;> simp only [sizeofTransferPacket, FitsSlot] <;> omega
  | true =>
      have hflag : (c.describe v packet length).isIec61883Packet = true := hiec
      have hsize : (c.describe v packet length).size
          = sub64 (payloadLength packet) cCIPHeaderSize % 4294967296 := if_pos hiec
      dsimp only
      rw [if_neg (by rw [hflag]; simp)]
      refine allInSlot_push h (TransferPacket.putMpegTS_inSlot.trans ?_)
      rw [hsize, h.bufferSize]
      unfold sub64 cCIPHeaderSize
      cases o.mFormat <;> simp only [sizeofTransferPacket, FitsSlot] <;> omega

/-! ## Runs -/

/-- The local stream is in order, if there is one. -/
def Inv (l : VideoListener) : Prop := ∀ o, l.rx.mLocalStream = some o → LocalOk o

theorem read_local (c : AvbVideoConfig) (v : VideoRxStream IasLocalVideoOutStream)
    (packet : Option Bytes) (length : Nat) :
    (c.readFromAvbPacket v packet length).1.mLocalStream = v.mLocalStream := by
  unfold readFromAvbPacket
  split
  · exact (RxStream.settle_frame ..).2
  · exact (RxStream.settle_frame ..).2

theorem inv_deliver (h : Inv l) (ds : List (Option VideoDesc)) :
    Inv (l.deliver packet now ds) := by
  induction ds generalizing l with
  | nil => exact h
  | cons d ds ih =>
      unfold deliver
      split
      · exact h
      · rename_i o ho
        refine ih ?_
        intro o' ho'
        obtain rfl := Option.some.inj ho'
        exact localOk_write (h o ho) d

theorem inv_receive (h : Inv l) (packet : Option Bytes) (length now : Nat) :
    Inv (l.receive packet length now) := by
  refine inv_deliver ?_ _
  intro o ho
  exact h o ((read_local l.config l.rx packet length).symm.trans ho)

theorem inv_step (h : Inv l) (ev : Event) : Inv (l.step ev) := by
  cases ev with
  | packet packet length now => exact inv_receive h (some packet) length now
  | nothing now => exact inv_receive h none 0 now
  | activate =>
      intro o ho
      exact h o ((RxStream.activate_local _).symm.trans ho)
  | deactivate =>
      intro o ho
      exact h o ((RxStream.deactivate_local _).symm.trans ho)
  | client call =>
      show Inv (l.clientCall call)
      unfold clientCall
      split
      · exact h
      · rename_i o ho
        intro o' ho'
        obtain rfl := Option.some.inj ho'
        have hsame := sameWriter_readerCall o.ring call
        exact ⟨hsame.placed (h o ho).placed, hsame.numBuffers ▸ (h o ho).few, (h o ho).small,
          (h o ho).bufferSize⟩

theorem deliver_one (l : VideoListener) (packet : Bytes) (now : Nat) (d : Option VideoDesc) :
    (l.deliver packet now [d]).pushes = l.pushes ++
      (l.rx.mLocalStream.map fun o => (o.writeLocalVideoBuffer packet now d).2).getD [] := by
  unfold deliver
  cases l.rx.mLocalStream with
  | none => exact (List.append_nil _).symm
  | some o => rfl

/-- What a packet adds to the pushes. -/
theorem receive_pushes (l : VideoListener) (packet : Bytes) (length now : Nat) :
    (l.receive (some packet) length now).pushes = l.pushes ++
      (l.rx.mLocalStream.map fun o =>
        if l.rx.verdict l.config.toRxConfig (headerOk packet length) (packet 2)
            = eIasAvbStreamValid ∧ payloadLength packet ≠ 0 then
          (o.writeLocalVideoBuffer packet now (some (l.config.describe l.rx packet length))).2
        else []).getD [] := by
  have hlocal := read_local l.config l.rx (some packet) length
  have hcalls : (l.config.readFromAvbPacket l.rx (some packet) length).2 =
      if l.rx.verdict l.config.toRxConfig (headerOk packet length) (packet 2)
          = eIasAvbStreamValid ∧ l.rx.isConnected = true ∧ payloadLength packet ≠ 0 then
        [some (l.config.describe l.rx packet length)]
      else [] := rfl
  unfold receive RxStream.isConnected at *
  dsimp only
  rw [hcalls]
  split
  · rename_i h
    rw [deliver_one]
    obtain ⟨o, ho⟩ := Option.isSome_iff_exists.mp h.2.1
    show l.pushes ++ ((l.config.readFromAvbPacket l.rx (some packet) length).1.mLocalStream.map
      _).getD [] = _
    rw [hlocal, ho]
    exact congrArg _ (if_pos ⟨h.1, h.2.2⟩).symm
  · rename_i h
    refine (List.append_nil _).symm.trans (congrArg _ ?_)
    cases ho : l.rx.mLocalStream with
    | none => rfl
    | some o => exact (if_neg fun hc => h ⟨hc.1, by rw [ho]; rfl, hc.2⟩).symm

/-- Nothing else pushes a payload. -/
theorem nothing_pushes (l : VideoListener) (now : Nat) :
    (l.receive none 0 now).pushes = l.pushes := by
  have hcalls : (l.config.readFromAvbPacket l.rx none 0).2 = [none] := rfl
  unfold receive
  dsimp only
  rw [hcalls, deliver_one]
  refine Eq.trans (congrArg _ ?_) (List.append_nil _)
  cases (l.setRx (l.config.readFromAvbPacket l.rx none 0).1).rx.mLocalStream <;> rfl

theorem allInSlot_append {p p' : List Push} :
    AllInSlot (p ++ p') ↔ AllInSlot p ∧ AllInSlot p' := List.forall_mem_append

/-- **The step lemma**: an event writes inside the slots exactly if its packet fits. -/
theorem contained_step (h : Inv l) (hcontained : Contained l) (ev : Event) :
    Contained (l.step ev) ↔ PacketOk l ev := by
  cases ev with
  | packet packet length now =>
      show AllInSlot (l.receive (some packet) length now).pushes ↔ _
      rw [receive_pushes, allInSlot_append, and_iff_right (show AllInSlot l.pushes from hcontained)]
      unfold PacketOk Takes
      dsimp only
      cases ho : l.rx.mLocalStream with
      | none =>
          exact iff_of_true (fun p hp => absurd hp List.not_mem_nil) fun o ho' => nomatch ho'
      | some o =>
          dsimp only [Option.map_some, Option.getD_some]
          split
          · rename_i hvalid
            rw [allInSlot_write (h o ho)]
            constructor
            · rintro hfits o' ho' ⟨-, -, hfree⟩
              obtain rfl := Option.some.inj ho'
              exact hfits hfree
            · intro hfits hfree
              exact hfits o rfl ⟨hvalid.1, hvalid.2, hfree⟩
          · rename_i hrefused
            refine iff_of_true (fun p hp => absurd hp List.not_mem_nil) ?_
            rintro o' - ⟨hvalid, hdeclared, -⟩
            exact absurd ⟨hvalid, hdeclared⟩ hrefused
  | nothing now =>
      show AllInSlot (l.receive none 0 now).pushes ↔ True
      rw [nothing_pushes]
      exact iff_of_true hcontained trivial
  | activate => exact iff_of_true hcontained trivial
  | deactivate => exact iff_of_true hcontained trivial
  | client call =>
      refine iff_of_true ?_ trivial
      show Contained (l.clientCall call)
      unfold clientCall
      split
      · exact hcontained
      · exact hcontained

/-- A listener as `initReceive`, the `init` of its local stream and `connectTo` make it. -/
def start (config : AvbVideoConfig) (maxPacketRate maxPacketSize : Nat)
    (o : Option IasLocalVideoOutStream) : Option VideoListener := do
  (← initReceive config maxPacketRate maxPacketSize).connectTo (← o)

theorem localOk_init {ipcNameEmpty shmOk : Bool} {maxPacketRate maxPacketSize numPackets : Nat}
    {format : IasAvbVideoFormat} {stale : Nat → UInt8} (hn : numPackets < 65536)
    (h : IasLocalVideoOutStream.init ipcNameEmpty maxPacketRate maxPacketSize format numPackets
      shmOk stale = some o) : LocalOk o := by
  unfold IasLocalVideoOutStream.init at h
  split at h
  · exact absurd h (by simp)
  · split at h
    · exact absurd h (by simp)
    · split at h
      · exact absurd h (by simp)
      · rename_i hsmall hrest
        obtain rfl := Option.some.inj h
        refine ⟨?_, hn, Nat.le_of_not_lt hsmall, rfl⟩
        show 0 < numPackets
        exact Nat.pos_of_ne_zero fun h0 => hrest (Or.inl h0)

theorem start_eq {config : AvbVideoConfig} {maxPacketRate maxPacketSize : Nat}
    (h : start config maxPacketRate maxPacketSize (some o) = some l) :
    l.rx.mLocalStream = some o ∧ l.pushes = [] := by
  unfold start initReceive at h
  split at h
  · exact absurd h (by simp)
  · split at h
    · exact absurd h (by simp)
    · simp only [Option.bind_eq_bind, Option.bind_some] at h
      unfold connectTo at h
      split at h
      · exact absurd h (by simp)
      · obtain rfl := Option.some.inj h
        exact ⟨rfl, rfl⟩

/--
**When a listener stays in the slots of its ring.**

For every configuration that `init` and `connectTo` accept and every run of packets of any
length and content, with clients reading meanwhile: no push ever writes outside its slot,
exactly if every packet that is accepted and finds a slot fits into it.
-/
theorem contained_iff {config : AvbVideoConfig} {maxPacketRate maxPacketSize : Nat}
    {ipcNameEmpty shmOk : Bool} {localPacketRate localPacketSize numPackets : Nat}
    {format : IasAvbVideoFormat} {stale : Nat → UInt8} (hn : numPackets < 65536)
    (hstart : start config maxPacketRate maxPacketSize
      (IasLocalVideoOutStream.init ipcNameEmpty localPacketRate localPacketSize format numPackets
        shmOk stale) = some l)
    (events : List Event) :
    (∀ pre, pre <+: events → Contained (exec step l pre)) ↔ Always step PacketOk l events := by
  have hgood : ∀ l : VideoListener, Inv l ∧ Contained l → Contained l := fun _ h => h.2
  refine good_iff_always hgood ?_ ?_ ?_
  · intro l ev h hok
    exact ⟨inv_step h.1 ev, (contained_step h.1 h.2 ev).mpr hok⟩
  · intro l ev h hbad hcontained
    exact hbad ((contained_step h.1 h.2 ev).mp hcontained)
  · cases ho : IasLocalVideoOutStream.init ipcNameEmpty localPacketRate localPacketSize format
        numPackets shmOk stale with
    | none =>
        rw [ho] at hstart
        unfold start at hstart
        simp at hstart
    | some o =>
        rw [ho] at hstart
        obtain ⟨hlocal, hnone⟩ := start_eq hstart
        refine ⟨?_, ?_⟩
        · intro o' ho'
          obtain rfl := Option.some.inj (hlocal.symm.trans ho')
          exact localOk_init hn ho
        · intro p hp
          rw [hnone] at hp
          exact absurd hp List.not_mem_nil

/-- A listener for H.264 packets of 200 bytes, with four slots of 216 bytes. -/
def smallListener : VideoListener where
  config := strictVideo
  mMaxPacketRate := 4000
  mMaxPacketSize := 200
  rx :=
    { toRxStream := .init strictVideo.toRxConfig
        (some { mMaxPacketRate := 4000, mMaxPacketSize := 200, mFormat := .eIasAvbVideoFormatRtp,
                ring := { mNumBuffers := 4 }, bufferSize := 216, cell := fun _ => 0 }) }

theorem contained_iff_small :
    (∀ pre, pre <+: [.packet (cvfPacket 0x02 0 196) 224 1, .nothing 2] →
      Contained (exec step smallListener pre)) ↔
      Always step PacketOk smallListener [.packet (cvfPacket 0x02 0 196) 224 1, .nothing 2] :=
  @contained_iff smallListener strictVideo 4000 200 false true 4000 200 4 .eIasAvbVideoFormatRtp
    (fun _ => 0) (by decide) rfl _

/-- **A packet of 197 bytes reaches one byte into the next slot.** -/
theorem large_packet_leaves_its_slot :
    ¬ ∀ pre, pre <+: [.packet (cvfPacket 0x02 0 197) 225 1] →
      Contained (exec step smallListener pre) := by
  intro h
  have hall := h _ List.prefix_rfl
  unfold Contained at hall
  revert hall
  decide +kernel

end VideoListener

end AvbStreamHandler
