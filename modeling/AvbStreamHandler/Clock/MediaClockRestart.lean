import AvbStreamHandler.Clock.CrfRoundTrip

/-!
# The media clock restart bit

A talker and a listener joined by a wire that loses nothing. The talker's clock domain gains
and loses its lock at any time, packets come back to the pool and are written again in any
order, and every packet that is sent is read by the listener. What the property speaks of is
kept in a record for each packet: the byte that has the bit, here and in the packet before,
whether the domain has been locked anew in between, and the listener that reads it. Neither
side looks at the records.

The source comment puts the bit at `0x08`, the place of `mr` behind the version; that is also
the one bit the talker's mask clears. What the talker toggles is `0x04`, so that the bit it
clears is never set and the bit it sets in a packet of the pool is never cleared; and the
listener looks at `0x40`, a bit of the version, which validation wants to be zero. So there
is no bit in the byte for which the property holds as soon as there is something to transport:
`mr` is any mask that validation leaves open.
-/

namespace AvbStreamHandler

open Kit Kit.Run IasAvbStreamState IasAvbCompatibility IasAvbClockReferenceStreamType
  IasAvbClockReferenceStream

/-- One packet on the wire. -/
structure RestartRecord where
  /-- Byte 1 of the packet before. -/
  prev : UInt8
  bytes : Bytes
  length : Nat
  rx : RxAnswers
  /-- The listener, before it reads the packet. -/
  listener : IasAvbClockReferenceStream
  /-- The clock domain was locked anew since the packet before. -/
  due : Bool

namespace RestartRecord

/-- The bit has changed. -/
def Changed (mr : UInt8) (r : RestartRecord) : Prop := r.bytes 1 &&& mr ≠ r.prev &&& mr

/-- The listener sees a change. -/
def Detected (r : RestartRecord) : Prop :=
  mrField r.bytes ≠ r.listener.mMediaClockRestartToggle

/-- How often the listener resets its clock domain on reading the packet. -/
def resets (r : RestartRecord) : Nat :=
  (r.listener.readFromAvbPacket (some r.bytes) r.length r.rx).resets

/-- The packet with the bit inverted. -/
def inverted (mr : UInt8) (r : RestartRecord) : Bytes := r.bytes.put 1 (r.bytes 1 ^^^ mr)

/-- The restart is transported by this packet, if there is one, and validation does not care. -/
structure Transported (mr : UInt8) (r : RestartRecord) : Prop where
  changed_iff : r.Changed mr ↔ r.due = true
  detected : r.due = true → r.Detected ∧ r.resets = 1
  valid : r.listener.validate (r.inverted mr) r.length = r.listener.validate r.bytes r.length

end RestartRecord

/-- The two sides of the wire. -/
structure RestartWorld where
  talker : CrfTalker
  listener : IasAvbClockReferenceStream
  /-- The talker's clock domain is locked. -/
  locked : Bool
  /-- It was locked anew since the last packet. -/
  due : Bool := false
  /-- Byte 1 of the last packet. -/
  last : UInt8 := 0x80
  records : List RestartRecord := []

inductive RestartEvent
  | activate
  | deactivate
  | setLockState (locked : Bool)
  /-- The talker writes packet `k`; the listener reads what is sent. -/
  | write (k nextWindowStart : Nat) (clock : MasterAnswers) (length : Nat) (rx : RxAnswers)
  /-- The listener has received nothing for a while. -/
  | timeout

namespace RestartWorld

/-- The clock domain answers with the state it is in. -/
def answers (w : RestartWorld) (clock : MasterAnswers) : MasterAnswers :=
  { clock with locked := w.locked }

def setTalker (w : RestartWorld) (talker : CrfTalker) : RestartWorld :=
  { w with talker := talker }

def setListener (w : RestartWorld) (listener : IasAvbClockReferenceStream) : RestartWorld :=
  { w with listener := listener }

/-- A packet goes over the wire. -/
def send (w : RestartWorld) (bytes : Bytes) (length : Nat) (rx : RxAnswers) : RestartWorld :=
  { w with
    listener := (w.listener.readFromAvbPacket (some bytes) length rx).stream
    due := false
    last := bytes 1
    records := ⟨w.last, bytes, length, rx, w.listener, w.due⟩ :: w.records }

def step (w : RestartWorld) : RestartEvent → RestartWorld
  | .activate => w.setTalker (w.talker.step .activate)
  | .deactivate => w.setTalker (w.talker.step .deactivate)
  | .setLockState locked =>
      { w with locked := locked, due := w.due || (!w.locked && locked) }
  | .write k nextWindowStart clock length rx =>
      match w.talker.writeCall k nextWindowStart (w.answers clock) with
      | (s, .packet bytes _ _) =>
          (w.setTalker ((w.talker.setStream s).setPacket k bytes)).send bytes length rx
      | (s, _) => w.setTalker (w.talker.setStream s)
  | .timeout => w.setListener (w.listener.readFromAvbPacket none 0 {}).stream

/-- A talker and a listener as they were set up. -/
def start (t c : IasAvbClockReferenceStream) (streamId reference : Nat)
    (memory : Nat → Bytes) : RestartWorld where
  talker := .start t streamId reference memory
  listener := c
  locked := t.mClockValid

/-! ## The byte -/

theorem mrField_of_restart {p : Bytes} (h : p 1 = 0x80 ∨ p 1 = 0x84) : mrField p = 0 := by
  unfold mrField
  rcases h with h | h <;> rw [h] <;> rfl

/-- The packet is different in byte 1 only. -/
theorem validate_put {s : IasAvbClockReferenceStream} {p : Bytes} {b : UInt8} {length : Nat}
    (hb : b &&& 0xF1 = p 1 &&& 0xF1) : s.validate (p.put 1 b) length = s.validate p length := by
  have hne : ∀ i, i ≠ 1 → (p.put 1 b) i = p i := fun i hi => Bytes.put_of_ne hi
  have hword : ∀ i, 2 ≤ i → (p.put 1 b).be16 i = p.be16 i := fun i hi =>
    Bytes.be16_put_of_ne (by omega) (by omega)
  have hlong : (p.put 1 b).be32 12 = p.be32 12 :=
    Bytes.be32_congr fun k _ => hne _ (by omega)
  have hpayload : s.format.payloadLength (p.put 1 b) = s.format.payloadLength p := by
    unfold CrfFormat.payloadLength format initFormat
    rw [hword _ (by split <;> decide)]
  have hfreq : readBaseFreq s.mCompatibilityMode (p.put 1 b)
      = readBaseFreq s.mCompatibilityMode p := by
    unfold readBaseFreq
    rw [hne 24 (by decide), hlong]
  have hevents : readEventsPerStamp s.mCompatibilityMode (p.put 1 b)
      = readEventsPerStamp s.mCompatibilityMode p := by
    unfold readEventsPerStamp
    rw [hword 26 (by decide), hword 18 (by decide)]
  have htype : readType s.mCompatibilityMode (p.put 1 b) = readType s.mCompatibilityMode p := by
    unfold readType initFormat
    split
    · rw [hword 22 (by decide)]
    · rw [hne 3 (by decide)]
  have hfields : s.HeaderFields (p.put 1 b) ↔ s.HeaderFields p := by
    unfold HeaderFields
    rw [hne 0 (by decide), htype, Bytes.put_self, hb, hfreq, hne 12 (by decide)]
  have hfits : LengthFits s.format (p.put 1 b) length ↔ LengthFits s.format p length := by
    unfold LengthFits
    rw [hpayload]
  unfold validate checkHeader checkFlow
  simp only [hpayload, hfreq, hevents, hfields, hfits, hne 2 (by decide)]

/-- Inverting bits that validation leaves open makes no difference to it. -/
theorem validate_inverted {mr : UInt8} (hmr : mr &&& 0xF1 = 0) (r : RestartRecord) :
    r.listener.validate (r.inverted mr) r.length = r.listener.validate r.bytes r.length := by
  have hzero := congrArg UInt8.toNat hmr
  refine validate_put (UInt8.toNat_inj.mp ?_)
  rw [UInt8.toNat_and] at hzero
  rw [UInt8.toNat_and, UInt8.toNat_xor, UInt8.toNat_and, Nat.and_xor_distrib_right, hzero]
  exact Nat.xor_zero _

/-! ## Runs -/

/-- Nothing was toggled yet: no packet was due to carry a change. -/
structure Quiet (w : RestartWorld) : Prop where
  toggle : w.talker.stream.mMediaClockRestartToggle = 0
  packets : ∀ k, w.talker.packets k 1 = 0x80
  last : w.last = 0x80
  records : ∀ r ∈ w.records, r.prev = 0x80 ∧ r.bytes 1 = 0x80

/-- What holds after every step. -/
structure Inv (t : IasAvbClockReferenceStream) (w : RestartWorld) : Prop where
  talker : CrfTalker.Inv t w.talker
  /-- The listener's toggle never leaves zero … -/
  toggle : w.listener.mMediaClockRestartToggle = 0
  /-- … and no packet on the wire says anything else. -/
  records : ∀ r ∈ w.records,
    mrField r.bytes = 0 ∧ r.listener.mMediaClockRestartToggle = 0
  /-- A lock the talker does not know of is due. -/
  known : w.due = false → w.locked = true → w.talker.stream.mClockValid = true
  quiet : (∀ r ∈ w.records, r.due = false) → w.Quiet

/-- Reading a packet of the talker leaves the listener's toggle at zero. -/
theorem read_toggle {s : IasAvbClockReferenceStream} {p : Bytes} {length : Nat}
    {rx : RxAnswers} (hs : s.mMediaClockRestartToggle = 0) (hp : mrField p = 0) :
    (s.readFromAvbPacket (some p) length rx).stream.mMediaClockRestartToggle = 0 := by
  have hformat := settle_sameFormat (s.setSeqNum (p 2)) (s.validate p length).newState
  unfold readFromAvbPacket
  dsimp only
  split
  · obtain ⟨⟨count, time, hstream⟩, -⟩ :=
      ((s.setSeqNum (p 2)).settle (s.validate p length).newState).processStamps_spec p
        (s.validate p length) rx
    rw [hstream]
    exact hp
  · exact hformat.toggle.trans hs

/-- A change of the talker that writes nothing. -/
theorem inv_setTalker {t : IasAvbClockReferenceStream} {w : RestartWorld}
    {s : IasAvbClockReferenceStream} (h : Inv t w) (hs : SameTalker w.talker.stream s) :
    Inv t (w.setTalker (w.talker.setStream s)) where
  talker := CrfTalker.inv_of_same h.talker hs
  toggle := h.toggle
  records := h.records
  known := fun hdue hlocked => hs.clockValid.trans (h.known hdue hlocked)
  quiet := fun hall =>
    ⟨hs.toggle.trans (h.quiet hall).toggle, (h.quiet hall).packets, (h.quiet hall).last,
      (h.quiet hall).records⟩

/-- A packet is written and sent. -/
theorem inv_send {t : IasAvbClockReferenceStream} {w : RestartWorld}
    {s : IasAvbClockReferenceStream} {k length : Nat} {bytes : Bytes} {stamps : List Nat}
    {hasMaster : Prop} {rx : RxAnswers} (h : Inv t w)
    (hw : WrittenPacket w.talker.stream s (w.talker.packets k) bytes stamps hasMaster w.locked) :
    Inv t ((w.setTalker ((w.talker.setStream s).setPacket k bytes)).send bytes length rx) := by
  obtain ⟨htalker, hprepared⟩ := CrfTalker.inv_of_written h.talker hw
  have hmr : mrField bytes = 0 := mrField_of_restart hprepared.restart
  refine ⟨htalker, read_toggle h.toggle hmr, ?_, fun _ hlocked => hw.clockValid.trans hlocked, ?_⟩
  · intro r hr
    rcases List.mem_cons.mp hr with rfl | hr
    · exact ⟨hmr, h.toggle⟩
    · exact h.records r hr
  · intro hall
    have hdue : w.due = false := hall _ List.mem_cons_self
    have hquiet := h.quiet fun r hr => hall r (List.mem_cons_of_mem _ hr)
    have htoggle : s.mMediaClockRestartToggle = 0 := by
      rw [hw.toggle, if_neg, hquiet.toggle]
      rintro ⟨hinvalid, hlocked⟩
      rw [h.known hdue hlocked] at hinvalid
      exact Bool.noConfusion hinvalid
    have hbyte : bytes 1 = 0x80 := by
      rw [hw.restart, hquiet.packets, htoggle]
      rfl
    refine ⟨htoggle, ?_, hbyte, ?_⟩
    · intro k'
      show Function.update w.talker.packets k bytes k' 1 = 0x80
      by_cases hk : k' = k
      · rw [hk, Function.update_self]
        exact hbyte
      · rw [Function.update_of_ne hk]
        exact hquiet.packets k'
    · intro r hr
      rcases List.mem_cons.mp hr with rfl | hr
      · exact ⟨hquiet.last, hbyte⟩
      · exact hquiet.records r hr

theorem inv_step {t : IasAvbClockReferenceStream} {w : RestartWorld} (e : RestartEvent)
    (h : Inv t w) : Inv t (w.step e) := by
  cases e with
  | activate => exact inv_setTalker h (CrfTalker.activate_same _)
  | deactivate => exact inv_setTalker h (CrfTalker.deactivate_same _)
  | setLockState locked =>
      refine ⟨h.talker, h.toggle, h.records, ?_, fun hall => ⟨(h.quiet hall).toggle,
        (h.quiet hall).packets, (h.quiet hall).last, (h.quiet hall).records⟩⟩
      intro hdue hlocked
      change (w.due || (!w.locked && locked)) = false at hdue
      change locked = true at hlocked
      rw [Bool.or_eq_false_iff, hlocked, Bool.and_true] at hdue
      exact h.known hdue.1 (by simpa using hdue.2)
  | write k nextWindowStart clock length rx =>
      show Inv t (match w.talker.writeCall k nextWindowStart (w.answers clock) with
        | (s, .packet bytes _ _) =>
            (w.setTalker ((w.talker.setStream s).setPacket k bytes)).send bytes length rx
        | (s, _) => w.setTalker (w.talker.setStream s))
      split
      · rename_i s bytes stamps attime hcall
        exact inv_send h (writeToAvbPacket_packet hcall)
      · rename_i s outcome hother hcall
        have hsame : SameTalker w.talker.stream
            (w.talker.writeCall k nextWindowStart (w.answers clock)).1 :=
          CrfTalker.writeCall_same fun s' bytes stamps attime heq =>
            hother bytes stamps attime (congrArg Prod.snd (hcall.symm.trans heq))
        rw [hcall] at hsame
        exact inv_setTalker h hsame
  | timeout =>
      exact ⟨h.talker, (settle_sameFormat _ _).toggle.trans h.toggle, h.records, h.known,
        fun hall => ⟨(h.quiet hall).toggle, (h.quiet hall).packets, (h.quiet hall).last,
          (h.quiet hall).records⟩⟩

theorem inv_start {t c : IasAvbClockReferenceStream} {streamId reference : Nat}
    {memory : Nat → Bytes} (ht : t.mMediaClockRestartToggle = 0)
    (hc : c.mMediaClockRestartToggle = 0) : Inv t (start t c streamId reference memory) where
  talker := CrfTalker.inv_start t streamId reference memory ht
  toggle := hc
  records := by
    intro r hr
    cases hr
  known := fun _ hlocked => hlocked
  quiet := fun _ =>
    ⟨ht, CrfTalker.start_restart t streamId reference memory, rfl, by
      intro r hr
      cases hr⟩

/-- The listener never sees a change. -/
theorem not_transported {mr : UInt8} {r : RestartRecord}
    (h : mrField r.bytes = 0 ∧ r.listener.mMediaClockRestartToggle = 0) (hdue : r.due = true) :
    ¬ r.Transported mr := fun ht => (ht.detected hdue).1 (h.1.trans h.2.symm)

/--
**The media clock restart is transported only while there is none.**

In every run of a talker and a listener, whichever bit of the byte is taken: all packets
carry the bit as they should, and the listener follows, exactly if no packet was sent after
the talker's clock domain had been locked anew.
-/
theorem restart_transported_iff {comp comp' : IasAvbCompatibility} {env : CrfTxEnvironment}
    {type type' : IasAvbClockReferenceStreamType} {stamps interval : UInt16}
    {baseFreq : UInt32} {pull : IasAvbClockMultiplier}
    {poolSize streamId reference mHoldoffTime maxStamps : Nat} {memory : Nat → Bytes}
    {validation : RxConfig} {domain : Bool} {t c : IasAvbClockReferenceStream}
    (hinit : initTransmit comp env type stamps interval baseFreq pull poolSize = .ok t)
    (hlistener : initReceive comp' validation mHoldoffTime domain type' maxStamps = .ok c)
    {mr : UInt8} (hmr : mr &&& 0xF1 = 0) (es : List RestartEvent) :
    (∀ r ∈ (exec step (start t c streamId reference memory) es).records, r.Transported mr) ↔
      ∀ r ∈ (exec step (start t c streamId reference memory) es).records, r.due = false := by
  obtain ⟨-, -, -, -, -, -, -, -, -, htoggle, -⟩ := CrfTalker.initTransmit_ok hinit
  have hinv : Inv t (exec step (start t c streamId reference memory) es) :=
    inv_exec_of_step (fun _ e h => inv_step e h)
      (inv_start htoggle (initReceive_toggle hlistener)) es
  constructor
  · intro hall r hr
    by_contra hdue
    exact not_transported (hinv.records r hr) (Bool.not_eq_false _ ▸ hdue) (hall r hr)
  · intro hall r hr
    obtain ⟨hprev, hbyte⟩ := (hinv.quiet hall).records r hr
    have hdue := hall r hr
    refine ⟨?_, ?_, validate_inverted hmr r⟩
    · unfold RestartRecord.Changed
      rw [hprev, hbyte, hdue]
      exact iff_of_false (fun hne => hne rfl) Bool.false_ne_true
    · intro hyes
      rw [hdue] at hyes
      exact Bool.noConfusion hyes

/-! ## A lock that is lost and won again -/

/-- A talker and a listener of the later layout. -/
def sampleWorld : RestartWorld :=
  start (sampleTalker eIasAvbCompLatest 48000) (sampleListener eIasAvbCompLatest) 1 0
    fun _ _ => 0

/-- The stream is started, and two packets are sent. -/
def sampleSends (between : List RestartEvent) : List RestartEvent :=
  .activate :: .write 0 0 sampleClock 36 {} :: between ++ [.write 0 0 sampleClock 36 {}]

/-- The domain loses its lock and a packet says nothing of it; it is locked again, and the next
packet, the same one of the pool, has `0x84` in byte 1: the bit did not change, and the listener
does not look at the one that did. -/
theorem restart_is_lost :
    ¬ (∀ r ∈ (exec step sampleWorld (sampleSends [.setLockState false,
      .write 0 0 sampleClock 36 {}, .setLockState true])).records, r.Transported 0x08) := by
  intro hall
  have hhead := hall _ List.mem_cons_self
  have hchanged := hhead.changed_iff.mpr rfl
  exact hchanged (by decide +kernel)

/-- As long as the lock is kept, there is nothing to transport. -/
theorem restart_transported_iff_sample :
    (exec step sampleWorld (sampleSends [.timeout])).records.length = 2
      ∧ ∀ r ∈ (exec step sampleWorld (sampleSends [.timeout])).records, r.Transported 0x08 :=
  ⟨rfl, (@restart_transported_iff eIasAvbCompLatest eIasAvbCompLatest sampleEnvironment
    eIasAvbCrsTypeAudio eIasAvbCrsTypeAudio 2 160 48000 IasAvbClockMultiplier.eIasAvbCrsMultFlat
    8 1 0 15000000 1 (fun _ _ => 0) ⟨cValidateAlways, 1⟩ true _ _ rfl rfl 0x08 (by decide)
    (sampleSends [.timeout])).mpr (by
      intro r hr
      rcases List.mem_cons.mp hr with rfl | hr
      · rfl
      · rw [List.mem_singleton.mp hr]
        rfl)⟩

end RestartWorld

end AvbStreamHandler
