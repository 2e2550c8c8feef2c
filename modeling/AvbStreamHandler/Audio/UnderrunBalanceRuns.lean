import AvbStreamHandler.Audio.TransmitGeometryRuns
import AvbStreamHandler.Audio.UnderrunBalance

/-!
# The account of a talker over a run

The samples taken from channel 0 and the samples sent on it, counted beside a run of the
talker, from each activation or new connection on. What is owed makes the difference, as long
as the counter does not go around: nothing looks at it while there is nothing to dump.
-/

namespace AvbStreamHandler

open Kit Kit.Word Kit.Run

namespace TxAudioStream

open IasLocalAudioStream

variable {t : AvbAudioConfig} {e : Estimates} {s : TxAudioStream} {clock : ClockReading}

/-- A local stream without descriptors. -/
abbrev PlainStream := {c : SoundStream // c.val.stream.hasBufferDesc = false}

inductive AccountEvent
  | activationChanged (active : Bool)
  | connectTo (l : Option PlainStream)
  /-- Whatever was written to the local stream, or reset, since the last packet. -/
  | localChanged (l : SoundState)
  | writeToAvbPacket (clock : ClockReading)

def AccountEvent.toTalker : AccountEvent → TalkerEvent
  | .activationChanged active => .activationChanged active
  | .connectTo l => .connectTo (l.map Subtype.val)
  | .localChanged l => .localChanged l
  | .writeToAvbPacket clock => .writeToAvbPacket clock

/-- A talker, with the account of channel 0. -/
structure Ledger where
  talker : Talker
  /-- What was read or dumped. -/
  removed : Nat := 0
  /-- What was sent while the local stream was ready to be read. -/
  emitted : Nat := 0
  /-- The assertion on `mWaitForData` held. -/
  asserted : Bool := true
  /-- `mDummySamplesSent` went around. -/
  wrapped : Bool := false

/-- What channel 0 of the connected local stream holds. -/
def held (s : TxAudioStream) : Nat :=
  match s.mLocalStream with
  | some c => firstFill c.stream
  | none => 0

/-- A new account. -/
def Ledger.reopen (w : Ledger) (talker : Talker) : Ledger :=
  { w with talker := talker, removed := 0, emitted := 0 }

def Ledger.setTalker (w : Ledger) (talker : Talker) : Ledger := { w with talker := talker }

/-- The samples of channel 0 in a packet. -/
def sentFirst (block : AvbAudioConfig.TxBlock) : Nat :=
  match block.channels.head? with
  | some x => x.length
  | none => 0

/-- A data packet is entered. `s'` is the stream after the call, `p` what the dump left. -/
def Ledger.enter (w : Ledger) (s s' : TxAudioStream) (p : TxAudioStream × IasLocalAudioStream)
    (block : AvbAudioConfig.TxBlock) : Ledger :=
  { w with
    removed := w.removed + (s.held - s'.held)
    emitted := if p.2.isReadReady then w.emitted + sentFirst block else w.emitted
    asserted := w.asserted && (decide (s.mDummySamplesSent = 0) || s.mWaitForData)
    wrapped := w.wrapped || decide (s.mDummySamplesSent < p.1.mDummySamplesSent)
      || decide (s'.mDummySamplesSent < p.1.mDummySamplesSent) }

def Ledger.step (t : AvbAudioConfig) (e : Estimates) (w : Ledger) (ev : AccountEvent) : Ledger :=
  let talker := TxAudioStream.step t e w.talker ev.toTalker
  match ev with
  | .activationChanged active => if active then w.reopen talker else w.setTalker talker
  | .connectTo _ =>
      if talker.stream.mLocalStream.isSome then w.reopen talker else w.setTalker talker
  | .localChanged _ => w.setTalker talker
  | .writeToAvbPacket clock =>
      match w.talker.stream.writeToAvbPacket e clock, w.talker.stream.mLocalStream with
      | some (s', .dataPacket _ block _), some c =>
          (w.enter w.talker.stream s' (w.talker.stream.compensate e c.stream) block).setTalker
            talker
      | _, _ => w.setTalker talker

/-- After `initTransmit`. -/
def ledger (t : AvbAudioConfig) (heap : Nat → AudioData) : Ledger where
  talker := start t heap

/-- **Silence is made up for.** -/
structure Balanced (w : Ledger) : Prop where
  waits : 0 < w.talker.stream.mDummySamplesSent → w.talker.stream.mWaitForData = true
  balance : w.removed + w.talker.stream.mDummySamplesSent = w.emitted
  counts : w.wrapped = false
  asserts : w.asserted = true

/-- What is still owed after the dump, and another packet of silence, is less than 2^32. -/
def Fits (s : TxAudioStream) (l : IasLocalAudioStream) : Prop :=
  s.mDummySamplesSent - min (s.mDummySamplesSent % 65536) l.minFill
    + s.mSamplesPerChannelPerPacket < 4294967296

/-- A packet that takes its samples from a local stream has room in the counter. -/
def RoomToOwe (w : Ledger) : AccountEvent → Prop
  | .writeToAvbPacket clock => w.talker.stream.mActive = true →
      w.talker.stream.startPacket clock ≠ none →
      ∀ c, w.talker.stream.mLocalStream = some c → Fits w.talker.stream c.stream
  | _ => True

theorem unwrapped_iff {l : IasLocalAudioStream} (hS : s.mSamplesPerChannelPerPacket < 65536) :
    Fits s l ↔ (s.nextExchange l).owed < 4294967296 := by
  have hfits : Fits s l ↔ s.mDummySamplesSent - (s.nextExchange l).dumped
      + s.mSamplesPerChannelPerPacket < 4294967296 := Iff.rfl
  have howed : (s.nextExchange l).owed = if (s.nextExchange l).read = 0
      then s.mDummySamplesSent - (s.nextExchange l).dumped + s.mSamplesPerChannelPerPacket
      else 0 := rfl
  rw [hfits, howed]
  by_cases hread : (s.nextExchange l).read = 0
  · rw [if_pos hread]
  · have hall : s.mDummySamplesSent ≤ (s.nextExchange l).dumped :=
      Nat.not_lt.mp fun hless => hread (Exchange.read_of_owed hless)
    rw [if_neg hread]
    omega

/-! ## What a run keeps -/

/-- The invariant of the ledger. -/
structure LedgerInv (t : AvbAudioConfig) (w : Ledger) : Prop where
  balanced : Balanced w
  stream : TxInv t w.talker.stream
  returns : w.talker.hung = false
  plain : ∀ c, w.talker.stream.mLocalStream = some c → c.stream.hasBufferDesc = false
  counter : w.talker.stream.mDummySamplesSent < 4294967296

theorem ledgerInv_ledger (t : AvbAudioConfig) (heap : Nat → AudioData) :
    LedgerInv t (ledger t heap) where
  balanced := ⟨fun hpos => absurd hpos (Nat.lt_irrefl 0), rfl, rfl, rfl⟩
  stream := ⟨rfl, fun _ hc => nomatch hc⟩
  returns := rfl
  plain := fun _ hc => nomatch hc
  counter := by
    show 0 < 4294967296
    omega

variable {w : Ledger} {talker : Talker}

/-- A call that leaves the account alone. -/
theorem ledgerInv_setTalker (h : LedgerInv t w) (hstream : TxInv t talker.stream)
    (hreturns : talker.hung = false)
    (hplain : ∀ c, talker.stream.mLocalStream = some c → c.stream.hasBufferDesc = false)
    (howed : talker.stream.mDummySamplesSent = w.talker.stream.mDummySamplesSent)
    (hwait : talker.stream.mWaitForData = w.talker.stream.mWaitForData) :
    LedgerInv t (w.setTalker talker) := by
  refine ⟨⟨?_, ?_, h.balanced.counts, h.balanced.asserts⟩, hstream, hreturns, hplain, ?_⟩
  · show 0 < talker.stream.mDummySamplesSent → talker.stream.mWaitForData = true
    rw [howed, hwait]
    exact h.balanced.waits
  · show w.removed + talker.stream.mDummySamplesSent = w.emitted
    rw [howed]
    exact h.balanced.balance
  · show talker.stream.mDummySamplesSent < 4294967296
    rw [howed]
    exact h.counter

/-- A new account starts with nothing owed. -/
theorem ledgerInv_reopen (h : LedgerInv t w) (hstream : TxInv t talker.stream)
    (hreturns : talker.hung = false)
    (hplain : ∀ c, talker.stream.mLocalStream = some c → c.stream.hasBufferDesc = false)
    (hzero : talker.stream.mDummySamplesSent = 0) : LedgerInv t (w.reopen talker) := by
  refine ⟨⟨?_, ?_, h.balanced.counts, h.balanced.asserts⟩, hstream, hreturns, hplain, ?_⟩
  · show 0 < talker.stream.mDummySamplesSent → _
    omega
  · show 0 + talker.stream.mDummySamplesSent = 0
    omega
  · show talker.stream.mDummySamplesSent < 4294967296
    omega

theorem step_calm (h : LedgerInv t w) (ev : TalkerEvent) :
    TxAudioStream.step t e w.talker ev = match ev with
      | .activationChanged active => w.talker.setStream (w.talker.stream.activationChanged active)
      | .connectTo l => w.talker.setStream (connectTo t w.talker.stream (l.map Subtype.val))
      | .localChanged l => w.talker.setStream (w.talker.stream.replaceLocal l.val)
      | .writeToAvbPacket clock =>
          match w.talker.stream.writeToAvbPacket e clock with
          | some (s, out) => (w.talker.setStream s).record out
          | none => { w.talker with hung := true } := by
  unfold TxAudioStream.step
  refine (if_neg ?_).trans ?_
  · rw [h.returns]
    exact Bool.false_ne_true
  · cases ev <;> rfl

theorem ledgerInv_activationChanged (h : LedgerInv t w) (active : Bool) :
    LedgerInv t (w.step t e (.activationChanged active)) := by
  have hstream := txInv_activationChanged h.stream active
  unfold Ledger.step AccountEvent.toTalker
  rw [step_calm h]
  cases active with
  | true => exact ledgerInv_reopen h hstream h.returns h.plain rfl
  | false => exact ledgerInv_setTalker h hstream h.returns h.plain rfl rfl

/-- A connection is made, and nothing is owed on it, or there is none. -/
theorem connectTo_account (t : AvbAudioConfig) (s : TxAudioStream) (l : Option ConnectedStream) :
    (connectTo t s l).mLocalStream = none
        ∧ (connectTo t s l).mDummySamplesSent = s.mDummySamplesSent
        ∧ (connectTo t s l).mWaitForData = s.mWaitForData
      ∨ (connectTo t s l).mLocalStream = l ∧ l ≠ none
        ∧ (connectTo t s l).mDummySamplesSent = 0 := by
  cases l with
  | none => exact Or.inl ⟨rfl, rfl, rfl⟩
  | some l =>
      unfold connectTo
      dsimp only
      split
      · exact Or.inr ⟨rfl, Option.some_ne_none l, rfl⟩
      · exact Or.inl ⟨rfl, rfl, rfl⟩

theorem ledgerInv_connectTo (h : LedgerInv t w) (hrate : t.mSampleFrequency ≠ 0)
    (l : Option PlainStream) : LedgerInv t (w.step t e (.connectTo l)) := by
  have hstream := txInv_connectTo h.stream hrate (l.map Subtype.val)
  have haccount := connectTo_account t w.talker.stream ((l.map Subtype.val).map Subtype.val)
  unfold Ledger.step AccountEvent.toTalker
  rw [step_calm h]
  dsimp only
  rcases haccount with ⟨hnone, howed, hwait⟩ | ⟨hlocal, hsome, hzero⟩
  · rw [if_neg (by
      show ¬ (connectTo t w.talker.stream _).mLocalStream.isSome = true
      rw [hnone]
      exact Bool.false_ne_true)]
    refine ledgerInv_setTalker h hstream h.returns (fun c hc => ?_) howed hwait
    exact nomatch hnone.symm.trans hc
  · rw [if_pos (by
      show (connectTo t w.talker.stream _).mLocalStream.isSome = true
      rw [hlocal]
      exact Option.isSome_iff_ne_none.mpr hsome)]
    refine ledgerInv_reopen h hstream h.returns (fun c hc => ?_) hzero
    have hl : (l.map Subtype.val).map Subtype.val = some c := hlocal.symm.trans hc
    cases l with
    | none => exact nomatch hl
    | some l =>
        obtain rfl := Option.some.inj hl
        exact l.property

/-- Whatever becomes of the local stream, it stays without descriptors. -/
theorem replaceLocal_account (s : TxAudioStream) (l : IasLocalAudioStream)
    (hplain : ∀ c, s.mLocalStream = some c → c.stream.hasBufferDesc = false) :
    (s.replaceLocal l).mDummySamplesSent = s.mDummySamplesSent
      ∧ (s.replaceLocal l).mWaitForData = s.mWaitForData
      ∧ ∀ c, (s.replaceLocal l).mLocalStream = some c → c.stream.hasBufferDesc = false := by
  unfold replaceLocal
  split
  · rename_i c hc
    split
    · rename_i hsame
      refine ⟨rfl, rfl, fun c' hc' => ?_⟩
      obtain rfl := Option.some.inj hc'
      have haware : l.hasBufferDesc = c.stream.hasBufferDesc :=
        congrArg LocalAudioStream.hasBufferDesc hsame.1
      exact haware.trans (hplain c hc)
    · exact ⟨rfl, rfl, hplain⟩
  · exact ⟨rfl, rfl, hplain⟩

theorem ledgerInv_localChanged (h : LedgerInv t w) (l : SoundState) :
    LedgerInv t (w.step t e (.localChanged l)) := by
  have hstream := txInv_replaceLocal h.stream l
  obtain ⟨howed, hwait, hplain⟩ := replaceLocal_account w.talker.stream l.val h.plain
  unfold Ledger.step AccountEvent.toTalker
  rw [step_calm h]
  exact ledgerInv_setTalker h hstream h.returns hplain howed hwait

/-! ## A packet -/

/-- Without descriptors there are no late samples to look for. -/
theorem enoughToDump_plain (h : TxInv t s)
    (hplain : ∀ c, s.mLocalStream = some c → c.stream.hasBufferDesc = false) (e : Estimates)
    (clock : ClockReading) : s.EnoughToDump e clock := by
  intro s₁ c hs₁ hc
  have hconnected : s.mLocalStream = some c := (startPacket_same hs₁).2.symm.trans hc
  intro hdisposes
  have hkind := (compensate_effect (e := e) (h.connected c hconnected).1 s₁.takeSeqNum).2.2
  have hnot := hkind.timeAware.trans (hplain c hconnected)
  exact Bool.noConfusion (hnot.symm.trans hdisposes.1)

theorem record_stream (w : Talker) (out : TxOutcome) :
    (w.record out).stream = w.stream ∧ (w.record out).hung = w.hung := by
  cases out <;> exact ⟨rfl, rfl⟩

/-- The ledger after a packet that takes its samples from a local stream. -/
structure AfterPacket (t : AvbAudioConfig) (w w' : Ledger) (l : IasLocalAudioStream) : Prop where
  stream : TxInv t w'.talker.stream
  returns : w'.talker.hung = false
  active : w'.talker.stream.mActive = w.talker.stream.mActive
  taken : ∃ c, w'.talker.stream.mLocalStream = some c
    ∧ firstFill c.stream = firstFill l - (w.talker.stream.nextExchange l).dumped
      - (w.talker.stream.nextExchange l).read
    ∧ c.stream.hasBufferDesc = false
  owed : w'.talker.stream.mDummySamplesSent
    = (w.talker.stream.nextExchange l).owed % 4294967296
  waits : w'.talker.stream.mWaitForData
    = decide ((w.talker.stream.nextExchange l).read = 0)
  removed : w'.removed = w.removed + (w.talker.stream.nextExchange l).dumped
    + (w.talker.stream.nextExchange l).read
  emitted : w'.emitted = w.emitted + (w.talker.stream.nextExchange l).sent
  asserted : w'.asserted = true
  wrapped : w'.wrapped = decide (w'.talker.stream.mDummySamplesSent
    < w.talker.stream.mDummySamplesSent - (w.talker.stream.nextExchange l).dumped)

theorem afterPacket (h : LedgerInv t w) (hpos : 0 < t.mSamplesPerChannelPerPacket)
    (hlt : t.mSamplesPerChannelPerPacket < 65536) (hactive : w.talker.stream.mActive = true)
    (hstart : w.talker.stream.startPacket clock ≠ none) {c : ConnectedStream}
    (hc : w.talker.stream.mLocalStream = some c) :
    AfterPacket t w (w.step t e (.writeToAvbPacket clock)) c.stream := by
  have hplain := h.plain c hc
  obtain ⟨hsound, hconnectable⟩ := h.stream.connected c hc
  have hK : 0 < c.stream.numChannels :=
    Nat.lt_of_lt_of_le (audioChannels_pos hconnectable) (audioChannels_le c.asked)
  obtain ⟨s', out, hwrite, hexchanged⟩ :=
    writeToAvbPacket_exchange (e := e) h.stream hpos hlt hactive hstart hc hplain h.counter
  obtain ⟨attime, block, fills, x, rfl, hx, hlen⟩ := hexchanged.sent
  obtain ⟨s'', out, hwrite', hinv, -⟩ :=
    writeToAvbPacket_spec h.stream hpos hlt (enoughToDump_plain h.stream h.plain e clock)
  obtain ⟨rfl, rfl⟩ := Prod.mk.inj (Option.some.inj (hwrite.symm.trans hwrite'))
  obtain ⟨hleft, -, -⟩ := compensate_exchange (e := e) hsound hplain hK h.counter
  have hready : (w.talker.stream.compensate e c.stream).2.isReadReady = true := by
    have hkind := (compensate_effect (e := e) hsound w.talker.stream).2.2
    unfold isReadReady
    rw [hkind.timeAware.trans hplain]
    rfl
  -- the account makes its entry between compensation and payload
  have hstep : w.step t e (.writeToAvbPacket clock)
      = (w.enter w.talker.stream s' (w.talker.stream.compensate e c.stream) block).setTalker
        ((w.talker.setStream s').record (.dataPacket attime block fills)) := by
    unfold Ledger.step AccountEvent.toTalker
    rw [step_calm h]
    dsimp only
    rw [hwrite, hc]
  obtain ⟨c', hc', hfill, hplain'⟩ := hexchanged.taken
  have htaken := taken_le hK w.talker.stream
  have hdumped : (w.talker.stream.nextExchange c.stream).dumped
      ≤ w.talker.stream.mDummySamplesSent := Exchange.dumped_le
  rw [hstep]
  refine ⟨hinv, h.returns, hexchanged.active, ⟨c', hc', hfill, hplain'⟩, hexchanged.owed,
    hexchanged.waits, ?_, ?_, ?_, ?_⟩
  · -- what is removed from the first channel is held no longer
    show w.removed + (w.talker.stream.held - s'.held) = _
    have hheld : w.talker.stream.held = firstFill c.stream := by
      unfold held
      rw [hc]
    have hheld' : s'.held = firstFill c'.stream := by
      unfold held
      rw [hc']
    omega
  · show (if (w.talker.stream.compensate e c.stream).2.isReadReady
      then w.emitted + sentFirst block else w.emitted) = _
    rw [hready, if_pos rfl, ← hlen]
    unfold sentFirst
    rw [hx]
  · -- the stream waits for data as long as it owes dummy samples
    show (w.asserted && (decide (w.talker.stream.mDummySamplesSent = 0)
      || w.talker.stream.mWaitForData)) = true
    rw [h.balanced.asserts, Bool.true_and]
    by_cases hzero : w.talker.stream.mDummySamplesSent = 0
    · rw [decide_eq_true hzero, Bool.true_or]
    · rw [h.balanced.waits (Nat.pos_of_ne_zero hzero), Bool.or_true]
  · -- the compensation only lowers what is owed; what the packet adds may wrap
    show (w.wrapped || decide (w.talker.stream.mDummySamplesSent
        < (w.talker.stream.compensate e c.stream).1.mDummySamplesSent)
      || decide (s'.mDummySamplesSent
        < (w.talker.stream.compensate e c.stream).1.mDummySamplesSent)) = _
    rw [h.balanced.counts, hleft, decide_eq_false (by omega), Bool.false_or, Bool.false_or]
    rfl

/-- **A packet with room in the counter keeps the account balanced.** -/
theorem ledgerInv_packet (h : LedgerInv t w) (hlt : t.mSamplesPerChannelPerPacket < 65536)
    {w' : Ledger} {l : IasLocalAudioStream} (hafter : AfterPacket t w w' l)
    (hfits : Fits w.talker.stream l) : LedgerInv t w' := by
  have hS : w.talker.stream.mSamplesPerChannelPerPacket = t.mSamplesPerChannelPerPacket :=
    h.stream.samples
  have hroom := (unwrapped_iff (l := l) (s := w.talker.stream) (by omega)).mp hfits
  have howed := hafter.owed
  rw [Nat.mod_eq_of_lt hroom] at howed
  have hexchange := Exchange.balanced w.talker.stream.mSamplesPerChannelPerPacket
    w.talker.stream.mDummySamplesSent l.minFill (firstFill l)
  have hkept := h.balanced.balance
  have hbalance : w'.removed + w'.talker.stream.mDummySamplesSent = w'.emitted := by
    have hremoved := hafter.removed
    have hemitted := hafter.emitted
    unfold nextExchange at hremoved hemitted howed
    omega
  refine ⟨⟨?_, hbalance, ?_, hafter.asserted⟩, hafter.stream, hafter.returns, ?_, by omega⟩
  · intro hpos
    rw [howed] at hpos
    rw [hafter.waits]
    exact decide_eq_true (Exchange.silent_of_owed hpos)
  · rw [hafter.wrapped, howed]
    refine decide_eq_false (Nat.not_lt.mpr ?_)
    show _ ≤ (if (w.talker.stream.nextExchange l).read = 0
      then w.talker.stream.mDummySamplesSent - (w.talker.stream.nextExchange l).dumped
        + w.talker.stream.mSamplesPerChannelPerPacket else 0)
    split
    · omega
    · rename_i hread
      have hall : w.talker.stream.mDummySamplesSent ≤ (w.talker.stream.nextExchange l).dumped :=
        Nat.not_lt.mp fun hless => hread (Exchange.read_of_owed hless)
      omega
  · intro c hc
    obtain ⟨c', hc', -, hplain⟩ := hafter.taken
    obtain rfl := Option.some.inj (hc.symm.trans hc')
    exact hplain

/-- **Without room, the counter goes around.** -/
theorem wrapped_of_not_fits (h : LedgerInv t w) (hlt : t.mSamplesPerChannelPerPacket < 65536)
    {w' : Ledger} {l : IasLocalAudioStream} (hafter : AfterPacket t w w' l)
    (hfull : ¬ Fits w.talker.stream l) : w'.wrapped = true := by
  have hS : w.talker.stream.mSamplesPerChannelPerPacket = t.mSamplesPerChannelPerPacket :=
    h.stream.samples
  have hcounter := h.counter
  have hmuch : 4294967296 ≤ w.talker.stream.mDummySamplesSent
      - (w.talker.stream.nextExchange l).dumped
        + w.talker.stream.mSamplesPerChannelPerPacket := Nat.not_lt.mp hfull
  have hread : (w.talker.stream.nextExchange l).read = 0 := Exchange.read_of_owed (by
    show (w.talker.stream.nextExchange l).dumped < w.talker.stream.mDummySamplesSent
    omega)
  have howed : (w.talker.stream.nextExchange l).owed
      = w.talker.stream.mDummySamplesSent - (w.talker.stream.nextExchange l).dumped
        + w.talker.stream.mSamplesPerChannelPerPacket := if_pos hread
  rw [hafter.wrapped, hafter.owed, howed]
  exact decide_eq_true (by omega)

/-- A call that does not get to the local stream. -/
theorem ledgerInv_idle (h : LedgerInv t w) (hpos : 0 < t.mSamplesPerChannelPerPacket)
    (hlt : t.mSamplesPerChannelPerPacket < 65536)
    (hidle : ¬ (w.talker.stream.mActive = true ∧ w.talker.stream.startPacket clock ≠ none
      ∧ w.talker.stream.mLocalStream ≠ none)) :
    LedgerInv t (w.step t e (.writeToAvbPacket clock)) := by
  obtain ⟨s', out, hwrite, hlocal, howed, hwait, hnodata⟩ := writeToAvbPacket_idle (e := e) hidle
  obtain ⟨s'', out, hwrite', hinv, -⟩ :=
    writeToAvbPacket_spec h.stream hpos hlt (enoughToDump_plain h.stream h.plain e clock)
  obtain ⟨rfl, rfl⟩ := Prod.mk.inj (Option.some.inj (hwrite.symm.trans hwrite'))
  obtain ⟨hstream, hhung⟩ := record_stream (w.talker.setStream s') out
  have hstep : w.step t e (.writeToAvbPacket clock)
      = w.setTalker ((w.talker.setStream s').record out) := by
    unfold Ledger.step AccountEvent.toTalker
    rw [step_calm h]
    dsimp only
    rw [hwrite]
    cases out with
    | dataPacket attime block fills => exact absurd rfl (hnodata attime block fills)
    | refused => rfl
    | dummyPacket attime => rfl
    | nullPacket attime timestamp mSeqNum => rfl
  rw [hstep]
  refine ledgerInv_setTalker h ?_ (hhung.trans h.returns) ?_ ?_ ?_
  · rw [hstream]
    exact hinv
  · rw [hstream]
    intro c hc
    exact h.plain c (hlocal.symm.trans hc)
  · rw [hstream]
    exact howed
  · rw [hstream]
    exact hwait

/-! ## Runs -/

/-- **One step.** -/
theorem ledgerInv_step (hpos : 0 < t.mSamplesPerChannelPerPacket)
    (hlt : t.mSamplesPerChannelPerPacket < 65536) (hrate : t.mSampleFrequency ≠ 0)
    (h : LedgerInv t w) {ev : AccountEvent} (hok : RoomToOwe w ev) :
    LedgerInv t (w.step t e ev) := by
  cases ev with
  | activationChanged active => exact ledgerInv_activationChanged h active
  | connectTo l => exact ledgerInv_connectTo h hrate l
  | localChanged l => exact ledgerInv_localChanged h l
  | writeToAvbPacket clock =>
      by_cases hreach : w.talker.stream.mActive = true ∧ w.talker.stream.startPacket clock ≠ none
          ∧ w.talker.stream.mLocalStream ≠ none
      · obtain ⟨hactive, hstart, hsome⟩ := hreach
        obtain ⟨c, hc⟩ := Option.ne_none_iff_exists'.mp hsome
        have hafter := afterPacket (e := e) h hpos hlt hactive hstart hc
        exact ledgerInv_packet h hlt hafter (hok hactive hstart c hc)
      · exact ledgerInv_idle h hpos hlt hreach

/-- A packet without room puts the account out of balance. -/
theorem unbalanced (hpos : 0 < t.mSamplesPerChannelPerPacket)
    (hlt : t.mSamplesPerChannelPerPacket < 65536) (h : LedgerInv t w) {ev : AccountEvent}
    (hfull : ¬ RoomToOwe w ev) : ¬ Balanced (w.step t e ev) := by
  cases ev with
  | activationChanged active => exact absurd trivial hfull
  | connectTo l => exact absurd trivial hfull
  | localChanged l => exact absurd trivial hfull
  | writeToAvbPacket clock =>
      have hfound : ∃ c, w.talker.stream.mActive = true ∧ w.talker.stream.startPacket clock ≠ none
          ∧ w.talker.stream.mLocalStream = some c ∧ ¬ Fits w.talker.stream c.stream := by
        by_contra hnone
        refine hfull fun hactive hstart c hc => ?_
        by_contra hnot
        exact hnone ⟨c, hactive, hstart, hc, hnot⟩
      obtain ⟨c, hactive, hstart, hc, hnot⟩ := hfound
      have hafter := afterPacket (e := e) h hpos hlt hactive hstart hc
      intro hbalanced
      exact Bool.noConfusion
        ((wrapped_of_not_fits h hlt hafter hnot).symm.trans hbalanced.counts)

variable {comp : IasAvbCompatibility} {interval maxNumberChannels sampleFreq poolSize : Nat}
  {format : IasAvbAudioFormat} {heap : Nat → AudioData} {es : List AccountEvent}

/--
**Silence is made up for exactly in the runs whose counter has room**: all along a run, what was
taken from channel 0 and what is owed come to what was sent, the talker waits for data while it
owes any, and the counter does not go around, if and only if each packet that takes its samples
from a local stream finds less than 2^32 samples owed after its dump and another packet of
silence.
-/
theorem balanced_iff
    (ht : AvbAudioConfig.initTransmit comp (getPacketsPerSecondByClass interval) maxNumberChannels
      sampleFreq poolSize format = .ok t) :
    (∀ pre, pre <+: es → Balanced (exec (Ledger.step t e) (ledger t heap) pre))
      ↔ Always (Ledger.step t e) RoomToOwe (ledger t heap) es := by
  obtain ⟨hpos, hlt, hrate⟩ := samples_of_initTransmit ht
  exact good_iff_always (fun w hw => hw.balanced)
    (fun w ev hw hok => ledgerInv_step hpos hlt hrate hw hok)
    (fun w ev hw hfull => unbalanced hpos hlt hw hfull) (ledgerInv_ledger t heap)

/-- A clock that stands at two milliseconds. -/
def steadyClock : ClockReading where
  resetTime := some (0, 2000000)
  refPlane := some 2125000

/-- The account of a talker for six samples a packet. -/
def silentLedger (es : List AccountEvent) : Ledger :=
  exec (Ledger.step AvbAudioConfig.stereoTalker .wholeNanoseconds)
    (ledger AvbAudioConfig.stereoTalker fun _ => 0) es

/-- A packet from a local stream with four samples. -/
def shortPacket : List AccountEvent :=
  [.connectTo (some ⟨stereoLocal 4 (Nat.le_of_ble_eq_true rfl) false [], rfl⟩),
    .activationChanged true, .writeToAvbPacket steadyClock]

theorem balanced_iff_stereo : Balanced (silentLedger shortPacket) := by
  have hroom : Always (Ledger.step AvbAudioConfig.stereoTalker .wholeNanoseconds) RoomToOwe
      (ledger AvbAudioConfig.stereoTalker fun _ => 0) shortPacket := by
    refine ⟨trivial, trivial, ?_, trivial⟩
    intro _ _ c hc
    obtain rfl := Option.some.inj hc
    show 0 - min (0 % 65536) _ + 6 < 4294967296
    omega
  exact (balanced_iff (show AvbAudioConfig.initTransmit .eIasAvbCompD6
    (getPacketsPerSecondByClass 125000) 2 48000 16 .eIasAvbAudioFormatSaf16
      = .ok AvbAudioConfig.stereoTalker from rfl)).mpr hroom shortPacket List.prefix_rfl

/-! ## A local stream nobody writes to -/

/-- `k` packets of silence after the talker was connected to an empty local stream. -/
structure Starved (t : AvbAudioConfig) (k : Nat) (w : Ledger) : Prop where
  inv : LedgerInv t w
  active : w.talker.stream.mActive = true
  empty : ∃ c, w.talker.stream.mLocalStream = some c ∧ firstFill c.stream = 0
  owed : w.talker.stream.mDummySamplesSent = k * t.mSamplesPerChannelPerPacket

/-- From an empty local stream nothing is dumped and nothing read. -/
theorem nextExchange_empty {l : IasLocalAudioStream} (hK : 0 < l.numChannels)
    (hempty : firstFill l = 0) (s : TxAudioStream) :
    (s.nextExchange l).dumped = 0 ∧ (s.nextExchange l).read = 0
      ∧ (s.nextExchange l).owed = s.mDummySamplesSent + s.mSamplesPerChannelPerPacket := by
  have htaken := taken_le hK s
  have hdumped : (s.nextExchange l).dumped = 0 := by omega
  have hread : (s.nextExchange l).read = 0 := by omega
  have howed : (s.nextExchange l).owed = s.mDummySamplesSent - (s.nextExchange l).dumped
      + s.mSamplesPerChannelPerPacket := if_pos hread
  exact ⟨hdumped, hread, by omega⟩

/-- What a packet of silence does. -/
theorem starved_packet {k : Nat} (h : Starved t k w) (hpos : 0 < t.mSamplesPerChannelPerPacket)
    (hlt : t.mSamplesPerChannelPerPacket < 65536)
    (hstart : w.talker.stream.startPacket clock ≠ none) :
    ∃ l, AfterPacket t w (w.step t e (.writeToAvbPacket clock)) l ∧ firstFill l = 0
      ∧ (w.talker.stream.nextExchange l).dumped = 0 ∧ (w.talker.stream.nextExchange l).read = 0
      ∧ (w.talker.stream.nextExchange l).owed = (k + 1) * t.mSamplesPerChannelPerPacket := by
  obtain ⟨c, hc, hempty⟩ := h.empty
  obtain ⟨-, hconnectable⟩ := h.inv.stream.connected c hc
  have hK : 0 < c.stream.numChannels :=
    Nat.lt_of_lt_of_le (audioChannels_pos hconnectable) (audioChannels_le c.asked)
  obtain ⟨hdumped, hread, howed⟩ := nextExchange_empty hK hempty w.talker.stream
  refine ⟨c.stream, afterPacket h.inv hpos hlt h.active hstart hc, hempty, hdumped, hread, ?_⟩
  rw [howed, h.owed, h.inv.stream.samples, Nat.succ_mul]

theorem starved_step {k : Nat} (h : Starved t k w) (hpos : 0 < t.mSamplesPerChannelPerPacket)
    (hlt : t.mSamplesPerChannelPerPacket < 65536)
    (hstart : w.talker.stream.startPacket clock ≠ none)
    (hroom : (k + 1) * t.mSamplesPerChannelPerPacket < 4294967296) :
    Starved t (k + 1) (w.step t e (.writeToAvbPacket clock)) := by
  obtain ⟨l, hafter, hempty, -, -, howed⟩ := starved_packet (e := e) h hpos hlt hstart
  have hS : w.talker.stream.mSamplesPerChannelPerPacket = t.mSamplesPerChannelPerPacket :=
    h.inv.stream.samples
  have hfits : Fits w.talker.stream l := (unwrapped_iff (by omega)).mpr (by omega)
  refine ⟨ledgerInv_packet h.inv hlt hafter hfits, hafter.active.trans h.active, ?_, ?_⟩
  · obtain ⟨c, hc, hfill, -⟩ := hafter.taken
    exact ⟨c, hc, by omega⟩
  · rw [hafter.owed, howed, Nat.mod_eq_of_lt hroom]

/-- A clock that is there. -/
theorem startPacket_some (s : TxAudioStream) (hclock : clock.resetTime ≠ none) :
    s.startPacket clock ≠ none := by
  unfold startPacket
  split
  · exact fun hnone => hclock (Option.map_eq_none_iff.mp hnone)
  · exact Option.some_ne_none s

theorem starved_run {k : Nat} (h : Starved t k w) (hpos : 0 < t.mSamplesPerChannelPerPacket)
    (hlt : t.mSamplesPerChannelPerPacket < 65536) (hclock : clock.resetTime ≠ none) (n : Nat)
    (hroom : (k + n) * t.mSamplesPerChannelPerPacket < 4294967296) :
    Starved t (k + n)
      (exec (Ledger.step t e) w (List.replicate n (.writeToAvbPacket clock))) := by
  induction n generalizing k w with
  | zero => exact h
  | succ n ih =>
      rw [List.replicate_succ, exec_cons, show k + (n + 1) = k + 1 + n by omega]
      rw [show k + (n + 1) = k + 1 + n by omega] at hroom
      refine ih (starved_step h hpos hlt (startPacket_some _ hclock) ?_) hroom
      exact Nat.lt_of_le_of_lt (Nat.mul_le_mul_right _ (Nat.le_add_right ..)) hroom

/-- A local stream in which there is nothing, and will be nothing. -/
def emptyLocal : PlainStream := ⟨stereoLocal 0 (by omega) false [], rfl⟩

/-- A talker for 8000 packets a second, connected to it and left alone for `n` packets. -/
def silence (n : Nat) : List AccountEvent :=
  [.connectTo (some emptyLocal), .activationChanged true]
    ++ List.replicate n (.writeToAvbPacket steadyClock)

theorem starved_silence {n : Nat} (hroom : n * 6 < 4294967296) :
    Starved AvbAudioConfig.stereoTalker n (silentLedger (silence n)) := by
  have hopened : Starved AvbAudioConfig.stereoTalker 0
      (silentLedger [.connectTo (some emptyLocal), .activationChanged true]) := by
    refine ⟨?_, rfl, ⟨_, rfl, rfl⟩, rfl⟩
    exact ledgerInv_activationChanged
      (ledgerInv_connectTo (ledgerInv_ledger _ _) (by decide) _) true
  have hclock : steadyClock.resetTime ≠ none := Option.some_ne_none _
  have hrun := starved_run (e := .wholeNanoseconds) hopened (by decide) (by decide) hclock n
    (by rw [Nat.zero_add]; exact hroom)
  unfold silentLedger silence
  rw [exec_append]
  rw [Nat.zero_add] at hrun
  exact hrun

/-- The packet that finds no room. -/
theorem forgotten_of_full {n : Nat} (hroom : n * 6 < 4294967296)
    (hfull : 4294967296 ≤ (n + 1) * 6) :
    ¬ Balanced (silentLedger (silence n ++ [.writeToAvbPacket steadyClock]))
      ∧ (silentLedger (silence n ++ [.writeToAvbPacket steadyClock])).wrapped = true
      ∧ (silentLedger
          (silence n ++ [.writeToAvbPacket steadyClock])).talker.stream.mDummySamplesSent
        = (n + 1) * 6 % 4294967296 := by
  have hday := starved_silence hroom
  have hlast : silentLedger (silence n ++ [.writeToAvbPacket steadyClock])
      = (silentLedger (silence n)).step AvbAudioConfig.stereoTalker .wholeNanoseconds
        (.writeToAvbPacket steadyClock) := by
    unfold silentLedger
    rw [exec_append]
    rfl
  have hlt : AvbAudioConfig.stereoTalker.mSamplesPerChannelPerPacket < 65536 := by decide
  have hclock : steadyClock.resetTime ≠ none := Option.some_ne_none _
  obtain ⟨l, hafter, -, -, -, howed⟩ := starved_packet (e := .wholeNanoseconds) hday (by decide)
    hlt (startPacket_some _ hclock)
  rw [show AvbAudioConfig.stereoTalker.mSamplesPerChannelPerPacket = 6 from rfl] at howed
  have hwrapped := wrapped_of_not_fits hday.inv hlt hafter fun hfits => by
    have hroom' := (unwrapped_iff (by rw [hday.inv.stream.samples]; exact hlt)).mp hfits
    omega
  have hcounter := hafter.owed
  rw [howed] at hcounter
  rw [hlast]
  exact ⟨fun hbalanced => Bool.noConfusion (hwrapped.symm.trans hbalanced.counts), hwrapped,
    hcounter⟩

/-- **Left alone for a day and an hour, the counter goes around**: of all the silence sent, two
samples are owed. -/
theorem silence_forgotten :
    ¬ Balanced (silentLedger (silence 715827882 ++ [.writeToAvbPacket steadyClock]))
      ∧ (silentLedger (silence 715827882 ++ [.writeToAvbPacket steadyClock])).wrapped = true
      ∧ (silentLedger
          (silence 715827882 ++ [.writeToAvbPacket steadyClock])).talker.stream.mDummySamplesSent
        = 2 :=
  forgotten_of_full (by omega) (by omega)

end TxAudioStream

end AvbStreamHandler
