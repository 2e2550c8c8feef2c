import AvbStreamHandler.Audio.ChannelAlignment
import Mathlib.Data.List.Chain

/-!
# The descriptors tile the sample stream

In time-aware mode the writer counts samples twice: the buffer of the last channel counts
what was stored, and the stream counts what it was given, to cut it into periods. A
descriptor says which samples of the buffer are the ones of a period. The queue is right if
its ranges follow one another without a gap, and what lies between the last one and the
buffer's own position is the period that is not complete yet.

Reading and resetting only take descriptors away, the oldest first, or all of them. So
everything depends on the write to the last channel.
-/

namespace AvbStreamHandler

open Kit Kit.Run Kit.Word

namespace IasLocalAudioStream

variable {s s' : IasLocalAudioStream} {e : Estimates} {t : TimeBase} {ch n : Nat}
  {b b' : IasLocalAudioBuffer} {q : IasLocalAudioBufferDesc}

/-- The monotonic write index of the last channel's buffer. -/
def lastWriteIndex (s : IasLocalAudioStream) : Option Nat :=
  s.mChannelBuffers.getLast?.map IasLocalAudioBuffer.mMonotonicWriteIndex

/-- The queue, the youngest descriptor first. -/
abbrev descriptors (s : IasLocalAudioStream) : List AudioBufferDesc := s.mBufferDescQ.mDescQ

/-- **The descriptors tile the stream of samples** up to what is pending. -/
structure Tiled (s : IasLocalAudioStream) : Prop where
  /-- Each range starts where the one before it ends. -/
  consecutive : s.descriptors.IsChain fun young old => young.bufIndex = old.endIndex
  /-- Each range is one period long. -/
  period : ∀ d ∈ s.descriptors, d.sampleCnt = s.mPeriodSz
  /-- What lies between the last range and the position of the writer is pending. -/
  last : ∀ d ∈ s.descriptors.head?, s.lastWriteIndex = some (add64 d.endIndex s.mPendingSamples)
  /-- Less than a period is pending. -/
  pending : s.mPendingSamples < s.mPeriodSz

/-- From one queue to the next: the oldest descriptors may be gone, and at most one is new. -/
def DropsOnlyOldest (before after : List AudioBufferDesc) : Prop :=
  ∃ kept, kept <+: before ∧ (after = kept ∨ ∃ d, after = d :: kept)

/-! ## What readers do -/

/-- What is not a write to the last channel takes descriptors away, the oldest first, and
leaves what is pending alone; or it flushes everything. -/
structure Trimmed (s s' : IasLocalAudioStream) : Prop where
  aware : s'.hasBufferDesc = s.hasBufferDesc
  periodSz : s'.mPeriodSz = s.mPeriodSz
  size : s'.mBufferDescQ.mDescQsz = s.mBufferDescQ.mDescQsz
  channels : s'.numChannels = s.numChannels
  pendingSamples : s'.mPendingSamples = s.mPendingSamples
  pendingDesc : s'.mPendingDesc = s.mPendingDesc
  queue : s'.descriptors <+: s.descriptors
  place : s'.mBufferDescQ.mResetRequest = s.mBufferDescQ.mResetRequest
        ∧ s'.lastWriteIndex = s.lastWriteIndex
      ∨ s'.descriptors = [] ∧ s'.mBufferDescQ.mResetRequest = true

theorem Trimmed.refl (s : IasLocalAudioStream) : Trimmed s s :=
  ⟨rfl, rfl, rfl, rfl, rfl, rfl, List.prefix_rfl, Or.inl ⟨rfl, rfl⟩⟩

theorem Trimmed.trans {s'' : IasLocalAudioStream} (h : Trimmed s s') (h' : Trimmed s' s'') :
    Trimmed s s'' where
  aware := h'.aware.trans h.aware
  periodSz := h'.periodSz.trans h.periodSz
  size := h'.size.trans h.size
  channels := h'.channels.trans h.channels
  pendingSamples := h'.pendingSamples.trans h.pendingSamples
  pendingDesc := h'.pendingDesc.trans h.pendingDesc
  queue := h'.queue.trans h.queue
  place := by
    rcases h'.place with ⟨hreset', hlast'⟩ | hflushed
    · rcases h.place with ⟨hreset, hlast⟩ | ⟨hempty, hreset⟩
      · exact Or.inl ⟨hreset'.trans hreset, hlast'.trans hlast⟩
      · exact Or.inr ⟨List.prefix_nil.mp (hempty ▸ h'.queue), hreset'.trans hreset⟩
    · exact Or.inr hflushed

/-- Queue and buffers stay as they are. -/
theorem Trimmed.of_same (hbuffers : s'.mChannelBuffers = s.mChannelBuffers)
    (hqueue : s'.mBufferDescQ = s.mBufferDescQ) (haware : s'.hasBufferDesc = s.hasBufferDesc)
    (hperiod : s'.mPeriodSz = s.mPeriodSz) (hpending : s'.mPendingSamples = s.mPendingSamples)
    (hdesc : s'.mPendingDesc = s.mPendingDesc) : Trimmed s s' where
  aware := haware
  periodSz := hperiod
  size := by rw [hqueue]
  channels := congrArg List.length hbuffers
  pendingSamples := hpending
  pendingDesc := hdesc
  queue := by
    have hkept : s'.descriptors = s.descriptors := congrArg IasLocalAudioBufferDesc.mDescQ hqueue
    exact hkept ▸ List.prefix_rfl
  place := Or.inl ⟨by rw [hqueue], by unfold lastWriteIndex; rw [hbuffers]⟩

theorem lastWriteIndex_eq_map : s.lastWriteIndex
    = (s.mChannelBuffers.map IasLocalAudioBuffer.mMonotonicWriteIndex).getLast? :=
  List.getLast?_map.symm

/-- Calls on the channels that leave the write indices alone. -/
theorem Trimmed.of_writeIndices (l : List IasLocalAudioBuffer)
    (hindices : l.map IasLocalAudioBuffer.mMonotonicWriteIndex
      = s.mChannelBuffers.map IasLocalAudioBuffer.mMonotonicWriteIndex)
    (hsize : q.mDescQsz = s.mBufferDescQ.mDescQsz)
    (hreset : q.mResetRequest = s.mBufferDescQ.mResetRequest)
    (hqueue : q.mDescQ <+: s.descriptors) : Trimmed s ((s.setBuffers l).setDescQ q) where
  aware := rfl
  periodSz := rfl
  size := hsize
  channels := by
    have hlength := congrArg List.length hindices
    rwa [List.length_map, List.length_map] at hlength
  pendingSamples := rfl
  pendingDesc := rfl
  queue := hqueue
  place := Or.inl ⟨hreset, by
    rw [lastWriteIndex_eq_map, lastWriteIndex_eq_map]
    exact congrArg List.getLast? hindices⟩

theorem trimmed_flush (s : IasLocalAudioStream) : Trimmed s s.flush where
  aware := rfl
  periodSz := rfl
  size := rfl
  channels := List.length_map ..
  pendingSamples := rfl
  pendingDesc := rfl
  queue := List.nil_prefix
  place := Or.inr ⟨rfl, rfl⟩

theorem trimmed_setClientState (s : IasLocalAudioStream) (state : ClientState) :
    Trimmed s (s.setClientState state) := .of_same rfl rfl rfl rfl rfl rfl

theorem trimmed_refreshSyncStart (s : IasLocalAudioStream) : Trimmed s s.refreshSyncStart := by
  unfold refreshSyncStart
  split
  · exact .of_same rfl rfl rfl rfl rfl rfl
  · exact .refl s

theorem trimmed_setClientIdle (s : IasLocalAudioStream) : Trimmed s s.setClientIdle := by
  have hidle := (trimmed_refreshSyncStart s).trans (trimmed_setClientState _ .eIasIdle)
  unfold setClientIdle
  split
  · exact .refl s
  · dsimp only
    split
    · exact hidle.trans (trimmed_flush _)
    · exact hidle

theorem trimmed_signalUnderrun (s : IasLocalAudioStream) : Trimmed s s.signalUnderrun := by
  unfold signalUnderrun
  split
  · exact trimmed_setClientIdle s
  · exact .refl s

theorem trimmed_noteUnderrun {r : ReadResult} (h : Trimmed s r.stream) :
    Trimmed s (noteUnderrun r).stream := by
  unfold noteUnderrun
  split
  · exact h.trans (trimmed_signalUnderrun _)
  · exact h

/-- One channel is replaced by one with the same write index. -/
theorem map_set_same (hb : s.mChannelBuffers[ch]? = some b)
    (hindex : b'.mMonotonicWriteIndex = b.mMonotonicWriteIndex) :
    (s.mChannelBuffers.set ch b').map IasLocalAudioBuffer.mMonotonicWriteIndex
      = s.mChannelBuffers.map IasLocalAudioBuffer.mMonotonicWriteIndex := by
  obtain ⟨hlt, hget⟩ := List.getElem?_eq_some_iff.mp hb
  rw [List.map_set, hindex, ← hget]
  have hlt' : ch < (s.mChannelBuffers.map IasLocalAudioBuffer.mMonotonicWriteIndex).length := by
    rwa [List.length_map]
  have hself := @List.set_getElem_self _ (s.mChannelBuffers.map
    IasLocalAudioBuffer.mMonotonicWriteIndex) ch hlt'
  rwa [List.getElem_map] at hself

/-- A read advances the reader only. -/
theorem writeIndex_read (b : IasLocalAudioBuffer) (n : Nat) :
    (b.read n).1.mMonotonicWriteIndex = b.mMonotonicWriteIndex :=
  congrArg BufferControl.mMonotonicWriteIndex (b.control_read n)

theorem trimmed_setChannel_read (hb : s.mChannelBuffers[ch]? = some b) (n : Nat)
    (hsize : q.mDescQsz = s.mBufferDescQ.mDescQsz)
    (hreset : q.mResetRequest = s.mBufferDescQ.mResetRequest)
    (hqueue : q.mDescQ <+: s.descriptors) :
    Trimmed s ((s.setChannel ch (b.read n).1).setDescQ q) :=
  .of_writeIndices _ (map_set_same hb (writeIndex_read b n)) hsize hreset hqueue

theorem trimmed_readTimeAware (hb : s.mChannelBuffers[ch]? = some b) (n r : Nat) :
    Trimmed s (s.readTimeAware e ch b n r).stream := by
  have hkept : Trimmed s (s.setChannel ch (b.read n).1) :=
    trimmed_setChannel_read (q := s.mBufferDescQ) hb n rfl rfl List.prefix_rfl
  unfold readTimeAware
  cases s.mBufferDescQ.peek with
  | none => exact .refl s
  | some desc =>
      dsimp only
      split
      · split
        · exact trimmed_setChannel_read hb n rfl rfl (List.rdropWhile_prefix _ _)
        · exact hkept
      · split
        · exact trimmed_setChannel_read hb n rfl rfl (List.dropLast_prefix _)
        · exact hkept

theorem trimmed_readLocalAudioBuffer (s : IasLocalAudioStream) (e : Estimates) (ch n r : Nat) :
    Trimmed s (s.readLocalAudioBuffer e ch n r).stream := by
  unfold readLocalAudioBuffer
  split
  · exact .refl s
  · cases hb : s.mChannelBuffers[ch]? with
    | none => exact .refl s
    | some b =>
        dsimp only
        split
        · exact .refl s
        · split
          · split
            · exact trimmed_noteUnderrun (trimmed_readTimeAware hb n r)
            · exact .refl s
          · exact trimmed_noteUnderrun
              (trimmed_setChannel_read (q := s.mBufferDescQ) hb n rfl rfl List.prefix_rfl)

theorem trimmed_resetBuffers (haware : s.hasBufferDesc = true) (e : Estimates) :
    Trimmed s (s.resetBuffers e) := by
  unfold resetBuffers
  rw [haware, if_pos rfl]
  refine Run.foldl_range_inv (P := fun _ s' => Trimmed s s') (.refl s) fun ch _ s' hs' => ?_
  refine hs'.trans ?_
  unfold resetChannel
  split
  · exact .refl s'
  · split
    · exact trimmed_readLocalAudioBuffer s' e ch _ 0
    · exact .refl s'

theorem trimmed_setClientActive (haware : s.hasBufferDesc = true) (e : Estimates) :
    Trimmed s (s.setClientActive e) := by
  have hrefresh := trimmed_refreshSyncStart s
  have hactive := hrefresh.trans (trimmed_setClientState _ .eIasActive)
  have hfinish : ∀ {s' : IasLocalAudioStream}, Trimmed s s' →
      Trimmed s (let s := { s' with mLastTimeStamp := 0, mEpoch := 0 }
        if s.hasBufferDesc && !s.isReceive then s.flush else s) := by
    intro s' hs'
    have hcleared : Trimmed s { s' with mLastTimeStamp := 0, mEpoch := 0 } :=
      hs'.trans (.of_same rfl rfl rfl rfl rfl rfl)
    dsimp only
    split
    · exact hcleared.trans (trimmed_flush _)
    · exact hcleared
  unfold setClientActive
  split
  · exact .refl s
  · dsimp only
    split
    · exact hrefresh
    · split
      · exact hfinish hactive
      · exact hfinish (hactive.trans (trimmed_resetBuffers (hactive.aware.trans haware) e))

theorem trimmed_setWorkerActive (s : IasLocalAudioStream) (active : Bool) :
    Trimmed s (s.setWorkerActive active) := by
  have hset : Trimmed s { s with mWorkerRunning := active } := .of_same rfl rfl rfl rfl rfl rfl
  unfold setWorkerActive
  split
  · split
    · exact hset.trans (trimmed_flush _)
    · exact hset
  · exact .refl s

theorem trimmed_updateBufferStatus (haware : s.hasBufferDesc = true) (e : Estimates) :
    Trimmed s (s.updateBufferStatus e) := by
  unfold updateBufferStatus
  split
  · exact .refl s
  · split
    · split
      · exact trimmed_resetBuffers haware e
      · exact .refl s
    · split
      · exact trimmed_signalUnderrun s
      · exact .refl s

theorem trimmed_connect (s : IasLocalAudioStream) : Trimmed s s.connect := by
  unfold connect
  split
  · exact trimmed_setClientState s _
  · exact .refl s

theorem writeIndex_readAll (reads : List (Nat × Nat)) (b : IasLocalAudioBuffer) :
    (readAll b reads).mMonotonicWriteIndex = b.mMonotonicWriteIndex := by
  induction reads generalizing b with
  | nil => rfl
  | cons r reads ih =>
      have hread : (b.readStrided r.1 r.2).1.control.mMonotonicWriteIndex
          = b.mMonotonicWriteIndex := by
        rw [b.control_readStrided]
        unfold BufferControl.readStrided
        split <;> rfl
      exact (ih _).trans hread

theorem trimmed_copyJob (reads : BufferControl → List (Nat × Nat))
    (hsize : q.mDescQsz = s.mBufferDescQ.mDescQsz)
    (hreset : q.mResetRequest = s.mBufferDescQ.mResetRequest)
    (hqueue : q.mDescQ <+: s.descriptors) : Trimmed s (s.copyJob reads q) := by
  refine .of_writeIndices _ ?_ hsize hreset hqueue
  rw [List.map_map]
  exact List.map_congr_left fun b _ => writeIndex_readAll _ b

/-! ## What a write does -/

/-- The pending descriptor covers what lies between the last range and the position `index`
of the writer. -/
structure Covers (s : IasLocalAudioStream) (index : Option Nat) : Prop where
  counted : s.mPendingDesc.sampleCnt = s.mPendingSamples
  unstamped : s.mPendingSamples = 0 → s.mPendingDesc.timeStamp = 0
  starts : 0 < s.mPendingSamples → ∀ d ∈ s.descriptors.head?, s.mPendingDesc.bufIndex = d.endIndex
  ends : 0 < s.mPendingSamples → index = some (add64 s.mPendingDesc.bufIndex s.mPendingSamples)
  idle : s.mPendingSamples = 0 → ∀ d ∈ s.descriptors.head?, index = some d.endIndex

/-- The queue by itself. -/
structure QueueInv (s : IasLocalAudioStream) : Prop where
  aware : s.hasBufferDesc = true
  room : 0 < s.mBufferDescQ.mDescQsz
  bounded : s.descriptors.length ≤ s.mBufferDescQ.mDescQsz
  consecutive : s.descriptors.IsChain fun young old => young.bufIndex = old.endIndex
  period : ∀ d ∈ s.descriptors, d.sampleCnt = s.mPeriodSz

/-- **The invariant**: the queue tiles the stream, and what is pending is covered, unless the
queue was flushed and the writer does not know yet. -/
structure TilingInv (s : IasLocalAudioStream) : Prop extends QueueInv s where
  pending : s.mPendingSamples < s.mPeriodSz
  flushed : s.mBufferDescQ.mResetRequest = true → s.descriptors = []
  covers : s.mBufferDescQ.mResetRequest = false → Covers s s.lastWriteIndex

/-- The oldest descriptors are gone: the youngest is the same, if there is one. -/
theorem head_of_initial {l l' : List AudioBufferDesc} (h : l' <+: l) {d : AudioBufferDesc}
    (hd : d ∈ l'.head?) : d ∈ l.head? := by
  cases l' with
  | nil => exact nomatch hd
  | cons d' l' =>
      obtain ⟨l'', rfl⟩ := h
      exact hd

theorem QueueInv.trimmed (h : QueueInv s) (hs : Trimmed s s') : QueueInv s' where
  aware := hs.aware.trans h.aware
  room := by rw [hs.size]; exact h.room
  bounded := by rw [hs.size]; exact Nat.le_trans hs.queue.length_le h.bounded
  consecutive := h.consecutive.prefix hs.queue
  period := by
    intro d hd
    rw [hs.periodSz]
    exact h.period d (hs.queue.subset hd)

theorem QueueInv.congr (h : QueueInv s) (haware : s'.hasBufferDesc = s.hasBufferDesc)
    (hqueue : s'.mBufferDescQ = s.mBufferDescQ) (hperiod : s'.mPeriodSz = s.mPeriodSz) :
    QueueInv s' where
  aware := haware.trans h.aware
  room := by rw [hqueue]; exact h.room
  bounded := by
    have hdesc : s'.descriptors = s.descriptors := congrArg IasLocalAudioBufferDesc.mDescQ hqueue
    rw [hdesc, hqueue]
    exact h.bounded
  consecutive := by
    have hdesc : s'.descriptors = s.descriptors := congrArg IasLocalAudioBufferDesc.mDescQ hqueue
    rw [hdesc]
    exact h.consecutive
  period := by
    have hdesc : s'.descriptors = s.descriptors := congrArg IasLocalAudioBufferDesc.mDescQ hqueue
    rw [hdesc, hperiod]
    exact h.period

theorem TilingInv.of_covers (h : QueueInv s) (hpending : s.mPendingSamples < s.mPeriodSz)
    (hreset : s.mBufferDescQ.mResetRequest = false) (hcovers : Covers s s.lastWriteIndex) :
    TilingInv s where
  toQueueInv := h
  pending := hpending
  flushed := fun htrue => Bool.noConfusion (hreset.symm.trans htrue)
  covers := fun _ => hcovers

theorem TilingInv.trimmed (h : TilingInv s) (hs : Trimmed s s') : TilingInv s' where
  toQueueInv := h.toQueueInv.trimmed hs
  pending := by rw [hs.pendingSamples, hs.periodSz]; exact h.pending
  flushed := by
    intro hreset
    rcases hs.place with ⟨hsame, -⟩ | ⟨hempty, -⟩
    · have hold : s.descriptors = [] := h.flushed (hsame ▸ hreset)
      exact List.prefix_nil.mp (hold ▸ hs.queue)
    · exact hempty
  covers := by
    intro hreset
    rcases hs.place with ⟨hsame, hlast⟩ | ⟨-, htrue⟩
    · have hcovers := h.covers (hsame ▸ hreset)
      rw [hlast]
      refine ⟨?_, ?_, ?_, ?_, ?_⟩
      · rw [hs.pendingDesc, hs.pendingSamples]; exact hcovers.counted
      · rw [hs.pendingDesc, hs.pendingSamples]; exact hcovers.unstamped
      · rw [hs.pendingDesc, hs.pendingSamples]
        exact fun hpos d hd => hcovers.starts hpos d (head_of_initial hs.queue hd)
      · rw [hs.pendingDesc, hs.pendingSamples]; exact hcovers.ends
      · rw [hs.pendingSamples]
        exact fun hzero d hd => hcovers.idle hzero d (head_of_initial hs.queue hd)
    · rw [htrue] at hreset
      exact Bool.noConfusion hreset

/-- The invariant is what it should be. -/
theorem TilingInv.tiled (h : TilingInv s) : Tiled s where
  consecutive := h.consecutive
  period := h.period
  pending := h.pending
  last := by
    intro d hd
    have hcovers : Covers s s.lastWriteIndex := by
      refine h.covers ?_
      by_contra hreset
      have hempty : s.descriptors = [] := h.flushed (by simpa using hreset)
      rw [hempty] at hd
      exact nomatch hd
    rcases Nat.eq_zero_or_pos s.mPendingSamples with hzero | hpos
    · have hend : add64 d.endIndex 0 = d.endIndex := by
        unfold AudioBufferDesc.endIndex add64
        omega
      rw [hzero, hend]
      exact hcovers.idle hzero d hd
    · rw [← hcovers.starts hpos d hd]
      exact hcovers.ends hpos

/-- A request that is answered leaves nothing pending. -/
theorem TilingInv.answerResetRequest (h : TilingInv s) :
    TilingInv s.answerResetRequest
      ∧ s.answerResetRequest.mBufferDescQ.mResetRequest = false := by
  unfold IasLocalAudioStream.answerResetRequest
  cases hreset : s.mBufferDescQ.mResetRequest with
  | false =>
      rw [if_neg Bool.false_ne_true]
      exact ⟨h, hreset⟩
  | true =>
      have hempty : s.mBufferDescQ.mDescQ = [] := h.flushed hreset
      rw [if_pos rfl]
      have hqueue : QueueInv s := h.toQueueInv
      refine ⟨⟨⟨hqueue.aware, hqueue.room, hqueue.bounded, hqueue.consecutive, hqueue.period⟩, ?_,
        fun _ => hempty, ?_⟩, rfl⟩
      · exact Nat.lt_of_le_of_lt (Nat.zero_le _) h.pending
      · intro _
        refine ⟨rfl, fun _ => rfl, fun hpos => absurd hpos (Nat.lt_irrefl 0),
          fun hpos => absurd hpos (Nat.lt_irrefl 0), fun _ d hd => ?_⟩
        have hd' : d ∈ s.mBufferDescQ.mDescQ.head? := hd
        rw [hempty] at hd'
        exact nomatch hd'

/-- What happens before a write: descriptors may go, and a flush is noticed. -/
structure Prepared (s s' : IasLocalAudioStream) : Prop where
  queue : s'.descriptors <+: s.descriptors
  size : s'.mBufferDescQ.mDescQsz = s.mBufferDescQ.mDescQsz
  channels : s'.numChannels = s.numChannels
  aware : s'.hasBufferDesc = s.hasBufferDesc

theorem Trimmed.answered (h : Trimmed s s') : Prepared s s'.answerResetRequest := by
  have hframe := answerResetRequest_descriptorsOnly s'
  have hqueue : s'.answerResetRequest.descriptors = s'.descriptors
      ∧ s'.answerResetRequest.mBufferDescQ.mDescQsz = s'.mBufferDescQ.mDescQsz := by
    unfold IasLocalAudioStream.answerResetRequest
    split <;> exact ⟨rfl, rfl⟩
  exact ⟨hqueue.1 ▸ h.queue, hqueue.2.trans h.size, hframe.kind.channels.trans h.channels,
    hframe.kind.timeAware.trans h.aware⟩

theorem prepare_prepared (haware : s.hasBufferDesc = true) (e : Estimates) (ch n : Nat) :
    Prepared s (s.prepare e ch n) := by
  unfold IasLocalAudioStream.prepare
  split
  · unfold prepareFirst
    split
    · exact ⟨List.prefix_rfl, rfl, rfl, rfl⟩
    · split
      · exact (trimmed_resetBuffers haware e).answered
      · exact (Trimmed.refl s).answered
  · exact ⟨List.prefix_rfl, rfl, rfl, rfl⟩

theorem TilingInv.prepare (h : TilingInv s) (e : Estimates) (ch n : Nat) :
    TilingInv (s.prepare e ch n) := by
  unfold IasLocalAudioStream.prepare
  split
  · unfold prepareFirst
    split
    · exact h
    · split
      · exact (h.trimmed (trimmed_resetBuffers h.aware e)).answerResetRequest.1
      · exact h.answerResetRequest.1
  · exact h

/-! ### The descriptors after a write to the last channel -/

section Describe

variable {w : Nat} {monotonicWriteIndex written timestamp : Nat}

@[simp] theorem updateRxTimestamp_pendingDesc :
    (s.updateRxTimestamp t timestamp).mPendingDesc = s.mPendingDesc := by
  unfold updateRxTimestamp
  split <;> [rfl; (split <;> rfl)]

@[simp] theorem updateRxTimestamp_pendingSamples :
    (s.updateRxTimestamp t timestamp).mPendingSamples = s.mPendingSamples := by
  unfold updateRxTimestamp
  split <;> [rfl; (split <;> rfl)]

@[simp] theorem updateRxTimestamp_queue :
    (s.updateRxTimestamp t timestamp).mBufferDescQ = s.mBufferDescQ := by
  unfold updateRxTimestamp
  split <;> [rfl; (split <;> rfl)]

@[simp] theorem updateRxTimestamp_periodSz :
    (s.updateRxTimestamp t timestamp).mPeriodSz = s.mPeriodSz := by
  unfold updateRxTimestamp
  split <;> [rfl; (split <;> rfl)]

/-- Extending the pending descriptor is no concern of the queue or the counter. -/
theorem extendPending_frame (s : IasLocalAudioStream) (e : Estimates) (t : TimeBase)
    (monotonicWriteIndex written timestamp : Nat) :
    let s' := s.extendPending e t monotonicWriteIndex written timestamp
    s'.mBufferDescQ = s.mBufferDescQ ∧ s'.mPendingSamples = s.mPendingSamples
      ∧ s'.mPeriodSz = s.mPeriodSz := by
  unfold extendPending
  dsimp only
  split
  · split <;> exact ⟨by simp [setPending], by simp [setPending], by simp [setPending]⟩
  · exact ⟨rfl, rfl, rfl⟩

/-- What the pending descriptor is after `written` more samples. -/
theorem extendPending_desc (s : IasLocalAudioStream) (e : Estimates) (t : TimeBase)
    (monotonicWriteIndex written timestamp : Nat) :
    let d := (s.extendPending e t monotonicWriteIndex written timestamp).mPendingDesc
    if s.mPendingDesc.timeStamp = 0 ∧ s.mPendingDesc.sampleCnt = 0 then
      d.bufIndex = sub64 monotonicWriteIndex written ∧ d.sampleCnt = written
    else
      d.bufIndex = s.mPendingDesc.bufIndex
        ∧ d.sampleCnt = add32 s.mPendingDesc.sampleCnt written := by
  unfold extendPending
  dsimp only
  by_cases hstamp : s.mPendingDesc.timeStamp = 0
  · rw [if_pos hstamp]
    by_cases hcount : s.mPendingDesc.sampleCnt = 0
    · rw [if_pos ⟨hstamp, hcount⟩, if_pos (by rw [updateRxTimestamp_pendingDesc]; exact hcount)]
      exact ⟨rfl, rfl⟩
    · rw [if_neg fun h => hcount h.2,
        if_neg (by rw [updateRxTimestamp_pendingDesc]; exact hcount)]
      exact ⟨by simp [setPending], by simp [setPending]⟩
  · rw [if_neg hstamp, if_neg fun h => hstamp h.1]
    exact ⟨rfl, rfl⟩

/-- **The pending descriptor follows the writer**: it starts where the last range ends, and
reaches to the new position. -/
theorem extendPending_covers (h : Covers s (some w)) (hpos : 0 < written)
    (hsum : s.mPendingSamples + written < 4294967296) (hnew : monotonicWriteIndex = add64 w written)
    (e : Estimates) (t : TimeBase) (timestamp : Nat) :
    let d := (s.extendPending e t monotonicWriteIndex written timestamp).mPendingDesc
    d.sampleCnt = s.mPendingSamples + written
      ∧ monotonicWriteIndex = add64 d.bufIndex (s.mPendingSamples + written)
      ∧ ∀ d' ∈ s.descriptors.head?, d.bufIndex = d'.endIndex := by
  intro d
  have hdesc := extendPending_desc s e t monotonicWriteIndex written timestamp
  dsimp only at hdesc
  by_cases hzero : s.mPendingSamples = 0
  · -- a new descriptor starts with these samples
    have hcount : s.mPendingDesc.sampleCnt = 0 := h.counted.trans hzero
    rw [if_pos ⟨h.unstamped hzero, hcount⟩] at hdesc
    obtain ⟨hbuf, hcnt⟩ := hdesc
    have hbuf : d.bufIndex = sub64 monotonicWriteIndex written := hbuf
    refine ⟨by rw [hzero, Nat.zero_add]; exact hcnt, ?_, ?_⟩
    · rw [hbuf, hzero, hnew]
      unfold sub64 add64
      omega
    · intro d' hd'
      have hw : w = d'.endIndex := Option.some.inj (h.idle hzero d' hd')
      rw [hbuf, hnew, hw]
      unfold AudioBufferDesc.endIndex sub64 add64
      omega
  · -- the one that is open grows
    have hpos' : 0 < s.mPendingSamples := Nat.pos_of_ne_zero hzero
    rw [if_neg fun hnone => hzero (h.counted.symm.trans hnone.2)] at hdesc
    obtain ⟨hbuf, hcnt⟩ := hdesc
    have hbuf : d.bufIndex = s.mPendingDesc.bufIndex := hbuf
    have hw : w = add64 s.mPendingDesc.bufIndex s.mPendingSamples := Option.some.inj (h.ends hpos')
    refine ⟨?_, ?_, ?_⟩
    · show d.sampleCnt = _
      rw [hcnt, h.counted, add32_of_lt hsum]
    · rw [hbuf, hnew, hw]
      unfold add64
      omega
    · rw [hbuf]
      exact h.starts hpos'

theorem enqueue_queue (q : IasLocalAudioBufferDesc) (desc : AudioBufferDesc) :
    ∃ kept, kept <+: q.mDescQ ∧ (q.enqueue desc).mDescQ = desc :: kept := by
  unfold IasLocalAudioBufferDesc.enqueue
  split
  · exact ⟨_, List.dropLast_prefix _, rfl⟩
  · exact ⟨_, List.prefix_rfl, rfl⟩

/-- The oldest descriptor makes room in a full queue. -/
theorem enqueue_length {q : IasLocalAudioBufferDesc} (hroom : 0 < q.mDescQsz)
    (hbounded : q.mDescQ.length ≤ q.mDescQsz) (desc : AudioBufferDesc) :
    (q.enqueue desc).mDescQ.length ≤ q.mDescQsz := by
  unfold IasLocalAudioBufferDesc.enqueue IasLocalAudioBufferDesc.setDescQ
  dsimp only
  rw [List.length_cons]
  split
  · rw [List.length_dropLast]
    omega
  · omega

theorem QueueInv.enqueue (h : QueueInv s) {desc : AudioBufferDesc}
    (hcount : desc.sampleCnt = s.mPeriodSz)
    (hstart : ∀ d ∈ s.descriptors.head?, desc.bufIndex = d.endIndex) :
    QueueInv (s.setDescQ (s.mBufferDescQ.enqueue desc)) := by
  obtain ⟨kept, hkept, hqueue⟩ := enqueue_queue s.mBufferDescQ desc
  refine ⟨h.aware, h.room, enqueue_length h.room h.bounded desc, ?_, ?_⟩
  · show (s.mBufferDescQ.enqueue desc).mDescQ.IsChain _
    rw [hqueue]
    exact List.isChain_cons.mpr
      ⟨fun d hd => hstart d (head_of_initial hkept hd), h.consecutive.prefix hkept⟩
  · show ∀ d ∈ (s.mBufferDescQ.enqueue desc).mDescQ, d.sampleCnt = s.mPeriodSz
    rw [hqueue]
    intro d hd
    rcases List.mem_cons.mp hd with rfl | hd
    · exact hcount
    · exact h.period d (hkept.subset hd)

/-- **A full period becomes a descriptor**, and the rest is pending. -/
theorem completePending_inv (h : QueueInv s) (hreset : s.mBufferDescQ.mResetRequest = false)
    {index : Nat} (hlast : s.lastWriteIndex = some index)
    (hindex : index = add64 s.mPendingDesc.bufIndex s.mPendingSamples)
    (hhead : ∀ d ∈ s.descriptors.head?, s.mPendingDesc.bufIndex = d.endIndex)
    (hfull : s.mPeriodSz ≤ s.mPendingSamples) (hless : s.mPendingSamples < 2 * s.mPeriodSz)
    (hsum : s.mPendingSamples < 4294967296) :
    TilingInv (s.completePending t index n timestamp) := by
  have hlast' : (s.completePending t index n timestamp).lastWriteIndex = some index := by
    unfold lastWriteIndex
    rw [(completePending_descriptorsOnly s t index n timestamp).buffers]
    exact hlast
  obtain ⟨kept, -, hqueue⟩ := enqueue_queue s.mBufferDescQ
    { s.mPendingDesc with sampleCnt := s.mPeriodSz }
  -- what was put in last is what the next descriptor goes on from
  have hyoungest : ∀ d ∈ (s.mBufferDescQ.enqueue
      { s.mPendingDesc with sampleCnt := s.mPeriodSz }).mDescQ.head?,
      d = { s.mPendingDesc with sampleCnt := s.mPeriodSz } := by
    intro d hd
    rw [hqueue] at hd
    exact (Option.some.inj hd).symm
  have henqueue : QueueInv (s.setDescQ (s.mBufferDescQ.enqueue
      { s.mPendingDesc with sampleCnt := s.mPeriodSz })) := h.enqueue rfl hhead
  unfold completePending at hlast' ⊢
  dsimp only at hlast' ⊢
  -- a whole period, or a rest that is pending
  by_cases hover : s.mPendingSamples - s.mPeriodSz = 0
  · rw [if_pos hover] at hlast' ⊢
    refine .of_covers (henqueue.congr rfl rfl rfl) ?_ hreset ?_
    · show 0 < s.mPeriodSz
      omega
    · rw [hlast']
      refine ⟨rfl, fun _ => rfl, fun hpos => absurd hpos (Nat.lt_irrefl 0),
        fun hpos => absurd hpos (Nat.lt_irrefl 0), fun _ d hd => ?_⟩
      have hexact : s.mPendingSamples = s.mPeriodSz := by omega
      rw [hyoungest d hd, hindex, hexact]
      rfl
  · rw [if_neg hover] at hlast' ⊢
    refine .of_covers (henqueue.congr (updateRxTimestamp_descriptorsOnly ..).kind.timeAware
      (by simp [setPending]) (by simp [setPending])) ?_ ?_ ?_
    · simp only [setPending, updateRxTimestamp_periodSz]
      show s.mPendingSamples - s.mPeriodSz < s.mPeriodSz
      omega
    · simp only [setPending, updateRxTimestamp_queue]
      exact hreset
    · rw [hlast']
      refine ⟨rfl, fun hzero => absurd hzero hover, fun _ d hd => ?_, fun _ => ?_,
        fun hzero => absurd hzero hover⟩
      · simp only [setPending, descriptors, updateRxTimestamp_queue] at hd ⊢
        rw [hyoungest d hd, hindex]
        unfold AudioBufferDesc.endIndex sub64 add64
        dsimp only
        omega
      · simp only [setPending]
        rw [hindex]
        unfold sub64 add64
        congr 1
        omega

/-- **The descriptors keep up with a write that stores everything**, if the period that is
open and the samples are less than two periods. -/
theorem describe_inv (h : QueueInv s) (hreset : s.mBufferDescQ.mResetRequest = false)
    (hcovers : Covers s (some w)) (hlast : s.lastWriteIndex = some monotonicWriteIndex)
    (hnew : monotonicWriteIndex = add64 w written) (hpos : 0 < written)
    (hless : s.mPendingSamples + written < 2 * s.mPeriodSz)
    (hsum : s.mPendingSamples + written < 4294967296) :
    TilingInv (s.describe e t monotonicWriteIndex written written timestamp) := by
  obtain ⟨hcount, hindex, hhead⟩ := extendPending_covers hcovers hpos hsum hnew e t timestamp
  obtain ⟨hqueue, hpending, hperiod⟩ :=
    extendPending_frame s e t monotonicWriteIndex written timestamp
  have hframe := extendPending_descriptorsOnly s e t monotonicWriteIndex written timestamp
  unfold describe
  generalize s.extendPending e t monotonicWriteIndex written timestamp = s₁ at *
  dsimp only
  rw [hpending, add32_of_lt hsum]
  have hqueue₂ : QueueInv (s₁.setPending s₁.mPendingDesc (s.mPendingSamples + written)
      s₁.mLastSampleCnt) := h.congr hframe.kind.timeAware hqueue hperiod
  have hlast₂ : (s₁.setPending s₁.mPendingDesc (s.mPendingSamples + written)
      s₁.mLastSampleCnt).lastWriteIndex = some monotonicWriteIndex := by
    rw [← hlast]
    exact congrArg (fun l => (List.getLast? l).map IasLocalAudioBuffer.mMonotonicWriteIndex)
      hframe.buffers
  have hreset₂ : (s₁.setPending s₁.mPendingDesc (s.mPendingSamples + written)
      s₁.mLastSampleCnt).mBufferDescQ.mResetRequest = false :=
    (congrArg IasLocalAudioBufferDesc.mResetRequest hqueue).trans hreset
  have hhead₂ : ∀ d ∈ s₁.descriptors.head?, s₁.mPendingDesc.bufIndex = d.endIndex := by
    rw [show s₁.descriptors = s.descriptors from congrArg IasLocalAudioBufferDesc.mDescQ hqueue]
    exact hhead
  split
  · rename_i hfull
    exact completePending_inv hqueue₂ hreset₂ hlast₂ hindex hhead₂ hfull
      (by show _ < 2 * s₁.mPeriodSz; rw [hperiod]; exact hless) hsum
  · rename_i hopen
    refine .of_covers hqueue₂ (Nat.not_le.mp hopen) hreset₂ ?_
    rw [hlast₂]
    refine ⟨hcount, fun hzero => ?_, fun _ => hhead₂, fun _ => congrArg some hindex,
      fun hzero => ?_⟩
    · have hzero : s.mPendingSamples + written = 0 := hzero
      omega
    · have hzero : s.mPendingSamples + written = 0 := hzero
      omega

end Describe

/-! ### The write call -/

theorem numChannels_setChannel (s : IasLocalAudioStream) (ch : Nat) (b : IasLocalAudioBuffer) :
    (s.setChannel ch b).numChannels = s.numChannels := List.length_set ..

theorem getElem?_last (s : IasLocalAudioStream) :
    s.mChannelBuffers.getLast? = s.mChannelBuffers[s.numChannels - 1]? := List.getLast?_eq_getElem?

theorem lastWriteIndex_setChannel_last (hb : s.mChannelBuffers[ch]? = some b)
    (hch : ch + 1 = s.numChannels) (b' : IasLocalAudioBuffer) :
    (s.setChannel ch b').lastWriteIndex = some b'.mMonotonicWriteIndex := by
  have hlt : ch < s.mChannelBuffers.length := (List.getElem?_eq_some_iff.mp hb).1
  have hget : (s.mChannelBuffers.set ch b')[ch]? = some b' := List.getElem?_set_self hlt
  have hlast : (s.setChannel ch b').numChannels - 1 = ch := by
    rw [numChannels_setChannel]
    omega
  unfold lastWriteIndex
  rw [getElem?_last, hlast]
  exact congrArg (Option.map IasLocalAudioBuffer.mMonotonicWriteIndex) hget

theorem lastWriteIndex_of_last (hb : s.mChannelBuffers[ch]? = some b)
    (hch : ch + 1 = s.numChannels) : s.lastWriteIndex = some b.mMonotonicWriteIndex := by
  have hlast : s.numChannels - 1 = ch := by omega
  unfold lastWriteIndex
  rw [getElem?_last, hlast, hb]
  rfl

/-- Another channel is no concern of the descriptors. -/
theorem trimmed_setChannel_other (hch : ch + 1 ≠ s.numChannels) (hlt : ch < s.numChannels)
    (b' : IasLocalAudioBuffer) : Trimmed s (s.setChannel ch b') where
  aware := rfl
  periodSz := rfl
  size := rfl
  channels := List.length_set ..
  pendingSamples := rfl
  pendingDesc := rfl
  queue := List.prefix_rfl
  place := by
    refine Or.inl ⟨rfl, ?_⟩
    unfold lastWriteIndex
    rw [getElem?_last, getElem?_last, numChannels_setChannel]
    have hget : (s.mChannelBuffers.set ch b')[s.numChannels - 1]?
        = s.mChannelBuffers[s.numChannels - 1]? := List.getElem?_set_ne (by omega)
    exact congrArg (Option.map IasLocalAudioBuffer.mMonotonicWriteIndex) hget

/-- The write to a channel that is not the last one. -/
theorem trimmed_storeChannel_other (haware : s.hasBufferDesc = true) (hch : ch + 1 ≠ s.numChannels)
    (buffer : Nat → AudioData) (written timestamp : Nat) :
    Trimmed s (s.storeChannel e t ch buffer n written timestamp).stream := by
  unfold storeChannel
  cases hb : s.mChannelBuffers[ch]? with
  | none => exact .refl s
  | some b =>
      have hlt : ch < s.numChannels := (List.getElem?_eq_some_iff.mp hb).1
      have hset := trimmed_setChannel_other hch hlt (b.write buffer n).1
      dsimp only
      split
      · split
        · exact hset.trans (trimmed_resetBuffers (hset.aware.trans haware) e)
        · exact hset
      · split
        · rename_i hlast
          have hlast : ch = (s.setChannel ch (b.write buffer n).1).numChannels - 1 := hlast.2.2
          rw [hset.channels] at hlast
          omega
        · exact hset

/-- What a call that stores nothing leaves of the writer's position. -/
theorem Covers.add_zero {w : Nat} (h : Covers s (some w)) : Covers s (some (add64 w 0)) where
  counted := h.counted
  unstamped := h.unstamped
  starts := h.starts
  ends := by
    intro hpos
    have hw : w = add64 s.mPendingDesc.bufIndex s.mPendingSamples := Option.some.inj (h.ends hpos)
    rw [hw]
    unfold add64
    congr 1
    omega
  idle := by
    intro hzero d hd
    have hw : w = d.endIndex := Option.some.inj (h.idle hzero d hd)
    rw [hw]
    unfold AudioBufferDesc.endIndex add64
    congr 1
    omega

/-- **When the bookkeeping of a write to the last channel is right.** No flush is waiting to
be noticed, and either nothing is stored, or everything is and less than two periods are open. -/
def Regular (s : IasLocalAudioStream) (ch n : Nat) : Prop :=
  s.mBufferDescQ.mResetRequest = false
    ∧ ∀ b ∈ s.mChannelBuffers[ch]?, min n b.remaining = 0
      ∨ n ≤ b.remaining ∧ n < 65536 ∧ s.mPendingSamples + n < min (2 * s.mPeriodSz) 4294967296

instance (s : IasLocalAudioStream) (ch n : Nat) : Decidable (Regular s ch n) :=
  inferInstanceAs (Decidable (_ ∧ ∀ b ∈ _, _))

/-- **The write to the last channel** keeps the tiling, if it is regular. -/
theorem storeChannel_inv (h : TilingInv s) (hch : ch + 1 = s.numChannels) (hn : n ≠ 0)
    (hregular : Regular s ch n) (buffer : Nat → AudioData) (written timestamp : Nat) :
    TilingInv (s.storeChannel e t ch buffer n written timestamp).stream := by
  obtain ⟨hreset, hstore⟩ := hregular
  unfold storeChannel
  cases hb : s.mChannelBuffers[ch]? with
  | none => exact h
  | some b =>
      have hcovers : Covers s (some b.mMonotonicWriteIndex) := by
        rw [← lastWriteIndex_of_last hb hch]
        exact h.covers hreset
      have hindex : (b.write buffer n).1.mMonotonicWriteIndex
          = add64 b.mMonotonicWriteIndex (min n b.remaining) :=
        congrArg BufferControl.mMonotonicWriteIndex (b.control_write buffer n)
      have hcount : (b.write buffer n).2 = min n b.remaining := rfl
      have hqueue : QueueInv (s.setChannel ch (b.write buffer n).1) :=
        h.toQueueInv.congr rfl rfl rfl
      have hlast := lastWriteIndex_setChannel_last hb hch (b.write buffer n).1
      have hcovers' : Covers (s.setChannel ch (b.write buffer n).1) (some b.mMonotonicWriteIndex) :=
        ⟨hcovers.counted, hcovers.unstamped, hcovers.starts, hcovers.ends, hcovers.idle⟩
      dsimp only
      rcases hstore b hb with hnothing | ⟨hroom, hn16, hless⟩
      · -- nothing is stored, and the samples are not counted either
        rw [hnothing] at hindex hcount
        have hsame : TilingInv (s.setChannel ch (b.write buffer n).1) := by
          refine .of_covers hqueue h.pending hreset ?_
          rw [hlast, hindex]
          exact hcovers'.add_zero
        rw [hcount]
        split
        · split
          · exact hsame.trimmed (trimmed_resetBuffers hqueue.aware e)
          · exact hsame
        · split
          · rename_i hwritten
            exact absurd rfl hwritten.2.1
          · exact hsame
      · rw [Nat.min_eq_left hroom] at hindex hcount
        rw [hcount, Nat.mod_eq_of_lt hn16, if_neg fun hshort => hshort.1 rfl]
        split
        · exact describe_inv hqueue hreset hcovers' hlast hindex (Nat.pos_of_ne_zero hn)
            (Nat.lt_of_lt_of_le hless (Nat.min_le_left ..))
            (Nat.lt_of_lt_of_le hless (Nat.min_le_right ..))
        · rename_i hskip
          refine absurd ⟨hqueue.aware, hn, ?_⟩ hskip
          rw [numChannels_setChannel]
          omega

/-- **A write call keeps the tiling**, if it is regular whenever it gets to the last channel. -/
theorem writeLocalAudioBuffer_inv (h : TilingInv s) {buffer : Nat → AudioData}
    {written timestamp : Nat}
    (hregular : s.mSampleFrequency ≠ 0 → s.mWorkerRunning = true → ch + 1 = s.numChannels → n ≠ 0 →
      Regular (s.prepare e ch n) ch n) :
    TilingInv (s.writeLocalAudioBuffer e t ch buffer n written timestamp).stream := by
  unfold writeLocalAudioBuffer
  split
  · exact h
  · rename_i hfreq
    split
    · exact h
    · rename_i hparam
      split
      · rename_i hworker
        have hchannels := (prepare_prepared h.aware e ch n).channels
        have hprepared := h.prepare e ch n
        by_cases hlast : ch + 1 = s.numChannels
        · have hn : n ≠ 0 := fun hzero => hparam (Or.inr hzero)
          exact storeChannel_inv hprepared (hlast.trans hchannels.symm) hn
            (hregular hfreq (by simpa using hworker) hlast hn) _ _ _
        · exact hprepared.trimmed
            (trimmed_storeChannel_other hprepared.aware (hchannels ▸ hlast) _ _ _)
      · exact h

/-! ### The queue by itself -/

/-- The oldest descriptors may be gone, and one may be new. -/
inductive QueueStep (q q' : IasLocalAudioBufferDesc) : Prop
  | kept (queue : q'.mDescQ <+: q.mDescQ) (size : q'.mDescQsz = q.mDescQsz)
  | enqueued (q₀ : IasLocalAudioBufferDesc) (desc : AudioBufferDesc)
      (queue : q₀.mDescQ <+: q.mDescQ) (size₀ : q₀.mDescQsz = q.mDescQsz)
      (new : q'.mDescQ = (q₀.enqueue desc).mDescQ) (size : q'.mDescQsz = q.mDescQsz)

theorem QueueStep.dropsOnlyOldest {q' : IasLocalAudioBufferDesc} (h : QueueStep q q') :
    DropsOnlyOldest q.mDescQ q'.mDescQ := by
  cases h with
  | kept hqueue _ => exact ⟨_, hqueue, Or.inl rfl⟩
  | enqueued q₀ desc hqueue _ hnew _ =>
      obtain ⟨kept, hkept, henqueue⟩ := enqueue_queue q₀ desc
      exact ⟨kept, hkept.trans hqueue, Or.inr ⟨desc, hnew.trans henqueue⟩⟩

theorem QueueStep.bounded {q' : IasLocalAudioBufferDesc} (h : QueueStep q q')
    (hroom : 0 < q.mDescQsz) (hbounded : q.mDescQ.length ≤ q.mDescQsz) :
    0 < q'.mDescQsz ∧ q'.mDescQ.length ≤ q'.mDescQsz := by
  cases h with
  | kept hqueue hsize =>
      rw [hsize]
      exact ⟨hroom, Nat.le_trans hqueue.length_le hbounded⟩
  | enqueued q₀ desc hqueue hsize₀ hnew hsize =>
      rw [hsize, hnew, ← hsize₀]
      refine ⟨by rw [hsize₀]; exact hroom, enqueue_length (by rw [hsize₀]; exact hroom) ?_ desc⟩
      rw [hsize₀]
      exact Nat.le_trans hqueue.length_le hbounded

theorem Trimmed.queueStep (h : Trimmed s s') : QueueStep s.mBufferDescQ s'.mBufferDescQ :=
  .kept h.queue h.size

theorem QueueStep.of_initial {q' q'' : IasLocalAudioBufferDesc} (hqueue : q'.mDescQ <+: q.mDescQ)
    (hsize : q'.mDescQsz = q.mDescQsz) (h : QueueStep q' q'') : QueueStep q q'' := by
  cases h with
  | kept hqueue' hsize' => exact .kept (hqueue'.trans hqueue) (hsize'.trans hsize)
  | enqueued q₀ desc hqueue' hsize₀ hnew hsize' =>
      exact .enqueued q₀ desc (hqueue'.trans hqueue) (hsize₀.trans hsize) hnew (hsize'.trans hsize)

theorem completePending_queue (s : IasLocalAudioStream) (t : TimeBase)
    (monotonicWriteIndex bufferSize timestamp : Nat) :
    (s.completePending t monotonicWriteIndex bufferSize timestamp).mBufferDescQ
      = s.mBufferDescQ.enqueue { s.mPendingDesc with sampleCnt := s.mPeriodSz } := by
  unfold completePending
  dsimp only
  split
  · rfl
  · simp only [setPending, updateRxTimestamp_queue]
    rfl

theorem describe_queueStep (s : IasLocalAudioStream) (e : Estimates) (t : TimeBase)
    (monotonicWriteIndex bufferSize written timestamp : Nat) :
    QueueStep s.mBufferDescQ
      (s.describe e t monotonicWriteIndex bufferSize written timestamp).mBufferDescQ := by
  obtain ⟨hqueue, -, -⟩ := extendPending_frame s e t monotonicWriteIndex written timestamp
  unfold describe
  generalize s.extendPending e t monotonicWriteIndex written timestamp = s₁ at *
  have hkept : s₁.mBufferDescQ.mDescQ <+: s.mBufferDescQ.mDescQ :=
    (congrArg IasLocalAudioBufferDesc.mDescQ hqueue) ▸ List.prefix_rfl
  dsimp only
  split
  · rw [completePending_queue]
    exact .enqueued s₁.mBufferDescQ _ hkept (congrArg IasLocalAudioBufferDesc.mDescQsz hqueue) rfl
      (by rw [← hqueue]; rfl)
  · exact .kept hkept (congrArg IasLocalAudioBufferDesc.mDescQsz hqueue)

/-- The stream is time-aware, and its queue not too long. -/
structure Sized (s : IasLocalAudioStream) : Prop where
  aware : s.hasBufferDesc = true
  room : 0 < s.mBufferDescQ.mDescQsz
  bounded : s.descriptors.length ≤ s.mBufferDescQ.mDescQsz

/-- What a step does to the mode and the queue of a time-aware stream. -/
structure StaysAware (s s' : IasLocalAudioStream) : Prop where
  aware : s'.hasBufferDesc = true
  queue : QueueStep s.mBufferDescQ s'.mBufferDescQ

theorem StaysAware.refl (haware : s.hasBufferDesc = true) : StaysAware s s :=
  ⟨haware, .kept List.prefix_rfl rfl⟩

theorem Sized.of_staysAware (h : Sized s) (hs : StaysAware s s') : Sized s' :=
  have hqueue := hs.queue.bounded h.room h.bounded
  ⟨hs.aware, hqueue.1, hqueue.2⟩

theorem Trimmed.staysAware (h : Trimmed s s') (haware : s.hasBufferDesc = true) :
    StaysAware s s' := ⟨h.aware.trans haware, h.queueStep⟩

theorem storeChannel_staysAware (haware : s.hasBufferDesc = true) (buffer : Nat → AudioData)
    (written timestamp : Nat) :
    StaysAware s (s.storeChannel e t ch buffer n written timestamp).stream := by
  unfold storeChannel
  cases s.mChannelBuffers[ch]? with
  | none => exact .refl haware
  | some b =>
      dsimp only
      split
      · split
        · have htrim := trimmed_resetBuffers (s := s.setChannel ch (b.write buffer n).1) haware e
          exact ⟨htrim.aware.trans haware, htrim.queueStep⟩
        · exact ⟨haware, .kept List.prefix_rfl rfl⟩
      · split
        · have hframe := describe_descriptorsOnly (s.setChannel ch (b.write buffer n).1) e t
            (b.write buffer n).1.mMonotonicWriteIndex n ((b.write buffer n).2 % 65536) timestamp
          exact ⟨hframe.kind.timeAware.trans haware,
            describe_queueStep (s.setChannel ch (b.write buffer n).1) ..⟩
        · exact ⟨haware, .kept List.prefix_rfl rfl⟩

theorem writeLocalAudioBuffer_staysAware (haware : s.hasBufferDesc = true)
    (buffer : Nat → AudioData) (written timestamp : Nat) :
    StaysAware s (s.writeLocalAudioBuffer e t ch buffer n written timestamp).stream := by
  have hprepared := prepare_prepared haware e ch n
  unfold writeLocalAudioBuffer
  split
  · exact .refl haware
  · split
    · exact .refl haware
    · split
      · have hstore : StaysAware (s.prepare e ch n)
            ((s.prepare e ch n).storeChannel e t ch buffer n written timestamp).stream :=
          storeChannel_staysAware (hprepared.aware.trans haware) buffer written timestamp
        exact ⟨hstore.aware, .of_initial hprepared.queue hprepared.size hstore.queue⟩
      · exact .refl haware

end IasLocalAudioStream

end AvbStreamHandler
