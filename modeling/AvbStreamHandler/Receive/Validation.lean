import Mathlib.Tactic.ByContra

/-!
# Receive validation

What the audio and the video receive streams do alike in `readFromAvbPacket`: they reach a
verdict on the packet, and let the verdict settle into the stream state.

The state of a stream is kept twice. `mStreamStateInternal` follows every verdict at once.
`mStreamState`, the state the outside sees, becomes valid only after
`mValidationThreshold` packets in a row have been found valid, and leaves it as soon as
one is not; `mValidationCount` is how many of them are still missing. The client of the
local stream is switched on and off along with `mStreamState`.

The two callers differ in which fields of a header they check, so the outcome of those
checks is an argument here.
-/

namespace AvbStreamHandler

inductive IasAvbStreamState
  | eIasAvbStreamInactive
  | eIasAvbStreamNoData
  | eIasAvbStreamInvalidData
  | eIasAvbStreamValid
deriving DecidableEq, Repr

open IasAvbStreamState

/-- Never validate. -/
def cValidateNever : Nat := 0

/-- Stop validation after the first validated packet. -/
def cValidateOnce : Nat := 1

/-- Validate each packet. -/
def cValidateAlways : Nat := 2

/-- `receive.validation.mode` and `receive.validation.threshold`, with their defaults. -/
structure RxConfig where
  mValidationMode : Nat := cValidateOnce
  mValidationThreshold : Nat := 100

/-- What a receive stream remembers from packet to packet; `L` is its local stream. -/
structure RxStream (L : Type) where
  mStreamStateInternal : IasAvbStreamState := eIasAvbStreamInactive
  mStreamState : IasAvbStreamState := eIasAvbStreamInactive
  mValidationCount : Nat
  mSeqNum : UInt8 := 0
  mActive : Bool := false
  mLocalStream : Option L := none
  /-- The local stream's `mClientState` is `eIasActive`. -/
  clientActive : Bool := false
deriving DecidableEq

namespace RxStream

variable {L : Type}

/-- The stream as `initReceive` and then `connectTo` leave it. -/
def init (c : RxConfig) (mLocalStream : Option L) : RxStream L where
  mValidationCount := c.mValidationThreshold
  mLocalStream := mLocalStream

def isConnected (s : RxStream L) : Bool := s.mLocalStream.isSome

/-- `mLocalStream->setClientActive(active)`, if there is a local stream. -/
def setClientActive (s : RxStream L) (active : Bool) : RxStream L :=
  if s.isConnected then { s with clientActive := active } else s

def setStreamState (s : RxStream L) (newState : IasAvbStreamState) : RxStream L :=
  { s with mStreamState := newState }

def setInternal (s : RxStream L) (newState : IasAvbStreamState) : RxStream L :=
  { s with mStreamStateInternal := newState }

def setValidationCount (s : RxStream L) (count : Nat) : RxStream L :=
  { s with mValidationCount := count }

def setSeqNum (s : RxStream L) (seqNum : UInt8) : RxStream L := { s with mSeqNum := seqNum }

def setActive (s : RxStream L) (active : Bool) : RxStream L := { s with mActive := active }

/-- The verdict on a packet with sequence number `seqNum`, if `headerOk` is what the header
checks come to. A stream that is already valid goes by the sequence number, whatever the
header checks said. -/
def verdict (c : RxConfig) (s : RxStream L) (headerOk : Bool) (seqNum : UInt8) :
    IasAvbStreamState :=
  if c.mValidationMode = cValidateNever then eIasAvbStreamValid
  else
    let newState :=
      if c.mValidationMode = cValidateAlways ∨ s.mStreamState ≠ eIasAvbStreamValid then
        if headerOk then eIasAvbStreamValid else eIasAvbStreamInvalidData
      else eIasAvbStreamInvalidData
    if s.mStreamStateInternal = eIasAvbStreamValid then
      if seqNum = s.mSeqNum + 1 then eIasAvbStreamValid else eIasAvbStreamInvalidData
    else newState

/-- A valid packet: one less to wait for, and the last of them makes the stream valid. -/
def countDown (s : RxStream L) : RxStream L :=
  if 0 < s.mValidationCount then
    let s := s.setValidationCount (s.mValidationCount - 1)
    if s.mValidationCount = 0 then (s.setStreamState eIasAvbStreamValid).setClientActive true
    else s
  else s

/-- The stream stops being valid. -/
def leaveValid (c : RxConfig) (s : RxStream L) (newState : IasAvbStreamState) : RxStream L :=
  ((s.setValidationCount c.mValidationThreshold).setStreamState newState).setClientActive false

/-- The verdict `newState` takes effect. -/
def settle (c : RxConfig) (s : RxStream L) (newState : IasAvbStreamState) : RxStream L :=
  let oldState := s.mStreamStateInternal
  let s := if newState = eIasAvbStreamValid then s.countDown else s
  if newState ≠ oldState then
    let s := s.setInternal newState
    if newState = eIasAvbStreamValid then s
    else if oldState = eIasAvbStreamValid then s.leaveValid c newState
    else s
  else s

/-- The null packet: nothing was received for a while. -/
def receiveNothing (c : RxConfig) (s : RxStream L) : RxStream L := s.settle c eIasAvbStreamNoData

/-- `activate`, and the derived class's `activationChanged` after it. -/
def activate (s : RxStream L) : RxStream L :=
  if s.mActive then s else (s.setActive true).setClientActive true

def deactivate (s : RxStream L) : RxStream L :=
  if s.mActive then (s.setActive false).setClientActive false else s

/-! ## The verdict -/

/-- The packet continues the flow the stream is following. -/
def Follows (s : RxStream L) (seqNum : UInt8) : Prop :=
  s.mStreamStateInternal = eIasAvbStreamValid ∧ seqNum = s.mSeqNum + 1

instance (s : RxStream L) (seqNum : UInt8) : Decidable (s.Follows seqNum) :=
  inferInstanceAs (Decidable (_ ∧ _))

theorem verdict_of_never {c : RxConfig} {s : RxStream L} {headerOk : Bool} {seqNum : UInt8}
    (h : c.mValidationMode = cValidateNever) :
    s.verdict c headerOk seqNum = eIasAvbStreamValid := if_pos h

theorem verdict_of_follows {c : RxConfig} {s : RxStream L} {headerOk : Bool} {seqNum : UInt8}
    (h : s.Follows seqNum) : s.verdict c headerOk seqNum = eIasAvbStreamValid := by
  unfold verdict
  dsimp only
  rw [if_pos h.1, if_pos h.2, ite_self]

/-- A stream that follows a flow has no use for a packet from elsewhere. -/
theorem verdict_of_jump {c : RxConfig} {s : RxStream L} {headerOk : Bool} {seqNum : UInt8}
    (hmode : c.mValidationMode ≠ cValidateNever)
    (hvalid : s.mStreamStateInternal = eIasAvbStreamValid) (hseq : seqNum ≠ s.mSeqNum + 1) :
    s.verdict c headerOk seqNum = eIasAvbStreamInvalidData := by
  unfold verdict
  dsimp only
  rw [if_neg hmode, if_pos hvalid, if_neg hseq]

/-- A stream that follows nothing goes by the header, as long as the outside does not
believe it valid. -/
theorem verdict_of_headerOk {c : RxConfig} {s : RxStream L} {seqNum : UInt8}
    (hinternal : s.mStreamStateInternal ≠ eIasAvbStreamValid)
    (hstate : s.mStreamState ≠ eIasAvbStreamValid) :
    s.verdict c true seqNum = eIasAvbStreamValid := by
  unfold verdict
  dsimp only
  rw [if_neg hinternal, if_pos (Or.inr hstate), if_pos rfl, ite_self]

/--
**The gate of `cValidateAlways`.**

A packet is found valid exactly if it continues the flow, or if there is no flow to
continue and its header is in order. So the header decides only while there is no flow.
-/
theorem verdict_always_iff {c : RxConfig} {s : RxStream L} {headerOk : Bool} {seqNum : UInt8}
    (hmode : c.mValidationMode = cValidateAlways) :
    s.verdict c headerOk seqNum = eIasAvbStreamValid ↔
      s.Follows seqNum ∨ (s.mStreamStateInternal ≠ eIasAvbStreamValid ∧ headerOk = true) := by
  have hnever : c.mValidationMode ≠ cValidateNever := by rw [hmode]; decide
  by_cases hvalid : s.mStreamStateInternal = eIasAvbStreamValid
  · by_cases hseq : seqNum = s.mSeqNum + 1
    · exact iff_of_true (verdict_of_follows ⟨hvalid, hseq⟩) (Or.inl ⟨hvalid, hseq⟩)
    · rw [verdict_of_jump hnever hvalid hseq]
      refine iff_of_false (by decide) ?_
      rintro (h | h)
      · exact hseq h.2
      · exact h.1 hvalid
  · unfold verdict
    dsimp only
    rw [if_neg hnever, if_pos (Or.inl hmode), if_neg hvalid]
    have hfollows : ¬ s.Follows seqNum := fun h => hvalid h.1
    cases headerOk <;> simp [hvalid, hfollows]

/-! ## What settles -/

@[simp] theorem setClientActive_internal (s : RxStream L) (b : Bool) :
    (s.setClientActive b).mStreamStateInternal = s.mStreamStateInternal := by
  unfold setClientActive; split <;> rfl

@[simp] theorem setClientActive_state (s : RxStream L) (b : Bool) :
    (s.setClientActive b).mStreamState = s.mStreamState := by
  unfold setClientActive; split <;> rfl

@[simp] theorem setClientActive_count (s : RxStream L) (b : Bool) :
    (s.setClientActive b).mValidationCount = s.mValidationCount := by
  unfold setClientActive; split <;> rfl

@[simp] theorem setClientActive_seqNum (s : RxStream L) (b : Bool) :
    (s.setClientActive b).mSeqNum = s.mSeqNum := by
  unfold setClientActive; split <;> rfl

@[simp] theorem setClientActive_local (s : RxStream L) (b : Bool) :
    (s.setClientActive b).mLocalStream = s.mLocalStream := by
  unfold setClientActive; split <;> rfl

theorem setClientActive_clientActive {s : RxStream L} (h : s.isConnected = true) (b : Bool) :
    (s.setClientActive b).clientActive = b := by
  unfold setClientActive; rw [if_pos h]

/-- A valid packet while others are still missing. -/
theorem countDown_of_more {s : RxStream L} (h : 1 < s.mValidationCount) :
    s.countDown = s.setValidationCount (s.mValidationCount - 1) := by
  unfold countDown
  rw [if_pos (by omega)]
  exact if_neg (show s.mValidationCount - 1 ≠ 0 by omega)

/-- The last of the packets that were missing. -/
theorem countDown_of_one {s : RxStream L} (h : s.mValidationCount = 1) :
    s.countDown
      = ((s.setValidationCount 0).setStreamState eIasAvbStreamValid).setClientActive true := by
  unfold countDown
  rw [if_pos (by omega), h]
  exact if_pos rfl

theorem countDown_of_zero {s : RxStream L} (h : s.mValidationCount = 0) : s.countDown = s := by
  unfold countDown
  rw [if_neg (by omega)]

@[simp] theorem countDown_count (s : RxStream L) :
    s.countDown.mValidationCount = s.mValidationCount - 1 := by
  rcases Nat.lt_trichotomy s.mValidationCount 1 with h | h | h
  · rw [countDown_of_zero (by omega)]; omega
  · rw [countDown_of_one h, setClientActive_count, h]; rfl
  · rw [countDown_of_more h]; rfl

@[simp] theorem countDown_frame (s : RxStream L) :
    s.countDown.mStreamStateInternal = s.mStreamStateInternal
      ∧ s.countDown.mSeqNum = s.mSeqNum ∧ s.countDown.mLocalStream = s.mLocalStream := by
  rcases Nat.lt_trichotomy s.mValidationCount 1 with h | h | h
  · rw [countDown_of_zero (by omega)]; exact ⟨rfl, rfl, rfl⟩
  · rw [countDown_of_one h, setClientActive_internal, setClientActive_seqNum,
      setClientActive_local]
    exact ⟨rfl, rfl, rfl⟩
  · rw [countDown_of_more h]; exact ⟨rfl, rfl, rfl⟩

/-- What a valid verdict does. -/
theorem settle_valid (c : RxConfig) (s : RxStream L) :
    s.settle c eIasAvbStreamValid = s.countDown.setInternal eIasAvbStreamValid := by
  unfold settle
  dsimp only
  rw [if_pos rfl, if_pos rfl]
  split
  · rfl
  · rename_i hold
    rw [Classical.not_not, ← s.countDown_frame.1] at hold
    unfold setInternal
    rw [hold]

/-- What any other verdict does to a valid stream: all that was won is lost. -/
theorem settle_leave {c : RxConfig} {s : RxStream L} {newState : IasAvbStreamState}
    (hnew : newState ≠ eIasAvbStreamValid) (hold : s.mStreamStateInternal = eIasAvbStreamValid) :
    s.settle c newState = (s.setInternal newState).leaveValid c newState := by
  unfold settle
  dsimp only
  rw [if_pos (hold ▸ hnew), if_neg hnew, if_pos hold, if_neg hnew]

/-- What it does to a stream that is not valid: next to nothing. -/
theorem settle_stay {c : RxConfig} {s : RxStream L} {newState : IasAvbStreamState}
    (hnew : newState ≠ eIasAvbStreamValid) (hold : s.mStreamStateInternal ≠ eIasAvbStreamValid) :
    s.settle c newState = s.setInternal newState := by
  unfold settle
  dsimp only
  rw [if_neg hnew, if_neg hnew, if_neg hold]
  split
  · rfl
  · rename_i hsame
    rw [Classical.not_not] at hsame
    unfold setInternal
    rw [hsame]

@[simp] theorem settle_internal (c : RxConfig) (s : RxStream L) (newState : IasAvbStreamState) :
    (s.settle c newState).mStreamStateInternal = newState := by
  by_cases hnew : newState = eIasAvbStreamValid
  · subst hnew
    rw [settle_valid]; rfl
  · by_cases hold : s.mStreamStateInternal = eIasAvbStreamValid
    · rw [settle_leave hnew hold]
      exact setClientActive_internal ..
    · rw [settle_stay hnew hold]; rfl

@[simp] theorem settle_frame (c : RxConfig) (s : RxStream L) (newState : IasAvbStreamState) :
    (s.settle c newState).mSeqNum = s.mSeqNum
      ∧ (s.settle c newState).mLocalStream = s.mLocalStream := by
  by_cases hnew : newState = eIasAvbStreamValid
  · subst hnew
    rw [settle_valid]
    exact ⟨s.countDown_frame.2.1, s.countDown_frame.2.2⟩
  · by_cases hold : s.mStreamStateInternal = eIasAvbStreamValid
    · rw [settle_leave hnew hold]
      exact ⟨setClientActive_seqNum .., setClientActive_local ..⟩
    · rw [settle_stay hnew hold]
      exact ⟨rfl, rfl⟩

/-- Activation touches nothing a verdict depends on. -/
theorem activate_frame (s : RxStream L) :
    s.activate.mStreamStateInternal = s.mStreamStateInternal
      ∧ s.activate.mValidationCount = s.mValidationCount ∧ s.activate.mSeqNum = s.mSeqNum := by
  unfold activate
  split
  · exact ⟨rfl, rfl, rfl⟩
  · exact ⟨setClientActive_internal .., setClientActive_count .., setClientActive_seqNum ..⟩

theorem deactivate_frame (s : RxStream L) :
    s.deactivate.mStreamStateInternal = s.mStreamStateInternal
      ∧ s.deactivate.mValidationCount = s.mValidationCount
      ∧ s.deactivate.mSeqNum = s.mSeqNum := by
  unfold deactivate
  split
  · exact ⟨setClientActive_internal .., setClientActive_count .., setClientActive_seqNum ..⟩
  · exact ⟨rfl, rfl, rfl⟩

@[simp] theorem activate_local (s : RxStream L) : s.activate.mLocalStream = s.mLocalStream := by
  unfold activate
  split
  · rfl
  · exact setClientActive_local ..

@[simp] theorem deactivate_local (s : RxStream L) :
    s.deactivate.mLocalStream = s.mLocalStream := by
  unfold deactivate
  split
  · exact setClientActive_local ..
  · rfl

/-! ## What ties the two states together -/

/-- How the inner state, the count and the outer state hang together. The client may be
off only for the reason `excuse`. -/
structure Tied (c : RxConfig) (s : RxStream L) (excuse : Prop) : Prop where
  count_le : s.mValidationCount ≤ c.mValidationThreshold
  /-- While no flow is followed, everything is still to be won. -/
  idle : s.mStreamStateInternal ≠ eIasAvbStreamValid →
    s.mValidationCount = c.mValidationThreshold ∧ s.mStreamState ≠ eIasAvbStreamValid
  /-- Once all packets are there, the outside knows. -/
  won : s.mStreamStateInternal = eIasAvbStreamValid → s.mValidationCount = 0 →
    s.mStreamState = eIasAvbStreamValid ∧ (s.isConnected = true → s.clientActive = true ∨ excuse)

variable {c : RxConfig} {excuse : Prop}

theorem tied_init (c : RxConfig) (l : Option L) (excuse : Prop) : Tied c (init c l) excuse where
  count_le := Nat.le_refl _
  idle _ := ⟨rfl, by simp [init]⟩
  won h := by simp [init] at h

theorem Tied.setSeqNum {s : RxStream L} (h : Tied c s excuse) (seqNum : UInt8) :
    Tied c (s.setSeqNum seqNum) excuse :=
  ⟨h.count_le, h.idle, h.won⟩

theorem Tied.setActive {s : RxStream L} (h : Tied c s excuse) (active : Bool) :
    Tied c (s.setActive active) excuse :=
  ⟨h.count_le, h.idle, h.won⟩

theorem isConnected_congr {s s' : RxStream L} (h : s'.mLocalStream = s.mLocalStream) :
    s'.isConnected = s.isConnected := by
  unfold isConnected; rw [h]

/-- **Every verdict keeps the tie**, as long as there is at least one packet to wait for. -/
theorem Tied.settle {s : RxStream L} (hT : 1 ≤ c.mValidationThreshold) (h : Tied c s excuse)
    (newState : IasAvbStreamState) : Tied c (s.settle c newState) excuse := by
  by_cases hnew : newState = eIasAvbStreamValid
  · subst hnew
    rw [settle_valid]
    refine ⟨?_, fun hne => absurd rfl hne, ?_⟩
    · show s.countDown.mValidationCount ≤ _
      have := h.count_le
      rw [countDown_count]; omega
    · intro _ hzero
      have hzero : s.countDown.mValidationCount = 0 := hzero
      rw [countDown_count] at hzero
      show s.countDown.mStreamState = _ ∧ (s.countDown.isConnected = true →
        s.countDown.clientActive = true ∨ excuse)
      by_cases hone : s.mValidationCount = 1
      · -- the last packet: the state and the client are set here
        rw [countDown_of_one hone]
        refine ⟨setClientActive_state .., fun hconn => Or.inl ?_⟩
        rw [isConnected_congr (setClientActive_local ..)] at hconn
        exact setClientActive_clientActive hconn true
      · -- nothing was missing, so a flow was being followed
        have hcount : s.mValidationCount = 0 := by omega
        rw [countDown_of_zero hcount]
        refine h.won ?_ hcount
        by_contra hidle
        have := (h.idle hidle).1
        omega
  · by_cases hold : s.mStreamStateInternal = eIasAvbStreamValid
    · rw [settle_leave hnew hold]
      unfold leaveValid
      refine ⟨?_, fun _ => ⟨?_, ?_⟩, fun hvalid => ?_⟩
      · rw [setClientActive_count]; exact Nat.le_refl _
      · rw [setClientActive_count]; rfl
      · rw [setClientActive_state]; exact hnew
      · rw [setClientActive_internal] at hvalid
        exact absurd hvalid hnew
    · rw [settle_stay hnew hold]
      exact ⟨h.count_le, fun _ => h.idle hold, fun hvalid => absurd hvalid hnew⟩

theorem Tied.setClientActive {s : RxStream L} (h : Tied c s excuse) {active : Bool}
    (hex : active = true ∨ excuse) : Tied c (s.setClientActive active) excuse := by
  refine ⟨?_, ?_, ?_⟩
  · rw [setClientActive_count]; exact h.count_le
  · rw [setClientActive_internal, setClientActive_count, setClientActive_state]; exact h.idle
  · rw [setClientActive_internal, setClientActive_count, setClientActive_state]
    intro hvalid hzero
    refine ⟨(h.won hvalid hzero).1, fun hconn => ?_⟩
    rw [isConnected_congr (setClientActive_local ..)] at hconn
    rw [setClientActive_clientActive hconn]
    exact hex

theorem Tied.imp {s : RxStream L} {excuse' : Prop} (h : Tied c s excuse)
    (himp : excuse → s.clientActive = true ∨ excuse') : Tied c s excuse' := by
  refine ⟨h.count_le, h.idle, fun hvalid hzero => ⟨(h.won hvalid hzero).1, fun hconn => ?_⟩⟩
  rcases (h.won hvalid hzero).2 hconn with hactive | hex
  · exact Or.inl hactive
  · exact himp hex

end RxStream

end AvbStreamHandler
