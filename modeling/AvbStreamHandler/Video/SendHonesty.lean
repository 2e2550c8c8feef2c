import AvbStreamHandler.Video.AvbVideoSender

/-!
# Whether a send reports what happened

A call should return `IAS_AVB_RES_OK` exactly if its packet was appended, once, and any other
call should leave the ring alone. Two things are in the way. A ring that grants no slot is
taken for success, because `endAccess` succeeds with nothing to commit. And a call that is
refused ends the write access it was refused for, so that its owner commits nothing, or commits
what somebody else is about to write, and is told that all went well.

In a run in which neither happens, every send is honest. The invariant is mutual exclusion: as
long as nobody ends an access that is not theirs, `mWriteInProgress` belongs to the one call
that holds a slot, and the slot holds that call's packet once it is copied.
-/

namespace AvbStreamHandler

open Kit Kit.Run Kit.Word IasAvbvideobridgeResult IasVideoRingBufferResult

/-! ## The ring's calls -/

namespace IasAvbVideoRingBufferShm

variable {q : IasAvbVideoRingBufferShm}

/-- There is a slot to be had. The writer keeps one slot away from a read offset in front of
it, and stops at a fill level of the whole ring otherwise. -/
def HasRoom (q : IasAvbVideoRingBufferShm) : Prop :=
  if q.mWriteOffset < q.mReadOffset then sub32 q.mReadOffset q.mWriteOffset ≠ 1
  else sub32 q.mNumBuffers q.mBufferLevel ≠ 0

instance (q : IasAvbVideoRingBufferShm) : Decidable q.HasRoom :=
  inferInstanceAs (Decidable (if q.mWriteOffset < q.mReadOffset then
    sub32 q.mReadOffset q.mWriteOffset ≠ 1 else sub32 q.mNumBuffers q.mBufferLevel ≠ 0))

/-- **A slot is granted exactly if there is room.** -/
theorem grantWrite_ne_zero_iff (hq : q.WritePlaced) (hN : q.mNumBuffers < 4294967296) :
    q.grantWrite 1 ≠ 0 ↔ q.HasRoom := by
  unfold WritePlaced at hq
  unfold grantWrite HasRoom
  dsimp only
  split
  · have hlt := sub32_lt q.mReadOffset q.mWriteOffset
    generalize sub32 q.mReadOffset q.mWriteOffset = gap at hlt
    unfold sub32
    omega
  · generalize sub32 q.mNumBuffers q.mBufferLevel = free
    have hrest : sub32 q.mNumBuffers q.mWriteOffset ≠ 0 := by
      rw [sub32_of_le (by omega) hN]
      omega
    by_cases hfree : free < 1
    · have hzero : free = 0 := by omega
      rw [if_pos hfree, hzero, if_neg ?_]
      unfold add32
      omega
    · rw [if_neg hfree]
      split
      · exact ⟨fun _ => by omega, fun _ => hrest⟩
      · exact ⟨fun _ => by omega, fun _ => Nat.one_ne_zero⟩

/-- Without an access there is nothing to end. -/
theorem endAccessWrite_noAccess (h : q.mWriteInProgress = false) (n now : Nat) :
    q.endAccessWrite n now = (eIasRingBuffOk, q) := by
  unfold endAccessWrite
  rw [if_pos h]

/-- An access that was granted a slot appends it. -/
theorem endAccessWrite_one (hq : q.WritePlaced) (h : q.mWriteInProgress = true)
    (hallowed : 1 ≤ q.mAllowedToWrite) (now : Nat) :
    (q.endAccessWrite 1 now).1 = eIasRingBuffOk
      ∧ (q.endAccessWrite 1 now).2.mBufferLevel = add32 q.mBufferLevel 1
      ∧ (q.endAccessWrite 1 now).2.mWriteInProgress = false := by
  unfold WritePlaced at hq
  have hin : ¬ q.mNumBuffers < add32 q.mWriteOffset 1 := by
    unfold add32
    omega
  have hcommit : (q.commitWrite 1).1 = eIasRingBuffOk
      ∧ (q.commitWrite 1).2.mBufferLevel = add32 q.mBufferLevel 1
      ∧ (q.commitWrite 1).2.mWriteInProgress = false := by
    unfold commitWrite
    dsimp only
    rw [if_neg hin]
    exact ⟨rfl, rfl, rfl⟩
  obtain ⟨hresult, hlevel, hprogress⟩ := hcommit
  unfold endAccessWrite
  rw [if_neg (by rw [h]; decide), if_neg (by omega)]
  generalize q.commitWrite 1 = committed at hresult hlevel hprogress
  obtain ⟨result, q'⟩ := committed
  dsimp only at hresult
  subst hresult
  exact ⟨rfl, hlevel, hprogress⟩

end IasAvbVideoRingBufferShm

/-! ## Honest sends -/

/-- The data area is what is left by copying the packet of the call into the slot. -/
def AppendedSlot.Carries (a : AppendedSlot) (call : SendCall) : Prop :=
  ∃ packet stale, call.packet = some packet
    ∧ a.cell = (call.put ⟨stale, []⟩ (a.slot * a.bufferSize % 4294967296) packet).cell

namespace SendWorld

variable {τ : Type}

/-- How often a call's packet was appended. -/
def timesAppended (w : SendWorld τ) (id : Nat) : Nat :=
  w.appended.countP fun a => decide (a.id = some id)

/-- **Every send has reported what happened.** -/
structure Honest (w : SendWorld τ) : Prop where
  /-- Success means that the packet was appended exactly once. -/
  ok_iff : ∀ s ∈ w.returned, s.result = IAS_AVB_RES_OK ↔ w.timesAppended s.id = 1
  /-- What was appended is the packet of the call. -/
  carries : ∀ s ∈ w.returned, ∀ a ∈ w.appended, a.id = some s.id → a.Carries s.call
  /-- Without success nothing has changed: neither the ring nor anybody's access to it. -/
  quiet : ∀ s ∈ w.returned, s.result ≠ IAS_AVB_RES_OK → ∀ r ∈ s.steps, r.2 = r.1

end SendWorld

/-- A call that gets as far as the ring. -/
def SendCall.Accepted (c : SendCall) (r : VideoRing) : Prop :=
  c.mRingBuffer = true ∧ ∃ packet, c.packet = some packet ∧ packet.size ≤ r.bufferSize

namespace SendWorld

variable {τ : Type}

/-- A step that stays clear of both traps: an access is only begun on a ring with room, and
whoever was refused ends nobody's access. -/
def Clear (w : SendWorld τ) : SendEvent τ → Prop
  | .enter t call => w.thread t = none → call.Accepted w.ring →
      w.ring.shm.mWriteInProgress = false → w.ring.shm.HasRoom
  | .leave t _ => ∀ f, w.thread t = some f → f.stage = .refused →
      w.ring.shm.mWriteInProgress = false
  | _ => True

/-! ## The invariant -/

/-- What is known of a call in progress, by how far it is. -/
def Placed (w : SendWorld τ) (f : SendInFlight) : Prop :=
  match f.stage with
  | .refused => ∀ r ∈ f.steps, r.2 = r.1
  | .granted packet offset =>
      w.ring.shm.mWriteInProgress = true ∧ 1 ≤ w.ring.shm.mAllowedToWrite
        ∧ offset = w.ring.shm.mWriteOffset ∧ f.call.packet = some packet
  | .copied packet offset =>
      w.ring.shm.mWriteInProgress = true ∧ 1 ≤ w.ring.shm.mAllowedToWrite
        ∧ offset = w.ring.shm.mWriteOffset ∧ f.call.packet = some packet
        ∧ w.writer offset = some f.id
        ∧ ∃ stale, w.ring.cell
          = (f.call.put ⟨stale, []⟩ (offset * w.ring.bufferSize % 4294967296) packet).cell
  | _ => False

structure Inv (w : SendWorld τ) : Prop where
  placed : w.ring.shm.WritePlaced
  size : w.ring.shm.mNumBuffers < 4294967296
  stages : ∀ t f, w.thread t = some f → w.Placed f
  /-- One call at a time holds a slot. -/
  alone : ∀ t t' f f', w.thread t = some f → w.thread t' = some f' → f.stage ≠ .refused →
    f'.stage ≠ .refused → t = t'
  /-- Calls have numbers of their own, and a call in progress has appended nothing. -/
  flight : ∀ t f, w.thread t = some f → f.id < w.next ∧ (∀ a ∈ w.appended, a.id ≠ some f.id)
    ∧ ∀ s ∈ w.returned, s.id ≠ f.id
  apart : ∀ t t' f f', w.thread t = some f → w.thread t' = some f' → f.id = f'.id → t = t'
  past : (∀ a ∈ w.appended, ∀ id, a.id = some id → id < w.next) ∧ ∀ s ∈ w.returned, s.id < w.next
  honest : w.Honest

variable {w w' : SendWorld τ} {f : SendInFlight} {t : τ}

/-- What a call that was refused has done stays what it is. -/
theorem placed_refused (hstage : f.stage = .refused) :
    w.Placed f ↔ ∀ r ∈ f.steps, r.2 = r.1 := by
  unfold Placed
  rw [hstage]

/-- A call that holds a slot keeps `mWriteInProgress`. -/
theorem Placed.inProgress (h : w.Placed f) (hstage : f.stage ≠ .refused) :
    w.ring.shm.mWriteInProgress = true := by
  unfold Placed at h
  split at h
  · exact absurd ‹_› hstage
  · exact h.1
  · exact h.1
  · exact h.elim

/-- Without an access in progress nobody holds a slot. -/
theorem Inv.all_refused (h : w.Inv) (hfree : w.ring.shm.mWriteInProgress = false) (t : τ)
    (f : SendInFlight) (hf : w.thread t = some f) : f.stage = .refused := by
  by_contra hstage
  have hbusy := (h.stages t f hf).inProgress hstage
  rw [hfree] at hbusy
  exact absurd hbusy (by decide)

theorem Placed.congr (h : w.Placed f)
    (hring : IasAvbVideoRingBufferShm.SameWriter w.ring.shm w'.ring.shm)
    (hcell : w'.ring.cell = w.ring.cell) (hsize : w'.ring.bufferSize = w.ring.bufferSize)
    (hwriter : w'.writer = w.writer) : w'.Placed f := by
  unfold Placed at h ⊢
  rw [hring.inProgress, hring.allowed, hring.writeOffset, hcell, hsize, hwriter]
  exact h

theorem Honest.congr (h : w.Honest) (happended : w'.appended = w.appended)
    (hreturned : w'.returned = w.returned) : w'.Honest := by
  have htimes : ∀ id, w'.timesAppended id = w.timesAppended id := by
    intro id
    unfold timesAppended
    rw [happended]
  refine ⟨?_, ?_, ?_⟩
  · rw [hreturned]
    intro s hs
    rw [htimes]
    exact h.ok_iff s hs
  · rw [hreturned, happended]
    exact h.carries
  · rw [hreturned]
    exact h.quiet

/-- What is not appended is counted zero times. -/
theorem timesAppended_eq_zero {id : Nat} (h : ∀ a ∈ w.appended, a.id ≠ some id) :
    w.timesAppended id = 0 :=
  List.countP_eq_zero.mpr fun a ha heq => h a ha (of_decide_eq_true heq)

/-- A call that fails without a trace. -/
theorem Honest.fail (h : w.Honest) {s : SendReturned} (hnone : ∀ a ∈ w.appended, a.id ≠ some s.id)
    (hresult : s.result ≠ IAS_AVB_RES_OK) (hquiet : ∀ r ∈ s.steps, r.2 = r.1) :
    (w.setReturned s).Honest := by
  refine ⟨?_, ?_, ?_⟩
  · intro s' hs'
    rcases List.mem_cons.mp hs' with rfl | hs'
    · have hzero : (w.setReturned s').timesAppended s'.id = 0 := timesAppended_eq_zero hnone
      rw [hzero]
      exact ⟨fun hok => absurd hok hresult, fun hone => absurd hone (by decide)⟩
    · exact h.ok_iff s' hs'
  · intro s' hs' a ha hid
    rcases List.mem_cons.mp hs' with rfl | hs'
    · exact absurd hid (hnone a ha)
    · exact h.carries s' hs' a ha hid
  · intro s' hs'
    rcases List.mem_cons.mp hs' with rfl | hs'
    · exact fun _ => hquiet
    · exact h.quiet s' hs'

/-- A call whose packet has just been appended. -/
theorem Honest.succeed (h : w.Honest) {s : SendReturned} {a : AppendedSlot}
    (hnone : ∀ a ∈ w.appended, a.id ≠ some s.id) (hreturned : ∀ s' ∈ w.returned, s'.id ≠ s.id)
    (ha : a.id = some s.id) (hcarries : a.Carries s.call) (hresult : s.result = IAS_AVB_RES_OK) :
    (setReturned { w with appended := [a] ++ w.appended } s).Honest := by
  have htimes : ∀ id, timesAppended (setReturned { w with appended := [a] ++ w.appended } s) id
      = w.timesAppended id + if a.id = some id then 1 else 0 := by
    intro id
    show List.countP _ (a :: w.appended) = _
    rw [List.countP_cons]
    simp only [decide_eq_true_eq]
    rfl
  refine ⟨?_, ?_, ?_⟩
  · intro s' hs'
    rw [htimes]
    rcases List.mem_cons.mp hs' with rfl | hs'
    · rw [if_pos ha, timesAppended_eq_zero hnone]
      exact ⟨fun _ => rfl, fun _ => hresult⟩
    · rw [if_neg fun heq => hreturned s' hs' (Option.some.inj (heq.symm.trans ha))]
      exact h.ok_iff s' hs'
  · intro s' hs' a' ha' hid
    rcases List.mem_cons.mp ha' with rfl | hold
    · have hsame : s.id = s'.id := Option.some.inj (ha.symm.trans hid)
      rcases List.mem_cons.mp hs' with rfl | hs'
      · exact hcarries
      · exact absurd hsame.symm (hreturned s' hs')
    · rcases List.mem_cons.mp hs' with rfl | hs'
      · exact absurd hid (hnone a' hold)
      · exact h.carries s' hs' a' hold hid
  · intro s' hs' hfail
    rcases List.mem_cons.mp hs' with rfl | hs'
    · exact absurd hresult hfail
    · exact h.quiet s' hs' hfail

theorem inv_start (numPackets bufferSize : Nat) (stale : Nat → UInt8) (hpos : 0 < numPackets)
    (hN : numPackets < 4294967296) : (start τ numPackets bufferSize stale).Inv where
  placed := hpos
  size := hN
  stages := fun _ _ hf => nomatch hf
  alone := fun _ _ _ _ hf => nomatch hf
  flight := fun _ _ hf => nomatch hf
  apart := fun _ _ _ _ hf => nomatch hf
  past := ⟨fun _ ha => absurd ha List.not_mem_nil, fun _ hs => absurd hs List.not_mem_nil⟩
  honest := {
    ok_iff := fun _ hs => absurd hs List.not_mem_nil
    carries := fun _ hs => absurd hs List.not_mem_nil
    quiet := fun _ hs => absurd hs List.not_mem_nil }

/-! ## The steps of a call -/

/-- What the beginning of a call comes to. -/
theorem enter_cases (call : SendCall) (r : VideoRing) :
    (∃ result, result ≠ IAS_AVB_RES_OK ∧ ¬ call.Accepted r ∧ call.enter r = (.returned result, r))
      ∨ (r.shm.mWriteInProgress = true ∧ call.enter r = (.refused, r))
      ∨ ∃ packet, call.packet = some packet ∧ call.Accepted r ∧ r.shm.mWriteInProgress = false
        ∧ call.enter r
          = (if r.shm.grantWrite 1 = 0 then .full else .granted packet r.shm.mWriteOffset,
            r.setShm { r.shm with
              mWriteInProgress := true, mAllowedToWrite := r.shm.grantWrite 1 }) := by
  unfold SendCall.enter
  split
  · rename_i packet hring hpacket
    split
    · rename_i hsize
      refine Or.inl ⟨_, by decide, ?_, rfl⟩
      rintro ⟨-, packet', hpacket', hfits⟩
      obtain rfl := Option.some.inj (hpacket.symm.trans hpacket')
      omega
    · rename_i hsize
      right
      unfold IasAvbVideoRingBufferShm.beginAccessWrite
      by_cases hbusy : r.shm.mWriteInProgress = true
      · rw [if_pos hbusy]
        exact Or.inl ⟨hbusy, rfl⟩
      · rw [if_neg hbusy]
        exact Or.inr ⟨packet, hpacket, ⟨hring, packet, hpacket, by omega⟩,
          Bool.eq_false_iff.mpr hbusy, rfl⟩
  · rename_i hnone
    refine Or.inl ⟨_, by decide, ?_, rfl⟩
    rintro ⟨hring, packet, hpacket, -⟩
    exact hnone packet hring hpacket

variable {t' : τ} {f' : SendInFlight} {call : SendCall}

/-- The others have been refused while a call holds a slot. -/
theorem Inv.others_refused (h : w.Inv) (hf : w.thread t = some f) (hstage : f.stage ≠ .refused)
    (hother : t' ≠ t) (hf' : w.thread t' = some f') : f'.stage = .refused := by
  by_contra hstage'
  exact hother (h.alone t' t f' f hf' hf hstage' hstage)

/-- A call that does not come to the ring. -/
theorem Inv.turnAway (h : w.Inv) {result : IasAvbvideobridgeResult}
    (hresult : result ≠ IAS_AVB_RES_OK) :
    ((w.setRing w.ring).takeNumber.setReturned {
      id := w.next, call := call, result := result, steps := [(w.ring, w.ring)] }).Inv where
  placed := h.placed
  size := h.size
  stages := h.stages
  alone := h.alone
  flight := by
    intro t f hf
    obtain ⟨hless, hnone, hreturned⟩ := h.flight t f hf
    refine ⟨Nat.lt_succ_of_lt hless, hnone, ?_⟩
    intro s hs
    rcases List.mem_cons.mp hs with rfl | hs
    · exact Nat.ne_of_gt hless
    · exact hreturned s hs
  apart := h.apart
  past := by
    refine ⟨fun a ha id hid => Nat.lt_succ_of_lt (h.past.1 a ha id hid), ?_⟩
    intro s hs
    rcases List.mem_cons.mp hs with rfl | hs
    · exact Nat.lt_succ_self _
    · exact Nat.lt_succ_of_lt (h.past.2 s hs)
  honest := by
    have hsame : ((w.setRing w.ring).takeNumber).Honest := h.honest.congr rfl rfl
    refine hsame.fail ?_ ?_ ?_
    · intro a ha hid
      exact absurd (h.past.1 a ha _ hid) (Nat.lt_irrefl _)
    · exact hresult
    · intro r hr
      rw [List.mem_singleton.mp hr]

/-- **Readers** do not touch what a call holds. -/
theorem inv_reader (h : w.Inv) (call : IasAvbVideoRingBufferShm.ReaderCall) :
    (w.setRing (w.ring.setShm (w.ring.shm.readerCall call))).Inv := by
  have hsame := IasAvbVideoRingBufferShm.sameWriter_readerCall w.ring.shm call
  refine ⟨hsame.placed h.placed, ?_, ?_, h.alone, h.flight, h.apart, h.past,
    h.honest.congr rfl rfl⟩
  · show (w.ring.shm.readerCall call).mNumBuffers < 4294967296
    rw [hsame.numBuffers]
    exact h.size
  · exact fun t f hf => (h.stages t f hf).congr hsame rfl rfl rfl

variable [DecidableEq τ]

theorem thread_update {thread : τ → Option SendInFlight} {o : Option SendInFlight}
    (h : Function.update thread t o t' = some f') :
    (t' = t ∧ o = some f') ∨ (t' ≠ t ∧ thread t' = some f') := by
  by_cases hsame : t' = t
  · subst hsame
    rw [Function.update_self] at h
    exact Or.inl ⟨rfl, h⟩
  · rw [Function.update_of_ne hsame] at h
    exact Or.inr ⟨hsame, h⟩

/-- A thread takes on a new call, that was refused or has the only slot. -/
theorem Inv.board (h : w.Inv) (hidle : w.thread t = none) (hid : f.id = w.next)
    {r : VideoRing} (hr : r.shm.WritePlaced ∧ r.shm.mNumBuffers = w.ring.shm.mNumBuffers)
    (hplaced : (w.setRing r).Placed f)
    (hothers : ∀ t' f', w.thread t' = some f' → (w.setRing r).Placed f'
      ∧ (f.stage = .refused ∨ f'.stage = .refused)) :
    ((w.setRing r).takeNumber.setThread t (some f)).Inv where
  placed := hr.1
  size := hr.2 ▸ h.size
  stages := by
    intro t' f' hf
    rcases thread_update hf with ⟨-, he⟩ | ⟨-, he⟩
    · obtain rfl := Option.some.inj he
      exact hplaced
    · exact (hothers t' f' he).1
  alone := by
    intro t₁ t₂ f₁ f₂ h₁ h₂ hs₁ hs₂
    rcases thread_update h₁ with ⟨rfl, he₁⟩ | ⟨-, he₁⟩
    · rcases thread_update h₂ with ⟨rfl, -⟩ | ⟨-, he₂⟩
      · rfl
      · obtain rfl := Option.some.inj he₁
        exact ((hothers t₂ f₂ he₂).2.elim hs₁ hs₂).elim
    · rcases thread_update h₂ with ⟨rfl, he₂⟩ | ⟨-, he₂⟩
      · obtain rfl := Option.some.inj he₂
        exact ((hothers t₁ f₁ he₁).2.elim hs₂ hs₁).elim
      · exact h.alone t₁ t₂ f₁ f₂ he₁ he₂ hs₁ hs₂
  flight := by
    intro t' f' hf
    rcases thread_update hf with ⟨-, he⟩ | ⟨-, he⟩
    · obtain rfl := Option.some.inj he
      refine ⟨hid ▸ Nat.lt_succ_self _, fun a ha heq => ?_, fun s hs heq => ?_⟩
      · have hless := h.past.1 a ha _ heq
        omega
      · have hless := h.past.2 s hs
        omega
    · obtain ⟨hless, hnone⟩ := h.flight t' f' he
      exact ⟨Nat.lt_succ_of_lt hless, hnone⟩
  apart := by
    intro t₁ t₂ f₁ f₂ h₁ h₂ hsame
    rcases thread_update h₁ with ⟨rfl, he₁⟩ | ⟨-, he₁⟩
    · rcases thread_update h₂ with ⟨rfl, -⟩ | ⟨-, he₂⟩
      · rfl
      · obtain rfl := Option.some.inj he₁
        have hless := (h.flight t₂ f₂ he₂).1
        omega
    · rcases thread_update h₂ with ⟨rfl, he₂⟩ | ⟨-, he₂⟩
      · obtain rfl := Option.some.inj he₂
        have hless := (h.flight t₁ f₁ he₁).1
        omega
      · exact h.apart t₁ t₂ f₁ f₂ he₁ he₂ hsame
  past := ⟨fun a ha id hid => Nat.lt_succ_of_lt (h.past.1 a ha id hid),
    fun s hs => Nat.lt_succ_of_lt (h.past.2 s hs)⟩
  honest := h.honest.congr rfl rfl

/-- **A call begins.** -/
theorem inv_enter (h : w.Inv) (hidle : w.thread t = none)
    (hclear : call.Accepted w.ring → w.ring.shm.mWriteInProgress = false →
      w.ring.shm.HasRoom) : (w.enter t call).Inv := by
  unfold enter
  rcases enter_cases call w.ring with ⟨result, hresult, -, heq⟩ | ⟨hbusy, heq⟩
    | ⟨packet, hpacket, haccepted, hfree, heq⟩
  · rw [heq]
    exact h.turnAway hresult
  · rw [heq]
    refine h.board hidle rfl ⟨h.placed, rfl⟩ ((placed_refused rfl).mpr ?_) ?_
    · intro r hr
      rw [List.mem_singleton.mp hr]
    · exact fun t' f' hf => ⟨h.stages t' f' hf, Or.inl rfl⟩
  · have hroom := (IasAvbVideoRingBufferShm.grantWrite_ne_zero_iff h.placed h.size).mpr
      (hclear haccepted hfree)
    rw [heq, if_neg hroom]
    refine h.board hidle rfl ⟨h.placed, rfl⟩ ?_ ?_
    · exact ⟨rfl, Nat.one_le_iff_ne_zero.mpr hroom, rfl, hpacket⟩
    · intro t' f' hf
      have hrefused := h.all_refused hfree t' f' hf
      exact ⟨(placed_refused hrefused).mpr ((placed_refused hrefused).mp (h.stages t' f' hf)),
        Or.inr hrefused⟩

/-- **A packet is copied.** -/
theorem inv_copy (h : w.Inv) (hf : w.thread t = some f) : (w.copy t f).Inv := by
  unfold copy
  split
  case h_2 => exact h
  rename_i packet offset hstage
  have hholds : f.stage ≠ .refused := by
    rw [hstage]
    exact fun heq => nomatch heq
  have hplaced := h.stages t f hf
  unfold Placed at hplaced
  rw [hstage] at hplaced
  obtain ⟨hbusy, hallowed, hoffset, hpacket⟩ := hplaced
  refine ⟨h.placed, h.size, ?_, ?_, ?_, ?_, h.past, h.honest.congr rfl rfl⟩
  · intro t' f' hf'
    rcases thread_update hf' with ⟨-, he⟩ | ⟨hother, he⟩
    · obtain rfl := Option.some.inj he
      exact ⟨hbusy, hallowed, hoffset, hpacket, Function.update_self .., w.ring.cell, rfl⟩
    · have hrefused := h.others_refused hf hholds hother he
      exact (placed_refused hrefused).mpr ((placed_refused hrefused).mp (h.stages t' f' he))
  · intro t₁ t₂ f₁ f₂ h₁ h₂ hs₁ hs₂
    rcases thread_update h₁ with ⟨rfl, -⟩ | ⟨hother₁, he₁⟩
    · rcases thread_update h₂ with ⟨rfl, -⟩ | ⟨hother₂, he₂⟩
      · rfl
      · exact absurd (h.others_refused hf hholds hother₂ he₂) hs₂
    · exact absurd (h.others_refused hf hholds hother₁ he₁) hs₁
  · intro t' f' hf'
    rcases thread_update hf' with ⟨-, he⟩ | ⟨-, he⟩
    · obtain rfl := Option.some.inj he
      exact h.flight t f hf
    · exact h.flight t' f' he
  · intro t₁ t₂ f₁ f₂ h₁ h₂ hsame
    rcases thread_update h₁ with ⟨rfl, he₁⟩ | ⟨-, he₁⟩
    · rcases thread_update h₂ with ⟨rfl, -⟩ | ⟨-, he₂⟩
      · rfl
      · obtain rfl := Option.some.inj he₁
        exact h.apart t₁ t₂ f f₂ hf he₂ hsame
    · rcases thread_update h₂ with ⟨rfl, he₂⟩ | ⟨-, he₂⟩
      · obtain rfl := Option.some.inj he₂
        exact h.apart t₁ t₂ f₁ f he₁ hf hsame
      · exact h.apart t₁ t₂ f₁ f₂ he₁ he₂ hsame

/-- A call has returned, and left the ring free. -/
theorem Inv.depart (h : w.Inv) (hf : w.thread t = some f) {s : SendReturned} (hid : s.id = f.id)
    {r : VideoRing} (hr : r.shm.WritePlaced ∧ r.shm.mNumBuffers = w.ring.shm.mNumBuffers)
    {slots : List AppendedSlot} (hslots : ∀ a ∈ slots, a.id = some f.id)
    (hothers : ∀ t' f', t' ≠ t → w.thread t' = some f' → f'.stage = .refused)
    (hhonest : ({ w with appended := slots ++ w.appended }.setReturned s).Honest) :
    ((({ w with appended := slots ++ w.appended }.setRing r).setThread t none).setReturned s).Inv
    where
  placed := hr.1
  size := hr.2 ▸ h.size
  stages := by
    intro t' f' hf'
    rcases thread_update hf' with ⟨-, he⟩ | ⟨hother, he⟩
    · exact nomatch he
    · have hrefused := hothers t' f' hother he
      exact (placed_refused hrefused).mpr ((placed_refused hrefused).mp (h.stages t' f' he))
  alone := by
    intro t₁ t₂ f₁ f₂ h₁ _ hs₁
    rcases thread_update h₁ with ⟨-, he⟩ | ⟨hother, he⟩
    · exact nomatch he
    · exact absurd (hothers t₁ f₁ hother he) hs₁
  flight := by
    intro t' f' hf'
    rcases thread_update hf' with ⟨-, he⟩ | ⟨hother, he⟩
    · exact nomatch he
    have hne : f.id ≠ f'.id := fun hsame => hother (h.apart t t' f f' hf he hsame).symm
    obtain ⟨hless, hnone, hreturned⟩ := h.flight t' f' he
    refine ⟨hless, fun a ha => ?_, fun s' hs' => ?_⟩
    · rcases List.mem_append.mp ha with ha | ha
      · rw [hslots a ha]
        exact fun hsame => hne (Option.some.inj hsame)
      · exact hnone a ha
    · rcases List.mem_cons.mp hs' with rfl | hs'
      · rw [hid]
        exact hne
      · exact hreturned s' hs'
  apart := by
    intro t₁ t₂ f₁ f₂ h₁ h₂ hsame
    rcases thread_update h₁ with ⟨-, he₁⟩ | ⟨-, he₁⟩
    · exact nomatch he₁
    · rcases thread_update h₂ with ⟨-, he₂⟩ | ⟨-, he₂⟩
      · exact nomatch he₂
      · exact h.apart t₁ t₂ f₁ f₂ he₁ he₂ hsame
  past := by
    have hless := (h.flight t f hf).1
    refine ⟨fun a ha id hid' => ?_, fun s' hs' => ?_⟩
    · rcases List.mem_append.mp ha with ha | ha
      · rw [hslots a ha] at hid'
        exact Option.some.inj hid' ▸ hless
      · exact h.past.1 a ha id hid'
    · rcases List.mem_cons.mp hs' with rfl | hs'
      · exact hid ▸ hless
      · exact h.past.2 s' hs'
  honest := hhonest.congr rfl rfl

/-- **A call returns**, and its packet is appended if it was copied. -/
theorem inv_leave (h : w.Inv) (hf : w.thread t = some f) (now : Nat)
    (hclear : f.stage = .refused → w.ring.shm.mWriteInProgress = false) :
    (w.leave t f now).Inv := by
  have hplaced := h.stages t f hf
  obtain ⟨-, hnone, hreturned⟩ := h.flight t f hf
  unfold Placed at hplaced
  unfold leave
  cases hstage : f.stage with
  | returned result =>
      rw [hstage] at hplaced
      exact hplaced.elim
  | full =>
      rw [hstage] at hplaced
      exact hplaced.elim
  | granted packet offset => exact h
  | refused =>
      rw [hstage] at hplaced
      have hfree := hclear hstage
      have hend := IasAvbVideoRingBufferShm.endAccessWrite_noAccess hfree 0 now
      have hleave : SendStage.refused.leave w.ring now = (IAS_AVB_RES_NO_SPACE, w.ring) := by
        unfold SendStage.leave SendStage.transferred
        rw [hend]
        rfl
      have hsame : w.noteAppended w.ring = { w with appended := [] ++ w.appended } := by
        unfold noteAppended
        rw [if_pos rfl]
        rfl
      dsimp only
      rw [hleave, hsame]
      refine h.depart hf rfl ⟨h.placed, rfl⟩ (fun a ha => absurd ha List.not_mem_nil) ?_ ?_
      · exact fun t' f' _ hf' => h.all_refused hfree t' f' hf'
      · refine h.honest.fail hnone (fun hok => nomatch hok) ?_
        intro r hr
        rcases List.mem_cons.mp hr with rfl | hr
        · rfl
        · exact hplaced r hr
  | copied packet offset =>
      rw [hstage] at hplaced
      obtain ⟨hbusy, hallowed, rfl, hpacket, hwriter, stale, hcell⟩ := hplaced
      obtain ⟨hok, hlevel, -⟩ :=
        IasAvbVideoRingBufferShm.endAccessWrite_one h.placed hbusy hallowed now
      have hleave : (SendStage.copied packet w.ring.shm.mWriteOffset).leave w.ring now
          = (IAS_AVB_RES_OK, w.ring.setShm (w.ring.shm.endAccessWrite 1 now).2) := by
        unfold SendStage.leave SendStage.transferred
        dsimp only
        rw [hok]
        rfl
      have hgrown : (w.ring.setShm (w.ring.shm.endAccessWrite 1 now).2).shm.mBufferLevel
          ≠ w.ring.shm.mBufferLevel := by
        show (w.ring.shm.endAccessWrite 1 now).2.mBufferLevel ≠ _
        rw [hlevel]
        unfold add32
        omega
      have happended : w.noteAppended (w.ring.setShm (w.ring.shm.endAccessWrite 1 now).2)
          = { w with
              appended := [{
                id := w.writer w.ring.shm.mWriteOffset
                slot := w.ring.shm.mWriteOffset
                bufferSize := w.ring.bufferSize
                cell := w.ring.cell }] ++ w.appended } := by
        unfold noteAppended
        rw [if_neg hgrown]
        rfl
      dsimp only
      rw [hleave, happended]
      refine h.depart hf rfl (IasAvbVideoRingBufferShm.endAccessWrite_placed h.placed 1 now) ?_ ?_ ?_
      · intro a ha
        rw [List.mem_singleton.mp ha]
        exact hwriter
      · have hholds : f.stage ≠ .refused := by
          rw [hstage]
          exact fun heq => nomatch heq
        exact fun t' f' hother hf' => h.others_refused hf hholds hother hf'
      · exact h.honest.succeed hnone hreturned hwriter ⟨packet, stale, hpacket, hcell⟩ rfl

/-- **A step that stays clear of both traps keeps the invariant.** -/
theorem inv_step (h : w.Inv) (e : SendEvent τ) (hclear : w.Clear e) : (w.step e).Inv := by
  cases e with
  | enter t call =>
      unfold step
      dsimp only
      split
      · exact inv_enter h ‹_› (hclear ‹_›)
      · exact h
  | copy t =>
      unfold step
      dsimp only
      split
      · exact h
      · exact inv_copy h ‹_›
  | leave t now =>
      unfold step
      dsimp only
      split
      · exact h
      · exact inv_leave h ‹_› now (hclear _ ‹_›)
  | reader call => exact inv_reader h call

/--
**When a send reports what happened.**

For any number of senders and readers of a new ring, and every order of their steps: as long
as every access is begun on a ring with room, and nobody who was refused ends an access that is
in progress, every call that has returned was honest.
-/
theorem sends_honest {numPackets bufferSize : Nat} {stale : Nat → UInt8} (hpos : 0 < numPackets)
    (hN : numPackets < 4294967296) {es : List (SendEvent τ)}
    (hclear : Always step Clear (start τ numPackets bufferSize stale) es) :
    (exec step (start τ numPackets bufferSize stale) es).Honest := by
  have hstart : (start τ numPackets bufferSize stale).Inv := inv_start _ _ _ hpos hN
  have hstep : ∀ (w : SendWorld τ) (e : SendEvent τ), w.Inv → w.Clear e → (w.step e).Inv :=
    fun _ e h hok => inv_step h e hok
  exact (inv_exec hstep hstart hclear).honest

/-! ## Two senders -/

/-- A packet of three bytes. -/
def threeBytes : SendCall := sendPacketH264 true (some { size := 3, data := fun _ => 7 })

theorem sends_honest_twoPackets :
    (exec step (start Bool 4 64 fun _ => 0) [.enter true threeBytes, .copy true, .leave true 0,
      .enter false threeBytes, .copy false, .leave false 0]).Honest := by
  refine sends_honest (by decide) (by decide) ?_
  refine ⟨fun _ _ _ => by decide, trivial, ?_, fun _ _ _ => by decide, trivial, ?_, trivial⟩
  · intro f hf hrefused
    obtain rfl := Option.some.inj hf
    exact nomatch hrefused
  · intro f hf hrefused
    obtain rfl := Option.some.inj hf
    exact nomatch hrefused

/-- **A send is taken for success.** A ring of one slot is full after the first packet, and the
second call appends nothing. On a ring with room the second sender is refused while the first
one holds a slot, and ends its access; the first one appends nothing. -/
theorem failed_sends_report_success :
    let full := exec step (start Bool 1 64 fun _ => 0) [.enter true threeBytes, .copy true,
      .leave true 0, .enter true threeBytes, .leave true 0]
    let disturbed := exec step (start Bool 4 64 fun _ => 0) [.enter true threeBytes,
      .enter false threeBytes, .leave false 0, .copy true, .leave true 0]
    ¬ full.Honest ∧ ¬ disturbed.Honest
      ∧ full.returned.map (fun s => (s.result, full.timesAppended s.id))
        = [(IAS_AVB_RES_OK, 0), (IAS_AVB_RES_OK, 1)]
      ∧ disturbed.returned.map (fun s => (s.result, disturbed.timesAppended s.id))
        = [(IAS_AVB_RES_OK, 0), (IAS_AVB_RES_NO_SPACE, 0)]
      ∧ disturbed.returned.map (fun s => s.steps.map fun r =>
          (r.1.shm.mWriteInProgress, r.2.shm.mWriteInProgress))
        = [[(false, false), (false, false), (false, true)], [(true, false), (true, true)]] := by
  intro full disturbed
  have hfull : ¬ ∀ s ∈ full.returned, s.result = IAS_AVB_RES_OK ↔ full.timesAppended s.id = 1 := by
    decide +kernel
  have hdisturbed : ¬ ∀ s ∈ disturbed.returned,
      s.result = IAS_AVB_RES_OK ↔ disturbed.timesAppended s.id = 1 := by decide +kernel
  refine ⟨fun h => hfull h.ok_iff, fun h => hdisturbed h.ok_iff, ?_⟩
  decide +kernel

end SendWorld

end AvbStreamHandler
