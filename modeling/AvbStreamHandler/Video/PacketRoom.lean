import AvbStreamHandler.Video.LocalVideoBuffer

/-!
# How far the writers write

Both writers compare what they are given with the room behind the payload offset. For
`writeH264` that is what it writes. `writeMpegTS` writes 192 bytes for each TSP, whether the
source packet header is among what it is given or not, and it writes behind the TSPs a
recycled packet carries already; the comparison knows of neither. Here is when it writes
behind the end of a packet.
-/

namespace AvbStreamHandler

open Kit

namespace LocalVideoBuffer

/-- The room behind the headers. -/
def room (b : LocalVideoBuffer) : Nat := b.packetSize - b.payloadOffset

/-- No packet in the ring was written behind its end. -/
def Roomy (room : Nat) (ring : Nat → RingDesc) : Prop :=
  ∀ i p, (ring i).avbPacket = some p → p.payload.Within room

/-- The bytes that `n` TSPs take behind `writePtr`, if there are any, end in the room. -/
def TspsFit (room writePtr n : Nat) : Prop := n = 0 ∨ writePtr + n * 192 ≤ room

instance (room writePtr n : Nat) : Decidable (TspsFit room writePtr n) :=
  inferInstanceAs (Decidable (_ ∨ _))

/-- What `writeMpegTS` would have to compare. -/
def FitsMpegTS (b : LocalVideoBuffer) (desc : TxDesc) : Prop :=
  b.accepts desc = true → b.remaining ≠ 0 → b.HasHeadroom desc.data.length →
    if b.Recycles then
      let used := (b.mRing (b.mWriteIndex - 1)).tspsInAvbPacket
      TspsFit b.room (recyclePtr desc used) (b.tspsForThis desc used)
        ∧ (b.mPool.pool.getPacket.1 ≠ none → TspsFit b.room 0 (b.tspsForNext desc used))
    else b.mPool.pool.getPacket.1 ≠ none → TspsFit b.room 0 (tspCount desc)

variable {b : LocalVideoBuffer} {ring : Nat → RingDesc} {r : Nat}

theorem unit_eq (hasSph : Bool) : sphGap hasSph + tspSize hasSph = 192 := by
  cases hasSph <;> rfl

/-- **The loop over TSPs writes 192 bytes a round.** -/
theorem putTsps_within (hasSph : Bool) (n writePtr : Nat) (data : List UInt8) (p : AvbPacket) :
    (putTsps hasSph n writePtr data p).payload.Within r ↔
      p.payload.Within r ∧ TspsFit r writePtr n := by
  have hunit := unit_eq hasSph
  have hsize : 0 < tspSize hasSph := by cases hasSph <;> decide
  induction n generalizing writePtr data p with
  | zero => exact (and_iff_left (Or.inl rfl)).symm
  | succ n ih =>
      unfold putTsps
      refine (ih ..).trans ?_
      constructor
      · rintro ⟨hwithin, hfit⟩
        have hlast := hwithin (writePtr + sphGap hasSph + (tspSize hasSph - 1))
          (List.mem_append_right _ (List.mem_range'_1.mpr (by omega)))
        refine ⟨fun i hi => hwithin i (List.mem_append_left _ hi), Or.inr ?_⟩
        rcases hfit with rfl | hfit <;> omega
      · rintro ⟨hwithin, hfit⟩
        have hfit : writePtr + (n + 1) * 192 ≤ r := by
          rcases hfit with hzero | hfit
          · omega
          · exact hfit
        exact ⟨Memory.within_copyIn hwithin (Or.inr (by omega)), Or.inr (by omega)⟩

theorem roomy_update {i : Nat} {d : RingDesc} (h : Roomy r ring) :
    Roomy r (Function.update ring i d) ↔ ∀ p, d.avbPacket = some p → p.payload.Within r := by
  constructor
  · intro hup p hp
    exact hup i p (by rw [Function.update_self]; exact hp)
  · intro hd k p hp
    by_cases hk : k = i
    · subst hk
      rw [Function.update_self] at hp
      exact hd p hp
    · rw [Function.update_of_ne hk] at hp
      exact h k p hp

/-- A descriptor that keeps its packet. -/
theorem roomy_note {i : Nat} {d : RingDesc} (h : Roomy r ring)
    (hd : d.avbPacket = (ring i).avbPacket) : Roomy r (Function.update ring i d) :=
  (roomy_update h).mpr fun p hp => h i p (hd ▸ hp)

/-- A descriptor that gets another packet. -/
theorem roomy_store {i : Nat} {d : RingDesc} {p : AvbPacket} (h : Roomy r ring)
    (hd : d.avbPacket = some p) :
    Roomy r (Function.update ring i d) ↔ p.payload.Within r := by
  rw [roomy_update h, hd]
  exact ⟨fun hall => hall p rfl, fun hp q hq => Option.some.inj hq ▸ hp⟩

theorem within_getPacket {stale : Nat → UInt8} {p : AvbPacket} (h : b.getPacket stale = some p) :
    p.payload.Within r := by
  obtain ⟨ptr, -, hp⟩ := Option.map_eq_some_iff.mp h
  rw [← hp]
  exact fun i hi => absurd hi List.not_mem_nil

theorem getPacket_ne_none {stale : Nat → UInt8} :
    b.mPool.pool.getPacket.1 ≠ none ↔ b.getPacket stale ≠ none :=
  Option.map_eq_none_iff.symm.not

/-- **`writeH264` stays in the room.** -/
theorem roomy_writeH264 (h : Roomy b.room b.mRing) (desc : TxDesc) (stale : Nat → UInt8) :
    Roomy b.room (b.writeH264 desc stale).2.mRing := by
  unfold writeH264
  split
  · exact h
  · dsimp only
    cases hget : b.getPacket stale with
    | none => exact roomy_note h rfl
    | some p =>
        dsimp only
        split
        · rename_i hroom
          refine (roomy_store h rfl).mpr (Memory.within_copyIn (within_getPacket hget) (Or.inr ?_))
          unfold HasHeadroom at hroom
          unfold room
          omega
        · exact roomy_note h rfl

theorem roomy_writeFresh (h : Roomy b.room b.mRing) (desc : TxDesc) (stale : Nat → UInt8) :
    Roomy b.room (b.writeFresh desc stale).2.mRing ↔
      (b.HasHeadroom desc.data.length → b.mPool.pool.getPacket.1 ≠ none →
        TspsFit b.room 0 (tspCount desc)) := by
  unfold writeFresh
  dsimp only
  rw [@getPacket_ne_none b stale]
  cases hget : b.getPacket stale with
  | none => exact iff_of_true (roomy_note h rfl) fun _ hne => absurd rfl hne
  | some p =>
      have hp : (b.headerOnly p).payload.Within b.room :=
        (within_getPacket hget : p.payload.Within b.room)
      dsimp only
      split
      · rename_i hroom
        refine (roomy_store h rfl).trans ((putTsps_within ..).trans ?_)
        exact ⟨fun hfit _ _ => hfit.2, fun hfit => ⟨hp, hfit hroom (Option.some_ne_none p)⟩⟩
      · rename_i hroom
        exact iff_of_true ((roomy_store h rfl).mpr hp) fun hhead => absurd hhead hroom

theorem roomy_writeRecycled (h : Roomy b.room b.mRing) (desc : TxDesc) (stale : Nat → UInt8)
    {p : AvbPacket} (hp : (b.mRing (b.mWriteIndex - 1)).avbPacket = some p)
    (hw : 0 < b.mWriteIndex) :
    Roomy b.room (b.writeRecycled desc stale p).2.mRing ↔
      (b.HasHeadroom desc.data.length →
        TspsFit b.room (recyclePtr desc (b.mRing (b.mWriteIndex - 1)).tspsInAvbPacket)
            (b.tspsForThis desc (b.mRing (b.mWriteIndex - 1)).tspsInAvbPacket)
          ∧ (b.mPool.pool.getPacket.1 ≠ none →
            TspsFit b.room 0
              (b.tspsForNext desc (b.mRing (b.mWriteIndex - 1)).tspsInAvbPacket))) := by
  have hnote : Roomy b.room (b.setSlot b.mWriteIndex
      (noteMpegTS desc (b.mRing b.mWriteIndex))).mRing := roomy_note h rfl
  have hfill : Roomy b.room (b.refilled desc p).mRing ↔
      TspsFit b.room (recyclePtr desc (b.mRing (b.mWriteIndex - 1)).tspsInAvbPacket)
        (b.tspsForThis desc (b.mRing (b.mWriteIndex - 1)).tspsInAvbPacket) :=
    (roomy_store hnote rfl).trans ((putTsps_within ..).trans (and_iff_right (h _ p hp)))
  unfold writeRecycled
  dsimp only
  rw [@getPacket_ne_none b stale]
  split
  · rename_i hroom
    rw [forall_prop_of_true hroom]
    split
    · rename_i hnext
      exact hfill.trans (and_iff_left fun _ => Or.inl hnext).symm
    · cases hget : b.getPacket stale with
      | none => exact hfill.trans (and_iff_left fun hne => absurd rfl hne).symm
      | some q =>
          have hq : (b.headerOnly q).payload.Within b.room :=
            (within_getPacket hget : q.payload.Within b.room)
          rw [forall_prop_of_true (Option.some_ne_none q)]
          dsimp only
          constructor
          · intro hall
            -- the two packets lie in different places, so each can be looked at by itself
            have hthis : Roomy b.room (b.refilled desc p).mRing := by
              have hne : b.mWriteIndex - 1 ≠ b.mWriteIndex := by omega
              have hkeep := (setSlot_ne (b.refilled desc p) (storeMpegTS desc
                (b.restPacket desc (b.mRing (b.mWriteIndex - 1)).tspsInAvbPacket q)
                (b.tspsForNext desc (b.mRing (b.mWriteIndex - 1)).tspsInAvbPacket)
                (noteMpegTS desc (b.mRing b.mWriteIndex))) hne).trans (setSlot_self ..)
              exact (roomy_store hnote rfl).mpr
                (hall (b.mWriteIndex - 1) _ (congrArg RingDesc.avbPacket hkeep))
            refine ⟨hfill.mp hthis, ?_⟩
            exact ((putTsps_within ..).mp ((roomy_store hthis rfl).mp hall)).2
          · rintro ⟨hthis, hnext⟩
            exact (roomy_store (hfill.mpr hthis) rfl).mpr ((putTsps_within ..).mpr ⟨hq, hnext⟩)
  · rename_i hroom
    exact iff_of_true hnote fun hhead => absurd hhead hroom

theorem roomy_writeMpegTS (h : Roomy b.room b.mRing) (desc : TxDesc) (stale : Nat → UInt8) :
    Roomy b.room (b.writeMpegTS desc stale).2.mRing ↔ b.FitsMpegTS desc := by
  unfold writeMpegTS FitsMpegTS
  split
  · rename_i hwrites
    refine iff_of_true h fun haccepts hremaining => ?_
    rw [haccepts] at hwrites
    exact absurd hwrites (by simp [hremaining])
  · rename_i hwrites
    rw [not_or, Bool.not_eq_false] at hwrites
    rw [forall_prop_of_true hwrites.1, forall_prop_of_true hwrites.2]
    by_cases hrecycles : b.Recycles
    · rw [if_pos hrecycles]
      simp only [if_pos hrecycles]
      obtain ⟨p, hp⟩ := Option.isSome_iff_exists.mp hrecycles.2.1
      rw [hp]
      exact roomy_writeRecycled h desc stale hp hrecycles.1.1
    · rw [if_neg hrecycles]
      simp only [if_neg hrecycles]
      exact roomy_writeFresh h desc stale

/--
**When no writer writes behind a packet.**

For every packet size, payload offset and state of the ring, whatever the last packet
carries: neither writer puts a byte behind the end of a packet, exactly if the TSPs fit with
192 bytes each, those for a recycled packet behind the place they are put to.
-/
theorem roomy_iff (h : Roomy b.room b.mRing) (desc : TxDesc) (stale : Nat → UInt8) :
    (Roomy b.room (b.writeH264 desc stale).2.mRing
      ∧ Roomy b.room (b.writeMpegTS desc stale).2.mRing) ↔ b.FitsMpegTS desc :=
  (and_iff_right (roomy_writeH264 h desc stale)).trans (roomy_writeMpegTS h desc stale)

/-- An empty ring for packets of `maxPacketSize` bytes of MPEG-TS, as a stream sets it up:
the pool's packets have 42 bytes more, and 50 of them are headers. -/
def mpegTsBuffer (maxPacketSize : Nat) : LocalVideoBuffer where
  mNumPacketsTotal := 8
  mMaxPacketSize := maxPacketSize
  mPool := AvbPacketPool.step {} (.init (maxPacketSize + 42) 8 AvbPacketPool.smallEnv)
  payloadOffset := 50

/-- One TSP, with a source packet header or without. -/
def oneTsp (hasSph : Bool) : TxDesc where
  data := List.replicate (tspSize hasSph) 0x47
  isIec61883Packet := true
  hasSph := hasSph

theorem roomy_iff_oneTsp :
    (Roomy (mpegTsBuffer 200).room ((mpegTsBuffer 200).writeH264 (oneTsp true) fun _ => 0).2.mRing
      ∧ Roomy (mpegTsBuffer 200).room
        ((mpegTsBuffer 200).writeMpegTS (oneTsp true) fun _ => 0).2.mRing) ↔
      (mpegTsBuffer 200).FitsMpegTS (oneTsp true) :=
  roomy_iff (fun _ _ hp => by cases hp) _ _

/-- With `maxPacketSize` at 196, there is room for the 188 bytes of a TSP, and the write ends
four bytes further on. -/
theorem inserted_header_overruns_the_packet :
    (mpegTsBuffer 196).packetSize = 238 ∧ (mpegTsBuffer 196).room = 188
      ∧ (((mpegTsBuffer 196).writeMpegTS (oneTsp false) fun _ => 0).2.mRing 0).avbPacket.map
          (fun p => (p.payload.touched, p.len)) = some (List.range' 4 188, 242) := by
  decide +kernel

end LocalVideoBuffer

end AvbStreamHandler
