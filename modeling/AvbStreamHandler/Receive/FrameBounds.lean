import AvbStreamHandler.Receive.ReceiveEngine

/-!
# The bounds of a received frame

How long a frame has to be for what the receive engine does with it. Nothing in the engine
compares the length of a frame with anything but zero: what lies behind a short frame is
taken for its header, and the length that is left for the payload is computed without regard
to the sign.
-/

namespace AvbStreamHandler

open Kit Kit.Word

namespace IasAvbReceiveEngine

variable {c : ReceiveConfig} {w : IasAvbReceiveEngine} {frame : Bytes} {recvLength : Int}
  {now : Nat} {newState : Nat → IasAvbStreamState}

/-- **All in bounds**: every byte that was looked at was received, and the payload that is
passed on ends where the frame does, or before. -/
def Within (recvLength : Int) (t : FrameTrace) : Prop :=
  (∀ i ∈ t.inspected, (i : Int) < recvLength)
    ∧ ∀ d, t.dispatched = some d → (d.offset : Int) + d.length ≤ recvLength

/-- There is a stream for the frame: under its id, or under the wildcard if that one takes all
or the destination address is right, or, in the mode that ignores ids, any at all. -/
def HasStream (c : ReceiveConfig) (w : IasAvbReceiveEngine) (frame : Bytes) : Prop :=
  w.mAvbStreams.lookup (frame.be64 (avtpBase frame + 4)) ≠ none
    ∨ (∃ data, w.mAvbStreams.lookup wildcardId = some data
        ∧ (w.dmacOf data = some (frame.slice 0 cIasAvbMacAddressLength)
          ∨ w.dmacOf data = some wildcardMac))
    ∨ c.mIgnoreStreamId = true ∧ w.firstStream ≠ none

/-- The time stamp is looked at, to see if it is too late or for the statistics of the stream. -/
def ReadsTimestamp (c : ReceiveConfig) (w : IasAvbReceiveEngine) (frame : Bytes) : Prop :=
  streamIdValid frame = true ∧ timestampValid frame = true
    ∧ (c.discardByPts ≠ none ∨ HasStream c w frame)

/-- **Long enough**: to the ether type, behind a VLAN tag if there is one; in an AVTP frame to
the end of the stream id, and to the end of the time stamp if that is looked at. -/
structure LongEnough (c : ReceiveConfig) (w : IasAvbReceiveEngine) (frame : Bytes)
    (recvLength : Int) : Prop where
  etherType : (avtpBase frame : Int) ≤ recvLength
  streamId : frame.be16 (ethTypeOffset frame) = ETH_P_IEEE1722 →
    (avtpBase frame : Int) + 12 ≤ recvLength
  timestamp : frame.be16 (ethTypeOffset frame) = ETH_P_IEEE1722 → ReadsTimestamp c w frame →
    (avtpBase frame : Int) + 16 ≤ recvLength

/-! ## What is looked at -/

theorem range_within (recvLength : Int) (i n : Nat) (hn : 0 < n) :
    (∀ j ∈ List.range' i n, (j : Int) < recvLength) ↔ (i : Int) + n ≤ recvLength := by
  constructor
  · intro h
    have hlast := h (i + (n - 1)) (List.mem_range'_1.mpr ⟨by omega, by omega⟩)
    omega
  · intro h j hj
    have hmem := List.mem_range'_1.mp hj
    omega

theorem avtpBase_cases (frame : Bytes) :
    frame.be16 12 = ETH_P_8021Q ∧ avtpBase frame = 18
      ∨ frame.be16 12 ≠ ETH_P_8021Q ∧ avtpBase frame = 14 := by
  unfold avtpBase ethTypeOffset
  split
  · rename_i h
    exact Or.inl ⟨h, rfl⟩
  · rename_i h
    exact Or.inr ⟨h, rfl⟩

theorem headerBytes_within (recvLength : Int) (frame : Bytes) :
    (∀ i ∈ headerBytes frame, (i : Int) < recvLength)
      ↔ (avtpBase frame : Int) ≤ recvLength
        ∧ (frame.be16 (ethTypeOffset frame) = ETH_P_IEEE1722 →
          (avtpBase frame : Int) + 12 ≤ recvLength) := by
  have hstart := range_within recvLength 12 2 (by omega)
  have htag := range_within recvLength 16 2 (by omega)
  have hid := range_within recvLength (avtpBase frame + 4) 8 (by omega)
  unfold headerBytes
  rw [List.forall_mem_append, List.forall_mem_append, hstart]
  by_cases havtp : frame.be16 (ethTypeOffset frame) = ETH_P_IEEE1722
  · rw [if_pos havtp, List.forall_mem_cons, hid, imp_iff_right havtp]
    rcases avtpBase_cases frame with ⟨hvlan, hbase⟩ | ⟨hplain, hbase⟩
    · rw [if_pos hvlan, htag, hbase]
      omega
    · rw [if_neg hplain, hbase, iff_true_intro (List.forall_mem_nil _), and_true]
      omega
  · rw [if_neg havtp, iff_true_intro fun h => absurd h havtp,
      iff_true_intro (List.forall_mem_nil _), and_true, and_true]
    rcases avtpBase_cases frame with ⟨hvlan, hbase⟩ | ⟨hplain, hbase⟩
    · rw [if_pos hvlan, htag, hbase]
      omega
    · rw [if_neg hplain, hbase, iff_true_intro (List.forall_mem_nil _), and_true]
      omega

theorem timestampBytes_within (recvLength : Int) (frame : Bytes) :
    (∀ i ∈ timestampBytes frame, (i : Int) < recvLength)
      ↔ (avtpBase frame : Int) + 16 ≤ recvLength := by
  have hrange := range_within recvLength (avtpBase frame + 12) 4 (by omega)
  unfold timestampBytes
  rw [hrange]
  omega

/-- The addresses come first in a frame. -/
theorem addressBytes_within {streamId : Nat} {found : Option Nat} (h : 12 ≤ recvLength) :
    ∀ i ∈ addressBytes w streamId found, (i : Int) < recvLength := by
  have hlt : ∀ i ∈ addressBytes w streamId found, i < 12 := by
    intro i hi
    unfold addressBytes at hi
    rcases List.mem_append.mp hi with hi | hi
    · split at hi
      · have hmem := List.mem_range'_1.mp hi
        omega
      · exact absurd hi List.not_mem_nil
    · split at hi
      · exact absurd hi List.not_mem_nil
      · have hmem := List.mem_range'_1.mp hi
        omega
  intro i hi
  have := hlt i hi
  omega

theorem findWildcard_found (w : IasAvbReceiveEngine) (streamId : Nat) (frame : Bytes) :
    (w.findWildcard streamId frame).2 ≠ none
      ↔ ∃ data, w.mAvbStreams.lookup wildcardId = some data
        ∧ (w.dmacOf data = some (frame.slice 0 cIasAvbMacAddressLength)
          ∨ w.dmacOf data = some wildcardMac) := by
  unfold findWildcard
  cases hlookup : w.mAvbStreams.lookup wildcardId with
  | none => simp
  | some data =>
      dsimp only
      split
      · rename_i hmac
        exact ⟨fun _ => ⟨data, rfl, Or.inl hmac⟩, fun _ h => nomatch h⟩
      · rename_i hother
        split
        · rename_i hall
          exact ⟨fun _ => ⟨data, rfl, Or.inr hall⟩, fun _ h => nomatch h⟩
        · rename_i hnot
          refine ⟨fun h => absurd rfl h, ?_⟩
          rintro ⟨data', hdata, hmac | hall⟩
          · exact absurd (Option.some.inj hdata ▸ hmac) hother
          · exact absurd (Option.some.inj hdata ▸ hall) hnot

/-- **The search finds a stream if there is one.** -/
theorem findStream_found (c : ReceiveConfig) (w : IasAvbReceiveEngine) (frame : Bytes) :
    (findStream c w (frame.be64 (avtpBase frame + 4)) frame).2 ≠ none ↔ HasStream c w frame := by
  unfold findStream HasStream
  cases hlookup : w.mAvbStreams.lookup (frame.be64 (avtpBase frame + 4)) with
  | some data => simp
  | none =>
      dsimp only
      have hwildcard := findWildcard_found w (frame.be64 (avtpBase frame + 4)) frame
      rw [← hwildcard]
      cases hfind : w.findWildcard (frame.be64 (avtpBase frame + 4)) frame with
      | mk w' found =>
          cases found with
          | some key => simp
          | none =>
              have hsame : w' = w := by
                unfold findWildcard at hfind
                split at hfind
                · split at hfind
                  · exact nomatch (Prod.mk.inj hfind).2
                  · split at hfind
                    · exact nomatch (Prod.mk.inj hfind).2
                    · exact (Prod.mk.inj hfind).1.symm
                · exact (Prod.mk.inj hfind).1.symm
              rw [hsame]
              cases c.mIgnoreStreamId <;> simp

/-! ## The bounds -/

/-- The length that is passed on. -/
theorem ofInt64_le {n : Int} (h : 0 ≤ n) : (ofInt64 n : Int) ≤ n := by
  unfold ofInt64
  omega

theorem dispatchFrame_within {key : Nat} {d : Dispatch}
    (h : (avtpBase frame : Int) ≤ recvLength)
    (hd : (w.dispatchFrame key frame recvLength now newState).2 = some d) :
    (d.offset : Int) + d.length ≤ recvLength := by
  unfold dispatchFrame at hd
  split at hd
  · obtain rfl := Option.some.inj hd
    have hlength : (ofInt64 (recvLength - avtpBase frame) : Int) ≤ recvLength - avtpBase frame :=
      ofInt64_le (by omega)
    show (avtpBase frame : Int) + (ofInt64 (recvLength - avtpBase frame) : Int) ≤ recvLength
    omega
  · exact nomatch hd

theorem forwardFrame_within {inspected : List Nat}
    (hbase : (∀ i ∈ inspected, (i : Int) < recvLength) → (avtpBase frame : Int) ≤ recvLength) :
    Within recvLength (forwardFrame c w frame recvLength now newState inspected).2
      ↔ (∀ i ∈ inspected, (i : Int) < recvLength)
        ∧ (HasStream c w frame → timestampValid frame = true →
          ∀ i ∈ timestampBytes frame, (i : Int) < recvLength) := by
  have hstart : 12 ≤ avtpBase frame := by
    rcases avtpBase_cases frame with ⟨-, h⟩ | ⟨-, h⟩ <;> omega
  have hfound := findStream_found c w frame
  unfold forwardFrame
  dsimp only
  cases hfind : findStream c w (frame.be64 (avtpBase frame + 4)) frame with
  | mk w' found =>
      rw [hfind] at hfound
      cases found with
      | none =>
          have hnone : ¬ HasStream c w frame := fun h => hfound.mpr h rfl
          constructor
          · intro h
            exact ⟨(List.forall_mem_append.mp h.1).1, fun hhas => absurd hhas hnone⟩
          · rintro ⟨hbytes, -⟩
            have hlength := hbase hbytes
            refine ⟨List.forall_mem_append.mpr ⟨hbytes, addressBytes_within (by omega)⟩, ?_⟩
            exact fun _ hd => nomatch hd
      | some key =>
          have hhas : HasStream c w frame := hfound.mp fun h => nomatch h
          constructor
          · intro h
            obtain ⟨hbytes, hstamp⟩ := List.forall_mem_append.mp h.1
            refine ⟨(List.forall_mem_append.mp hbytes).1, fun _ hvalid => ?_⟩
            rw [if_pos hvalid] at hstamp
            exact hstamp
          · rintro ⟨hbytes, hstamp⟩
            have hlength := hbase hbytes
            refine ⟨List.forall_mem_append.mpr ⟨List.forall_mem_append.mpr
              ⟨hbytes, addressBytes_within (by omega)⟩, ?_⟩, ?_⟩
            · split
              · rename_i hvalid
                exact hstamp hhas hvalid
              · exact List.forall_mem_nil _
            · exact fun d hd => dispatchFrame_within hlength hd

/-- What is looked at in a frame comes down to two groups of bytes. -/
theorem receiveFrame_within (hpos : 0 < recvLength) :
    Within recvLength (receiveFrame c w frame recvLength now newState).2
      ↔ (∀ i ∈ headerBytes frame, (i : Int) < recvLength)
        ∧ (frame.be16 (ethTypeOffset frame) = ETH_P_IEEE1722 → ReadsTimestamp c w frame →
          ∀ i ∈ timestampBytes frame, (i : Int) < recvLength) := by
  have hbase := fun h => ((headerBytes_within recvLength frame).mp h).1
  unfold receiveFrame
  rw [if_neg (Int.not_le.mpr hpos)]
  by_cases havtp : frame.be16 (ethTypeOffset frame) = ETH_P_IEEE1722
  · rw [if_neg fun h => h havtp, imp_iff_right havtp]
    by_cases hvalid : streamIdValid frame = true
    · rw [if_neg (by simp [hvalid])]
      split
      · -- the time stamp is read before a stream is looked for
        rename_i hpts
        obtain ⟨hconfigured, hstamp⟩ := Bool.and_eq_true_iff.mp hpts
        have hreads : ReadsTimestamp c w frame :=
          ⟨hvalid, hstamp, Or.inl (Option.isSome_iff_ne_none.mp hconfigured)⟩
        rw [imp_iff_right hreads, ← List.forall_mem_append]
        dsimp only
        split
        · exact ⟨fun h => h.1, fun h => ⟨h, fun _ hd => nomatch hd⟩⟩
        · rw [forwardFrame_within fun h => hbase (List.forall_mem_append.mp h).1]
          exact ⟨fun h => h.1, fun h => ⟨h, fun _ _ => (List.forall_mem_append.mp h).2⟩⟩
      · rename_i hpts
        rw [forwardFrame_within hbase]
        refine and_congr_right fun _ => ⟨fun h hreads => ?_, fun h hhas hstamp => ?_⟩
        · obtain ⟨-, hstamp, hconfigured | hhas⟩ := hreads
          · exact absurd (Bool.and_eq_true_iff.mpr
              ⟨Option.isSome_iff_ne_none.mpr hconfigured, hstamp⟩) hpts
          · exact h hhas hstamp
        · exact h ⟨hvalid, hstamp, Or.inr hhas⟩
    · -- no stream id: nothing more is looked at
      rw [if_pos (by simp [hvalid])]
      exact ⟨fun h => ⟨h.1, fun hreads => absurd hreads.1 hvalid⟩,
        fun h => ⟨h.1, fun _ hd => nomatch hd⟩⟩
  · rw [if_pos havtp, iff_true_intro fun h => absurd h havtp, and_true]
    exact ⟨fun h => h.1, fun h => ⟨h, fun _ hd => nomatch hd⟩⟩

/--
**What a frame has to bring along.**

Whatever streams there are and wherever the frame comes from: all the bytes that the engine
looks at were received, and the length of the payload is no more than what remains of the
frame, exactly if nothing was received or the frame is long enough for the header it seems
to have.
-/
theorem within_iff (c : ReceiveConfig) (w : IasAvbReceiveEngine) (r : Reception) (frame : Bytes)
    (now : Nat) (newState : Nat → IasAvbStreamState) :
    Within r.recvLength (receiveFrame c w frame r.recvLength now newState).2
      ↔ (0 < r.recvLength → LongEnough c w frame r.recvLength) := by
  by_cases hpos : 0 < r.recvLength
  · rw [imp_iff_right hpos, receiveFrame_within hpos, headerBytes_within]
    constructor
    · rintro ⟨⟨hether, hid⟩, htime⟩
      exact ⟨hether, hid, fun havtp hreads => (timestampBytes_within _ frame).mp (htime havtp hreads)⟩
    · rintro ⟨hether, hid, htime⟩
      exact ⟨⟨hether, hid⟩, fun havtp hreads =>
        (timestampBytes_within _ frame).mpr (htime havtp hreads)⟩
  · refine iff_of_true ?_ fun h => absurd h hpos
    unfold receiveFrame
    rw [if_pos (by omega)]
    exact ⟨fun i hi => absurd hi List.not_mem_nil, fun _ hd => nomatch hd⟩

/-- A header with a VLAN tag, for stream 5. -/
def taggedFrame : Bytes :=
  Bytes.ofList [0x91, 0xE0, 0xF0, 0, 0, 1, 2, 0, 0, 0, 0, 1, 0x81, 0x00, 0x60, 0x02, 0x22, 0xF0,
    0x02, 0x80, 0, 0, 0, 0, 0, 0, 0, 0, 0, 5]

/-- An engine with stream 5. -/
def oneStream : IasAvbReceiveEngine where
  mAvbStreams := AList.singleton 5 { stream := 0, lastState := .eIasAvbStreamValid }
  streams := fun _ => some { mAvbStreamId := 5, mDmac := [0x91, 0xE0, 0xF0, 0, 0, 1] }
  allocated := 1

/-- A frame of sixteen bytes, in a buffer that held a longer one before, is dispatched with
almost `2 ^ 64` bytes of payload. -/
theorem short_frame_wraps :
    let result := receiveFrame {} oneStream taggedFrame (Reception.recvfrom 16).recvLength 0
      fun _ => .eIasAvbStreamValid
    result.2.dispatched = some { stream := 0, offset := 18, length := 18446744073709551614 }
      ∧ 29 ∈ result.2.inspected
      ∧ ¬ Within (Reception.recvfrom 16).recvLength result.2 := by
  have hdispatched : (receiveFrame {} oneStream taggedFrame (Reception.recvfrom 16).recvLength 0
      fun _ => .eIasAvbStreamValid).2.dispatched
        = some { stream := 0, offset := 18, length := 18446744073709551614 } := by decide +kernel
  refine ⟨hdispatched, by decide +kernel, fun h => ?_⟩
  have hbound := h.2 _ hdispatched
  exact absurd hbound (by decide)

end IasAvbReceiveEngine

end AvbStreamHandler
