import AvbStreamHandler.Kit.Registry
import AvbStreamHandler.Kit.Run
import AvbStreamHandler.Receive.ReceiveEngine

/-!
# The registry of receive streams

The map finds a stream by the id the stream has. Seen from both sides that is a registry: the
map is the index, the ids of the stream objects are the labels, and the two agree.

A call that creates a stream works on the registry in two steps, and relies on what it found
or left there before. The receive thread can get in between: it may bind the wildcard stream
to the very id that was found free, or take the new stream away from the id it was added
under, when that was the wildcard's.
-/

namespace AvbStreamHandler

open Kit Kit.Run Kit.Registry IasAvbProcessingResult

namespace IasAvbReceiveEngine

variable {c : ReceiveConfig} {w w' : IasAvbReceiveEngine} {frame : Bytes} {k h : Nat}
  {data : StreamData}

/-- The stream under a key. -/
def index (w : IasAvbReceiveEngine) (k : Nat) : Option Nat :=
  (w.mAvbStreams.lookup k).map StreamData.stream

/-- `getStreamId` of an object. -/
def idOf (w : IasAvbReceiveEngine) (h : Nat) : Option Nat :=
  (w.streams h).map ReceiveStream.mAvbStreamId

/-! ## What the operations do to the registry -/

theorem index_of_lookup (hd : w.mAvbStreams.lookup k = some data) :
    w.index k = some data.stream := by
  unfold index
  rw [hd]
  rfl

theorem index_eq_none : w.index k = none ↔ w.mAvbStreams.lookup k = none := by
  unfold index
  rw [Option.map_eq_none_iff]

/-- The streams of a map an entry was inserted into. -/
theorem stream_insert (m : AList fun _ : Nat => StreamData) (k : Nat) (data : StreamData) :
    (fun j => ((m.insert k data).lookup j).map StreamData.stream)
      = Function.update (fun j => (m.lookup j).map StreamData.stream) k (some data.stream) := by
  funext j
  by_cases hj : j = k
  · rw [hj, AList.lookup_insert, Function.update_self]
    rfl
  · rw [AList.lookup_insert_ne hj, Function.update_of_ne hj]

theorem stream_erase (m : AList fun _ : Nat => StreamData) (k : Nat) :
    (fun j => ((m.erase k).lookup j).map StreamData.stream)
      = Function.update (fun j => (m.lookup j).map StreamData.stream) k none := by
  funext j
  by_cases hj : j = k
  · rw [hj, AList.lookup_erase, Function.update_self]
    rfl
  · rw [AList.lookup_erase_ne hj, Function.update_of_ne hj]

theorem index_setEntry (k : Nat) (data : StreamData) :
    (w.setEntry k data).index = Function.update w.index k (some data.stream) :=
  stream_insert w.mAvbStreams k data

theorem index_remove (k h : Nat) : (w.remove k h).index = Function.update w.index k none :=
  stream_erase w.mAvbStreams k

theorem index_addStream (streamId : Nat) (mac : IasAvbMacAddress) :
    (w.addStream streamId mac).index = Function.update w.index streamId (some w.allocated) :=
  stream_insert w.mAvbStreams streamId _

theorem index_rebind (streamId : Nat) (data : StreamData) :
    (w.rebind streamId data).index
      = Function.update (Function.update w.index wildcardId none) streamId (some data.stream) := by
  show (fun j => (((w.mAvbStreams.erase wildcardId).insert streamId data).lookup j).map _) = _
  rw [stream_insert, stream_erase]
  rfl

theorem idOf_update (h : Nat) (s : Option ReceiveStream) :
    (fun j => (Function.update w.streams h s j).map ReceiveStream.mAvbStreamId)
      = Function.update w.idOf h (s.map ReceiveStream.mAvbStreamId) := by
  funext j
  by_cases hj : j = h
  · rw [hj, Function.update_self, Function.update_self]
  · rw [Function.update_of_ne hj, Function.update_of_ne hj]
    rfl

theorem idOf_remove (k h : Nat) : (w.remove k h).idOf = Function.update w.idOf h none :=
  idOf_update h none

theorem idOf_addStream (streamId : Nat) (mac : IasAvbMacAddress) :
    (w.addStream streamId mac).idOf = Function.update w.idOf w.allocated (some streamId) :=
  idOf_update w.allocated _

theorem idOf_rebind (streamId : Nat) {data : StreamData} (hd : w.idOf data.stream ≠ none) :
    (w.rebind streamId data).idOf = Function.update w.idOf data.stream (some streamId) := by
  show (fun j => (Function.update w.streams data.stream _ j).map ReceiveStream.mAvbStreamId) = _
  rw [idOf_update]
  congr 1
  cases hs : w.streams data.stream with
  | none =>
      unfold idOf at hd
      rw [hs] at hd
      exact absurd rfl hd
  | some s => rfl

/-- **The same registry**: what only the bookkeeping of the dispatcher tells apart. -/
structure SameRegistry (w w' : IasAvbReceiveEngine) : Prop where
  index : w'.index = w.index
  ids : w'.idOf = w.idOf
  allocated : w'.allocated = w.allocated
  call : w'.call = w.call

theorem SameRegistry.refl (w : IasAvbReceiveEngine) : SameRegistry w w := ⟨rfl, rfl, rfl, rfl⟩

theorem SameRegistry.trans {w'' : IasAvbReceiveEngine} (h : SameRegistry w w')
    (h' : SameRegistry w' w'') : SameRegistry w w'' :=
  ⟨h'.index.trans h.index, h'.ids.trans h.ids, h'.allocated.trans h.allocated,
    h'.call.trans h.call⟩

/-- An entry for the same stream changes nothing. -/
theorem sameRegistry_setEntry (hk : w.index k = some data.stream) :
    SameRegistry w (w.setEntry k data) := by
  refine ⟨?_, rfl, rfl, rfl⟩
  rw [index_setEntry, ← hk, Function.update_eq_self]

/-- Nor does a new source address. -/
theorem sameRegistry_setSmac (h : Nat) (mac : IasAvbMacAddress) :
    SameRegistry w (w.setStream h ((w.streams h).map fun s => { s with mSmac := mac })) := by
  refine ⟨rfl, ?_, rfl, rfl⟩
  show (fun j => (Function.update w.streams h _ j).map ReceiveStream.mAvbStreamId) = _
  rw [idOf_update, Option.map_map]
  exact Function.update_eq_self h w.idOf

theorem sameRegistry_noteDispatch (hk : w.index k = some data.stream) (now : Nat)
    (newState : IasAvbStreamState) (sMac : IasAvbMacAddress) :
    SameRegistry w (w.noteDispatch k data now newState sMac) := by
  have hentry : SameRegistry w
      (w.setEntry k { data with lastState := newState, lastTimeDispatched := now }) :=
    sameRegistry_setEntry hk
  unfold noteDispatch
  dsimp only
  split
  · exact hentry.trans (sameRegistry_setSmac data.stream sMac)
  · exact hentry

theorem sameRegistry_notifyTimeouts (now : Nat) (idleWait : Option Nat)
    (newState : Nat → IasAvbStreamState) :
    SameRegistry w (w.notifyTimeouts now idleWait newState) := by
  unfold notifyTimeouts
  generalize w.mAvbStreams.keys = keys
  induction keys generalizing w with
  | nil => exact SameRegistry.refl w
  | cons key keys ih =>
      rw [List.foldl_cons]
      refine SameRegistry.trans ?_ ih
      cases hd : w.mAvbStreams.lookup key with
      | none => exact SameRegistry.refl w
      | some data =>
          have hkey := index_of_lookup hd
          dsimp only
          split
          · exact sameRegistry_setEntry hkey
          · exact SameRegistry.refl w

/-! ## What a frame does to the registry -/

variable {now : Nat} {newState : Nat → IasAvbStreamState} {recvLength : Int} {streamId : Nat}

/-- The wildcard stream, if a frame for `streamId` turns it into a regular one. -/
structure Rebinds (w : IasAvbReceiveEngine) (streamId : Nat) (frame : Bytes) (data : StreamData) :
    Prop where
  unknown : w.index streamId = none
  wildcard : w.mAvbStreams.lookup wildcardId = some data
  address : w.dmacOf data = some (frame.slice 0 cIasAvbMacAddressLength)

/-- What the search comes to. -/
inductive Found (w : IasAvbReceiveEngine) (streamId : Nat) (frame : Bytes) :
    IasAvbReceiveEngine × Option Nat → Prop
  | exact (data : StreamData) (entry : w.mAvbStreams.lookup streamId = some data) :
      Found w streamId frame (w, some streamId)
  | rebound (data : StreamData) (rebinds : Rebinds w streamId frame data) :
      Found w streamId frame (w.rebind streamId data, some streamId)
  | other (key : Nat) (data : StreamData) (unknown : w.index streamId = none)
      (entry : w.mAvbStreams.lookup key = some data) : Found w streamId frame (w, some key)
  | nothing : Found w streamId frame (w, none)

theorem lookup_firstStream (hk : w.firstStream = some k) :
    ∃ data, w.mAvbStreams.lookup k = some data := by
  have hmem : k ∈ w.mAvbStreams := AList.mem_keys.mpr (List.min?_mem hk)
  exact Option.isSome_iff_exists.mp (AList.lookup_isSome.mpr hmem)

theorem findWildcard_cases (hnone : w.index streamId = none) (frame : Bytes) :
    Found w streamId frame (w.findWildcard streamId frame) := by
  unfold findWildcard
  split
  · rename_i data hwildcard
    split
    · rename_i haddress
      exact .rebound data ⟨hnone, hwildcard, haddress⟩
    · split
      · exact .other wildcardId data hnone hwildcard
      · exact .nothing
  · exact .nothing

theorem findStream_cases (c : ReceiveConfig) (w : IasAvbReceiveEngine) (streamId : Nat)
    (frame : Bytes) : Found w streamId frame (findStream c w streamId frame) := by
  unfold findStream
  split
  · rename_i data hentry
    exact .exact data hentry
  · rename_i hunknown
    have hnone : w.index streamId = none := index_eq_none.mpr hunknown
    have hwildcard := findWildcard_cases hnone frame
    split
    · rename_i w' key hfind
      rw [hfind] at hwildcard
      exact hwildcard
    · rename_i w' hfind
      rw [hfind] at hwildcard
      have hsame : w' = w := by
        cases hwildcard
        rfl
      rw [hsame]
      split
      · cases hfirst : w.firstStream with
        | none => exact .nothing
        | some key =>
            obtain ⟨data, hentry⟩ := lookup_firstStream hfirst
            exact .other key data hnone hentry
      · exact .nothing

/-- What a frame comes to: nothing, or one call for the stream of one entry, after the wildcard
stream was bound to the id of the frame or not. -/
inductive FrameEffect (w : IasAvbReceiveEngine) (streamId : Nat) (frame : Bytes) :
    IasAvbReceiveEngine → Option Dispatch → Prop
  | ignored : FrameEffect w streamId frame w none
  | dispatched (key : Nat) (data : StreamData) (entry : w.mAvbStreams.lookup key = some data)
      (known : w.index streamId ≠ none → key = streamId) (now : Nat)
      (newState : IasAvbStreamState) (sMac : IasAvbMacAddress) (d : Dispatch)
      (stream : d.stream = data.stream) :
      FrameEffect w streamId frame (w.noteDispatch key data now newState sMac) (some d)
  | rebound (data : StreamData) (rebinds : Rebinds w streamId frame data) (now : Nat)
      (newState : IasAvbStreamState) (sMac : IasAvbMacAddress) (d : Dispatch)
      (stream : d.stream = data.stream) :
      FrameEffect w streamId frame
        ((w.rebind streamId data).noteDispatch streamId data now newState sMac) (some d)

theorem dispatchFrame_eq (hentry : w.mAvbStreams.lookup k = some data) :
    w.dispatchFrame k frame recvLength now newState
      = (w.noteDispatch k data now (newState data.stream) (frame.slice 6 cIasAvbMacAddressLength),
        some {
          stream := data.stream
          offset := avtpBase frame
          length := Word.ofInt64 (recvLength - avtpBase frame) }) := by
  unfold dispatchFrame
  rw [hentry]

theorem forwardFrame_effect (inspected : List Nat) :
    FrameEffect w (frame.be64 (avtpBase frame + 4)) frame
      (forwardFrame c w frame recvLength now newState inspected).1
      (forwardFrame c w frame recvLength now newState inspected).2.dispatched := by
  have hfound := findStream_cases c w (frame.be64 (avtpBase frame + 4)) frame
  unfold forwardFrame
  dsimp only
  generalize hid : frame.be64 (avtpBase frame + 4) = streamId at hfound ⊢
  generalize findStream c w streamId frame = result at hfound ⊢
  cases hfound with
  | exact data hentry =>
      dsimp only
      rw [dispatchFrame_eq hentry]
      exact .dispatched streamId data hentry (fun _ => rfl) _ _ _ _ rfl
  | rebound data hrebinds =>
      have hentry : (w.rebind streamId data).mAvbStreams.lookup streamId = some data :=
        AList.lookup_insert _
      dsimp only
      rw [dispatchFrame_eq hentry]
      exact .rebound data hrebinds _ _ _ _ rfl
  | other key data hunknown hentry =>
      dsimp only
      rw [dispatchFrame_eq hentry]
      exact .dispatched key data hentry (fun hknown => absurd hunknown hknown) _ _ _ _ rfl
  | nothing => exact .ignored

/-- **A frame reaches one stream at most.** -/
theorem receiveFrame_effect (c : ReceiveConfig) (w : IasAvbReceiveEngine) (frame : Bytes)
    (recvLength : Int) (now : Nat) (newState : Nat → IasAvbStreamState) :
    FrameEffect w (frame.be64 (avtpBase frame + 4)) frame
      (receiveFrame c w frame recvLength now newState).1
      (receiveFrame c w frame recvLength now newState).2.dispatched := by
  unfold receiveFrame
  split
  · exact .ignored
  · split
    · exact .ignored
    · split
      · exact .ignored
      · split
        · dsimp only
          split
          · exact .ignored
          · exact forwardFrame_effect _
        · exact forwardFrame_effect _

/-! ## The invariant -/

/-- **The registry is in order.** -/
structure RegistryInv (w : IasAvbReceiveEngine) : Prop where
  /-- A stream is in the map under its id, and under nothing else. -/
  agree : Agree w.index w.idOf
  /-- Numbers that are not given out yet mean nothing. -/
  fresh : ∀ h, w.allocated ≤ h → w.idOf h = none
  /-- The stream that a call has added is still there. -/
  pending : ∀ streamId h, w.call = .added streamId h → w.idOf h ≠ none

theorem registryInv_start : RegistryInv {} where
  agree := agree_empty
  fresh := fun _ _ => rfl
  pending := fun _ _ h => nomatch h

theorem RegistryInv.congr (h : RegistryInv w) (hsame : SameRegistry w w') : RegistryInv w' where
  agree := by
    rw [hsame.index, hsame.ids]
    exact h.agree
  fresh := by
    rw [hsame.ids, hsame.allocated]
    exact h.fresh
  pending := by
    rw [hsame.ids, hsame.call]
    exact h.pending

theorem RegistryInv.setCall (h : RegistryInv w) {call : ReceiveCall}
    (hcall : ∀ streamId h, call = .added streamId h → w.idOf h ≠ none) :
    RegistryInv (w.setCall call) :=
  ⟨h.agree, h.fresh, hcall⟩

/-- **The wildcard stream moves to another key**, and takes the id along. -/
theorem registryInv_rebind (h : RegistryInv w) (hrebinds : Rebinds w streamId frame data) :
    RegistryInv (w.rebind streamId data) := by
  have hindex := index_of_lookup hrebinds.wildcard
  have hid : w.idOf data.stream ≠ none := by
    rw [(h.agree wildcardId data.stream).mp hindex]
    exact fun hnone => nomatch hnone
  have hids := idOf_rebind streamId hid
  refine ⟨?_, ?_, ?_⟩
  · rw [index_rebind, hids]
    exact h.agree.move hindex hrebinds.unknown
  · intro j hj
    have hne : j ≠ data.stream := fun heq => hid (heq ▸ h.fresh j hj)
    rw [hids, Function.update_of_ne hne]
    exact h.fresh j hj
  · intro id' j hcall
    rw [hids]
    by_cases hj : j = data.stream
    · rw [hj, Function.update_self]
      exact fun hnone => nomatch hnone
    · rw [Function.update_of_ne hj]
      exact h.pending id' j hcall

theorem registryInv_frame {d : Option Dispatch} (h : RegistryInv w)
    (heffect : FrameEffect w streamId frame w' d) : RegistryInv w' := by
  cases heffect with
  | ignored => exact h
  | dispatched key data hentry _ now newState sMac =>
      exact h.congr (sameRegistry_noteDispatch (index_of_lookup hentry) now newState sMac)
  | rebound data hrebinds now newState sMac =>
      refine (registryInv_rebind h hrebinds).congr (sameRegistry_noteDispatch ?_ now newState sMac)
      rw [index_rebind, Function.update_self]

theorem registryInv_remove (h : RegistryInv w) (hk : w.index k = some data.stream)
    {result : IasAvbProcessingResult} :
    RegistryInv ((w.remove k data.stream).setCall (.returned result)) := by
  refine ⟨?_, ?_, fun _ _ hcall => nomatch hcall⟩
  · show Agree (w.remove k data.stream).index (w.remove k data.stream).idOf
    rw [index_remove, idOf_remove]
    exact h.agree.remove hk
  · intro j hj
    show (w.remove k data.stream).idOf j = none
    rw [idOf_remove]
    by_cases heq : j = data.stream
    · rw [heq, Function.update_self]
    · rw [Function.update_of_ne heq]
      exact h.fresh j hj

theorem registryInv_addStream (h : RegistryInv w) (hfree : w.index streamId = none)
    (mac : IasAvbMacAddress) :
    RegistryInv ((w.addStream streamId mac).setCall (.added streamId w.allocated)) := by
  refine ⟨?_, ?_, ?_⟩
  · show Agree (w.addStream streamId mac).index (w.addStream streamId mac).idOf
    rw [index_addStream, idOf_addStream]
    exact h.agree.add hfree (h.fresh _ (Nat.le_refl _))
  · intro j hj
    have hlt : w.allocated + 1 ≤ j := hj
    show (w.addStream streamId mac).idOf j = none
    rw [idOf_addStream, Function.update_of_ne (by omega)]
    exact h.fresh j (by omega)
  · rintro id' j ⟨⟩
    show (w.addStream streamId mac).idOf w.allocated ≠ none
    rw [idOf_addStream, Function.update_self]
    exact fun hnone => nomatch hnone

end IasAvbReceiveEngine

end AvbStreamHandler
