import AvbStreamHandler.Receive.StreamRegistry

/-!
# Runs of the receive engine

Clients create and destroy streams, one call at a time, and the receive thread works on frames
and timeouts whenever it gets the lock. The registry stays in order, and a call that fails
leaves no trace, as long as the receive thread does not take away what the call under way
relies on.
-/

namespace AvbStreamHandler

open Kit Kit.Run Kit.Registry IasAvbProcessingResult

namespace IasAvbReceiveEngine

/-- What happens to the engine; the first three are the parts of a call that creates a stream,
and the last two the receive thread's. -/
inductive EngineEvent
  | createReceiveStream (streamId : Nat) (destMacAddr : IasAvbMacAddress)
  | initReceive (result : IasAvbProcessingResult)
  | bindMcastAddr (success : Bool)
  | destroyAvbStream (streamId : Nat)
  | receiveFrame (r : Reception) (frame : Bytes) (now : Nat) (newState : Nat → IasAvbStreamState)
  | notifyTimeouts (now : Nat) (idleWait : Option Nat) (newState : Nat → IasAvbStreamState)

def step (c : ReceiveConfig) (w : IasAvbReceiveEngine) : EngineEvent → IasAvbReceiveEngine
  | .createReceiveStream streamId destMacAddr => w.createReceiveStream streamId destMacAddr
  | .initReceive result => w.initReceive result
  | .bindMcastAddr success => w.bindMcastAddr success
  | .destroyAvbStream streamId => w.destroyAvbStream streamId
  | .receiveFrame r frame now newState => (receiveFrame c w frame r.recvLength now newState).1
  | .notifyTimeouts now idleWait newState => w.notifyTimeouts now idleWait newState

/-- **Undisturbed**: the id that was found free is still free when the stream is added, and the
stream that was added is still under its id when the binding fails. -/
def Undisturbed (w : IasAvbReceiveEngine) : EngineEvent → Prop
  | .initReceive result =>
      result = eIasAvbProcOK → ∀ streamId mac, w.call = .checked streamId mac →
        w.index streamId = none
  | .bindMcastAddr success =>
      success = false → ∀ streamId h, w.call = .added streamId h → w.index streamId = some h
  | _ => True

/-- **The registry is right**: every key is the id of the stream stored under it, and every
stream there is is stored exactly once. -/
structure Registered (w : IasAvbReceiveEngine) : Prop where
  keys : ∀ k data, w.mAvbStreams.lookup k = some data →
    ∃ s, w.streams data.stream = some s ∧ s.mAvbStreamId = k
  once : ∀ h, w.streams h ≠ none → ∃! k, w.index k = some h

/-- One stream at most is told about a frame, the one with the id of the frame if there is one;
the entries of all others are what they were. -/
structure Dispatches (w w' : IasAvbReceiveEngine) (streamId : Nat) (d : Option Dispatch) : Prop
    where
  exact : ∀ h, w.index streamId = some h → ∀ d', d = some d' → d'.stream = h
  others : ∀ k data, w'.mAvbStreams.lookup k = some data →
    w.mAvbStreams.lookup k = some data ∨ ∃ d', d = some d' ∧ d'.stream = data.stream

/-- The map without the stream that the call under way has added. -/
def settled (w : IasAvbReceiveEngine) (k : Nat) : Option Nat :=
  match w.call with
  | .added _ h => if w.index k = some h then none else w.index k
  | _ => w.index k

/-- What a step has to do besides: a frame goes to the right stream, and the parts of a call
that creates a stream leave the rest of the map alone, up to the last, unless that succeeds. -/
def Proper (c : ReceiveConfig) (w : IasAvbReceiveEngine) : EngineEvent → Prop
  | .receiveFrame r frame now newState =>
      Dispatches w (receiveFrame c w frame r.recvLength now newState).1
        (frame.be64 (avtpBase frame + 4))
        (receiveFrame c w frame r.recvLength now newState).2.dispatched
  | .createReceiveStream streamId mac => (w.createReceiveStream streamId mac).settled = w.settled
  | .initReceive result => (w.initReceive result).settled = w.settled
  | .bindMcastAddr success => success = false → (w.bindMcastAddr success).settled = w.settled
  | _ => True

variable {c : ReceiveConfig} {w w' : IasAvbReceiveEngine} {frame : Bytes} {streamId h : Nat}
  {ev : EngineEvent}

theorem settled_returned {result : IasAvbProcessingResult} (hcall : w.call = .returned result) :
    w.settled = w.index := by
  funext k
  unfold settled
  rw [hcall]

theorem settled_checked {mac : IasAvbMacAddress} (hcall : w.call = .checked streamId mac) :
    w.settled = w.index := by
  funext k
  unfold settled
  rw [hcall]

theorem settled_added (hcall : w.call = .added streamId h) (k : Nat) :
    w.settled k = if w.index k = some h then none else w.index k := by
  unfold settled
  rw [hcall]

/-- What the check of the id says. -/
theorem lookup_of_free (hfree : w.checkStreamIdInUse streamId = eIasAvbProcOK) :
    w.mAvbStreams.lookup streamId = none := by
  unfold checkStreamIdInUse at hfree
  split at hfree
  · exact nomatch hfree
  · rename_i hunused
    exact Option.not_isSome_iff_eq_none.mp hunused

/-! ## One step -/

theorem registered_of_inv (hinv : RegistryInv w) : Registered w := by
  constructor
  · intro k data hentry
    have hid := (hinv.agree k data.stream).mp (index_of_lookup hentry)
    obtain ⟨s, hs, hk⟩ := Option.map_eq_some_iff.mp hid
    exact ⟨s, hs, hk⟩
  · intro h hs
    refine hinv.agree.existsUnique fun hnone => hs ?_
    exact Option.map_eq_none_iff.mp hnone

theorem registryInv_step (hinv : RegistryInv w) (hok : Undisturbed w ev) :
    RegistryInv (step c w ev) := by
  cases ev with
  | createReceiveStream streamId mac =>
      show RegistryInv (w.createReceiveStream streamId mac)
      unfold createReceiveStream
      split
      · split
        · exact hinv.setCall fun _ _ hcall => nomatch hcall
        · exact hinv.setCall fun _ _ hcall => nomatch hcall
      · exact hinv
  | initReceive result =>
      show RegistryInv (w.initReceive result)
      unfold initReceive
      split
      · rename_i streamId mac hcall
        split
        · rename_i hresult
          exact registryInv_addStream hinv (hok hresult streamId mac hcall) mac
        · exact hinv.setCall fun _ _ hcall => nomatch hcall
      · exact hinv
  | bindMcastAddr success =>
      show RegistryInv (w.bindMcastAddr success)
      unfold bindMcastAddr
      split
      · split
        · exact hinv.setCall fun _ _ hcall => nomatch hcall
        · split
          · rename_i data hentry
            exact registryInv_remove hinv (index_of_lookup hentry)
          · exact hinv.setCall fun _ _ hcall => nomatch hcall
      · exact hinv
  | destroyAvbStream streamId =>
      show RegistryInv (w.destroyAvbStream streamId)
      unfold destroyAvbStream
      split
      · split
        · rename_i data hentry
          exact registryInv_remove hinv (index_of_lookup hentry)
        · exact hinv.setCall fun _ _ hcall => nomatch hcall
      · exact hinv
  | receiveFrame r frame now newState => 
      exact registryInv_frame hinv (receiveFrame_effect c w frame r.recvLength now newState)
  | notifyTimeouts now idleWait newState =>
      exact hinv.congr (sameRegistry_notifyTimeouts now idleWait newState)

theorem lookup_noteDispatch (k key : Nat) (data : StreamData) (now : Nat)
    (newState : IasAvbStreamState) (sMac : IasAvbMacAddress) (hne : k ≠ key) :
    (w.noteDispatch key data now newState sMac).mAvbStreams.lookup k = w.mAvbStreams.lookup k := by
  unfold noteDispatch
  dsimp only
  split <;> exact AList.lookup_insert_ne hne

theorem lookup_noteDispatch_self (key : Nat) (data : StreamData) (now : Nat)
    (newState : IasAvbStreamState) (sMac : IasAvbMacAddress) :
    (w.noteDispatch key data now newState sMac).mAvbStreams.lookup key
      = some { data with lastState := newState, lastTimeDispatched := now } := by
  unfold noteDispatch
  dsimp only
  split <;> exact AList.lookup_insert _

/-- **A frame goes to the stream it is for.** -/
theorem dispatches_frame {d : Option Dispatch} (heffect : FrameEffect w streamId frame w' d) :
    Dispatches w w' streamId d := by
  cases heffect with
  | ignored => exact ⟨fun _ _ _ hd => (nomatch hd), fun _ _ hentry => Or.inl hentry⟩
  | dispatched key data hentry hknown now newState sMac d hstream =>
      constructor
      · intro h hindex d' hd'
        obtain rfl := Option.some.inj hd'
        have hkey : key = streamId := hknown fun hnone => nomatch hnone.symm.trans hindex
        rw [hkey] at hentry
        rw [hstream]
        exact Option.some.inj ((index_of_lookup hentry).symm.trans hindex)
      · intro k data' hentry'
        by_cases hk : k = key
        · rw [hk, lookup_noteDispatch_self] at hentry'
          obtain rfl := Option.some.inj hentry'
          exact Or.inr ⟨d, rfl, hstream⟩
        · rw [lookup_noteDispatch _ _ _ _ _ _ hk] at hentry'
          exact Or.inl hentry'
  | rebound data hrebinds now newState sMac d hstream =>
      constructor
      · intro h hindex
        exact nomatch hrebinds.unknown.symm.trans hindex
      · intro k data' hentry'
        by_cases hk : k = streamId
        · rw [hk, lookup_noteDispatch_self] at hentry'
          obtain rfl := Option.some.inj hentry'
          exact Or.inr ⟨d, rfl, hstream⟩
        · rw [lookup_noteDispatch _ _ _ _ _ _ hk] at hentry'
          have herased : (w.mAvbStreams.erase wildcardId).lookup k = some data' :=
            (AList.lookup_insert_ne hk).symm.trans hentry'
          by_cases hzero : k = wildcardId
          · rw [hzero, AList.lookup_erase] at herased
            exact nomatch herased
          · rw [AList.lookup_erase_ne hzero] at herased
            exact Or.inl herased

/-- What is added does not show yet, exactly if it goes where nothing was. -/
theorem settled_initReceive (hinv : RegistryInv w) (result : IasAvbProcessingResult) :
    (w.initReceive result).settled = w.settled ↔ Undisturbed w (.initReceive result) := by
  unfold initReceive Undisturbed
  cases hcall : w.call with
  | returned => exact iff_of_true rfl fun _ _ _ h => nomatch h
  | added => exact iff_of_true rfl fun _ _ _ h => nomatch h
  | checked streamId mac =>
      dsimp only
      split
      · rename_i hresult
        have hnew : ∀ k, w.index k ≠ some w.allocated :=
          hinv.agree.unlabelled (hinv.fresh _ (Nat.le_refl _))
        have hsettled : ∀ k, ((w.addStream streamId mac).setCall
            (.added streamId w.allocated)).settled k
              = if k = streamId then none else w.index k := by
          intro k
          have hindex : ((w.addStream streamId mac).setCall (.added streamId w.allocated)).index
              = Function.update w.index streamId (some w.allocated) := index_addStream streamId mac
          rw [settled_added rfl k, hindex]
          by_cases hk : k = streamId
          · rw [if_pos hk, hk, Function.update_self, if_pos rfl]
          · rw [if_neg hk, Function.update_of_ne hk, if_neg (hnew k)]
        rw [settled_checked hcall]
        constructor
        · rintro hsame - id' mac' ⟨⟩
          have hat := congrFun hsame streamId
          rw [hsettled, if_pos rfl] at hat
          exact hat.symm
        · intro hfree
          funext k
          rw [hsettled]
          split
          · rename_i hk
            rw [hk]
            exact (hfree hresult streamId mac rfl).symm
          · rfl
      · rename_i hresult
        refine iff_of_true ?_ fun hok => absurd hok hresult
        rw [settled_checked hcall]
        exact settled_returned rfl

/-- The cleanup behind a binding that failed. -/
theorem settled_bindFailed (hcall : w.call = .added streamId h) :
    (w.bindMcastAddr false).settled = Function.update w.index streamId none := by
  unfold bindMcastAddr
  rw [hcall]
  dsimp only
  rw [if_neg Bool.false_ne_true]
  cases hentry : w.mAvbStreams.lookup streamId with
  | some data => exact (settled_returned rfl).trans (index_remove streamId data.stream)
  | none =>
      refine (settled_returned rfl).trans ?_
      rw [← index_eq_none.mpr hentry, Function.update_eq_self]
      rfl

/-- What was added is gone again, exactly if it was still where it had been put. -/
theorem settled_bindMcastAddr (hinv : RegistryInv w) :
    (w.bindMcastAddr false).settled = w.settled ↔ Undisturbed w (.bindMcastAddr false) := by
  unfold Undisturbed
  cases hcall : w.call with
  | returned =>
      refine iff_of_true ?_ fun _ _ _ h => nomatch h
      unfold bindMcastAddr
      rw [hcall]
  | checked =>
      refine iff_of_true ?_ fun _ _ _ h => nomatch h
      unfold bindMcastAddr
      rw [hcall]
  | added streamId h =>
      rw [settled_bindFailed hcall]
      constructor
      · rintro hsame - id' h' ⟨⟩
        -- the stream is somewhere, and the cleanup must have found it there
        obtain ⟨k, hk, -⟩ := hinv.agree.existsUnique (hinv.pending streamId h hcall)
        by_cases hat : k = streamId
        · rw [← hat]
          exact hk
        · have hleft := congrFun hsame k
          rw [Function.update_of_ne hat, settled_added hcall, if_pos hk, hk] at hleft
          exact nomatch hleft
      · intro hthere
        have hat := hthere rfl streamId h rfl
        funext k
        rw [settled_added hcall]
        by_cases hk : k = streamId
        · rw [hk, Function.update_self, if_pos hat]
        · rw [Function.update_of_ne hk, if_neg]
          intro hother
          exact hk (Option.some.inj (((hinv.agree k h).mp hother).symm.trans
            ((hinv.agree streamId h).mp hat)))

/-- **A step does what it has to do exactly if it is undisturbed.** -/
theorem proper_iff (hinv : RegistryInv w) :
    Undisturbed w ev ↔ Registered (step c w ev) ∧ Proper c w ev := by
  have hgood : Undisturbed w ev → Registered (step c w ev) :=
    fun hok => registered_of_inv (registryInv_step hinv hok)
  cases ev with
  | createReceiveStream streamId mac =>
      refine ⟨fun hok => ⟨hgood hok, ?_⟩, fun _ => trivial⟩
      show (w.createReceiveStream streamId mac).settled = w.settled
      unfold createReceiveStream
      split
      · rename_i hcall
        rw [settled_returned hcall]
        split
        · exact settled_checked rfl
        · exact settled_returned rfl
      · rfl
  | initReceive result =>
      rw [← settled_initReceive hinv] at hgood ⊢
      exact ⟨fun hok => ⟨hgood hok, hok⟩, fun h => h.2⟩
  | bindMcastAddr success =>
      cases success with
      | true => exact ⟨fun hok => ⟨hgood hok, fun h => nomatch h⟩, fun _ h => nomatch h⟩
      | false =>
          rw [← settled_bindMcastAddr hinv] at hgood ⊢
          exact ⟨fun hok => ⟨hgood hok, fun _ => hok⟩, fun h => h.2 rfl⟩
  | destroyAvbStream streamId => exact ⟨fun hok => ⟨hgood hok, trivial⟩, fun _ => trivial⟩
  | receiveFrame r frame now newState =>
      exact ⟨fun hok => ⟨hgood hok,
        dispatches_frame (receiveFrame_effect c w frame r.recvLength now newState)⟩,
        fun _ => trivial⟩
  | notifyTimeouts now idleWait newState => exact ⟨fun hok => ⟨hgood hok, trivial⟩, fun _ => trivial⟩

/-- **A call that is not interrupted and fails leaves the map as it was**, entry by entry,
whatever it failed at. -/
theorem failed_create_undone {before result : IasAvbProcessingResult} {success : Bool}
    {mac : IasAvbMacAddress} (hcall : w.call = .returned before)
    (hfail : (exec (step c) w [.createReceiveStream streamId mac, .initReceive result,
      .bindMcastAddr success]).call ≠ .returned eIasAvbProcOK) (k : Nat) :
    (exec (step c) w [.createReceiveStream streamId mac, .initReceive result,
      .bindMcastAddr success]).mAvbStreams.lookup k = w.mAvbStreams.lookup k := by
  have hexec : exec (step c) w [.createReceiveStream streamId mac, .initReceive result,
      .bindMcastAddr success]
        = ((w.createReceiveStream streamId mac).initReceive result).bindMcastAddr success := rfl
  rw [hexec] at hfail ⊢
  unfold createReceiveStream at hfail ⊢
  rw [hcall] at hfail ⊢
  dsimp only at hfail ⊢
  by_cases hfree : w.checkStreamIdInUse streamId = eIasAvbProcOK
  · rw [if_pos hfree] at hfail ⊢
    by_cases hresult : result = eIasAvbProcOK
    · have hadded : (w.setCall (.checked streamId mac)).initReceive result
          = (w.addStream streamId mac).setCall (.added streamId w.allocated) := if_pos hresult
      rw [hadded] at hfail ⊢
      cases success with
      | true => exact absurd rfl hfail
      | false =>
          have hentry : (w.addStream streamId mac).mAvbStreams.lookup streamId
              = some { stream := w.allocated, lastState := .eIasAvbStreamInactive } :=
            AList.lookup_insert _
          have hundone : (((w.addStream streamId mac).setCall
              (.added streamId w.allocated)).bindMcastAddr false).mAvbStreams
                = (w.addStream streamId mac).mAvbStreams.erase streamId := by
            unfold bindMcastAddr setCall
            dsimp only
            rw [if_neg Bool.false_ne_true, hentry]
            rfl
          rw [hundone]
          by_cases hk : k = streamId
          · rw [hk, AList.lookup_erase, lookup_of_free hfree]
          · rw [AList.lookup_erase_ne hk]
            exact AList.lookup_insert_ne hk
    · have hrefused : (w.setCall (.checked streamId mac)).initReceive result
          = w.setCall (.returned result) := if_neg hresult
      rw [hrefused]
      rfl
  · rw [if_neg hfree]
    rfl

/-! ## Runs -/

/--
**The registry of receive streams.**

In every run, however the calls of the clients and the work of the receive thread interleave:
after every step the keys are the ids of the streams stored under them and every stream there
is is stored once, a frame goes to one stream at most and to the one with its id if there is
one, and a call that creates a stream leaves the rest of the map alone and nothing behind if
it fails — exactly if all steps are undisturbed.
-/
theorem registry_iff {es : List EngineEvent} : Always (step c) Undisturbed {} es
    ↔ Always (step c) (fun w ev => Registered (step c w ev) ∧ Proper c w ev) {} es :=
  @always_congr _ _ _ _ RegistryInv _ (fun _ _ hinv => proper_iff hinv)
    (fun _ _ hinv hok => registryInv_step hinv hok) _ _ registryInv_start

/-- The first address of the range for streams, and a frame to it for stream 7. -/
def streamMac : IasAvbMacAddress := [0x91, 0xE0, 0xF0, 0, 0, 1]

def frameSeven : Bytes :=
  Bytes.ofList (streamMac ++ [2, 0, 0, 0, 0, 1, 0x22, 0xF0, 0x02, 0x80, 0, 0, 0, 0, 0, 0, 0, 0, 0, 7])

def receiveSeven : EngineEvent :=
  .receiveFrame (.recvfrom 60) frameSeven 0 fun _ => .eIasAvbStreamValid

/-- Stream 7 is found free, the wildcard stream becomes stream 7, and stream 7 is added. -/
def lateAdd : List EngineEvent :=
  [.createReceiveStream wildcardId streamMac, .initReceive eIasAvbProcOK, .bindMcastAddr true,
    .createReceiveStream 7 streamMac, receiveSeven, .initReceive eIasAvbProcOK]

/-- The wildcard stream is added, becomes stream 7, and cannot be bound. -/
def lateFailure : List EngineEvent :=
  [.createReceiveStream wildcardId streamMac, .initReceive eIasAvbProcOK, receiveSeven,
    .bindMcastAddr false]

/-- **What a frame can do in the middle of a call**: the wildcard stream is lost, though nobody
destroyed it; and a call that fails leaves its stream in the map. -/
theorem frames_disturb :
    ((exec (step {}) {} lateAdd).streams 0).isSome = true
      ∧ (exec (step {}) {} lateAdd).mAvbStreams.keys = [7]
      ∧ (exec (step {}) {} lateAdd).index 7 = some 1
      ∧ ¬ Registered (exec (step {}) {} lateAdd)
      ∧ (exec (step {}) {} lateFailure).call = .returned eIasAvbProcErr
      ∧ (exec (step {}) {} lateFailure).mAvbStreams.keys = [7]
      ∧ ¬ Always (step {}) (fun w ev => Registered (step {} w ev) ∧ Proper {} w ev) {}
        lateFailure := by
  have hkeys : (exec (step {}) {} lateAdd).mAvbStreams.keys = [7] := by decide +kernel
  have hseven : (exec (step {}) {} lateAdd).index 7 = some 1 := by decide +kernel
  refine ⟨by decide +kernel, hkeys, hseven, ?_, by decide +kernel, by decide +kernel, ?_⟩
  · intro h
    obtain ⟨k, hk, -⟩ := h.once 0 (Option.isSome_iff_ne_none.mp (by decide +kernel))
    have hmem : k ∈ (exec (step {}) {} lateAdd).mAvbStreams.keys := by
      obtain ⟨data, hentry, -⟩ := Option.map_eq_some_iff.mp hk
      exact AList.mem_keys.mp (AList.lookup_isSome.mp (Option.isSome_of_eq_some hentry))
    rw [hkeys, List.mem_singleton] at hmem
    rw [hmem, hseven] at hk
    exact absurd hk (by decide)
  · intro h
    have hcut : Always (step {}) (fun w ev => Registered (step {} w ev) ∧ Proper {} w ev) {}
        (lateFailure.take 3 ++ [.bindMcastAddr false]) := h
    have hlast := always_append.mp hcut
    have hsettled := congrFun (hlast.2.1.2 rfl) 7
    exact absurd hsettled (by decide +kernel)

/-- While a call creates a stream, no frame turns the wildcard stream into a regular one. -/
def Quiet (w : IasAvbReceiveEngine) : EngineEvent → Prop
  | .receiveFrame _ frame _ _ =>
      (∀ data, ¬ Rebinds w (frame.be64 (avtpBase frame + 4)) frame data)
        ∨ ∃ result, w.call = .returned result
  | _ => True

/-- What a call relies on from one part to the next. -/
structure Reliable (w : IasAvbReceiveEngine) : Prop where
  checked : ∀ streamId mac, w.call = .checked streamId mac → w.index streamId = none
  added : ∀ streamId h, w.call = .added streamId h → w.index streamId = some h

theorem reliable_returned {result : IasAvbProcessingResult} (hcall : w.call = .returned result) :
    Reliable w :=
  ⟨fun _ _ h => (nomatch hcall.symm.trans h), fun _ _ h => (nomatch hcall.symm.trans h)⟩

theorem Reliable.congr (h : Reliable w) (hsame : SameRegistry w w') : Reliable w' := by
  constructor
  · rw [hsame.call, hsame.index]
    exact h.checked
  · rw [hsame.call, hsame.index]
    exact h.added

theorem reliable_step (h : Reliable w) (hquiet : Quiet w ev) : Reliable (step c w ev) := by
  cases ev with
  | createReceiveStream streamId mac =>
      show Reliable (w.createReceiveStream streamId mac)
      unfold createReceiveStream
      split
      · split
        · -- the id was free when it was checked, and the call has not been left since
          rename_i hfree
          refine ⟨?_, fun _ _ hcall => nomatch hcall⟩
          rintro id' mac' ⟨⟩
          exact index_eq_none.mpr (lookup_of_free hfree)
        · exact reliable_returned rfl
      · exact h
  | initReceive result =>
      show Reliable (w.initReceive result)
      unfold initReceive
      split
      · rename_i streamId mac hcall
        split
        · refine ⟨fun _ _ hcall => (nomatch hcall), ?_⟩
          rintro id' h' ⟨⟩
          show (w.addStream streamId mac).index streamId = some w.allocated
          rw [index_addStream, Function.update_self]
        · exact reliable_returned rfl
      · exact h
  | bindMcastAddr success =>
      show Reliable (w.bindMcastAddr success)
      unfold bindMcastAddr
      split
      · split
        · exact reliable_returned rfl
        · split <;> exact reliable_returned rfl
      · exact h
  | destroyAvbStream streamId =>
      show Reliable (w.destroyAvbStream streamId)
      unfold destroyAvbStream
      split
      · split <;> exact reliable_returned rfl
      · exact h
  | receiveFrame r frame now newState =>
      show Reliable (receiveFrame c w frame r.recvLength now newState).1
      have heffect := receiveFrame_effect c w frame r.recvLength now newState
      generalize (receiveFrame c w frame r.recvLength now newState).1 = w' at heffect ⊢
      generalize (receiveFrame c w frame r.recvLength now newState).2.dispatched = d at heffect
      cases heffect with
      | ignored => exact h
      | dispatched key data hentry _ now newState sMac =>
          exact h.congr (sameRegistry_noteDispatch (index_of_lookup hentry) now newState sMac)
      | rebound data hrebinds now newState sMac =>
          -- a packet may move a stream to another id, but not while a call is under way
          rcases hquiet with hnone | ⟨result, hcall⟩
          · exact absurd hrebinds (hnone data)
          · have hindex : (w.rebind (frame.be64 (avtpBase frame + 4)) data).index
                (frame.be64 (avtpBase frame + 4)) = some data.stream := by
              rw [index_rebind, Function.update_self]
            exact reliable_returned
              ((sameRegistry_noteDispatch hindex now newState sMac).call.trans hcall)
  | notifyTimeouts now idleWait newState =>
      exact h.congr (sameRegistry_notifyTimeouts now idleWait newState)

/-- **Without such frames nothing is disturbed**: in particular if every call that creates a
stream is through before the receive thread goes on. -/
theorem undisturbed_of_quiet {es : List EngineEvent} (hquiet : Always (step c) Quiet {} es) :
    Always (step c) Undisturbed {} es := by
  refine @always_imp _ _ _ _ Reliable _ ?_ (fun _ _ h hquiet => reliable_step h hquiet) _ _
    (reliable_returned rfl) hquiet
  intro w ev h _
  cases ev with
  | initReceive result => exact fun _ streamId mac hcall => h.checked streamId mac hcall
  | bindMcastAddr success => exact fun _ streamId h' hcall => h.added streamId h' hcall
  | createReceiveStream => trivial
  | destroyAvbStream => trivial
  | receiveFrame => trivial
  | notifyTimeouts => trivial

end IasAvbReceiveEngine

end AvbStreamHandler
