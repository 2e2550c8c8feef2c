import AvbStreamHandler.Receive.StreamEvents

/-!
# The journal of the receive thread

An entry of the map and the stream's part of the journal go together: the entry has the state
that was told last, and the reading at the last packet as long as no timeout came behind it. A
call for one stream moves on its own entry and its own part, and nothing else does.
-/

namespace AvbStreamHandler

open Kit Kit.Changes Kit.Word IasAvbReceiveEngine

/-! ## One call -/

section

variable {data : StreamData} {now : Nat} {report : StateReport}

theorem checkStreamState_eq (data : StreamData) (newState : IasAvbStreamState) :
    data.checkStreamState newState
      = ({ data with lastState := newState }, told data.lastState [newState]) := by
  unfold StreamData.checkStreamState
  rw [told_cons]
  by_cases hstate : data.lastState = newState
  · rw [if_neg (not_not.mpr hstate), if_pos hstate, ← hstate]
    rfl
  · rw [if_pos hstate, if_neg hstate]
    rfl

/-- **What a call leaves behind**, and what the client is told. -/
theorem dispatchPacket_eq (data : StreamData) (now : Nat) (report : StateReport) :
    data.dispatchPacket now report
      = ({ data with lastState := report.after, lastTimeDispatched := now },
        told data.lastState [report.before, report.after]) := by
  unfold StreamData.dispatchPacket
  simp only [checkStreamState_eq]
  have hpieces := told_append data.lastState [report.before] [report.after]
  exact Prod.ext rfl hpieces.symm

theorem record_notified (streamId : Option Nat) (packet : Bool) :
    (data.record streamId packet now report).notified
      = told data.lastState [report.before, report.after] := by
  show (data.dispatchPacket now report).2 = _
  rw [dispatchPacket_eq]

end

/-! ## The entries -/

namespace IasAvbReceiveEngine

variable {w w' : IasAvbReceiveEngine} {data : StreamData} {key now : Nat}

/-- No stream is in the map twice. -/
def OneEntryEach (w : IasAvbReceiveEngine) : Prop :=
  ∀ k k' data data', w.mAvbStreams.lookup k = some data → w.mAvbStreams.lookup k' = some data' →
    data.stream = data'.stream → k = k'

theorem entryOf_eq (hone : OneEntryEach w) (hentry : w.mAvbStreams.lookup key = some data) :
    w.entryOf data.stream = some data := by
  have hmem : data ∈ w.mAvbStreams.entries.map Sigma.snd :=
    List.mem_map.mpr ⟨⟨key, data⟩, AList.mem_lookup_iff.mp hentry, rfl⟩
  unfold entryOf
  obtain ⟨data', hfound⟩ : ∃ data', (w.mAvbStreams.entries.map Sigma.snd).find?
      (fun d => decide (d.stream = data.stream)) = some data' := by
    refine Option.isSome_iff_exists.mp (List.find?_isSome.mpr ⟨data, hmem, ?_⟩)
    exact decide_eq_true rfl
  have hsame := List.find?_some hfound
  have hstream : data'.stream = data.stream := of_decide_eq_true hsame
  obtain ⟨⟨k, d⟩, hk, hd⟩ := List.mem_map.mp (List.mem_of_find?_eq_some hfound)
  obtain rfl : d = data' := hd
  have hentry' : w.mAvbStreams.lookup k = some d := AList.mem_lookup_iff.mpr hk
  obtain rfl := hone k key d data hentry' hentry hstream
  rw [hfound, ← hentry', hentry]

/-- **One entry was served**, and no other is touched. -/
structure Serves (w w' : IasAvbReceiveEngine) (data data' : StreamData) : Prop where
  entry : ∃ k, w.mAvbStreams.lookup k = some data
  stream : data'.stream = data.stream
  entries : ∃ key, ∀ k d, w'.mAvbStreams.lookup k = some d →
    (k = key ∧ d = data') ∨ (w.mAvbStreams.lookup k = some d ∧ d.stream ≠ data.stream)
  allocated : w'.allocated = w.allocated

theorem serves_setEntry {data' : StreamData} (hone : OneEntryEach w)
    (hentry : w.mAvbStreams.lookup key = some data) (hstream : data'.stream = data.stream) :
    Serves w (w.setEntry key data') data data' where
  entry := ⟨key, hentry⟩
  stream := hstream
  allocated := rfl
  entries := by
    refine ⟨key, fun k d hd => ?_⟩
    have hlookup : (w.mAvbStreams.insert key data').lookup k = some d := hd
    by_cases hk : k = key
    · rw [hk, AList.lookup_insert] at hlookup
      exact Or.inl ⟨hk, (Option.some.inj hlookup).symm⟩
    · rw [AList.lookup_insert_ne hk] at hlookup
      exact Or.inr ⟨hlookup, fun hsame => hk (hone k key d data hlookup hentry hsame)⟩

theorem serves_noteDispatch (hone : OneEntryEach w)
    (hentry : w.mAvbStreams.lookup key = some data) (newState : IasAvbStreamState)
    (sMac : IasAvbMacAddress) :
    Serves w (w.noteDispatch key data now newState sMac) data
      { data with lastState := newState, lastTimeDispatched := now } where
  entry := ⟨key, hentry⟩
  stream := rfl
  allocated := by
    unfold noteDispatch
    dsimp only
    split <;> rfl
  entries := by
    refine ⟨key, fun k d hd => ?_⟩
    by_cases hk : k = key
    · rw [hk, lookup_noteDispatch_self] at hd
      exact Or.inl ⟨hk, (Option.some.inj hd).symm⟩
    · rw [lookup_noteDispatch _ _ _ _ _ _ hk] at hd
      exact Or.inr ⟨hd, fun hsame => hk (hone k key d data hd hentry hsame)⟩

/-- The wildcard stream moves first. -/
theorem serves_rebind {streamId : Nat} {frame : Bytes} (hone : OneEntryEach w)
    (hrebinds : Rebinds w streamId frame data) (newState : IasAvbStreamState)
    (sMac : IasAvbMacAddress) :
    Serves w ((w.rebind streamId data).noteDispatch streamId data now newState sMac) data
      { data with lastState := newState, lastTimeDispatched := now } where
  entry := ⟨wildcardId, hrebinds.wildcard⟩
  stream := rfl
  allocated := by
    unfold noteDispatch
    dsimp only
    split <;> rfl
  entries := by
    refine ⟨streamId, fun k d hd => ?_⟩
    by_cases hk : k = streamId
    · rw [hk, lookup_noteDispatch_self] at hd
      exact Or.inl ⟨hk, (Option.some.inj hd).symm⟩
    · rw [lookup_noteDispatch _ _ _ _ _ _ hk] at hd
      have hlookup : ((w.mAvbStreams.erase wildcardId).insert streamId data).lookup k = some d :=
        hd
      rw [AList.lookup_insert_ne hk] at hlookup
      have hwild : k ≠ wildcardId := by
        rintro rfl
        rw [AList.lookup_erase] at hlookup
        cases hlookup
      rw [AList.lookup_erase_ne hwild] at hlookup
      exact Or.inr ⟨hlookup, fun hsame =>
        hwild (hone k wildcardId d data hlookup hrebinds.wildcard hsame)⟩

/-- A frame is ignored, or a stream is served. -/
def FrameServes (w : IasAvbReceiveEngine) (now : Nat) (newState : Nat → IasAvbStreamState)
    (result : IasAvbReceiveEngine × FrameTrace) : Prop :=
  (result.1 = w ∧ result.2.dispatched = none) ∨ ∃ d data,
    result.2.dispatched = some d ∧ d.stream = data.stream
      ∧ Serves w result.1 data
        { data with lastState := newState data.stream, lastTimeDispatched := now }

variable {c : ReceiveConfig} {frame : Bytes} {recvLength : Int}
  {newState : Nat → IasAvbStreamState}

theorem forwardFrame_serves (hone : OneEntryEach w) (inspected : List Nat) :
    FrameServes w now newState
      (forwardFrame c w frame recvLength now newState inspected) := by
  have hfound := findStream_cases c w (frame.be64 (avtpBase frame + 4)) frame
  unfold forwardFrame
  dsimp only
  generalize frame.be64 (avtpBase frame + 4) = streamId at hfound ⊢
  generalize findStream c w streamId frame = result at hfound ⊢
  cases hfound with
  | exact data hentry =>
      dsimp only
      rw [dispatchFrame_eq hentry]
      exact Or.inr ⟨_, data, rfl, rfl, serves_noteDispatch hone hentry _ _⟩
  | rebound data hrebinds =>
      have hentry : (w.rebind streamId data).mAvbStreams.lookup streamId = some data :=
        AList.lookup_insert _
      dsimp only
      rw [dispatchFrame_eq hentry]
      exact Or.inr ⟨_, data, rfl, rfl, serves_rebind hone hrebinds _ _⟩
  | other key data hunknown hentry =>
      dsimp only
      rw [dispatchFrame_eq hentry]
      exact Or.inr ⟨_, data, rfl, rfl, serves_noteDispatch hone hentry _ _⟩
  | nothing => exact Or.inl ⟨rfl, rfl⟩

theorem receiveFrame_serves (hone : OneEntryEach w) :
    FrameServes w now newState (receiveFrame c w frame recvLength now newState) := by
  unfold receiveFrame
  split
  · exact Or.inl ⟨rfl, rfl⟩
  · split
    · exact Or.inl ⟨rfl, rfl⟩
    · split
      · exact Or.inl ⟨rfl, rfl⟩
      · split
        · dsimp only
          split
          · exact Or.inl ⟨rfl, rfl⟩
          · exact forwardFrame_serves hone _
        · exact forwardFrame_serves hone _

end IasAvbReceiveEngine

/-! ## The journal -/

section

variable {journal : List JournalEntry} {stream : Nat} {r : DispatchRecord}

theorem reportsOf_concat (e : JournalEntry) :
    reportsOf stream (journal ++ [e]) = reportsOf stream journal ++ e.reports stream := by
  unfold reportsOf
  rw [List.flatMap_append, List.flatMap_singleton]

theorem notifiedOf_concat (e : JournalEntry) :
    notifiedOf stream (journal ++ [e]) = notifiedOf stream journal ++ e.notified stream := by
  unfold notifiedOf
  rw [List.flatMap_append, List.flatMap_singleton]

theorem waitedSince_concat (e : JournalEntry) :
    waitedSince stream (journal ++ [e]) = e.waitedSince stream (waitedSince stream journal) :=
  List.foldl_concat _ _ _ _

theorem lastPacket_concat (e : JournalEntry) :
    lastPacket stream (journal ++ [e]) = e.lastPacket stream (lastPacket stream journal) :=
  List.foldl_concat _ _ _ _

/-- A call for one stream is nothing to another. -/
theorem idle_concat_of_ne {idle now : Nat} (hne : r.stream ≠ stream) :
    Idle idle (journal ++ [.dispatched r]) stream now ↔ Idle idle journal stream now := by
  unfold Idle
  rw [waitedSince_concat, lastPacket_concat]
  show idle ≤ (if r.stream = stream ∧ r.packet then 0 else _) ∨
    (∀ last ∈ (if r.stream = stream then _ else _), _) ↔ _
  rw [if_neg fun h => hne h.1, if_neg hne]

theorem timeoutsJustified_waited {idle : Nat} (ns : Nat) :
    TimeoutsJustified idle (journal ++ [.waited ns]) ↔ TimeoutsJustified idle journal := by
  unfold TimeoutsJustified
  refine forall_congr' fun pre => forall_congr' fun r => ?_
  rw [List.prefix_concat_iff]
  refine imp_congr_left ⟨?_, Or.inr⟩
  rintro (hwhole | hpre)
  · have hlast := List.append_inj_right' hwhole rfl
    cases hlast
  · exact hpre

/-- **One more call**: a timeout has to find the stream idle. -/
theorem timeoutsJustified_dispatched {idle : Nat} :
    TimeoutsJustified idle (journal ++ [.dispatched r]) ↔
      TimeoutsJustified idle journal ∧ (r.packet = false → Idle idle journal r.stream r.now) := by
  constructor
  · intro h
    refine ⟨fun pre r' hpre => h pre r' ?_, h journal r List.prefix_rfl⟩
    exact hpre.trans (List.prefix_append _ _)
  · rintro ⟨h, hr⟩ pre r' hpre
    rcases List.prefix_concat_iff.mp hpre with hwhole | hpre
    · obtain ⟨rfl, hlast⟩ := List.append_inj' hwhole rfl
      cases hlast
      exact hr
    · exact h pre r' hpre

end

/-! ## The invariant -/

namespace ReceiveThread

/-- **Entries and journal go together.** -/
structure JournalInv (t : ReceiveThread) : Prop where
  now_lt : t.now < 18446744073709551616
  elapsed : ∀ stream, t.elapsedTimeNs ≤ waitedSince stream t.journal
  lastState : ∀ k data, t.engine.mAvbStreams.lookup k = some data →
    data.lastState = (reportsOf data.stream t.journal).getLastD .eIasAvbStreamInactive
  lastTime : ∀ k data, t.engine.mAvbStreams.lookup k = some data →
    ∀ last ∈ lastPacket data.stream t.journal, data.lastTimeDispatched = last
  allocated : ∀ k data, t.engine.mAvbStreams.lookup k = some data →
    data.stream < t.engine.allocated
  one : OneEntryEach t.engine
  fresh : ∀ stream, t.engine.allocated ≤ stream →
    reportsOf stream t.journal = [] ∧ lastPacket stream t.journal = none
  changes : ∀ stream, notifiedOf stream t.journal
    = told .eIasAvbStreamInactive (reportsOf stream t.journal)

variable {c : ReceiveThreadConfig} {t : ReceiveThread} {w : IasAvbReceiveEngine}

theorem JournalInv.changesTold (h : JournalInv t) : ChangesTold t.journal := by
  intro stream
  rw [h.changes, cons_told]

theorem journalInv_start (localTime : UInt64) : JournalInv (start localTime) where
  now_lt := localTime.toNat_lt
  elapsed := fun _ => Nat.le_refl 0
  lastState := by
    intro _ _ h
    cases h
  lastTime := by
    intro _ _ h
    cases h
  allocated := by
    intro _ _ h
    cases h
  one := by
    intro _ _ _ _ h
    cases h
  fresh := fun _ _ => ⟨rfl, rfl⟩
  changes := fun _ => rfl

section

variable {data data' : StreamData} {report : StateReport} {streamId : Option Nat} {packet : Bool}

/-- A service adds what it reports to the reports of the stream served. -/
theorem reportsOf_served (journal : List JournalEntry) (now stream : Nat) :
    reportsOf stream (journal ++ [.dispatched (data.record streamId packet now report)])
      = reportsOf stream journal
        ++ if data.stream = stream then [report.before, report.after] else [] :=
  reportsOf_concat _

/-- A service with a packet is the last one with a packet, for the stream served. -/
theorem lastPacket_served (journal : List JournalEntry) (now stream : Nat) :
    lastPacket stream (journal ++ [.dispatched (data.record streamId packet now report)])
      = if data.stream = stream then (if packet then some now else none)
        else lastPacket stream journal :=
  lastPacket_concat _

/-- An entry for each stream remains, since the entry served keeps its stream. -/
theorem one_served (hserves : Serves t.engine w data data') (hsame : data'.stream = data.stream)
    (hone : OneEntryEach t.engine) : OneEntryEach w := by
  obtain ⟨key, hentries⟩ := hserves.entries
  intro j j' d d' hd hd' heq
  rcases hentries j d hd with ⟨hj, rfl⟩ | ⟨hold, hne⟩ <;>
    rcases hentries j' d' hd' with ⟨hj', rfl⟩ | ⟨hold', hne'⟩
  · exact hj.trans hj'.symm
  · exact absurd (heq.symm.trans hsame) hne'
  · exact absurd (heq.trans hsame) hne
  · exact hone j j' d d' hold hold' heq

/-- The stream served has been allocated, and so have all others. -/
theorem allocated_served (hserves : Serves t.engine w data data')
    (hsame : data'.stream = data.stream) (h : JournalInv t) {j : Nat} {d : StreamData}
    (hd : w.mAvbStreams.lookup j = some d) : d.stream < w.allocated := by
  obtain ⟨k, hentry⟩ := hserves.entry
  obtain ⟨key, hentries⟩ := hserves.entries
  rw [hserves.allocated]
  rcases hentries j d hd with ⟨_, rfl⟩ | ⟨hold, _⟩
  · rw [hsame]
    exact h.allocated k data hentry
  · exact h.allocated j d hold

end

/-- **A stream is served**: its entry and its part of the journal move on together. -/
theorem JournalInv.dispatch {data : StreamData} {report : StateReport} {streamId : Option Nat}
    {packet : Bool} {elapsed : Nat} (h : JournalInv t)
    (hserves : Serves t.engine w data
      { data with lastState := report.after, lastTimeDispatched := t.now })
    (helapsed : elapsed ≤ t.elapsedTimeNs) (hpacket : packet = true → elapsed = 0) :
    JournalInv { t with
      engine := w
      elapsedTimeNs := elapsed
      journal := t.journal ++ [.dispatched (data.record streamId packet t.now report)] } := by
  obtain ⟨k, hentry⟩ := hserves.entry
  obtain ⟨key, hentries⟩ := hserves.entries
  refine ⟨h.now_lt, ?_, ?_, ?_, fun j d hd => allocated_served hserves rfl h hd,
    one_served hserves rfl h.one, ?_, ?_⟩
  · intro stream
    show elapsed ≤ waitedSince stream (t.journal ++ [_])
    rw [waitedSince_concat]
    show elapsed ≤ if data.stream = stream ∧ packet then 0 else _
    split
    · rename_i hserved
      exact Nat.le_of_eq (hpacket hserved.2)
    · exact helapsed.trans (h.elapsed stream)
  · intro j d hd
    show d.lastState = (reportsOf d.stream (t.journal ++ [_])).getLastD _
    rw [reportsOf_served]
    rcases hentries j d hd with ⟨_, rfl⟩ | ⟨hold, hne⟩
    · rw [if_pos rfl]
      simp
    · rw [if_neg hne.symm, List.append_nil]
      exact h.lastState j d hold
  · intro j d hd last hmem
    have hmem' : last ∈ lastPacket d.stream (t.journal ++ [_]) := hmem
    rw [lastPacket_served] at hmem'
    rcases hentries j d hd with ⟨_, rfl⟩ | ⟨hold, hne⟩
    · rw [if_pos rfl] at hmem'
      cases packet with
      | false => cases hmem'
      | true => exact Option.some.inj hmem'
    · rw [if_neg hne.symm] at hmem'
      exact h.lastTime j d hold last hmem'
  · intro stream hfresh
    -- a stream that is not allocated yet has no entry, so it is not the one served
    have hle : t.engine.allocated ≤ stream := by
      rw [← hserves.allocated]
      exact hfresh
    have hne : data.stream ≠ stream := (Nat.lt_of_lt_of_le (h.allocated k data hentry) hle).ne
    show reportsOf stream (t.journal ++ [_]) = [] ∧ lastPacket stream (t.journal ++ [_]) = none
    rw [reportsOf_served, lastPacket_served, if_neg hne, if_neg hne, List.append_nil]
    exact h.fresh stream hle
  · intro stream
    show notifiedOf stream (t.journal ++ [_]) = told _ (reportsOf stream (t.journal ++ [_]))
    rw [reportsOf_served, notifiedOf_concat, h.changes, told_append]
    show _ ++ (if data.stream = stream then (data.record streamId packet t.now report).notified
      else []) = _
    split
    · rename_i hsame
      rw [record_notified, h.lastState k data hentry, hsame]
    · rfl

/-- Waiting. -/
theorem JournalInv.wait {elapsed ns : Nat} (h : JournalInv t)
    (helapsed : elapsed ≤ t.elapsedTimeNs + ns) :
    JournalInv (write { t with elapsedTimeNs := elapsed } (.waited ns)) := by
  have hreports : ∀ stream, reportsOf stream (t.journal ++ [.waited ns])
      = reportsOf stream t.journal := fun stream => by
    rw [reportsOf_concat]
    exact List.append_nil _
  have hlast : ∀ stream, lastPacket stream (t.journal ++ [.waited ns])
      = lastPacket stream t.journal := fun stream => lastPacket_concat _
  refine ⟨h.now_lt, ?_, ?_, ?_, h.allocated, h.one, ?_, ?_⟩
  · intro stream
    show elapsed ≤ waitedSince stream (t.journal ++ [.waited ns])
    rw [waitedSince_concat]
    exact helapsed.trans (Nat.add_le_add_right (h.elapsed stream) ns)
  · intro k data hentry
    show data.lastState = (reportsOf _ (t.journal ++ [.waited ns])).getLastD _
    rw [hreports]
    exact h.lastState k data hentry
  · intro k data hentry last hmem
    have hmem' : last ∈ lastPacket data.stream (t.journal ++ [.waited ns]) := hmem
    rw [hlast] at hmem'
    exact h.lastTime k data hentry last hmem'
  · intro stream hfresh
    show reportsOf _ (t.journal ++ [.waited ns]) = [] ∧ lastPacket _ (t.journal ++ [.waited ns]) = _
    rw [hreports, hlast]
    exact h.fresh stream hfresh
  · intro stream
    show notifiedOf _ (t.journal ++ [.waited ns]) = told _ (reportsOf _ (t.journal ++ [.waited ns]))
    rw [hreports, notifiedOf_concat]
    exact (List.append_nil _).trans (h.changes stream)

/-- The counter is reset. -/
theorem JournalInv.reset (h : JournalInv t) : JournalInv { t with elapsedTimeNs := 0 } :=
  { h with elapsed := fun _ => Nat.zero_le _ }

/-! ## The timeouts -/

variable {idleWait : Option Nat} {report : Nat → StateReport} {key : Nat} {data : StreamData}

/-- The stream of an entry was not serviced for the `idleWait`, if there is one. -/
def Due (t : ReceiveThread) (idleWait : Option Nat) (data : StreamData) : Prop :=
  ∀ wait ∈ idleWait, wait < sub64 t.now data.lastTimeDispatched

theorem serviceTimeout_of_due (hentry : t.engine.mAvbStreams.lookup key = some data)
    (hdue : Due t idleWait data) :
    serviceTimeout idleWait report t key = { t with
      engine := t.engine.setEntry key
        { data with lastState := (report data.stream).after, lastTimeDispatched := t.now }
      journal := t.journal ++ [.dispatched
        (data.record (t.engine.idOf data.stream) false t.now (report data.stream))] } := by
  have hall : (idleWait.all fun wait => decide (wait < sub64 t.now data.lastTimeDispatched)) :=
    Option.all_eq_true _ _ |>.mpr fun wait hwait => decide_eq_true (hdue wait hwait)
  unfold serviceTimeout
  rw [hentry]
  dsimp only
  rw [if_pos hall, dispatchPacket_eq]
  rfl

theorem serviceTimeout_of_not_due
    (hnot : ∀ data, t.engine.mAvbStreams.lookup key = some data → ¬ Due t idleWait data) :
    serviceTimeout idleWait report t key = t := by
  unfold serviceTimeout
  split
  · rename_i data hentry
    refine if_neg fun hall => hnot data hentry fun wait hwait => ?_
    exact of_decide_eq_true ((Option.all_eq_true _ _).mp hall wait hwait)
  · rfl

/-- A call, or none. -/
theorem due_cases (idleWait : Option Nat) (t : ReceiveThread) (key : Nat) :
    (∃ data, t.engine.mAvbStreams.lookup key = some data ∧ Due t idleWait data)
      ∨ ∀ data, t.engine.mAvbStreams.lookup key = some data → ¬ Due t idleWait data := by
  by_cases h : ∃ data, t.engine.mAvbStreams.lookup key = some data ∧ Due t idleWait data
  · exact Or.inl h
  · exact Or.inr fun data hentry hdue => h ⟨data, hentry, hdue⟩

theorem JournalInv.serviceTimeout (h : JournalInv t) :
    JournalInv (serviceTimeout idleWait report t key) := by
  rcases due_cases idleWait t key with ⟨data, hentry, hdue⟩ | hnot
  · rw [serviceTimeout_of_due hentry hdue]
    exact h.dispatch (serves_setEntry h.one hentry rfl) (Nat.le_refl _)
      fun hpacket => Bool.noConfusion hpacket
  · rw [serviceTimeout_of_not_due hnot]
    exact h

theorem JournalInv.timeouts (h : JournalInv t) : JournalInv (t.timeouts idleWait report) := by
  unfold ReceiveThread.timeouts
  generalize t.engine.mAvbStreams.keys = keys
  induction keys generalizing t with
  | nil => exact h
  | cons key keys ih => exact ih h.serviceTimeout

/-- The thread does to the entries what the engine was said to do. -/
theorem timeouts_engine (t : ReceiveThread) (idleWait : Option Nat)
    (report : Nat → StateReport) :
    (t.timeouts idleWait report).engine
      = t.engine.notifyTimeouts t.now idleWait fun stream => (report stream).after := by
  unfold timeouts notifyTimeouts
  generalize t.engine.mAvbStreams.keys = keys
  induction keys generalizing t with
  | nil => rfl
  | cons key keys ih =>
      rw [List.foldl_cons, List.foldl_cons, ih]
      unfold serviceTimeout
      cases hentry : t.engine.mAvbStreams.lookup key with
      | none => rfl
      | some data =>
          dsimp only
          split
          · rw [dispatchPacket_eq]
            rfl
          · rfl

variable {idle : Nat}

/-- A timeout for the stream under a key would find it idle. -/
def TimeoutFits (idle : Nat) (idleWait : Option Nat) (t : ReceiveThread) (key : Nat) : Prop :=
  ∀ data, t.engine.mAvbStreams.lookup key = some data → Due t idleWait data →
    Idle idle t.journal data.stream t.now

theorem justified_serviceTimeout :
    TimeoutsJustified idle (serviceTimeout idleWait report t key).journal ↔
      TimeoutsJustified idle t.journal ∧ TimeoutFits idle idleWait t key := by
  rcases due_cases idleWait t key with ⟨data, hentry, hdue⟩ | hnot
  · rw [serviceTimeout_of_due hentry hdue]
    refine timeoutsJustified_dispatched.trans (and_congr_right fun _ => ?_)
    constructor
    · intro hidle data' hentry' _
      obtain rfl := Option.some.inj (hentry.symm.trans hentry')
      exact hidle rfl
    · intro hfits _
      exact hfits data hentry hdue
  · rw [serviceTimeout_of_not_due hnot]
    exact (and_iff_left fun data hentry hdue => absurd hdue (hnot data hentry)).symm

/-- The call for one stream leaves the others as they were. -/
theorem fits_serviceTimeout (h : JournalInv t) {k : Nat} (hk : k ≠ key) :
    TimeoutFits idle idleWait (serviceTimeout idleWait report t key) k ↔
      TimeoutFits idle idleWait t k := by
  rcases due_cases idleWait t key with ⟨data, hentry, hdue⟩ | hnot
  · rw [serviceTimeout_of_due hentry hdue]
    refine forall_congr' fun d => ?_
    have hlookup : (t.engine.setEntry key { data with
        lastState := (report data.stream).after
        lastTimeDispatched := t.now }).mAvbStreams.lookup k = t.engine.mAvbStreams.lookup k :=
      AList.lookup_insert_ne hk
    dsimp only
    rw [hlookup]
    refine imp_congr_right fun hd => imp_congr_right fun _ => ?_
    exact idle_concat_of_ne fun hsame => hk (h.one k key d data hd hentry hsame.symm)
  · rw [serviceTimeout_of_not_due hnot]

/-- **The timeouts of a pass** are right if each of them is, looked at before the first. -/
theorem justified_timeouts (h : JournalInv t) :
    TimeoutsJustified idle (t.timeouts idleWait report).journal ↔
      TimeoutsJustified idle t.journal
        ∧ ∀ k ∈ t.engine.mAvbStreams.keys, TimeoutFits idle idleWait t k := by
  unfold timeouts
  have hnodup := t.engine.mAvbStreams.keys_nodup
  generalize t.engine.mAvbStreams.keys = keys at hnodup ⊢
  induction keys generalizing t with
  | nil => simp
  | cons key keys ih =>
      obtain ⟨hnotin, hnodup⟩ := List.nodup_cons.mp hnodup
      have hserved : JournalInv (serviceTimeout idleWait report t key) := h.serviceTimeout
      refine (ih hserved hnodup).trans ?_
      rw [justified_serviceTimeout, List.forall_mem_cons, and_assoc]
      refine and_congr_right fun _ => and_congr_right fun _ => forall₂_congr fun k hk => ?_
      exact fits_serviceTimeout h fun hsame => hnotin (hsame ▸ hk)

end ReceiveThread

end AvbStreamHandler
