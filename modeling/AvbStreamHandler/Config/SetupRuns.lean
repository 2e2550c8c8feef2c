import AvbStreamHandler.Config.ConfiguredStreams
import AvbStreamHandler.Config.Setup
import Mathlib.Data.List.TakeWhile

/-!
# What is set up

The tables of a configuration are a script: the test streams with their tones, all streams, and
the connections that they name. `setup` follows the script to its end or to the first call that
fails. The calls for the clock recovery come in between and count for nothing.
-/

namespace AvbStreamHandler

open Kit Kit.Script ContinueStatus

/-! ## The script -/

def StreamParamsTestTone.script (e : StreamParamsTestTone) : List SetupCall :=
  e.creation :: (validEntries (·.isValid) e.toneParams).map e.tone

/-- The connection of a stream, if it names one. -/
def connection (e : UInt64 × UInt16) : List SetupCall :=
  if e.2 ≠ 0 then [.connectStreams e.1 e.2] else []

namespace IasAvbConfigurationBase

def testScript (b : IasAvbConfigurationBase) : List SetupCall :=
  b.mTestStreams.used.flatMap (·.script)

def creationScript (b : IasAvbConfigurationBase) : List SetupCall :=
  b.mAvbClkRefStreamRx.used.map (·.creation) ++ b.mAvbClkRefStreamTx.used.map (·.creation)
    ++ b.mAvbStreamsRx.used.map (·.creation) ++ b.mAvbStreamsTx.used.map (·.creation)
    ++ b.mAvbVideoStreamsRx.used.map (·.creation) ++ b.mAvbVideoStreamsTx.used.map (·.creation)
    ++ b.mAlsaStreams.used.map (·.creation) ++ b.mVideoStreams.used.map (·.creation)

def connectionScript (b : IasAvbConfigurationBase) : List SetupCall :=
  (b.mAvbStreamsRx.used.flatMap fun e => connection (e.streamId, e.localStreamdIDToConnect))
    ++ (b.mAvbStreamsTx.used.flatMap fun e => connection (e.streamId, e.localStreamdIDToConnect))
    ++ (b.mAvbVideoStreamsRx.used.flatMap fun e =>
      connection (e.streamId, e.localStreamdIDToConnect))
    ++ b.mAvbVideoStreamsTx.used.flatMap fun e =>
      connection (e.streamId, e.localStreamdIDToConnect)

def script (b : IasAvbConfigurationBase) : List SetupCall :=
  b.testScript ++ b.creationScript ++ b.connectionScript

end IasAvbConfigurationBase

/-! ## Following it -/

namespace SetupState

variable {σ α : Type} {t : SetupTarget σ} {b : IasAvbConfigurationBase}
  {s s' s'' : SetupState σ} {cs cs' : List SetupCall}

/-- A call that has gone well. -/
def IsOk (r : IasAvbResult) : Prop := r = .eIasAvbResultOk

/-- The calls that were made for the streams. -/
def streamCalls (s : SetupState σ) : List (SetupCall × IasAvbResult) :=
  s.calls.filter fun p => !p.1.isRecovery

/-- **A part of the script** is followed from one state to another, unless there was an error
before. -/
structure Follows (cs : List SetupCall) (s s' : SetupState σ) : Prop where
  made : IsOk s.result → ∃ made ok, s'.streamCalls = s.streamCalls ++ made
    ∧ Made IsOk cs made ok ∧ (ok = true ↔ IsOk s'.result)
  stays : ¬ IsOk s.result → s'.streamCalls = s.streamCalls ∧ s'.result = s.result

theorem Follows.rest (hcalls : s'.streamCalls = s.streamCalls) (hresult : s'.result = s.result) :
    Follows [] s s' where
  made := fun hok => ⟨[], true, by rw [hcalls, List.append_nil], .through,
    iff_of_true rfl (hresult ▸ hok)⟩
  stays := fun _ => ⟨hcalls, hresult⟩

theorem Follows.trans (h : Follows cs s s') (h' : Follows cs' s' s'') :
    Follows (cs ++ cs') s s'' where
  made := by
    intro hok
    obtain ⟨made, ok, hcalls, hmade, hiff⟩ := h.made hok
    cases ok with
    | true =>
        obtain ⟨made', ok', hcalls', hmade', hiff'⟩ := h'.made (hiff.mp rfl)
        exact ⟨made ++ made', ok', by rw [hcalls', hcalls, List.append_assoc],
          hmade.append hmade', hiff'⟩
    | false =>
        -- the first part has failed, and the second does nothing
        have hfailed : ¬ IsOk s'.result := fun hgood => Bool.false_ne_true (hiff.mpr hgood)
        obtain ⟨hcalls', hresult'⟩ := h'.stays hfailed
        refine ⟨made, false, hcalls'.trans hcalls, hmade.append_failed cs', ?_⟩
        rw [hresult']
        exact hiff
  stays := by
    intro hfailed
    obtain ⟨hcalls, hresult⟩ := h.stays hfailed
    obtain ⟨hcalls', hresult'⟩ := h'.stays (hresult ▸ hfailed)
    exact ⟨hcalls'.trans hcalls, hresult'.trans hresult⟩

theorem streamCalls_made {c : SetupCall} (hc : c.isRecovery = false) (r : Reply σ) :
    (s.made c r).streamCalls = s.streamCalls ++ [(c, r.result)] := by
  show (s.calls ++ [(c, r.result)]).filter _ = _
  rw [List.filter_append, List.filter_cons_of_pos (by rw [hc]; rfl), List.filter_nil]
  rfl

theorem streamCalls_recovery {c : SetupCall} (hc : c.isRecovery = true) (r : Reply σ) :
    (s.made c r).streamCalls = s.streamCalls := by
  show (s.calls ++ [(c, r.result)]).filter _ = _
  rw [List.filter_append, List.filter_cons_of_neg (by rw [hc]; exact Bool.false_ne_true),
    List.filter_nil, List.append_nil]
  rfl

/-- One call, whose result becomes that of the state. -/
theorem made_single {c : SetupCall} (r : IasAvbResult) :
    ∃ ok, Made IsOk [c] [(c, r)] ok ∧ (ok = true ↔ IsOk r) := by
  by_cases hr : IsOk r
  · exact ⟨true, .next hr .through, iff_of_true rfl hr⟩
  · exact ⟨false, .fails c [] hr, iff_of_false Bool.false_ne_true hr⟩

/-- A step that is taken only as long as there is no error. -/
theorem Follows.guarded {f : SetupState σ → SetupState σ}
    (hf : IsOk s.result → Follows cs s (f s)) :
    Follows cs s (if s.result = .eIasAvbResultOk then f s else s) := by
  by_cases hok : s.result = .eIasAvbResultOk
  · rw [if_pos hok]
    exact hf hok
  · rw [if_neg hok]
    exact ⟨fun h => absurd h hok, fun _ => ⟨rfl, rfl⟩⟩

/-- **A loop over a table** follows the script of its entries. -/
theorem Follows.each {f : SetupState σ → α → SetupState σ} {script : α → List SetupCall}
    (hf : ∀ s a, IsOk s.result → Follows (script a) s (f s a)) (l : List α) (s : SetupState σ) :
    Follows (l.flatMap script) s (SetupState.each f s l) := by
  induction l generalizing s with
  | nil => exact .rest rfl rfl
  | cons a l ih => exact (Follows.guarded (f := fun s => f s a) fun hok => hf s a hok).trans (ih _)

theorem Follows.one {c : SetupCall} (hcalls : s'.streamCalls = s.streamCalls ++ [(c, s'.result)])
    (hok : IsOk s.result) : Follows [c] s s' where
  made := by
    intro _
    obtain ⟨ok, hmade, hiff⟩ := made_single (c := c) s'.result
    exact ⟨_, ok, hcalls, hmade, hiff⟩
  stays := fun hfailed => absurd hok hfailed

/-- A loop with one call for each entry. -/
theorem Follows.calls {call : α → SetupCall} (hcall : ∀ a, (call a).isRecovery = false)
    (l : List α) (s : SetupState σ) :
    Follows (l.map call) s (SetupState.each (fun s a => s.call t (call a)) s l) := by
  rw [List.map_eq_flatMap]
  exact .each (fun s a hok => .one (streamCalls_made (hcall a) _) hok) l s

/-! ### The parts of `setup` -/

theorem follows_testTone (e : StreamParamsTestTone) (hok : IsOk s.result) :
    Follows e.script s (s.createTestTone t e) :=
  (Follows.one (c := e.creation) (streamCalls_made rfl _) hok).trans
    (.calls (fun _ => rfl) _ (s.call t e.creation))

theorem follows_clkRefRx (hone : b.mAvbClkRefStreamRx.num ≤ 1) (s : SetupState σ) :
    Follows (b.mAvbClkRefStreamRx.used.map (·.creation)) s (s.createClkRefRxStreams t b) := by
  unfold createClkRefRxStreams
  rw [if_neg (Nat.not_lt.mpr hone), List.map_eq_flatMap]
  exact .each (fun s e hok => .one (streamCalls_made (c := e.creation) rfl _) hok) _ s

/-- The streams after those, one table after the other. -/
theorem follows_otherCreations {s₀ : SetupState σ}
    (h : Follows cs s₀ (s.createClkRefRxStreams t b)) :
    Follows (cs ++ b.mAvbClkRefStreamTx.used.map (·.creation)
      ++ b.mAvbStreamsRx.used.map (·.creation) ++ b.mAvbStreamsTx.used.map (·.creation)
      ++ b.mAvbVideoStreamsRx.used.map (·.creation) ++ b.mAvbVideoStreamsTx.used.map (·.creation)
      ++ b.mAlsaStreams.used.map (·.creation) ++ b.mVideoStreams.used.map (·.creation)) s₀
      (s.createStreams t b) :=
  ((((((h.trans (.calls (fun _ => rfl) _ _)).trans (.calls (fun _ => rfl) _ _)).trans
    (.calls (fun _ => rfl) _ _)).trans (.calls (fun _ => rfl) _ _)).trans
    (.calls (fun _ => rfl) _ _)).trans (.calls (fun _ => rfl) _ _)).trans
    (.calls (fun _ => rfl) _ _)

theorem follows_creations (hone : b.mAvbClkRefStreamRx.num ≤ 1) (s : SetupState σ) :
    Follows b.creationScript s (s.createStreams t b) :=
  follows_otherCreations (follows_clkRefRx hone s)

/-- The clock recovery makes calls of its own, and keeps the result. -/
theorem follows_recovery (s : SetupState σ) : Follows [] s (s.setupRecovery t b) := by
  have hderive : ((s.deriveClockDomain t b).1).streamCalls = s.streamCalls
      ∧ ((s.deriveClockDomain t b).1).result = s.result := by
    unfold deriveClockDomain
    split
    · exact ⟨rfl, rfl⟩
    split
    · exact ⟨rfl, rfl⟩
    · exact ⟨streamCalls_recovery rfl _, rfl⟩
  have hset : ∀ (s : SetupState σ) (audio : Bool),
      (s.setClockRecovery t b audio).streamCalls = s.streamCalls
        ∧ (s.setClockRecovery t b audio).result = s.result := by
    intro s audio
    unfold setClockRecovery
    split
    · exact ⟨rfl, rfl⟩
    · exact ⟨streamCalls_recovery rfl _, rfl⟩
  unfold setupRecovery
  split
  · exact .rest rfl rfl
  dsimp only
  split
  · obtain ⟨hcalls, hresult⟩ := hset (s.deriveClockDomain t b).1 (s.deriveClockDomain t b).2.2
    exact .rest (hcalls.trans hderive.1) (hresult.trans hderive.2)
  · exact .rest hderive.1 hderive.2

theorem follows_connect (e : UInt64 × UInt16) (hok : IsOk s.result) :
    Follows (connection e) s (s.connect t e) := by
  unfold connection connect
  by_cases hnamed : e.2 ≠ 0
  · rw [if_pos hnamed, if_pos hnamed]
    exact .one (streamCalls_made rfl _) hok
  · rw [if_neg hnamed, if_neg hnamed]
    exact .rest rfl rfl

theorem follows_connections (s : SetupState σ) :
    Follows b.connectionScript s (s.connectStreams t b) := by
  have hloop : ∀ {β : Type} (f : β → UInt64 × UInt16) (l : List β) (s : SetupState σ),
      Follows (l.flatMap fun e => connection (f e)) s (each (fun s e => s.connect t (f e)) s l) :=
    fun f l s => .each (fun s e hok => follows_connect (f e) hok) l s
  exact (((hloop _ _ s).trans (hloop _ _ _)).trans (hloop _ _ _)).trans (hloop _ _ _)

/-- After an error nothing is done, whatever comes next in the script. -/
theorem Follows.idle (hfailed : ¬ IsOk s.result) : Follows cs s s :=
  ⟨fun hok => absurd hok hfailed, fun _ => ⟨rfl, rfl⟩⟩

/-- All but the test streams. -/
theorem follows_streams (hone : b.mAvbClkRefStreamRx.num ≤ 1) (s : SetupState σ) :
    Follows (b.creationScript ++ b.connectionScript) s
      (((s.createStreams t b).setupRecovery t b).connectStreams t b) := by
  have hcreated := (follows_creations (t := t) hone s).trans (follows_recovery (t := t) (b := b) _)
  rw [List.append_nil] at hcreated
  exact hcreated.trans (follows_connections _)

theorem follows_setupStreams (hone : b.mAvbClkRefStreamRx.num ≤ 1) (h : σ) :
    Follows b.script { handler := h } (setupStreams t b h) := by
  have htests := Follows.each (fun s e hok => follows_testTone (t := t) e hok)
    b.mTestStreams.used { handler := h }
  unfold setupStreams IasAvbConfigurationBase.script
  dsimp only
  rw [List.append_assoc]
  by_cases hok : (each (createTestTone t) { handler := h } b.mTestStreams.used).result
      ≠ .eIasAvbResultOk
  · rw [if_pos hok]
    exact htests.trans (.idle hok)
  · rw [if_neg hok]
    exact htests.trans (follows_streams hone _)

/-- What a loop keeps, if each turn does that is made without an error. -/
theorem each_inv {P : SetupState σ → Prop} {f : SetupState σ → α → SetupState σ} {l : List α}
    (hf : ∀ s, ∀ a ∈ l, IsOk s.result → P s → P (f s a)) (h : P s) : P (each f s l) := by
  induction l generalizing s with
  | nil => exact h
  | cons a l ih =>
      refine @ih (if s.result = .eIasAvbResultOk then f s a else s)
        (fun s b hb => hf s b (List.mem_cons_of_mem a hb)) ?_
      split
      · rename_i hok
        exact hf s a List.mem_cons_self hok h
      · exact h

/-- It is so for the handler, the calls and the result of a state. -/
def Satisfies (s : SetupState σ)
    (P : σ → List (SetupCall × IasAvbResult) → IasAvbResult → Prop) : Prop :=
  P s.handler s.calls s.result

/-- **Kept by every call.** One that is made for the streams comes after no error; one that is made
for the clock recovery may, and leaves the result. -/
structure KeptByCalls (t : SetupTarget σ)
    (P : σ → List (SetupCall × IasAvbResult) → IasAvbResult → Prop) : Prop where
  streams : ∀ h calls c, c.isRecovery = false → P h calls .eIasAvbResultOk →
    P (t.call c h).handler (calls ++ [(c, (t.call c h).result)]) (t.call c h).result
  recovery : ∀ h calls result c, c.isRecovery = true → P h calls result →
    P (t.call c h).handler (calls ++ [(c, (t.call c h).result)]) result
  /-- More than one clock reference stream to be received is an error without any call. -/
  refused : ∀ h calls, P h calls .eIasAvbResultOk → P h calls .eIasAvbResultNotSupported

namespace KeptByCalls

variable {P : σ → List (SetupCall × IasAvbResult) → IasAvbResult → Prop}

theorem call (hkept : KeptByCalls t P) {c : SetupCall} (hc : c.isRecovery = false)
    (hok : IsOk s.result) (h : s.Satisfies P) : (s.call t c).Satisfies P :=
  hkept.streams _ _ c hc (hok ▸ h)

/-- A loop with one call for each entry. -/
theorem loop (hkept : KeptByCalls t P) (creation : α → SetupCall)
    (hc : ∀ e, (creation e).isRecovery = false) (l : List α) (h : s.Satisfies P) :
    (each (fun s e => s.call t (creation e)) s l).Satisfies P :=
  each_inv (P := (·.Satisfies P)) (fun _ e _ hok h => hkept.call (hc e) hok h) h

theorem testTone (hkept : KeptByCalls t P) (e : StreamParamsTestTone) (hok : IsOk s.result)
    (h : s.Satisfies P) : (s.createTestTone t e).Satisfies P :=
  hkept.loop e.tone (fun _ => rfl) _ (hkept.call (c := e.creation) rfl hok h)

theorem clkRefRxStreams (hkept : KeptByCalls t P) (hok : IsOk s.result) (h : s.Satisfies P) :
    (s.createClkRefRxStreams t b).Satisfies P := by
  unfold createClkRefRxStreams
  split
  · exact hkept.refused _ _ (hok ▸ h)
  · refine each_inv (P := (·.Satisfies P)) (fun s e _ hok h => ?_) h
    exact hkept.streams _ _ e.creation rfl (hok ▸ h)

theorem streamTables (hkept : KeptByCalls t P) (hok : IsOk s.result) (h : s.Satisfies P) :
    (s.createStreams t b).Satisfies P := by
  unfold createStreams
  refine hkept.loop _ (fun _ => rfl) _ ?_
  refine hkept.loop _ (fun _ => rfl) _ ?_
  refine hkept.loop _ (fun _ => rfl) _ ?_
  refine hkept.loop _ (fun _ => rfl) _ ?_
  refine hkept.loop _ (fun _ => rfl) _ ?_
  refine hkept.loop _ (fun _ => rfl) _ ?_
  refine hkept.loop _ (fun _ => rfl) _ ?_
  exact hkept.clkRefRxStreams hok h

theorem clockRecovery (hkept : KeptByCalls t P) (h : s.Satisfies P) :
    (s.setupRecovery t b).Satisfies P := by
  have hderived : (s.deriveClockDomain t b).1.Satisfies P := by
    unfold deriveClockDomain
    split
    · exact h
    split
    · exact h
    · exact hkept.recovery _ _ _ _ rfl h
  unfold setupRecovery
  split
  · exact h
  dsimp only
  split
  · unfold setClockRecovery
    split
    · exact hderived
    · exact hkept.recovery _ _ _ _ rfl hderived
  · exact hderived

theorem connections (hkept : KeptByCalls t P) (f : α → UInt64 × UInt16) (l : List α)
    (h : s.Satisfies P) : (each (fun s e => s.connect t (f e)) s l).Satisfies P := by
  refine each_inv (P := (·.Satisfies P)) (fun s e _ hok h => ?_) h
  unfold connect
  split
  · exact hkept.call rfl hok h
  · exact h

/-- **What is kept by every call** holds at the end of all. -/
theorem setupStreams (hkept : KeptByCalls t P) {h : σ} (hbegin : P h [] .eIasAvbResultOk) :
    (setupStreams t b h).Satisfies P := by
  have htests : (each (createTestTone t) { handler := h } b.mTestStreams.used).Satisfies P :=
    each_inv (P := (·.Satisfies P)) (fun _ e _ hok h => hkept.testTone e hok h) hbegin
  unfold AvbStreamHandler.setupStreams
  dsimp only
  split
  · exact htests
  · rename_i hok
    refine hkept.connections _ _ (hkept.connections _ _ (hkept.connections _ _
      (hkept.connections _ _ (hkept.clockRecovery ?_))))
    exact hkept.streamTables (not_not.mp hok) htests

end KeptByCalls

/-- **More than one clock reference stream** to be received is refused, and so is all that comes
after it. -/
theorem setupStreams_refused (hmany : 1 < b.mAvbClkRefStreamRx.num) (h : σ) :
    ¬ IsOk (setupStreams t b h).result := by
  have hcreated : ∀ s : SetupState σ, ¬ IsOk (s.createStreams t b).result := by
    intro s
    have hrefused : ¬ IsOk (s.createClkRefRxStreams t b).result := by
      unfold createClkRefRxStreams
      rw [if_pos hmany]
      exact nofun
    have hidle : Follows [] (s.createClkRefRxStreams t b) (s.createClkRefRxStreams t b) :=
      .idle hrefused
    exact ((follows_otherCreations hidle).stays hrefused).2 ▸ hrefused
  unfold setupStreams
  dsimp only
  split
  · assumption
  · have hrecovery := (follows_recovery (t := t) (b := b) _).stays (hcreated
      (each (createTestTone t) { handler := h } b.mTestStreams.used))
    have hfailed : ¬ IsOk _ := hrecovery.2 ▸ hcreated _
    have hconnections := (follows_connections (t := t) (b := b) _).stays hfailed
    exact hconnections.2 ▸ hfailed

end SetupState

open SetupState

/-- **What `setup` does with any stream handler**, if the tables name one clock reference stream
to be received at most: it follows the script of the tables up to its end or to the first call
that fails, and reports success if none has failed and the override after it has no objection. -/
theorem setup_follows_script {σ : Type} (t : SetupTarget σ) (b : IasAvbConfigurationBase)
    (streamHandler : σ) (hone : b.mAvbClkRefStreamRx.num ≤ 1)
    (hpre : (t.preSetup streamHandler).2 = eContinue) :
    ∃ ok, Made IsOk b.script (setup t b streamHandler).1.streamCalls ok
      ∧ (ok = false → (setup t b streamHandler).2 = false)
      ∧ (ok = true → ∃ h, (setup t b streamHandler).1.handler = (t.postSetup h).1
        ∧ ((setup t b streamHandler).2 = true ↔ (t.postSetup h).2 ≠ eError)) := by
  have hfollows := follows_setupStreams (t := t) hone (t.preSetup streamHandler).1
  obtain ⟨made, ok, hcalls, hmade, hiff⟩ := hfollows.made rfl
  have hcalls : (setupStreams t b (t.preSetup streamHandler).1).streamCalls = made := hcalls
  unfold setup
  dsimp only
  rw [if_neg (not_not.mpr hpre)]
  generalize setupStreams t b (t.preSetup streamHandler).1 = s at hcalls hiff ⊢
  cases ok with
  | false =>
      have hfailed : s.result ≠ .eIasAvbResultOk := fun h => Bool.false_ne_true (hiff.mpr h)
      rw [if_pos hfailed]
      exact ⟨false, hcalls ▸ hmade, fun _ => rfl, nofun⟩
  | true =>
      have hgood : s.result = .eIasAvbResultOk := hiff.mp rfl
      rw [if_neg (not_not.mpr hgood)]
      refine ⟨true, hcalls ▸ hmade, nofun, fun _ => ⟨s.handler, rfl, ?_⟩⟩
      exact decide_eq_true_iff

/-- A stream handler that creates no receive audio streams. -/
def noReceiveAudio : SetupTarget Unit where
  call c _ :=
    { handler := ()
      result := match c with
        | .createReceiveAudioStream .. => .eIasAvbResultErr
        | _ => .eIasAvbResultOk }

theorem setup_follows_script_unitTests :
    (setup noReceiveAudio (({} : IasAvbConfigurationBase).getProfileInfo unitTests) ()).2
      = false := by
  obtain ⟨ok, hmade, hfailed, -⟩ := setup_follows_script noReceiveAudio
    (({} : IasAvbConfigurationBase).getProfileInfo unitTests) () (by decide +kernel) rfl
  refine hfailed (Bool.eq_false_iff.mpr fun hok => ?_)
  have hcall : (SetupCall.createReceiveAudioStream .eIasAvbSrClassHigh 8 48000 0 0,
      IasAvbResult.eIasAvbResultErr) ∈ (setup noReceiveAudio
        (({} : IasAvbConfigurationBase).getProfileInfo unitTests) ()).1.streamCalls := by
    decide +kernel
  exact nomatch hmade.through_iff.mp hok _ hcall

/-! ## No assertion fails -/

namespace SetupState

variable {σ α : Type} {t : SetupTarget σ} {b : IasAvbConfigurationBase} {s : SetupState σ}
  {p : ProfileParams}

/-- A clock that is noted is that of the clock reference stream. -/
structure ClockNoted (b : IasAvbConfigurationBase) (s : SetupState σ) : Prop where
  sound : s.trapped = false
  noted : s.rxClockId ≠ 0 → s.clkIdx = some 0 ∧ b.mAvbClkRefStreamRx.used ≠ []

theorem clockNoted_call (h : ClockNoted b s) (c : SetupCall) : ClockNoted b (s.call t c) :=
  ⟨h.sound, h.noted⟩

theorem clockNoted_creations (h : ClockNoted b s) : ClockNoted b (s.createStreams t b) := by
  have hcalls : ∀ {β : Type} (creation : β → SetupCall) (l : List β) (s : SetupState σ),
      ClockNoted b s → ClockNoted b (each (fun s e => s.call t (creation e)) s l) :=
    fun creation l s h => each_inv (fun s e _ _ h => clockNoted_call h (creation e)) h
  have hclkRef : ClockNoted b (s.createClkRefRxStreams t b) := by
    unfold createClkRefRxStreams
    split
    · exact ⟨h.sound, h.noted⟩
    · exact each_inv (fun s e he _ h => ⟨h.sound, fun _ => ⟨rfl, List.ne_nil_of_mem he⟩⟩) h
  exact hcalls _ _ _ (hcalls _ _ _ (hcalls _ _ _ (hcalls _ _ _ (hcalls _ _ _
    (hcalls _ _ _ (hcalls _ _ _ hclkRef))))))

/-- All entries that are used are valid, so that a count of the valid ones covers them. -/
theorem used_valid {α : Type} {table : Table α} {isValid : α → Bool}
    (hvalid : ∀ e ∈ table.used, isValid e = true) :
    table.used <+: validEntries isValid table.entries := by
  obtain ⟨rest, hentries⟩ : table.used <+: table.entries.getD [] := List.take_prefix ..
  unfold validEntries
  rw [← hentries, List.takeWhile_append_of_pos hvalid]
  exact List.prefix_append ..

theorem recoveryClocks_some {clkIdx : Nat} {recoverFromAudioStream : Bool}
    (haudio : recoverFromAudioStream = true →
      clkIdx < b.mAvbStreamsRx.used.length ∧ ∀ e ∈ b.mAvbStreamsRx.used, e.isValid = true)
    (hclkRef : recoverFromAudioStream = false →
      clkIdx < b.mAvbClkRefStreamRx.used.length
        ∧ ∀ e ∈ b.mAvbClkRefStreamRx.used, e.isValid = true) :
    recoveryClocks b clkIdx recoverFromAudioStream ≠ none := by
  unfold recoveryClocks
  cases recoverFromAudioStream with
  | true =>
      obtain ⟨hlt, hvalid⟩ := haudio rfl
      have hbound := Nat.lt_of_lt_of_le hlt (used_valid hvalid).length_le
      rw [if_pos rfl, List.getElem?_eq_getElem hbound]
      exact nofun
  | false =>
      obtain ⟨hlt, hvalid⟩ := hclkRef rfl
      have hbound := Nat.lt_of_lt_of_le hlt (used_valid hvalid).length_le
      rw [if_neg Bool.false_ne_true, List.getElem?_eq_getElem hbound]
      exact nofun

/-- **The clock recovery** finds the entry of the clock it has noted. -/
theorem recovery_sound (h : ClockNoted b s)
    (hrx : ∀ e ∈ b.mAvbStreamsRx.used, e.isValid = true)
    (hclkRef : ∀ e ∈ b.mAvbClkRefStreamRx.used, e.isValid = true) :
    (s.setupRecovery t b).trapped = false := by
  have hset : ∀ (s : SetupState σ) (clkIdx : Nat) (audio : Bool), s.trapped = false →
      s.clkIdx = some clkIdx → recoveryClocks b clkIdx audio ≠ none →
      (s.setClockRecovery t b audio).trapped = false := by
    intro s clkIdx audio hs hidx hsome
    unfold setClockRecovery
    rw [hidx, Option.bind_some]
    split
    · rename_i hnone
      exact absurd hnone hsome
    · exact hs
  unfold setupRecovery
  split
  · exact h.sound
  unfold deriveClockDomain
  by_cases hnoted : s.rxClockId ≠ 0
  · -- the clock of the clock reference stream
    obtain ⟨hidx, hne⟩ := h.noted hnoted
    rw [if_pos hnoted]
    dsimp only
    split
    · exact hset s 0 false h.sound hidx (recoveryClocks_some nofun
        fun _ => ⟨List.length_pos_iff.mpr hne, hclkRef⟩)
    · exact h.sound
  rw [if_neg hnoted]
  cases hfind : b.mAvbStreamsRx.used.zipIdx.find? (fun e => e.1.slaveClockId ≠ 0) with
  | none =>
      -- no clock at all
      dsimp only
      rw [if_neg fun hgo => hnoted hgo.2.1]
      exact h.sound
  | some entry =>
    obtain ⟨e, i⟩ := entry
    dsimp only
    split
    · rename_i hgo
      rw [decide_eq_true hgo.1]
      refine hset _ i true h.sound rfl (recoveryClocks_some (fun _ => ⟨?_, hrx⟩) nofun)
      exact (List.mem_zipIdx' (List.mem_of_find?_eq_some hfind)).1
    · exact h.sound

end SetupState

open SetupState

theorem forall₂_forall {α β : Type} {R : α → β → Prop} {P : α → Prop} {Q : β → Prop}
    {l : List α} {l' : List β} (hR : ∀ a b, R a b → P a → Q b) (h : List.Forall₂ R l l')
    (hl : ∀ a ∈ l, P a) : ∀ b ∈ l', Q b := by
  induction h with
  | nil => exact nofun
  | cons hab _ ih =>
      rw [List.forall_mem_cons] at hl ⊢
      exact ⟨hR _ _ hab hl.1, ih hl.2⟩

/-- **No assertion fails** in a setup with the tables of a profile, whatever the stream handler
answers. -/
theorem setup_sound {σ : Type} (t : SetupTarget σ) {p : ProfileParams}
    {b : IasAvbConfigurationBase} (h : ConfiguredFrom p b) (streamHandler : σ) :
    (setup t b streamHandler).1.trapped = false := by
  have hrx : ∀ e ∈ b.mAvbStreamsRx.used, e.isValid = true := by
    refine forall₂_forall (fun e e' hedit hvalid => ?_) h.rx fun _ he => List.mem_takeWhile_imp he
    unfold StreamParamsAvbRx.isValid at hvalid ⊢
    rw [hedit.sampleFreq]
    exact hvalid
  have hclkRef : ∀ e ∈ b.mAvbClkRefStreamRx.used, e.isValid = true := by
    rw [h.clkRefRx]
    exact fun _ he => List.mem_takeWhile_imp he
  have hconnect : ∀ {β : Type} (f : β → UInt64 × UInt16) (l : List β) (s : SetupState σ),
      s.trapped = false → (each (fun s e => s.connect t (f e)) s l).trapped = false := by
    intro β f l s hs
    refine each_inv (P := fun s => s.trapped = false) (fun s e _ _ hs => ?_) hs
    unfold connect
    split <;> exact hs
  have htests : ClockNoted b (each (createTestTone t)
      { handler := (t.preSetup streamHandler).1 } b.mTestStreams.used) := by
    refine each_inv (fun s e _ _ h => ?_) ⟨rfl, fun hne => absurd rfl hne⟩
    exact each_inv (fun s q _ _ h => clockNoted_call h (e.tone q)) (clockNoted_call h e.creation)
  have hstreams : (setupStreams t b (t.preSetup streamHandler).1).trapped = false := by
    unfold setupStreams
    dsimp only
    split
    · exact htests.sound
    · exact hconnect _ _ _ (hconnect _ _ _ (hconnect _ _ _ (hconnect _ _ _
        (recovery_sound (clockNoted_creations htests) hrx hclkRef))))
  unfold setup
  dsimp only
  split
  · rfl
  split
  · exact hstreams
  · exact hstreams

theorem setup_sound_unitTests :
    (setup noReceiveAudio
      { ({} : IasAvbConfigurationBase).getProfileInfo unitTests with mProfileSet := true }
      ()).1.trapped = false :=
  setup_sound noReceiveAudio (ConfiguredFrom.getProfileInfo {} unitTests true) ()

end AvbStreamHandler
