import AvbStreamHandler.Transmit.Sequencer

/-!
# How long a visit fetches

The loop that fetches asks the stream again after a packet it could not keep: after a packet
that is far off the stream is reset, after a late one nothing is done. Both are counted, and at
the limits the loop gives up.

A stream's behaviour is what it answers when it is asked for the first time, the second time and
so on, without an end. Whatever it is, the loop is through after as many rounds as the limits
allow, if the counters can reach the limits. The number of dropped packets is a difference of
32-bit registers, which stays below a limit of `2 ^ 32`.
-/

namespace AvbStreamHandler.TxWorld

open Kit Kit.Word

/-- What a round of the loop leads to. -/
inductive Fetched
  | again (resetCnt : Nat) (w : TxWorld) (cur : StreamData)
  | through (w : TxWorld) (cur : StreamData) (advance : Advance)

/-- One round of `fetchLoop`. -/
def fetchOnce (windowStart droppedOld : Nat) (prep : Prepared) (resetCnt : Nat) (w : TxWorld)
    (cur : StreamData) : Fetched :=
  match w.preparePacket cur.stream prep with
  | (w, none) => .through w { cur with packet := none, launchTime := 0, done := .eDry } .next
  | (w, some p) =>
      let timeFromWindowStart := toInt64 (sub64 (w.attime p) windowStart)
      let kept := { cur with packet := some p, launchTime := w.attime p }
      let emptied := { kept with packet := none }
      let beyond := w.mConfig.txWindowPrefetchThreshold ≠ 0 ∧
        timeFromWindowStart > toInt64 w.mConfig.txWindowPrefetchThreshold
      if timeFromWindowStart > toInt64 w.mConfig.txWindowWidth ∧ ¬ beyond then
        .through w { kept with done := .eEndOfWindow } .next
      else if timeFromWindowStart > toInt64 w.mConfig.txWindowWidth ∨
          timeFromWindowStart < -toInt64 w.mConfig.txWindowResetThreshold then
        let w := (w.returnPacket p).toggle cur.stream
        let resetCnt := add64 resetCnt 1
        if resetCnt ≤ w.mConfig.txWindowMaxResetCount then .again resetCnt w emptied
        else .through w { emptied with done := .eDry } .stay
      else if timeFromWindowStart < -toInt64 w.mConfig.txWindowCueThreshold then
        let w := w.returnPacket p
        let w := { w with
          mDiag := { w.mDiag with dropped := add32 w.mDiag.dropped 1 } }
        if sub32 w.mDiag.dropped droppedOld ≥ w.mConfig.txWindowMaxDropCount then
          .through (w.toggle cur.stream) { emptied with done := .eDry } .stay
        else .again resetCnt w emptied
      else .through w kept .sortByLaunchTime

variable {w : TxWorld} {cur : StreamData} {windowStart droppedOld resetCnt : Nat}

/-- The loop takes one round after the other. -/
theorem fetchLoop_cons (prep : Prepared) (preps : List Prepared) :
    fetchLoop windowStart droppedOld (prep :: preps) resetCnt w cur
      = match fetchOnce windowStart droppedOld prep resetCnt w cur with
        | .again resetCnt w cur => fetchLoop windowStart droppedOld preps resetCnt w cur
        | .through w cur advance => (w, cur, advance) := by
  rw [fetchLoop]
  unfold fetchOnce
  rcases w.preparePacket cur.stream prep with ⟨w₁, _ | p⟩
  · rfl
  · dsimp only
    split
    · rfl
    · split
      · split <;> rfl
      · split
        · split <;> rfl
        · rfl

/-- The loop, for a stream that is never at a loss for an answer. -/
def fetchRounds (windowStart droppedOld : Nat) :
    (Nat → Prepared) → Nat → Nat → TxWorld → StreamData → Option (TxWorld × StreamData × Advance)
  | _, 0, _, _, _ => none
  | behaviour, rounds + 1, resetCnt, w, cur =>
      match fetchOnce windowStart droppedOld (behaviour 0) resetCnt w cur with
      | .again resetCnt w cur =>
          fetchRounds windowStart droppedOld (fun i => behaviour (i + 1)) rounds resetCnt w cur
      | .through w cur advance => some (w, cur, advance)

/-- A loop that is through has asked for no more than it was given rounds. -/
theorem fetchLoop_of_rounds {behaviour : Nat → Prepared} {rounds n : Nat}
    {out : TxWorld × StreamData × Advance}
    (h : fetchRounds windowStart droppedOld behaviour rounds resetCnt w cur = some out)
    (hn : rounds ≤ n) :
    fetchLoop windowStart droppedOld ((List.range n).map behaviour) resetCnt w cur = out := by
  induction rounds generalizing behaviour n resetCnt w cur with
  | zero => exact nomatch h
  | succ rounds ih =>
      obtain ⟨n, rfl⟩ : ∃ k, n = k + 1 := ⟨n - 1, by omega⟩
      rw [List.range_succ_eq_map, List.map_cons, List.map_map, fetchLoop_cons]
      rw [fetchRounds] at h
      split at h
      · exact ih h (by omega)
      · exact Option.some.inj h

/-! ## The limits -/

theorem preparePacket_counts (w : TxWorld) (s : Nat) (prep : Prepared) :
    (w.preparePacket s prep).1.mConfig = w.mConfig
      ∧ (w.preparePacket s prep).1.mDiag = w.mDiag := by
  unfold preparePacket
  cases prep with
  | fromPool attime dummy => dsimp only; split <;> exact ⟨rfl, rfl⟩
  | fromRing attime => dsimp only; split <;> exact ⟨rfl, rfl⟩
  | ringFailed => dsimp only; split <;> exact ⟨rfl, rfl⟩
  | failed => exact ⟨rfl, rfl⟩

/-- **A round that is not the last** has counted: a reset, or a dropped packet. -/
theorem fetchOnce_again {prep : Prepared} {resetCnt' : Nat} {w' : TxWorld} {cur' : StreamData}
    (h : fetchOnce windowStart droppedOld prep resetCnt w cur = .again resetCnt' w' cur') :
    w'.mConfig = w.mConfig
      ∧ (resetCnt' = add64 resetCnt 1 ∧ resetCnt' ≤ w.mConfig.txWindowMaxResetCount
          ∧ w'.mDiag.dropped = w.mDiag.dropped
        ∨ resetCnt' = resetCnt ∧ w'.mDiag.dropped = add32 w.mDiag.dropped 1
          ∧ sub32 w'.mDiag.dropped droppedOld < w.mConfig.txWindowMaxDropCount) := by
  obtain ⟨hconfig, hdiag⟩ := preparePacket_counts w cur.stream prep
  unfold fetchOnce at h
  split at h
  · exact nomatch h
  · rename_i w₁ p hprep
    rw [hprep] at hconfig hdiag
    dsimp only at hconfig hdiag h
    split at h
    · exact nomatch h
    · split at h
      · split at h
        · rename_i hless
          injection h with hcnt hw hcur
          subst hcnt hw
          exact ⟨hconfig, Or.inl ⟨rfl, hconfig ▸ hless, congrArg SequencerDiag.dropped hdiag⟩⟩
        · exact nomatch h
      · split at h
        · split at h
          · exact nomatch h
          · rename_i hless
            injection h with hcnt hw hcur
            subst hcnt hw
            refine ⟨hconfig, Or.inr ⟨rfl, ?_, ?_⟩⟩
            · exact congrArg (fun d => add32 d 1) (congrArg SequencerDiag.dropped hdiag)
            · rw [← hconfig]
              exact Nat.lt_of_not_le hless
        · exact nomatch h

/-- Counted on from a loop's start, as long as the registers do not wrap around. -/
theorem fetchRounds_ends_from (hreset : w.mConfig.txWindowMaxResetCount < 18446744073709551615)
    (hdrop : w.mConfig.txWindowMaxDropCount < 4294967296)
    (hcnt : resetCnt ≤ w.mConfig.txWindowMaxResetCount)
    (hdropped : sub32 w.mDiag.dropped droppedOld = 0
      ∨ sub32 w.mDiag.dropped droppedOld < w.mConfig.txWindowMaxDropCount)
    (behaviour : Nat → Prepared) {rounds : Nat}
    (hrounds : w.mConfig.txWindowMaxResetCount - resetCnt
      + (w.mConfig.txWindowMaxDropCount - sub32 w.mDiag.dropped droppedOld) < rounds) :
    ∃ out, fetchRounds windowStart droppedOld behaviour rounds resetCnt w cur = some out := by
  induction rounds generalizing behaviour resetCnt w cur with
  | zero => exact absurd hrounds (Nat.not_lt_zero _)
  | succ rounds ih =>
      rw [fetchRounds]
      split
      · rename_i resetCnt' w' cur' h
        obtain ⟨hconfig, hcounted⟩ := fetchOnce_again h
        rw [← hconfig] at hreset hdrop hcnt hrounds
        rcases hcounted with ⟨rfl, hle, hsame⟩ | ⟨rfl, hnext, hless⟩
        · -- one more reset
          have hnowrap : add64 resetCnt 1 = resetCnt + 1 := by
            unfold add64
            omega
          rw [← hconfig] at hle hdropped
          rw [← hsame] at hdropped hrounds
          exact ih hreset hdrop hle hdropped _ (by omega)
        · -- one more dropped packet
          have hone : sub32 w'.mDiag.dropped droppedOld = sub32 w.mDiag.dropped droppedOld + 1 := by
            rw [← hconfig] at hless hdropped
            rw [hnext]
            unfold sub32 at hdropped ⊢
            unfold add32
            omega
          rw [← hconfig] at hless
          exact ih hreset hdrop hcnt (Or.inr hless) _ (by omega)
      · exact ⟨_, rfl⟩

/-- **The loop ends**, whatever the stream does: after the resets and the dropped packets the
limits allow. -/
theorem fetchRounds_ends (w : TxWorld) (cur : StreamData) (windowStart : Nat)
    (behaviour : Nat → Prepared)
    (hreset : w.mConfig.txWindowMaxResetCount < 18446744073709551615)
    (hdrop : w.mConfig.txWindowMaxDropCount < 4294967296) :
    ∃ out,
      fetchRounds windowStart w.mDiag.dropped behaviour
          (w.mConfig.txWindowMaxResetCount + w.mConfig.txWindowMaxDropCount + 1) 0 w cur
        = some out
      ∧ ∀ n, w.mConfig.txWindowMaxResetCount + w.mConfig.txWindowMaxDropCount + 1 ≤ n →
        fetchLoop windowStart w.mDiag.dropped ((List.range n).map behaviour) 0 w cur = out := by
  have hnone : sub32 w.mDiag.dropped w.mDiag.dropped = 0 := by
    unfold sub32
    omega
  obtain ⟨out, hout⟩ := @fetchRounds_ends_from w cur windowStart w.mDiag.dropped 0 hreset hdrop
    (Nat.zero_le _) (Or.inl hnone) behaviour
    (w.mConfig.txWindowMaxResetCount + w.mConfig.txWindowMaxDropCount + 1) (by omega)
  exact ⟨out, hout, fun n hn => fetchLoop_of_rounds hout hn⟩

/-- A stream that gives the loop a reason to go on in every round. -/
theorem fetchRounds_none {inv : TxWorld → StreamData → Prop} {behaviour : Nat → Prepared}
    (hstep : ∀ i resetCnt w cur, inv w cur → ∃ resetCnt' w' cur',
      fetchOnce windowStart droppedOld (behaviour i) resetCnt w cur = .again resetCnt' w' cur'
        ∧ inv w' cur')
    (h : inv w cur) (rounds : Nat) :
    fetchRounds windowStart droppedOld behaviour rounds resetCnt w cur = none := by
  induction rounds generalizing behaviour resetCnt w cur with
  | zero => rfl
  | succ rounds ih =>
      obtain ⟨resetCnt', w', cur', hagain, h'⟩ := hstep 0 resetCnt w cur h
      rw [fetchRounds, hagain]
      exact ih (fun i => hstep (i + 1)) h'

end AvbStreamHandler.TxWorld
