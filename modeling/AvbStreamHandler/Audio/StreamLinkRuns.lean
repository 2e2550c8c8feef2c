import AvbStreamHandler.Audio.StreamLinks

/-!
# Links are symmetric

The local stream of a network stream is a registry's index, the client of a local stream its
label, and the two agree in every run: `connectTo` takes both halves of the old link away
before it makes both halves of a new one, and what it checks in between it checks with
neither half in place.

What makes the destruction of either end safe is said by two facts beside the link: a stream
that is connected is initialized, so that its `cleanup` can disconnect it, and a local stream
is in state "not connected" exactly if it has no client.
-/

namespace AvbStreamHandler

open Kit Kit.Run Kit.Registry IasAvbProcessingResult

namespace ClientAudioStream

variable {t : ClientAudioStream}

/-- The state says whether there is a client. -/
def Coherent (t : ClientAudioStream) : Prop :=
  t.mClientState = .eIasNotConnected ↔ t.mClient = none

theorem coherent_disconnect : t.disconnect.Coherent := ⟨fun _ => rfl, fun _ => rfl⟩

theorem mClient_setClientActive (active : Bool) :
    (t.setClientActive active).mClient = t.mClient := by
  unfold setClientActive
  split <;> rfl

theorem coherent_setClientActive (h : t.Coherent) (active : Bool) :
    (t.setClientActive active).Coherent := by
  unfold setClientActive
  split
  · exact h
  · rename_i hclient
    refine ⟨?_, fun hnone => absurd hnone hclient⟩
    intro hstate
    cases active <;> nomatch hstate

theorem coherent_connect (a : Nat) (h : t.Coherent) : (t.connect (some a)).1.Coherent := by
  unfold connect
  rw [if_neg nofun]
  split
  · exact h
  · exact ⟨nofun, nofun⟩

/-- A client is accepted by a stream that has none, and by no other. -/
theorem connect_ok {a : Nat} (h : (t.connect (some a)).2 = eIasAvbProcOK) :
    t.mClient = none ∧ (t.connect (some a)).1.mClient = some a := by
  unfold connect at h ⊢
  rw [if_neg nofun] at h ⊢
  split at h
  · nomatch h
  · rename_i hclient
    rw [if_neg hclient]
    exact ⟨not_not.mp hclient, rfl⟩

end ClientAudioStream

namespace AudioLinks

variable {w : AudioLinks} {a l : Nat} {s : NetworkAudioStream} {t : ClientAudioStream}

/-! ## The two halves of a link -/

theorem localOf_setAvb (a : Nat) (s : Option NetworkAudioStream) :
    (w.setAvb a s).localOf
      = Function.update w.localOf a (s.bind NetworkAudioStream.mLocalStream) := by
  funext b
  unfold localOf setAvb
  by_cases hb : b = a
  · rw [hb, Function.update_self]
    dsimp only
    rw [Function.update_self]
  · rw [Function.update_of_ne hb]
    dsimp only
    rw [Function.update_of_ne hb]

theorem clientOf_setLocal (l : Nat) (t : Option ClientAudioStream) :
    (w.setLocal l t).clientOf
      = Function.update w.clientOf l (t.bind ClientAudioStream.mClient) := by
  funext b
  unfold clientOf setLocal
  by_cases hb : b = l
  · rw [hb, Function.update_self]
    dsimp only
    rw [Function.update_self]
  · rw [Function.update_of_ne hb]
    dsimp only
    rw [Function.update_of_ne hb]

theorem clientOf_setAvb (a : Nat) (s : Option NetworkAudioStream) :
    (w.setAvb a s).clientOf = w.clientOf := rfl

theorem localOf_setLocal (l : Nat) (t : Option ClientAudioStream) :
    (w.setLocal l t).localOf = w.localOf := rfl

theorem localOf_of_stream (hs : w.avbStreams a = some s) : w.localOf a = s.mLocalStream := by
  unfold localOf
  rw [hs]
  rfl

theorem clientOf_of_stream (ht : w.localStreams l = some t) : w.clientOf l = t.mClient := by
  unfold clientOf
  rw [ht]
  rfl

/-- What the operations keep. -/
structure Linked (w : AudioLinks) : Prop where
  /-- The halves of every link belong together. -/
  agree : Agree w.localOf w.clientOf
  /-- A connected stream can be disconnected. -/
  initialized : ∀ a s, w.avbStreams a = some s → s.mLocalStream ≠ none → s.initialized = true
  /-- A stream without a client, and no other, can be destroyed. -/
  coherent : ∀ l t, w.localStreams l = some t → t.Coherent

theorem linked_empty : Linked {} where
  agree := agree_empty
  initialized := nofun
  coherent := nofun

theorem initialized_setAvb (h : Linked w) {s' : Option NetworkAudioStream}
    (hs' : ∀ s, s' = some s → s.mLocalStream ≠ none → s.initialized = true) :
    ∀ b s, (w.setAvb a s').avbStreams b = some s → s.mLocalStream ≠ none →
      s.initialized = true := by
  intro b s hb
  unfold setAvb at hb
  dsimp only at hb
  by_cases hba : b = a
  · rw [hba, Function.update_self] at hb
    exact hs' s hb
  · rw [Function.update_of_ne hba] at hb
    exact h.initialized b s hb

theorem coherent_setLocal (h : Linked w) {t' : Option ClientAudioStream}
    (ht' : ∀ t, t' = some t → t.Coherent) :
    ∀ k t, (w.setLocal l t').localStreams k = some t → t.Coherent := by
  intro k t hk
  unfold setLocal at hk
  dsimp only at hk
  by_cases hkl : k = l
  · rw [hkl, Function.update_self] at hk
    exact ht' t hk
  · rw [Function.update_of_ne hkl] at hk
    exact h.coherent k t hk

/-- A network stream changes, or comes or goes, and its half of the link stays. -/
theorem Linked.setAvb (h : Linked w) {s' : Option NetworkAudioStream}
    (hlink : s'.bind NetworkAudioStream.mLocalStream = w.localOf a)
    (hinit : ∀ s, s' = some s → s.mLocalStream ≠ none → s.initialized = true) :
    Linked (w.setAvb a s') where
  agree := by
    rw [localOf_setAvb, clientOf_setAvb, hlink, Function.update_eq_self]
    exact h.agree
  initialized := initialized_setAvb h hinit
  coherent := h.coherent

/-- A local stream changes, or comes or goes, and its half of the link stays. -/
theorem Linked.setLocal (h : Linked w) {t' : Option ClientAudioStream}
    (hlink : t'.bind ClientAudioStream.mClient = w.clientOf l)
    (hcoherent : ∀ t, t' = some t → t.Coherent) : Linked (w.setLocal l t') where
  agree := by
    rw [clientOf_setLocal, localOf_setLocal, hlink, Function.update_eq_self]
    exact h.agree
  initialized := h.initialized
  coherent := coherent_setLocal h hcoherent

/-! ## Connecting -/

/-- A stream without a link, and all other links as they were. -/
structure Unlinked (w w' : AudioLinks) (a : Nat) : Prop where
  own : w'.localOf a = none
  old : ∀ l, w.localOf a = some l → w'.clientOf l = none
  noClient : ∀ l, w'.clientOf l ≠ some a
  others : ∀ b, b ≠ a → w'.localOf b = w.localOf b
  otherClients : ∀ l b, b ≠ a → (w'.clientOf l = some b ↔ w.clientOf l = some b)

theorem clientOf_disconnect (l : Nat) :
    (w.onLocal l ClientAudioStream.disconnect).clientOf = Function.update w.clientOf l none := by
  unfold onLocal
  rw [clientOf_setLocal]
  congr 1
  cases w.localStreams l <;> rfl

theorem linked_dropLink (h : Linked w) (hs : w.avbStreams a = some s) :
    Linked (w.dropLink a s) := by
  unfold dropLink
  split
  · exact h
  · rename_i l hl
    have hlocal : w.localOf a = some l := (localOf_of_stream hs).trans hl
    refine ⟨?_, ?_, ?_⟩
    · rw [localOf_setAvb, clientOf_setAvb, clientOf_disconnect]
      exact h.agree.remove hlocal
    · intro b s'
      by_cases hb : b = a
      · rw [hb]
        unfold AudioLinks.setAvb
        dsimp only
        rw [Function.update_self]
        rintro ⟨⟩ hne
        exact absurd rfl hne
      · unfold AudioLinks.setAvb
        dsimp only
        rw [Function.update_of_ne hb]
        exact h.initialized b s'
    · refine coherent_setLocal h ?_
      intro t ht
      obtain ⟨t₀, -, rfl⟩ := Option.map_eq_some_iff.mp ht
      exact ClientAudioStream.coherent_disconnect

/-- **Without its link** is what a stream is left once the old link is taken apart. -/
theorem unlinked_dropLink (h : Linked w) (hs : w.avbStreams a = some s) :
    Unlinked w (w.dropLink a s) a := by
  have hlinked := linked_dropLink h hs
  have hown : (w.dropLink a s).localOf a = none := by
    unfold dropLink
    split
    · rename_i hnone
      exact (localOf_of_stream hs).trans hnone
    · rw [localOf_setAvb, Function.update_self]
      rfl
  have hothers : ∀ b, b ≠ a → (w.dropLink a s).localOf b = w.localOf b := by
    intro b hb
    unfold dropLink
    split
    · rfl
    · rw [localOf_setAvb, Function.update_of_ne hb]
      rfl
  refine ⟨hown, ?_, ?_, hothers, ?_⟩
  · intro l hl
    unfold dropLink
    rw [(localOf_of_stream hs).symm.trans hl]
    dsimp only
    rw [clientOf_setAvb, clientOf_disconnect, Function.update_self]
  · intro l hl
    rw [← hlinked.agree, hown] at hl
    nomatch hl
  · intro l b hb
    rw [← hlinked.agree, ← h.agree, hothers b hb]

/-- What is at the address of another local stream is not touched. -/
theorem dropLink_local (hne : s.mLocalStream ≠ some l) :
    (w.dropLink a s).localStreams l = w.localStreams l := by
  unfold dropLink
  split
  · rfl
  · rename_i k hk
    have hlk : l ≠ k := by
      rintro rfl
      exact hne hk
    exact Function.update_of_ne hlk _ _

/-- The local stream refuses, and nothing has happened, or there is a link on both sides. -/
theorem makeLink_cases (w : AudioLinks) (a : Nat) (s : NetworkAudioStream) (l : Nat)
    (t : ClientAudioStream) :
    ((w.makeLink a s l t).1 = w ∧ (w.makeLink a s l t).2 ≠ eIasAvbProcOK) ∨
      ((w.makeLink a s l t).2 = eIasAvbProcOK ∧ t.mClient = none ∧
        ∃ t', t'.mClient = some a ∧ (t.Coherent → t'.Coherent) ∧
          (w.makeLink a s l t).1 = (w.setLocal l (some t')).setAvb a
            (some { s with mLocalStream := some l, mStride := s.stride t })) := by
  unfold makeLink
  split
  · exact .inl ⟨rfl, nofun⟩
  · dsimp only
    split
    · rename_i hrefused
      exact .inl ⟨rfl, hrefused⟩
    · rename_i hok
      obtain ⟨hnone, hclient⟩ := ClientAudioStream.connect_ok (not_not.mp hok)
      refine .inr ⟨rfl, hnone, _, ?_, ?_, rfl⟩
      · rw [ClientAudioStream.mClient_setClientActive]
        exact hclient
      · intro h
        exact ClientAudioStream.coherent_setClientActive
          (ClientAudioStream.coherent_connect a h) _

theorem linked_makeLink (h : Linked w) (hown : w.localOf a = none)
    (hinit : s.initialized = true) (ht : w.localStreams l = some t) :
    Linked (w.makeLink a s l t).1 := by
  obtain ⟨hsame, -⟩ | ⟨-, hnone, t', hclient, hcoherent, hmade⟩ := makeLink_cases w a s l t
  · rw [hsame]
    exact h
  · rw [hmade]
    refine ⟨?_, ?_, ?_⟩
    · rw [localOf_setAvb, clientOf_setAvb, clientOf_setLocal, localOf_setLocal]
      have hlabel : w.clientOf l = none := (clientOf_of_stream ht).trans hnone
      have hadd := h.agree.add hown hlabel
      rwa [← hclient] at hadd
    · intro b s'
      by_cases hb : b = a
      · rw [hb]
        unfold AudioLinks.setAvb
        dsimp only
        rw [Function.update_self]
        rintro ⟨⟩ -
        exact hinit
      · unfold AudioLinks.setAvb
        dsimp only
        rw [Function.update_of_ne hb]
        exact h.initialized b s'
    · refine coherent_setLocal h ?_
      rintro t₁ ⟨⟩
      exact hcoherent (h.coherent l t ht)

/-- **A call of `connectTo`** keeps the links, and a failed one leaves none half made. -/
theorem connectTo_spec (h : Linked w) (hs : w.avbStreams a = some s)
    {localStream : Option (Nat × ClientAudioStream)}
    (hlive : ∀ l t, localStream = some (l, t) → w.localStreams l = some t) :
    Linked (w.connectTo a s localStream).1 ∧
      ((w.connectTo a s localStream).2 ≠ eIasAvbProcOK →
        (w.connectTo a s localStream).1 = w ∨ Unlinked w (w.connectTo a s localStream).1 a) := by
  unfold connectTo
  split
  · exact ⟨h, fun _ => .inl rfl⟩
  rename_i hinit
  split
  · exact ⟨h, fun _ => .inl rfl⟩
  rename_i hother
  split
  · exact ⟨linked_dropLink h hs, fun _ => .inr (unlinked_dropLink h hs)⟩
  · rename_i l t
    have hdropped := unlinked_dropLink h hs
    have ht : (w.dropLink a s).localStreams l = some t := by
      rw [dropLink_local fun heq => hother heq.symm]
      exact hlive l t rfl
    refine ⟨linked_makeLink (linked_dropLink h hs) hdropped.own (eq_true_of_ne_false hinit) ht, ?_⟩
    intro herror
    obtain ⟨hsame, -⟩ | ⟨hok, -⟩ := makeLink_cases (w.dropLink a s) a s l t
    · rw [hsame]
      exact .inr hdropped
    · exact absurd hok herror

theorem connectStreams_spec (h : Linked w) (a : Nat) (l : Option Nat) :
    Linked (w.connectStreams a l).1 ∧
      ((w.connectStreams a l).2 ≠ eIasAvbProcOK →
        (w.connectStreams a l).1 = w ∨ Unlinked w (w.connectStreams a l).1 a) := by
  unfold connectStreams
  split
  · exact ⟨h, fun _ => .inl rfl⟩
  · rename_i s hs
    split
    · exact connectTo_spec h hs nofun
    · rename_i l
      split
      · exact ⟨h, fun _ => .inl rfl⟩
      · rename_i t ht
        refine connectTo_spec h hs ?_
        rintro l' t' ⟨⟩
        exact ht

/-! ## Activation and destruction -/

theorem linked_passOn (h : Linked w) (a : Nat) (active : Bool) : Linked (w.passOn a active) := by
  unfold passOn
  split
  · exact h
  · rename_i l hl
    unfold onLocal
    cases ht : w.localStreams l with
    | none =>
        refine h.setLocal ?_ nofun
        unfold clientOf
        rw [ht]
        rfl
    | some t =>
        refine h.setLocal ?_ ?_
        · rw [clientOf_of_stream ht]
          exact ClientAudioStream.mClient_setClientActive active
        · rintro t' ⟨⟩
          exact ClientAudioStream.coherent_setClientActive (h.coherent l t ht) active

theorem linked_setActive (h : Linked w) (a : Nat) (active : Bool) :
    Linked (w.setActive a active) := by
  unfold setActive
  split
  · exact h
  · rename_i s hs
    split
    · exact h
    · have hset : Linked (w.setAvb a (some { s with mActive := active })) := by
        refine h.setAvb (localOf_of_stream hs).symm ?_
        rintro s' ⟨⟩
        exact h.initialized a s hs
      exact linked_passOn hset a active

/-- `connectTo(NULL)` of an initialized stream takes its link away. -/
theorem connectTo_none (h : Linked w) (hs : w.avbStreams a = some s)
    (hconnected : s.mLocalStream ≠ none) : (w.connectTo a s none).1 = w.dropLink a s := by
  unfold connectTo
  rw [if_neg (by rw [h.initialized a s hs hconnected]; nofun), if_neg fun heq =>
    hconnected heq.symm]

theorem linked_destroyAvbStream (h : Linked w) (a : Nat) : Linked (w.destroyAvbStream a) := by
  unfold destroyAvbStream
  have hquiet := linked_setActive h a false
  generalize w.setActive a false = w' at hquiet
  dsimp only
  split
  · exact hquiet
  · rename_i s hs
    split
    · rename_i hconnected
      rw [connectTo_none hquiet hs hconnected]
      exact (linked_dropLink hquiet hs).setAvb (unlinked_dropLink hquiet hs).own.symm nofun
    · rename_i hfree
      exact hquiet.setAvb (((localOf_of_stream hs).trans (not_not.mp hfree)).symm) nofun

theorem linked_destroyLocalStream (h : Linked w) (l : Nat) (removed : IasAvbProcessingResult) :
    Linked (w.destroyLocalStream l removed).1 := by
  unfold destroyLocalStream
  split
  · exact h
  · rename_i t ht
    split
    · exact h
    · rename_i hfree
      split
      · exact h
      · have hstate : t.mClientState = .eIasNotConnected := by
          by_contra hne
          exact hfree (bne_iff_ne.mpr hne)
        refine h.setLocal ?_ nofun
        exact (clientOf_of_stream ht).trans ((h.coherent l t ht).mp hstate) |>.symm

/-! ## Runs -/

theorem linked_step (w : AudioLinks) (ev : LinkEvent) (h : Linked w) : Linked (step w ev) := by
  cases ev with
  | createAvbStream a config direction initialized =>
      dsimp only [step]
      split
      · rename_i hfree
        refine h.setAvb ?_ ?_
        · unfold localOf
          rw [hfree]
          rfl
        · rintro s ⟨⟩ hne
          exact absurd rfl hne
      · exact h
  | createLocalStream l kind direction =>
      dsimp only [step]
      split
      · rename_i hfree
        refine h.setLocal ?_ ?_
        · unfold clientOf
          rw [hfree]
          rfl
        · rintro t ⟨⟩
          exact ⟨fun _ => rfl, fun _ => rfl⟩
      · exact h
  | connectTo a l => exact (connectStreams_spec h a l).1
  | setActive a active => exact linked_setActive h a active
  | setClientActive a active => exact linked_passOn h a active
  | destroyAvbStream a => exact linked_destroyAvbStream h a
  | destroyLocalStream l removed => exact linked_destroyLocalStream h l removed

theorem linked_exec (es : List LinkEvent) : Linked (exec step {} es) :=
  inv_exec_of_step linked_step linked_empty es

/-- Every link is known on both sides, and joins streams that are there. -/
structure Symmetric (w : AudioLinks) : Prop where
  both : ∀ a l, w.localOf a = some l ↔ w.clientOf l = some a
  localLive : ∀ a l, w.localOf a = some l → w.localStreams l ≠ none
  clientLive : ∀ l a, w.clientOf l = some a → w.avbStreams a ≠ none
  oneClient : ∀ a b l, w.localOf a = some l → w.localOf b = some l → a = b

theorem Linked.symmetric (h : Linked w) : Symmetric w where
  both := h.agree
  localLive := by
    intro a l hl hgone
    have hclient := (h.agree a l).mp hl
    unfold clientOf at hclient
    rw [hgone] at hclient
    nomatch hclient
  clientLive := by
    intro l a ha hgone
    have hlocal := (h.agree a l).mpr ha
    unfold localOf at hlocal
    rw [hgone] at hlocal
    nomatch hlocal
  oneClient := by
    intro a b l ha hb
    exact Option.some.inj (((h.agree a l).mp ha).symm.trans ((h.agree b l).mp hb))

/-- **Links are symmetric**, in every run, and a `connectTo` that reports an error has either
done nothing, or left the stream and its old local stream without a link. -/
theorem connection_symmetric (es : List LinkEvent) :
    Symmetric (exec step {} es) ∧
      ∀ a l, (connectStreams (exec step {} es) a l).2 ≠ eIasAvbProcOK →
        (connectStreams (exec step {} es) a l).1 = exec step {} es ∨
          Unlinked (exec step {} es) (connectStreams (exec step {} es) a l).1 a :=
  ⟨(linked_exec es).symmetric, fun a l => (connectStreams_spec (linked_exec es) a l).2⟩

end AudioLinks

end AvbStreamHandler
