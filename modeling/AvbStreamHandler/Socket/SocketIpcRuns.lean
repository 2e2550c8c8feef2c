import Mathlib.Data.List.Nodup
import AvbStreamHandler.Socket.SocketIpc

/-!
# Who is answered

Whatever the network does with the characters and whoever dies, the server executes the
commands of the clients in the order they connected, one after the other, and a client that
gets a response gets the one of its own command.

The invariant follows each client on its way. A client that waits has its request under way, in
one piece with what it has not sent; a client that has been served has its response under way,
in one piece with what the server has not sent. Only a message that a header can tell the length
of is sent at all.
-/

namespace AvbStreamHandler

open Kit Kit.Framing Kit.Run

/-- What a client has not sent. -/
def ClientPlace.unsent {ρ : Type} : ClientPlace ρ → List Char
  | .writing unsent => unsent
  | _ => []

/-- What the server has not sent to a client. -/
def ServerPlace.unsent (c : Nat) : ServerPlace → List Char
  | .writing connx unsent => if connx = c then unsent else []
  | _ => []

/-- The client the server reads from. -/
def ServerPlace.Current (mid : List Nat) : ServerPlace → Prop
  | .reading connx _ => mid = [connx]
  | .accepting | .writing .. => mid = []
  | .stopped => True

namespace SocketApp

variable {π ρ σ : Type} (app : SocketApp π ρ σ)

/-- The commands were executed one after the other, from the state the server was constructed
in. -/
inductive Executes : List (Service π ρ) → σ → ρ → Prop
  | nil : Executes [] app.handler app.response
  | snoc {log handler response} (c : Nat) (request : RequestSocketIpc π) :
      Executes log handler response →
      Executes
        (log ++ [{ client := c, request := request,
                   response := (app.dispatch handler response request).2 }])
        (app.dispatch handler response request).1 (app.dispatch handler response request).2

/-- A client that has not been served. -/
def Unserved (p : ClientPlace ρ) (back : List Char) : Prop :=
  back = [] ∧ (p = .failed ∨ (∃ unsent, unsent ≠ [] ∧ p = .writing unsent) ∨
    p = .reading (.header []))

/-- The request of a client, when the reader of the server has come so far. -/
def Asks (request : Option (RequestSocketIpc π)) (p : ClientPlace ρ) (chan : List Char)
    (r : Reader Char) : Prop :=
  ∃ req, request = some req ∧
    ((chan = [] ∧ r = .header [] ∧ p = .failed) ∨
      ∃ rest, Reading Connection.header (app.requestArchive.save req) r (chan ++ rest) ∧
        (p ≠ .failed → rest = p.unsent))

/-- A client that has been served, when the server has still to send `pending`. -/
def Answered (response : ρ) (p : ClientPlace ρ) (back pending : List Char) : Prop :=
  p = .failed ∨ p = .received response ∨ ∃ r, p = .reading r ∧
    ((frame Connection.header (app.responseArchive.save response) = none ∧ back = [] ∧
        pending = [] ∧ r = .header []) ∨
      Reading Connection.header (app.responseArchive.save response) r (back ++ pending) ∧
        ∀ data, r ≠ .complete data)

structure Inv (w : SocketIpc π ρ σ) : Prop where
  executes : app.Executes w.log w.handler w.response
  nodup : w.connected.Nodup
  order : ∃ mid, w.connected = w.log.map (·.client) ++ (mid ++ w.backlog) ∧
    w.server.Current mid ∧ ∀ c ∈ mid, Unserved (w.client c) (w.toClient c)
  fresh : ∀ c, c ∉ w.connected →
    w.client c = .idle ∧ w.toServer c = [] ∧ w.toClient c = []
  waiting : ∀ c ∈ w.backlog, Unserved (w.client c) (w.toClient c) ∧
    app.Asks (w.request c) (w.client c) (w.toServer c) (.header [])
  current : ∀ c r, w.server = .reading c r →
    app.Asks (w.request c) (w.client c) (w.toServer c) r ∧ ∀ data, r ≠ .complete data
  served : ∀ e ∈ w.log, w.request e.client = some e.request ∧
    app.Answered e.response (w.client e.client) (w.toClient e.client)
      (w.server.unsent e.client)
  writing : ∀ c unsent, w.server = .writing c unsent →
    unsent ≠ [] ∧ c ∈ w.log.map (·.client)
  fits : w.server ≠ .stopped → ∀ e ∈ w.log,
    frame Connection.header (app.responseArchive.save e.response) ≠ none

variable {app} {w : SocketIpc π ρ σ} {p : ClientPlace ρ} {back chan pending : List Char}

theorem Unserved.ne_idle (h : Unserved p back) : p ≠ .idle := by
  rintro rfl
  rcases h.2 with h | ⟨u, -, h⟩ | h <;> cases h

theorem Answered.ne_idle {response : ρ} (h : app.Answered response p back pending) :
    p ≠ .idle := by
  rintro rfl
  rcases h with h | h | ⟨r, h, -⟩ <;> cases h

/-- Where a connected client is. -/
theorem Inv.cases_connected (h : Inv app w) {c : Nat} (hc : c ∈ w.connected) :
    (∃ e ∈ w.log, e.client = c) ∨ Unserved (w.client c) (w.toClient c) := by
  obtain ⟨mid, horder, -, hmid⟩ := h.order
  rw [horder] at hc
  rcases List.mem_append.mp hc with hlog | hc
  · exact .inl (List.mem_map.mp hlog)
  · rcases List.mem_append.mp hc with hm | hb
    · exact .inr (hmid c hm)
    · exact .inr (h.waiting c hb).1

theorem Inv.not_connected_of_idle (h : Inv app w) {c : Nat} (hc : w.client c = .idle) :
    c ∉ w.connected := by
  intro hmem
  rcases h.cases_connected hmem with ⟨e, he, rfl⟩ | hun
  · exact (h.served e he).2.ne_idle hc
  · exact hun.ne_idle hc

theorem Inv.connected_of_served (h : Inv app w) {e : Service π ρ} (he : e ∈ w.log) {c : Nat}
    (hc : e.client = c) : c ∈ w.connected := by
  obtain ⟨mid, horder, -⟩ := h.order
  rw [horder, ← hc]
  exact List.mem_append_left _ (List.mem_map_of_mem he)

/-- A client that has been served is not served again. -/
theorem Inv.ne_of_served (h : Inv app w) {mid : List Nat}
    (horder : w.connected = w.log.map (·.client) ++ (mid ++ w.backlog)) {e : Service π ρ}
    (he : e ∈ w.log) {c : Nat} (hc : c ∈ mid ∨ c ∈ w.backlog) : e.client ≠ c := by
  have hnodup := h.nodup
  rw [horder] at hnodup
  exact (List.nodup_append.mp hnodup).2.2 _ (List.mem_map_of_mem he) c
    (List.mem_append.mpr hc)

theorem inv_init : Inv app app.init where
  executes := .nil
  nodup := List.nodup_nil
  order := ⟨[], rfl, rfl, nofun⟩
  fresh _ _ := ⟨rfl, rfl, rfl⟩
  waiting := nofun
  current := nofun
  served := nofun
  writing := nofun
  fits := fun _ => nofun

/-! ## The steps of a client -/

/-- **The rule for the step of a client.** It keeps what holds of the client where it is. -/
theorem Inv.move (h : Inv app w) {c : Nat} (p : ClientPlace ρ) (chan back : List Char)
    (hc : c ∈ w.connected)
    (hunserved : Unserved (w.client c) (w.toClient c) → Unserved p back)
    (hasks : (∀ e ∈ w.log, e.client ≠ c) → Unserved (w.client c) (w.toClient c) → ∀ r,
      app.Asks (w.request c) (w.client c) (w.toServer c) r → app.Asks (w.request c) p chan r)
    (hanswered : ∀ e ∈ w.log, e.client = c →
      app.Answered e.response (w.client c) (w.toClient c) (w.server.unsent c) →
      app.Answered e.response p back (w.server.unsent c)) :
    Inv app { w with
      client := Function.update w.client c p
      toServer := Function.update w.toServer c chan
      toClient := Function.update w.toClient c back } := by
  have hstill : ∀ d, Unserved (w.client d) (w.toClient d) →
      Unserved (Function.update w.client c p d) (Function.update w.toClient c back d) := by
    intro d hd
    by_cases hdc : d = c
    · subst hdc
      simp only [Function.update_self]
      exact hunserved hd
    · simp only [Function.update_of_ne hdc]
      exact hd
  obtain ⟨mid, horder, hcurrent, hmid⟩ := h.order
  have hask : ∀ d r, d ∈ mid ∨ d ∈ w.backlog → Unserved (w.client d) (w.toClient d) →
      app.Asks (w.request d) (w.client d) (w.toServer d) r →
      app.Asks (w.request d) (Function.update w.client c p d)
        (Function.update w.toServer c chan d) r := by
    intro d r hmem hd hr
    by_cases hdc : d = c
    · subst hdc
      simp only [Function.update_self]
      exact hasks (fun e he => h.ne_of_served horder he hmem) hd r hr
    · simp only [Function.update_of_ne hdc]
      exact hr
  refine { h with
    order := ⟨mid, horder, hcurrent, fun d hd => hstill d (hmid d hd)⟩
    fresh := ?_, waiting := ?_, current := ?_, served := ?_ }
  · intro d hd
    have hdc : d ≠ c := fun heq => hd (heq ▸ hc)
    simp only [Function.update_of_ne hdc]
    exact h.fresh d hd
  · intro d hd
    obtain ⟨hun, hwait⟩ := h.waiting d hd
    exact ⟨hstill d hun, hask d _ (.inr hd) hun hwait⟩
  · intro d r hd
    obtain ⟨hcur, hcomplete⟩ := h.current d r hd
    have hmem : d ∈ mid := by
      rw [hd] at hcurrent
      rw [show mid = [d] from hcurrent]
      exact List.mem_singleton_self d
    exact ⟨hask d r (.inl hmem) (hmid d hmem) hcur, hcomplete⟩
  · intro e he
    obtain ⟨hreq, hans⟩ := h.served e he
    refine ⟨hreq, ?_⟩
    by_cases hec : e.client = c
    · subst hec
      simp only [Function.update_self]
      exact hanswered e he rfl hans
    · simp only [Function.update_of_ne hec]
      exact hans

theorem Inv.connected_of_ne_idle (h : Inv app w) {c : Nat} (hc : w.client c ≠ .idle) :
    c ∈ w.connected := by
  by_contra hmem
  exact hc (h.fresh c hmem).1

theorem Inv.clientSends (h : Inv app w) (c n : Nat) :
    Inv app (app.step w (.clientSends c n)) := by
  simp only [step]
  split
  · rename_i unsent hp
    have hconnected := h.connected_of_ne_idle (c := c) (by simp [hp])
    have := h.move
      (if unsent.drop n = [] then .reading (.header []) else .writing (unsent.drop n))
      (w.toServer c ++ unsent.take n) (w.toClient c) hconnected ?_ ?_ ?_
    · simpa only [Function.update_eq_self] using this
    · rintro ⟨hback, -⟩
      refine ⟨hback, ?_⟩
      split
      · exact .inr (.inr rfl)
      · rename_i hne
        exact .inr (.inl ⟨_, hne, rfl⟩)
    · rintro - - r ⟨req, hreq, hcases⟩
      refine ⟨req, hreq, .inr ?_⟩
      rcases hcases with ⟨-, -, hfailed⟩ | ⟨rest, hreading, hrest⟩
      · rw [hp] at hfailed
        cases hfailed
      · rw [hp] at hrest
        rw [hrest nofun, ClientPlace.unsent, ← List.take_append_drop n unsent,
          ← List.append_assoc] at hreading
        refine ⟨unsent.drop n, hreading, fun _ => ?_⟩
        split
        · assumption
        · rfl
    · rintro e - - hans
      rw [hp] at hans
      rcases hans with h | h | ⟨r, h, -⟩ <;> cases h
  · exact h

theorem clientHandleRead_save (response : ρ) :
    app.clientHandleRead (app.responseArchive.save response) = .received response := by
  simp only [clientHandleRead, app.responseArchive.load_save]

theorem Inv.clientReceives (h : Inv app w) (c n : Nat) :
    Inv app (app.step w (.clientReceives c n)) := by
  simp only [step]
  split
  · rename_i reader hp
    have hconnected := h.connected_of_ne_idle (c := c) (by simp [hp])
    have := h.move (app.clientAt (reader.advance Connection.header
        ((w.toClient c).take (min n (reader.need Connection.header)))))
      (w.toServer c) ((w.toClient c).drop (min n (reader.need Connection.header)))
      hconnected ?_ ?_ ?_
    · simpa only [Function.update_eq_self] using this
    · -- nothing has been sent to it yet
      rintro ⟨hback, hplace⟩
      rw [hp] at hplace
      rcases hplace with hr | ⟨u, -, hr⟩ | hr
      · cases hr
      · cases hr
      · cases hr
        rw [hback]
        exact ⟨List.drop_nil, .inr (.inr (by rw [List.take_nil]; rfl))⟩
    · rintro - ⟨hback, hplace⟩ r ⟨req, hreq, hcases⟩
      rw [hp] at hplace
      rcases hplace with hr | ⟨u, -, hr⟩ | hr
      · cases hr
      · cases hr
      · cases hr
        refine ⟨req, hreq, .inr ?_⟩
        rcases hcases with ⟨-, -, hfailed⟩ | ⟨rest, hreading, hrest⟩
        · rw [hp] at hfailed
          cases hfailed
        · rw [hp] at hrest
          rw [hback, List.take_nil]
          exact ⟨rest, hreading, fun _ => hrest nofun⟩
    · rintro e - - hans
      rw [hp] at hans
      rcases hans with hr | hr | ⟨r, hr, hcases⟩
      · cases hr
      · cases hr
      cases hr
      rcases hcases with ⟨hnone, hback, hpending, rfl⟩ | ⟨hreading, hcomplete⟩
      · rw [hback, List.take_nil, List.drop_nil]
        exact .inr (.inr ⟨.header [], rfl, .inl ⟨hnone, rfl, hpending, rfl⟩⟩)
      · rw [← List.take_append_drop (min n (reader.need Connection.header)) (w.toClient c),
          List.append_assoc] at hreading
        have hnext := hreading.advance (by rw [List.length_take]; omega)
        cases hadv : reader.advance Connection.header
            ((w.toClient c).take (min n (reader.need Connection.header))) with
        | complete inbound_data =>
            rw [hadv] at hnext
            simp only [hnext.complete, clientAt, clientHandleRead_save]
            exact .inr (.inl rfl)
        | invalid =>
            rw [hadv] at hnext
            exact absurd rfl hnext.ne_invalid
        | header got =>
            rw [hadv] at hnext
            exact .inr (.inr ⟨_, rfl, .inr ⟨hnext, nofun⟩⟩)
        | data size got =>
            rw [hadv] at hnext
            exact .inr (.inr ⟨_, rfl, .inr ⟨hnext, nofun⟩⟩)
  · exact h

theorem Inv.abort (h : Inv app w) (c : Nat) : Inv app (app.step w (.abort c)) := by
  have hkilled : w.client c ≠ .idle →
      Inv app { w with client := Function.update w.client c .failed } := by
    intro hc
    have := h.move .failed (w.toServer c) (w.toClient c)
      (h.connected_of_ne_idle hc) (fun hun => ⟨hun.1, .inl rfl⟩) ?_ (fun _ _ _ _ => .inl rfl)
    · simpa only [Function.update_eq_self] using this
    · rintro - - r ⟨req, hreq, hcases⟩
      refine ⟨req, hreq, ?_⟩
      rcases hcases with ⟨hchan, hr, -⟩ | ⟨rest, hreading, -⟩
      · exact .inl ⟨hchan, hr, rfl⟩
      · exact .inr ⟨rest, hreading, fun hne => absurd rfl hne⟩
  simp only [step]
  split
  · rename_i hp
    exact hkilled (by simp [hp])
  · rename_i hp
    exact hkilled (by simp [hp])
  · exact h

theorem Inv.connect (h : Inv app w) (c : Nat) (request : RequestSocketIpc π) :
    Inv app (app.step w (.connect c request)) := by
  simp only [step]
  split
  · rename_i hidle
    have hnew := h.not_connected_of_idle hidle
    obtain ⟨-, hchan, hback⟩ := h.fresh c hnew
    have hne : ∀ d, d ∈ w.connected → d ≠ c := fun d hd heq => hnew (heq ▸ hd)
    obtain ⟨mid, horder, hcurrent, hmid⟩ := h.order
    have hlog : ∀ e ∈ w.log, e.client ≠ c := by
      intro e he
      refine hne _ ?_
      rw [horder]
      exact List.mem_append_left _ (List.mem_map_of_mem he)
    have hmidne : ∀ d ∈ mid, d ≠ c := by
      intro d hd
      refine hne d ?_
      rw [horder]
      exact List.mem_append_right _ (List.mem_append_left _ hd)
    have hbackne : ∀ d ∈ w.backlog, d ≠ c := by
      intro d hd
      refine hne d ?_
      rw [horder]
      exact List.mem_append_right _ (List.mem_append_right _ hd)
    refine { executes := h.executes, nodup := ?_, order := ⟨mid, ?_, hcurrent, ?_⟩, fresh := ?_,
             waiting := ?_, current := ?_, served := ?_, writing := h.writing, fits := h.fits }
    · exact List.nodup_append.mpr ⟨h.nodup, List.nodup_singleton c,
        fun d hd x hx => List.mem_singleton.mp hx ▸ hne d hd⟩
    · simp only [horder, List.append_assoc]
    · intro d hd
      simp only [Function.update_of_ne (hmidne d hd)]
      exact hmid d hd
    · intro d hd
      have hdc : d ≠ c := fun heq => hd (List.mem_append_right _ (heq ▸ List.mem_singleton_self c))
      simp only [Function.update_of_ne hdc]
      exact h.fresh d fun hmem => hd (List.mem_append_left _ hmem)
    · intro d hd
      rcases List.mem_append.mp hd with hd | hd
      · simp only [Function.update_of_ne (hbackne d hd)]
        exact h.waiting d hd
      · rw [List.mem_singleton.mp hd]
        simp only [Function.update_self, hchan, hback]
        cases hframe : frame Connection.header (app.requestArchive.save request) with
        | none => exact ⟨⟨rfl, .inl rfl⟩, request, rfl, .inl ⟨rfl, rfl, rfl⟩⟩
        | some unsent =>
            exact ⟨⟨rfl, .inr (.inl ⟨unsent, frame_ne_nil hframe, rfl⟩)⟩, request, rfl,
              .inr ⟨unsent, Reading.init hframe, fun _ => rfl⟩⟩
    · intro d r hd
      rw [show w.server = _ from hd] at hcurrent
      have hdc : d ≠ c := hmidne d (by
        rw [show mid = [d] from hcurrent]
        exact List.mem_singleton_self d)
      simp only [Function.update_of_ne hdc]
      exact h.current d r hd
    · intro e he
      simp only [Function.update_of_ne (hlog e he)]
      exact h.served e he
  · exact h

/-! ## The steps of the server -/

theorem Inv.accept (h : Inv app w) (ok : Bool) : Inv app (app.step w (.accept ok)) := by
  simp only [step]
  split
  · rename_i c backlog hserver hbacklog
    obtain ⟨mid, horder, hcurrent, hmid⟩ := h.order
    rw [hserver] at hcurrent
    obtain rfl : mid = [] := hcurrent
    have hunsent : ∀ d, w.server.unsent d = [] := by
      intro d
      rw [hserver]
      rfl
    split
    · have hwait := h.waiting c (by rw [hbacklog]; exact List.mem_cons_self)
      refine { h with
        order := ⟨[c], ?_, rfl, ?_⟩, waiting := ?_, current := ?_, served := ?_,
        writing := nofun, fits := fun _ => h.fits (by rw [hserver]; exact ServerPlace.noConfusion) }
      · rw [horder, hbacklog]
        rfl
      · intro d hd
        rw [List.mem_singleton.mp hd]
        exact hwait.1
      · intro d hd
        exact h.waiting d (by rw [hbacklog]; exact List.mem_cons_of_mem c hd)
      · rintro d r hd
        cases hd
        exact ⟨hwait.2, nofun⟩
      · intro e he
        have := h.served e he
        rw [hunsent] at this
        exact this
    · refine { h with
        order := ⟨[], horder, trivial, nofun⟩, current := nofun, served := ?_, writing := nofun,
        fits := fun hne => absurd rfl hne }
      intro e he
      have := h.served e he
      rw [hunsent] at this
      exact this
  · exact h

/-- A command is executed. -/
theorem Inv.handle_read (h : Inv app w) {c : Nat} {r : Reader Char} {req : RequestSocketIpc π}
    (hserver : w.server = .reading c r) (hreq : w.request c = some req)
    (hsent : w.client c ≠ .failed → (w.client c).unsent = []) :
    Inv app (app.handle_read w c (app.requestArchive.save req)) := by
  obtain ⟨mid, horder, hcurrent, hmid⟩ := h.order
  rw [hserver] at hcurrent
  obtain rfl : mid = [c] := hcurrent
  have hun := hmid c (List.mem_singleton_self c)
  have hne : ∀ e ∈ w.log, e.client ≠ c := fun e he =>
    h.ne_of_served horder he (.inl (List.mem_singleton_self c))
  have hplace : w.client c = .failed ∨ w.client c = .reading (.header []) := by
    rcases hun.2 with hp | ⟨u, hu, hp⟩ | hp
    · exact .inl hp
    · rw [hp] at hsent
      exact absurd (hsent nofun) hu
    · exact .inr hp
  have hold : ∀ (s : ServerPlace), (∀ d, d ≠ c → s.unsent d = []) → ∀ e ∈ w.log,
      w.request e.client = some e.request ∧
        app.Answered e.response (w.client e.client) (w.toClient e.client)
          (s.unsent e.client) := by
    intro s hs e he
    have := h.served e he
    rw [hserver] at this
    rw [hs _ (hne e he)]
    exact this
  simp only [SocketApp.handle_read, app.requestArchive.load_save]
  generalize hexec : app.dispatch w.handler w.response req = executed
  have hexecutes : app.Executes (w.log ++ [{ client := c, request := req, response := executed.2 }])
      executed.1 executed.2 := by
    rw [← hexec]
    exact h.executes.snoc c req
  have hconnected : w.connected =
      (w.log ++ [({ client := c, request := req, response := executed.2 } : Service π ρ)]).map
        (·.client) ++ ([] ++ w.backlog) := by
    rw [horder, List.map_append]
    simp
  cases hframe : frame Connection.header (app.responseArchive.save executed.2) with
  | none =>
      refine { h with
        executes := hexecutes, order := ⟨[], hconnected, trivial, nofun⟩, current := nofun,
        served := ?_, writing := nofun, fits := fun hne => absurd rfl hne }
      intro e he
      rcases List.mem_append.mp he with he | he
      · exact hold .stopped (fun _ _ => rfl) e he
      · rw [List.mem_singleton.mp he]
        refine ⟨hreq, ?_⟩
        rcases hplace with hp | hp
        · exact .inl hp
        · exact .inr (.inr ⟨_, hp, .inl ⟨hframe, hun.1, rfl, rfl⟩⟩)
  | some unsent =>
      refine { h with
        executes := hexecutes, order := ⟨[], hconnected, rfl, nofun⟩, current := nofun,
        served := ?_, writing := ?_, fits := ?_ }
      · intro e he
        rcases List.mem_append.mp he with he | he
        · exact hold (.writing c unsent) (fun d hd => if_neg (Ne.symm hd)) e he
        · rw [List.mem_singleton.mp he]
          refine ⟨hreq, ?_⟩
          rcases hplace with hp | hp
          · exact .inl hp
          · refine .inr (.inr ⟨_, hp, .inr ⟨?_, nofun⟩⟩)
            simp only [hun.1, ServerPlace.unsent, if_true, List.nil_append]
            exact Reading.init hframe
      · rintro d u hd
        cases hd
        exact ⟨frame_ne_nil hframe, by simp⟩
      · intro _ e he
        rcases List.mem_append.mp he with he | he
        · exact h.fits (by rw [hserver]; exact ServerPlace.noConfusion) e he
        · rw [List.mem_singleton.mp he, hframe]
          exact Option.some_ne_none unsent

/-- Executing a command, the server forgets where it was and does not look at the stream. -/
theorem handle_read_with (w : SocketIpc π ρ σ) (c : Nat) (inbound_data : List Char)
    (s : ServerPlace) (toServer : Nat → List Char) :
    app.handle_read { w with server := s, toServer := toServer } c inbound_data =
      { app.handle_read w c inbound_data with toServer := toServer } := by
  simp only [handle_read]
  split
  · rfl
  · split <;> rfl

theorem handle_read_toServer (w : SocketIpc π ρ σ) (c : Nat) (inbound_data : List Char) :
    (app.handle_read w c inbound_data).toServer = w.toServer := by
  simp only [handle_read]
  split
  · rfl
  · split <;> rfl

/-- The reader of the server goes on. -/
theorem Inv.read (h : Inv app w) {c : Nat} {r r' : Reader Char} {chan' : List Char}
    (hserver : w.server = .reading c r)
    (hasks : app.Asks (w.request c) (w.client c) chan' r') (hr' : ∀ data, r' ≠ .complete data) :
    Inv app { w with
      server := .reading c r', toServer := Function.update w.toServer c chan' } := by
  obtain ⟨mid, horder, hcurrent, hmid⟩ := h.order
  rw [hserver] at hcurrent
  obtain rfl : mid = [c] := hcurrent
  have hbacklog : ∀ d ∈ w.backlog, d ≠ c := by
    have hnodup := h.nodup
    rw [horder] at hnodup
    have := (List.nodup_append.mp (List.nodup_append.mp hnodup).2.1).2.2
    exact fun d hd => Ne.symm (this c (List.mem_singleton_self c) d hd)
  refine { h with
    order := ⟨[c], horder, rfl, hmid⟩, fresh := ?_, waiting := ?_, current := ?_, served := ?_,
    writing := nofun, fits := fun _ => h.fits (by rw [hserver]; exact ServerPlace.noConfusion) }
  · intro d hd
    have hdc : d ≠ c := by
      rintro rfl
      rw [horder] at hd
      exact hd (by simp)
    simp only [Function.update_of_ne hdc]
    exact h.fresh d hd
  · intro d hd
    simp only [Function.update_of_ne (hbacklog d hd)]
    exact h.waiting d hd
  · rintro d s hd
    cases hd
    simp only [Function.update_self]
    exact ⟨hasks, hr'⟩
  · intro e he
    have := h.served e he
    rw [hserver] at this
    exact this

theorem Inv.serverReceives (h : Inv app w) (n : Nat) :
    Inv app (app.step w (.serverReceives n)) := by
  simp only [step]
  split
  · rename_i c reader hserver
    obtain ⟨⟨req, hreq, hcases⟩, hcomplete⟩ := h.current c reader hserver
    rcases hcases with ⟨hchan, hr, hp⟩ | ⟨rest, hreading, hrest⟩
    · -- the request was too long: nothing comes
      subst hr
      rw [hchan, List.take_nil, List.drop_nil]
      exact h.read hserver ⟨req, hreq, .inl ⟨rfl, rfl, hp⟩⟩ nofun
    · rw [← List.take_append_drop (min n (reader.need Connection.header)) (w.toServer c),
        List.append_assoc] at hreading
      have hnext := hreading.advance (by rw [List.length_take]; omega)
      generalize hadv : reader.advance Connection.header
        ((w.toServer c).take (min n (reader.need Connection.header))) = reader' at hnext
      have hstill : (∀ data, reader' ≠ .complete data) → Inv app { w with
          server := .reading c reader'
          toServer := Function.update w.toServer c
            ((w.toServer c).drop (min n (reader.need Connection.header))) } :=
        h.read hserver ⟨req, hreq, .inr ⟨rest, hnext, hrest⟩⟩
      cases reader' with
      | header got => exact hstill nofun
      | data size got => exact hstill nofun
      | invalid => exact absurd rfl hnext.ne_invalid
      | complete inbound_data =>
          obtain ⟨rfl, hleft⟩ := hnext
          obtain ⟨hdrop, hrest'⟩ := List.append_eq_nil_iff.mp hleft
          have hserved := h.handle_read hserver hreq (fun hne => (hrest hne).symm.trans hrest')
          have hlog : ∃ e ∈ (app.handle_read w c (app.requestArchive.save req)).log,
              e.client = c := by
            simp only [SocketApp.handle_read, app.requestArchive.load_save]
            split <;> exact ⟨_, List.mem_append_right _ (List.mem_singleton_self _), rfl⟩
          obtain ⟨e, he, hec⟩ := hlog
          have hmoved := hserved.move _
            ((w.toServer c).drop (min n (reader.need Connection.header))) _
            (hserved.connected_of_served he hec) id (fun hne => absurd hec (hne e he))
            fun _ _ _ => id
          rw [Function.update_eq_self, Function.update_eq_self, handle_read_toServer] at hmoved
          simp only [handle_read_with]
          exact hmoved
  · exact h

theorem Inv.serverSends (h : Inv app w) (n : Nat) : Inv app (app.step w (.serverSends n)) := by
  simp only [step]
  split
  · rename_i c unsent hserver
    obtain ⟨mid, horder, hcurrent, hmid⟩ := h.order
    rw [hserver] at hcurrent
    obtain rfl : mid = [] := hcurrent
    obtain ⟨hunsent, hlog⟩ := h.writing c unsent hserver
    obtain ⟨e₀, he₀, hc⟩ := List.mem_map.mp hlog
    have hbacklog : ∀ d ∈ w.backlog, d ≠ c := fun d hd heq =>
      h.ne_of_served horder he₀ (.inr hd) (hc.trans heq.symm)
    have hrunning : w.server ≠ .stopped := by
      rw [hserver]
      exact ServerPlace.noConfusion
    refine { h with
      order := ⟨[], horder, ?_, nofun⟩, fresh := ?_, waiting := ?_, current := ?_, served := ?_,
      writing := ?_, fits := fun _ => h.fits hrunning }
    · split <;> rfl
    · intro d hd
      have hdc : d ≠ c := by
        rintro rfl
        rw [horder] at hd
        exact hd (List.mem_append_left _ hlog)
      simp only [Function.update_of_ne hdc]
      exact h.fresh d hd
    · intro d hd
      simp only [Function.update_of_ne (hbacklog d hd)]
      exact h.waiting d hd
    · intro d r hd
      split at hd <;> cases hd
    · intro e he
      obtain ⟨hreq, hans⟩ := h.served e he
      refine ⟨hreq, ?_⟩
      rw [hserver] at hans
      by_cases hec : e.client = c
      · subst hec
        have hpending : ServerPlace.unsent e.client (if unsent.drop n = [] then .accepting else
            .writing e.client (unsent.drop n)) = unsent.drop n := by
          split
          · rename_i hnil
            rw [hnil]
            rfl
          · exact if_pos rfl
        rw [show ServerPlace.unsent e.client (.writing e.client unsent) = unsent from
          if_pos rfl] at hans
        simp only [hpending, Function.update_self]
        rcases hans with hf | hr | ⟨r, hp, ⟨-, -, hnil, -⟩ | ⟨hreading, hcomplete⟩⟩
        · exact .inl hf
        · exact .inr (.inl hr)
        · exact absurd hnil hunsent
        · refine .inr (.inr ⟨r, hp, .inr ⟨?_, hcomplete⟩⟩)
          rw [List.append_assoc, List.take_append_drop]
          exact hreading
      · have hpending : ServerPlace.unsent e.client (if unsent.drop n = [] then .accepting else
            .writing c (unsent.drop n)) = ServerPlace.unsent e.client (.writing c unsent) := by
          split
          · exact (if_neg (Ne.symm hec)).symm
          · exact (if_neg (Ne.symm hec)).trans (if_neg (Ne.symm hec)).symm
        simp only [hpending, Function.update_of_ne hec]
        exact hans
    · intro d u hd
      split at hd
      · cases hd
      · rename_i hne
        cases hd
        exact ⟨hne, hlog⟩
  · exact h

theorem Inv.connectionFails (h : Inv app w) : Inv app (app.step w .connectionFails) := by
  have hstop : ∀ c, (∀ d, d ≠ c → w.server.unsent d = []) → w.client c = .failed →
      Inv app { w with server := .stopped } := by
    intro c hunsent hfailed
    obtain ⟨mid, horder, -, hmid⟩ := h.order
    refine { h with
      order := ⟨mid, horder, trivial, hmid⟩, current := nofun, served := ?_, writing := nofun,
      fits := fun hne => absurd rfl hne }
    intro e he
    obtain ⟨hreq, hans⟩ := h.served e he
    refine ⟨hreq, ?_⟩
    by_cases hec : e.client = c
    · exact .inl (hec ▸ hfailed)
    · rw [hunsent _ hec] at hans
      exact hans
  simp only [step]
  split
  · rename_i c reader hserver
    split
    · rename_i hfailed
      exact hstop c (fun d _ => by rw [hserver]; rfl) hfailed
    · exact h
  · rename_i c unsent hserver
    split
    · rename_i hfailed
      exact hstop c (fun d hd => by rw [hserver]; exact if_neg (Ne.symm hd)) hfailed
    · exact h
  · exact h

/-! ## Runs -/

theorem Inv.step (h : Inv app w) (e : Event π) : Inv app (app.step w e) := by
  cases e with
  | connect c request => exact h.connect c request
  | accept ok => exact h.accept ok
  | clientSends c n => exact h.clientSends c n
  | serverReceives n => exact h.serverReceives n
  | serverSends n => exact h.serverSends n
  | clientReceives c n => exact h.clientReceives c n
  | abort c => exact h.abort c
  | connectionFails => exact h.connectionFails

theorem inv_exec (es : List (Event π)) : Inv app (exec app.step app.init es) :=
  inv_exec_of_step (fun _ e h => h.step e) inv_init es

/-- What the server has done for its clients after some events. -/
structure Serves (app : SocketApp π ρ σ) (es : List (Event π)) (w : SocketIpc π ρ σ) : Prop where
  executes : app.Executes w.log w.handler w.response
  /-- In the order they connected. -/
  order : w.log.map (·.client) <+: w.connected
  once : (w.log.map (·.client)).Nodup
  asked : ∀ e ∈ w.log, .connect e.client e.request ∈ es
  answered : ∀ c response, w.client c = .received response →
    ∃ e ∈ w.log, e.client = c ∧ e.response = response

/-- Only a client that connects asks for something. -/
theorem step_frame (w : SocketIpc π ρ σ) {e : Event π} (he : ∀ c request, e ≠ .connect c request) :
    (app.step w e).request = w.request ∧ (app.step w e).connected = w.connected := by
  cases e with
  | connect c request => exact absurd rfl (he c request)
  | serverReceives n =>
      simp only [step]
      split
      · split
        · simp only [handle_read]
          split
          · exact ⟨rfl, rfl⟩
          · split <;> exact ⟨rfl, rfl⟩
        · exact ⟨rfl, rfl⟩
        · exact ⟨rfl, rfl⟩
      · exact ⟨rfl, rfl⟩
  | accept ok =>
      simp only [step]
      split
      · split <;> exact ⟨rfl, rfl⟩
      · exact ⟨rfl, rfl⟩
  | connectionFails =>
      simp only [step]
      split
      · split <;> exact ⟨rfl, rfl⟩
      · split <;> exact ⟨rfl, rfl⟩
      · exact ⟨rfl, rfl⟩
  | clientSends d n | serverSends n | clientReceives d n =>
      simp only [step]
      split <;> exact ⟨rfl, rfl⟩
  | abort d =>
      simp only [step]
      split <;> exact ⟨rfl, rfl⟩

theorem request_step (e : Event π) {c : Nat} {request : RequestSocketIpc π}
    (h : (app.step w e).request c = some request) :
    w.request c = some request ∨ e = .connect c request := by
  by_cases he : ∀ d request', e ≠ .connect d request'
  · rw [(step_frame w he).1] at h
    exact .inl h
  · simp only [not_forall, not_not] at he
    obtain ⟨d, request', rfl⟩ := he
    simp only [step] at h
    split at h
    · by_cases hcd : c = d
      · subst hcd
        simp only [Function.update_self, Option.some.injEq] at h
        exact .inr (by rw [h])
      · simp only [Function.update_of_ne hcd] at h
        exact .inl h
    · exact .inl h

theorem connected_step (h : Inv app w) (e : Event π) {c : Nat}
    (hc : c ∈ w.connected ∨ ∃ request, e = .connect c request) :
    c ∈ (app.step w e).connected := by
  by_cases he : ∀ d request', e ≠ .connect d request'
  · rw [(step_frame w he).2]
    rcases hc with hc | ⟨request, rfl⟩
    · exact hc
    · exact absurd rfl (he c request)
  · simp only [not_forall, not_not] at he
    obtain ⟨d, request', rfl⟩ := he
    simp only [step]
    split
    · rcases hc with hc | ⟨request, hd⟩
      · exact List.mem_append_left _ hc
      · cases hd
        exact List.mem_append_right _ (List.mem_singleton_self c)
    · rename_i hidle
      rcases hc with hc | ⟨request, hd⟩
      · exact hc
      · cases hd
        exact h.connected_of_ne_idle hidle

theorem mem_of_request (es : List (Event π)) {c : Nat} {request : RequestSocketIpc π}
    (h : (exec app.step app.init es).request c = some request) : .connect c request ∈ es := by
  have hstep : ∀ (s : SocketIpc π ρ σ) (e : Event π),
      (∀ c request, s.request c = some request → .connect c request ∈ es) → e ∈ es →
      ∀ c request, (app.step s e).request c = some request → .connect c request ∈ es := by
    intro s e hs he c request hreq
    rcases request_step e hreq with hold | rfl
    · exact hs c request hold
    · exact he
  have hinit : ∀ c request, app.init.request c = some request → .connect c request ∈ es := nofun
  exact inv_exec_mem hstep hinit (fun _ he => he) c request h

/-- **One after the other, in the order of the connections, and each client gets its own
response**, whatever is done in whatever order. -/
theorem serves (app : SocketApp π ρ σ) (es : List (Event π)) :
    Serves app es (exec app.step app.init es) := by
  have h : Inv app (exec app.step app.init es) := inv_exec es
  obtain ⟨mid, horder, -, hmid⟩ := h.order
  have hnodup := h.nodup
  rw [horder] at hnodup
  refine ⟨h.executes, ?_, (List.nodup_append.mp hnodup).1, ?_, ?_⟩
  · rw [horder]
    exact List.prefix_append _ _
  · intro e he
    exact mem_of_request es (h.served e he).1
  · intro c response hc
    have hconnected := h.connected_of_ne_idle (c := c) (by simp [hc])
    rcases h.cases_connected hconnected with ⟨e, he, hec⟩ | ⟨-, hp⟩
    · refine ⟨e, he, hec, ?_⟩
      have hans := (h.served e he).2
      rw [hec, hc] at hans
      rcases hans with hf | hr | ⟨r, hr, -⟩
      · cases hf
      · cases hr
        rfl
      · cases hr
    · rw [hc] at hp
      rcases hp with hf | ⟨u, -, hr⟩ | hr
      · cases hf
      · cases hr
      · cases hr

/-! ## When everything goes well -/

/-- The longest archive whose length fits in a header. -/
def Fits (archive : List Char) : Prop := archive.length < 4294967296

theorem frame_ne_none_iff (archive : List Char) :
    frame Connection.header archive ≠ none ↔ Fits archive := by
  rw [Option.ne_none_iff_isSome, frame, Option.isSome_map]
  exact Connection.encodeHeader_isSome archive.length

/-- Nobody dies, no accept fails, and the request is not too long. -/
def Smooth (app : SocketApp π ρ σ) : Event π → Prop
  | .connect _ request => Fits (app.requestArchive.save request)
  | .accept ok => ok = true
  | .abort _ => False
  | _ => True

/-- Nothing is under way any more, and nobody waits to be accepted. -/
structure Quiet (app : SocketApp π ρ σ) (w : SocketIpc π ρ σ) : Prop where
  accept : app.step w (.accept true) = w
  serverReceives : ∀ n, app.step w (.serverReceives n) = w
  serverSends : ∀ n, app.step w (.serverSends n) = w
  clientSends : ∀ c n, app.step w (.clientSends c n) = w
  clientReceives : ∀ c n, app.step w (.clientReceives c n) = w

/-- No client has failed, and only a response that is too long has stopped the server. -/
structure Well (app : SocketApp π ρ σ) (w : SocketIpc π ρ σ) : Prop where
  client : ∀ c, w.client c ≠ .failed
  server : w.server = .stopped → ∃ e ∈ w.log, ¬ Fits (app.responseArchive.save e.response)

/-- The server reads what the client has sent. -/
theorem Inv.reads (h : Inv app w) {c : Nat} {reader : Reader Char}
    (hserver : w.server = .reading c reader) (n : Nat) :
    reader.advance Connection.header
        ((w.toServer c).take (min n (reader.need Connection.header))) ≠ .invalid ∧
      ∀ data, reader.advance Connection.header
          ((w.toServer c).take (min n (reader.need Connection.header))) = .complete data →
        ∃ req, data = app.requestArchive.save req := by
  obtain ⟨⟨req, -, hcases⟩, -⟩ := h.current c reader hserver
  rcases hcases with ⟨hchan, rfl, -⟩ | ⟨rest, hreading, -⟩
  · rw [hchan, List.take_nil]
    exact ⟨nofun, nofun⟩
  · rw [← List.take_append_drop (min n (reader.need Connection.header)) (w.toServer c),
      List.append_assoc] at hreading
    have hnext := hreading.advance (by rw [List.length_take]; omega)
    refine ⟨hnext.ne_invalid, fun data hdata => ⟨req, ?_⟩⟩
    rw [hdata] at hnext
    exact hnext.complete

/-- A client that reads does not fail by reading. -/
theorem Inv.clientAt_ne_failed (h : Inv app w) {c n : Nat} {reader : Reader Char}
    (hp : w.client c = .reading reader) :
    app.clientAt (reader.advance Connection.header
      ((w.toClient c).take (min n (reader.need Connection.header)))) ≠ .failed := by
  have hconnected := h.connected_of_ne_idle (c := c) (by simp [hp])
  have hheader : app.clientAt ((Reader.header []).advance Connection.header []) ≠ .failed := nofun
  rcases h.cases_connected hconnected with ⟨e, he, rfl⟩ | ⟨hback, hplace⟩
  · have hans := (h.served e he).2
    rw [hp] at hans
    rcases hans with hf | hr | ⟨r, hr, hcases⟩
    · cases hf
    · cases hr
    cases hr
    rcases hcases with ⟨-, hback, -, rfl⟩ | ⟨hreading, -⟩
    · rw [hback, List.take_nil]
      exact hheader
    · rw [← List.take_append_drop (min n (reader.need Connection.header)) (w.toClient e.client),
        List.append_assoc] at hreading
      have hnext := hreading.advance (by rw [List.length_take]; omega)
      cases hadv : reader.advance Connection.header
          ((w.toClient e.client).take (min n (reader.need Connection.header))) with
      | complete inbound_data =>
          rw [hadv] at hnext
          simp only [hnext.complete, clientAt, clientHandleRead_save]
          exact nofun
      | invalid =>
          rw [hadv] at hnext
          exact absurd rfl hnext.ne_invalid
      | header got => exact nofun
      | data size got => exact nofun
  · rw [hp] at hplace
    rcases hplace with hf | ⟨u, -, hr⟩ | hr
    · cases hf
    · cases hr
    · cases hr
      rw [hback, List.take_nil]
      exact hheader

theorem Well.step (h : Well app w) (hinv : Inv app w) {e : Event π} (he : Smooth app e) :
    Well app (app.step w e) := by
  have hupdate : ∀ c p, p ≠ ClientPlace.failed →
      ∀ d, Function.update w.client c p d ≠ ClientPlace.failed := by
    intro c p hp d
    by_cases hdc : d = c
    · subst hdc
      rw [Function.update_self]
      exact hp
    · rw [Function.update_of_ne hdc]
      exact h.client d
  cases e with
  | connect c request =>
      simp only [SocketApp.step]
      split
      · refine ⟨hupdate c _ ?_, h.server⟩
        split
        · rename_i hnone
          exact absurd hnone ((frame_ne_none_iff _).mpr he)
        · exact nofun
      · exact h
  | accept ok =>
      obtain rfl : ok = true := he
      simp only [SocketApp.step]
      split
      · exact ⟨h.client, nofun⟩
      · exact h
  | clientSends c n =>
      simp only [SocketApp.step]
      split
      · refine ⟨hupdate c _ ?_, h.server⟩
        split <;> exact nofun
      · exact h
  | serverReceives n =>
      simp only [SocketApp.step]
      split
      · rename_i c reader hserver
        obtain ⟨hinvalid, hcomplete⟩ := hinv.reads hserver n
        split
        · rename_i inbound_data hread
          obtain ⟨req, rfl⟩ := hcomplete _ hread
          simp only [handle_read, app.requestArchive.load_save]
          split
          · rename_i hnone
            refine ⟨h.client, fun _ => ⟨_, List.mem_append_right _ (List.mem_singleton_self _), ?_⟩⟩
            exact fun hfits => (frame_ne_none_iff _).mpr hfits hnone
          · exact ⟨h.client, nofun⟩
        · rename_i hread
          exact absurd hread hinvalid
        · exact ⟨h.client, nofun⟩
      · exact h
  | serverSends n =>
      simp only [SocketApp.step]
      split
      · refine ⟨h.client, ?_⟩
        intro hstopped
        dsimp only at hstopped
        split at hstopped <;> cases hstopped
      · exact h
  | clientReceives c n =>
      simp only [SocketApp.step]
      split
      · rename_i reader hp
        exact ⟨hupdate c _ (hinv.clientAt_ne_failed hp), h.server⟩
      · exact h
  | abort c => exact absurd he id
  | connectionFails =>
      simp only [SocketApp.step]
      split
      · rename_i c reader hserver
        split
        · rename_i hp
          exact absurd hp (h.client c)
        · exact h
      · rename_i c unsent hserver
        split
        · rename_i hp
          exact absurd hp (h.client c)
        · exact h
      · exact h

theorem well_exec {es : List (Event π)} (hes : ∀ e ∈ es, Smooth app e) :
    Well app (exec app.step app.init es) := by
  have hstep : ∀ (s : SocketIpc π ρ σ) (e : Event π), Inv app s ∧ Well app s → Smooth app e →
      Inv app (app.step s e) ∧ Well app (app.step s e) :=
    fun s e h he => ⟨h.1.step e, h.2.step h.1 he⟩
  exact (inv_exec_mem hstep ⟨inv_init, nofun, nofun⟩ hes).2

theorem connected_of_mem {es : List (Event π)} {c : Nat} {request : RequestSocketIpc π}
    (h : .connect c request ∈ es) : c ∈ (exec app.step app.init es).connected := by
  obtain ⟨before, after, rfl⟩ := List.append_of_mem h
  rw [exec_append, exec_cons]
  have hbefore : Inv app (exec app.step app.init before) := inv_exec before
  have hstep : ∀ (s : SocketIpc π ρ σ) (e : Event π), Inv app s ∧ c ∈ s.connected →
      Inv app (app.step s e) ∧ c ∈ (app.step s e).connected :=
    fun s e hs => ⟨hs.1.step e, connected_step hs.1 e (.inl hs.2)⟩
  exact (inv_exec_of_step hstep
    ⟨hbefore.step _, connected_step hbefore _ (.inr ⟨request, rfl⟩)⟩ after).2

/-! What is under way does not stay. -/

theorem Quiet.not_writing (hquiet : Quiet app w) (h : Inv app w) (c : Nat) (u : List Char) :
    w.server ≠ .writing c u := by
  intro hserver
  obtain ⟨hu, -⟩ := h.writing c u hserver
  have hstep := congrArg SocketIpc.server (hquiet.serverSends 1)
  simp only [step, hserver] at hstep
  split at hstep
  · cases hstep
  · have hlen := congrArg List.length (ServerPlace.writing.inj hstep).2
    have := List.length_pos_of_ne_nil hu
    rw [List.length_drop] at hlen
    omega

theorem Quiet.unsent_eq_nil (hquiet : Quiet app w) {c : Nat} : (w.client c).unsent = [] := by
  cases hp : w.client c with
  | writing u =>
      have hstep := congrArg (fun w => SocketIpc.client w c) (hquiet.clientSends c 1)
      simp only [step, hp, Function.update_self] at hstep
      split at hstep
      · cases hstep
      · have hlen := congrArg List.length (ClientPlace.writing.inj hstep)
        rw [List.length_drop] at hlen
        exact List.length_eq_zero_iff.mp (show u.length = 0 by omega)
  | _ => rfl

theorem drop_eq_self {l : List Char} {n : Nat} (hn : 0 < n) (h : l.drop (min 1 n) = l) :
    l = [] := by
  have hlen := congrArg List.length h
  rw [List.length_drop] at hlen
  exact List.length_eq_zero_iff.mp (by omega)

theorem Quiet.toServer_eq_nil (hquiet : Quiet app w) {c : Nat} {reader : Reader Char}
    (hserver : w.server = .reading c reader) (hneed : 0 < reader.need Connection.header) :
    w.toServer c = [] := by
  have hstep := congrArg (fun w => SocketIpc.toServer w c) (hquiet.serverReceives 1)
  simp only [step, hserver] at hstep
  refine drop_eq_self hneed ?_
  split at hstep
  · rw [handle_read_toServer] at hstep
    simpa only [Function.update_self] using hstep
  · simpa only [Function.update_self] using hstep
  · simpa only [Function.update_self] using hstep

theorem Quiet.toClient_eq_nil (hquiet : Quiet app w) {c : Nat} {reader : Reader Char}
    (hp : w.client c = .reading reader) (hneed : 0 < reader.need Connection.header) :
    w.toClient c = [] := by
  have hstep := congrArg (fun w => SocketIpc.toClient w c) (hquiet.clientReceives c 1)
  simp only [step, hp, Function.update_self] at hstep
  exact drop_eq_self hneed hstep

/-- The archives and the command of the example. -/
def monitorApp : SocketApp Unit Bool Nat where
  requestArchive :=
    { save := fun r => r.command.toList
      load := fun cs => some { command := String.ofList cs, params := () }
      load_save := fun r => by rw [String.ofList_toList] }
  responseArchive :=
    { save := fun b => if b = true then ['1'] else ['0']
      load := fun cs => some (decide (cs = ['1']))
      load_save := by decide }
  serverCmdTbl := [{ mName := "Monitor", execute := fun handler _ => (handler + 1, true) }]
  handler := 0
  response := false

def monitorRun : List (Event Unit) :=
  [.connect 0 { command := "Monitor", params := () }, .clientSends 0 100, .accept true,
    .serverReceives 8, .serverReceives 7, .serverSends 100, .clientReceives 0 8,
    .clientReceives 0 1]

/-- **Nobody is served any more** once the server has stopped. -/
theorem stopped_step (h : w.server = .stopped) (e : Event π) :
    (app.step w e).server = .stopped ∧ (app.step w e).log = w.log := by
  cases e with
  | accept ok | serverReceives n | serverSends n | connectionFails =>
      simp only [step, h]
      exact ⟨trivial, trivial⟩
  | connect c request | clientSends c n | clientReceives c n =>
      simp only [step]
      split <;> exact ⟨h, rfl⟩
  | abort c =>
      simp only [step]
      split <;> exact ⟨h, rfl⟩

theorem stopped_exec (h : w.server = .stopped) (es : List (Event π)) :
    (exec app.step w es).log = w.log := by
  have hstep : ∀ (s : SocketIpc π ρ σ) (e : Event π), s.server = .stopped ∧ s.log = w.log →
      (app.step s e).server = .stopped ∧ (app.step s e).log = w.log := by
    intro s e hs
    have hstep' : (app.step s e).server = .stopped ∧ (app.step s e).log = s.log :=
      stopped_step hs.1 e
    exact ⟨hstep'.1, hstep'.2.trans hs.2⟩
  exact (inv_exec_of_step hstep ⟨h, rfl⟩ es).2

/-- **One client can end the service for all.** If the client whose request the server reads is
killed and the read fails, no command is executed any more, and only who has been served by then
can get a response. -/
theorem service_ends (app : SocketApp π ρ σ) (es es' : List (Event π)) {c : Nat}
    {reader : Reader Char} (hreading : (exec app.step app.init es).server = .reading c reader) :
    (exec app.step app.init (es ++ [.abort c, .connectionFails] ++ es')).log =
        (exec app.step app.init es).log ∧
      ∀ d response, (exec app.step app.init (es ++ [.abort c, .connectionFails] ++ es')).client d =
          .received response →
        ∃ e ∈ (exec app.step app.init es).log, e.client = d ∧ e.response = response := by
  have h : Inv app (exec app.step app.init es) := inv_exec es
  have hanswered := (serves app (es ++ [.abort c, .connectionFails] ++ es')).answered
  suffices hlog : (exec app.step app.init (es ++ [.abort c, .connectionFails] ++ es')).log =
      (exec app.step app.init es).log by
    rw [hlog] at hanswered
    exact ⟨hlog, hanswered⟩
  rw [exec_append, exec_append]
  generalize exec app.step app.init es = w at *
  obtain ⟨mid, -, hcurrent, hmid⟩ := h.order
  rw [hreading] at hcurrent
  obtain rfl : mid = [c] := hcurrent
  -- a client whose request is being read has not been answered, so that it can be killed
  have hkilled : app.step w (.abort c) = { w with
      client := Function.update w.client c .failed } := by
    simp only [step]
    rcases (hmid c (List.mem_singleton_self c)).2 with hp | ⟨u, -, hp⟩ | hp
    · simp only [hp]
      rw [← hp, Function.update_eq_self]
    · simp only [hp]
    · simp only [hp]
  have hstopped : exec app.step w [.abort c, .connectionFails] = { w with
      client := Function.update w.client c .failed, server := .stopped } := by
    simp only [exec_cons, exec_nil, hkilled]
    simp only [step, hreading, Function.update_self]
  rw [hstopped]
  exact stopped_exec rfl es'

theorem service_ends_monitor :
    (exec monitorApp.step monitorApp.init
        ([.connect 0 { command := "Monitor", params := () }, .accept true] ++
          [.abort 0, .connectionFails] ++
          [.connect 1 { command := "Monitor", params := () }, .accept true])).log = [] :=
  (service_ends monitorApp [.connect 0 { command := "Monitor", params := () }, .accept true]
    [.connect 1 { command := "Monitor", params := () }, .accept true] rfl).1

end SocketApp

end AvbStreamHandler
