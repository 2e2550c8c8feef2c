import Mathlib.Data.List.TakeWhile
import Mathlib.Logic.Function.Basic
import AvbStreamHandler.Kit.Framing
import AvbStreamHandler.Kit.Run

/-!
# Commands over a socket

The socket application runs the stream handler in one process; a client is a process of its own
that connects, sends one request, waits for the response and exits. A message is a header of
eight characters, the length of the archive in hexadecimal, and the archive. The server has one
connection at a time: it accepts the next client when the response to the last one is written.

Connecting, accepting and the transport of a few bytes are steps, in any order. A client may
die at any step, and the server's pending operation on its connection may then fail. The
archive of the requests and of the responses belongs to a library; `TextArchive` says what it
promises.
-/

namespace AvbStreamHandler

open Kit Kit.Framing

namespace Connection

def header_length : Nat := 8

/-- What a character counts for in a hexadecimal number. -/
def hexValue (c : Char) : Option Nat :=
  if '0' ≤ c ∧ c ≤ '9' then some (c.toNat - 48)
  else if 'a' ≤ c ∧ c ≤ 'f' then some (c.toNat - 87)
  else if 'A' ≤ c ∧ c ≤ 'F' then some (c.toNat - 55)
  else none

def isSpace (c : Char) : Bool := c = ' ' ∨ '\t' ≤ c ∧ c ≤ '\r'

/-- `async_write` formats the header. -/
def encodeHeader (size : Nat) : Option (List Char) :=
  let digits := Nat.toDigits 16 size
  let header := List.replicate (header_length - digits.length) ' ' ++ digits
  if header.length = header_length then some header else none

/-- `is >> std::hex >> inbound_data_size` and the `resize` behind it. -/
def decodeHeader (header : List Char) : Option Nat :=
  let number := header.dropWhile isSpace
  let signed := number.head? = some '-' ∨ number.head? = some '+'
  let unsigned := if signed then number.tail else number
  let digits := match unsigned with
    | '0' :: 'x' :: rest => rest
    | '0' :: 'X' :: rest => rest
    | rest => rest
  let hex := digits.takeWhile fun c => (hexValue c).isSome
  let inbound_data_size := hex.foldl (fun n c => 16 * n + (hexValue c).getD 0) 0
  if hex = [] then none
  -- a negative number wraps round to a size that no vector has
  else if number.head? = some '-' ∧ inbound_data_size ≠ 0 then none
  else some inbound_data_size

/-! ## The header -/

theorem hexValue_digitChar {d : Nat} (h : d < 16) : hexValue d.digitChar = some d := by
  have : ∀ d : Fin 16, hexValue d.val.digitChar = some d.val := by decide
  exact this ⟨d, h⟩

theorem not_isSpace_digitChar {d : Nat} (h : d < 16) : isSpace d.digitChar = false := by
  have : ∀ d : Fin 16, isSpace d.val.digitChar = false := by decide
  exact this ⟨d, h⟩

/-- A digit is no sign and no part of a prefix. -/
theorem digitChar_ne {d : Nat} (h : d < 16) :
    d.digitChar ≠ '-' ∧ d.digitChar ≠ '+' ∧ d.digitChar ≠ 'x' ∧ d.digitChar ≠ 'X' := by
  have : ∀ d : Fin 16, d.val.digitChar ≠ '-' ∧ d.val.digitChar ≠ '+' ∧
      d.val.digitChar ≠ 'x' ∧ d.val.digitChar ≠ 'X' := by decide
  exact this ⟨d, h⟩

theorem digit_of_mem_toDigits {n : Nat} {c : Char} (h : c ∈ Nat.toDigits 16 n) :
    ∃ d, d < 16 ∧ c = d.digitChar := by
  induction n using Nat.strongRecOn with
  | ind n ih =>
      rw [Nat.toDigits_eq_if (by omega)] at h
      split at h
      · rename_i hlt
        exact ⟨n, hlt, List.mem_singleton.mp h⟩
      · rcases List.mem_append.mp h with h | h
        · exact ih (n / 16) (by omega) h
        · exact ⟨n % 16, by omega, List.mem_singleton.mp h⟩

theorem foldl_toDigits (n : Nat) :
    (Nat.toDigits 16 n).foldl (fun n c => 16 * n + (hexValue c).getD 0) 0 = n := by
  induction n using Nat.strongRecOn with
  | ind n ih =>
      rw [Nat.toDigits_eq_if (by omega)]
      split
      · rename_i hlt
        simp [hexValue_digitChar hlt]
      · have hlast : (hexValue (n % 16).digitChar).getD 0 = n % 16 := by
          rw [hexValue_digitChar (by omega), Option.getD_some]
        rw [List.foldl_append, ih (n / 16) (by omega), List.foldl_cons, List.foldl_nil, hlast]
        omega

theorem encodeHeader_eq_some {size : Nat} {header : List Char}
    (h : encodeHeader size = some header) :
    header = List.replicate (header_length - (Nat.toDigits 16 size).length) ' ' ++
        Nat.toDigits 16 size ∧
      header.length = header_length := by
  unfold encodeHeader at h
  dsimp only at h
  split at h
  · rename_i hlen
    cases h
    exact ⟨rfl, hlen⟩
  · cases h

/-- **The longest message.** A header holds eight digits. -/
theorem encodeHeader_isSome (size : Nat) : (encodeHeader size).isSome ↔ size < 4294967296 := by
  rw [show 4294967296 = 16 ^ 8 by decide,
    ← Nat.length_toDigits_le_iff (by omega) (by omega : 0 < 8)]
  simp only [encodeHeader, header_length, List.length_append, List.length_replicate]
  split
  · simp only [Option.isSome_some, true_iff]
    omega
  · simp only [Option.isSome_none, Bool.false_eq_true, false_iff]
    omega

/-- **The header tells the length.** -/
theorem decodeHeader_encodeHeader {size : Nat} {header : List Char}
    (h : encodeHeader size = some header) : decodeHeader header = some size := by
  obtain ⟨hheader, -⟩ := encodeHeader_eq_some h
  obtain ⟨c, cs, hdigits⟩ := List.exists_cons_of_ne_nil (Nat.toDigits_ne_nil (n := size) (b := 16))
  have hmem : ∀ x ∈ c :: cs, ∃ d, d < 16 ∧ x = d.digitChar := by
    intro x hx
    rw [← hdigits] at hx
    exact digit_of_mem_toDigits hx
  have hfold := foldl_toDigits size
  rw [hdigits] at hheader hfold
  obtain ⟨d, hd, rfl⟩ := hmem c List.mem_cons_self
  obtain ⟨hminus, hplus, -, -⟩ := digitChar_ne hd
  have hnumber : header.dropWhile isSpace = d.digitChar :: cs := by
    rw [hheader, List.dropWhile_append_of_pos]
    · exact List.dropWhile_cons_of_neg (by rw [not_isSpace_digitChar hd]; exact Bool.false_ne_true)
    · intro x hx
      rw [List.eq_of_mem_replicate hx]
      rfl
  have hnox : ∀ x rest, cs = x :: rest → x ≠ 'x' ∧ x ≠ 'X' := by
    rintro x rest rfl
    obtain ⟨e, he, rfl⟩ := hmem x (List.mem_cons_of_mem _ List.mem_cons_self)
    exact ⟨(digitChar_ne he).2.2.1, (digitChar_ne he).2.2.2⟩
  have hhex : (d.digitChar :: cs).takeWhile (fun c => (hexValue c).isSome) = d.digitChar :: cs := by
    rw [List.takeWhile_eq_self_iff]
    intro x hx
    obtain ⟨e, he, rfl⟩ := hmem x hx
    rw [hexValue_digitChar he]
    rfl
  have hunsigned : (match d.digitChar :: cs with
      | '0' :: 'x' :: rest => rest
      | '0' :: 'X' :: rest => rest
      | rest => rest) = d.digitChar :: cs := by
    split
    · rename_i rest heq
      exact absurd rfl (hnox 'x' rest (List.cons.inj heq).2).1
    · rename_i rest heq
      exact absurd rfl (hnox 'X' rest (List.cons.inj heq).2).2
    · rfl
  simp only [decodeHeader, hnumber, List.head?_cons, Option.some.injEq, hminus, hplus, or_self,
    if_false, hunsigned, hhex, hfold, reduceCtorEq, false_and]

/-- The header of a message. -/
def header : Header Char where
  width := header_length
  encode := encodeHeader
  decode := decodeHeader
  width_pos := by decide
  length_encode h := (encodeHeader_eq_some h).2
  decode_encode := decodeHeader_encodeHeader

end Connection

/-- What the archive library promises for a type: what it has saved it loads. -/
structure TextArchive (τ : Type) where
  save : τ → List Char
  load : List Char → Option τ
  load_save : ∀ t, load (save t) = some t

/-- A request: the command and its parameters. -/
structure RequestSocketIpc (π : Type) where
  command : String
  params : π

/-- A command of the server. It calls the stream handler. -/
structure Command (π ρ σ : Type) where
  mName : String
  execute : σ → RequestSocketIpc π → σ × ρ

/-- What the server waits for. -/
inductive ServerPlace
  | accepting
  | reading (connx : Nat) (reader : Reader Char)
  | writing (connx : Nat) (unsent : List Char)
  /-- No operation is pending: `run` of the io_service returns. -/
  | stopped

inductive ClientPlace (ρ : Type)
  | idle
  | writing (unsent : List Char)
  | reading (reader : Reader Char)
  | received (response : ρ)
  /-- The process has ended without a response. -/
  | failed

/-- The socket application: its archives and its commands. -/
structure SocketApp (π ρ σ : Type) where
  requestArchive : TextArchive (RequestSocketIpc π)
  responseArchive : TextArchive ρ
  serverCmdTbl : List (Command π ρ σ)
  /-- The stream handler and `responseSocketIpcStruct_` when the server is constructed. -/
  handler : σ
  response : ρ

/-- One command that has been executed. -/
structure Service (π ρ : Type) where
  client : Nat
  request : RequestSocketIpc π
  response : ρ

structure SocketIpc (π ρ σ : Type) where
  server : ServerPlace
  /-- `avbStreamHandler_`. -/
  handler : σ
  /-- `responseSocketIpcStruct_`. -/
  response : ρ
  client : Nat → ClientPlace ρ
  /-- The clients that are connected and not accepted. -/
  backlog : List Nat
  /-- The characters under way. -/
  toServer : Nat → List Char
  toClient : Nat → List Char
  /-- What the clients have asked for. -/
  request : Nat → Option (RequestSocketIpc π)
  /-- The clients in the order they connected. -/
  connected : List Nat
  /-- What the server has executed. -/
  log : List (Service π ρ)

namespace SocketApp

variable {π ρ σ : Type} (app : SocketApp π ρ σ)

/-- The loop over the command table in `handle_read`. The response of the last command stays in
place when there is no command of this name. -/
def dispatch (handler : σ) (response : ρ) (request : RequestSocketIpc π) : σ × ρ :=
  match app.serverCmdTbl.find? (·.mName = request.command) with
  | some command => command.execute handler request
  | none => (handler, response)

def init : SocketIpc π ρ σ where
  server := .accepting
  handler := app.handler
  response := app.response
  client _ := .idle
  backlog := []
  toServer _ := []
  toClient _ := []
  request _ := none
  connected := []
  log := []

/-- `server::handle_read` for the data of a message. -/
def handle_read (w : SocketIpc π ρ σ) (connx : Nat) (inbound_data : List Char) :
    SocketIpc π ρ σ :=
  match app.requestArchive.load inbound_data with
  | none => { w with server := .stopped }
  | some request =>
      let executed := app.dispatch w.handler w.response request
      let w : SocketIpc π ρ σ := { w with
        handler := executed.1
        response := executed.2
        log := w.log ++ [{ client := connx, request := request, response := executed.2 }] }
      match frame Connection.header (app.responseArchive.save executed.2) with
      | none => { w with server := .stopped }
      | some unsent => { w with server := .writing connx unsent }

/-- `client::handle_read` for the data of a message. -/
def clientHandleRead (inbound_data : List Char) : ClientPlace ρ :=
  match app.responseArchive.load inbound_data with
  | none => .failed
  | some response => .received response

/-- The client when its reader has come so far. -/
def clientAt (reader : Reader Char) : ClientPlace ρ :=
  match reader with
  | .complete inbound_data => app.clientHandleRead inbound_data
  | .invalid => .failed
  | reader => .reading reader

inductive Event (π : Type)
  | connect (c : Nat) (request : RequestSocketIpc π)
  /-- The pending accept ends, with a connection or with an error. -/
  | accept (ok : Bool)
  | clientSends (c n : Nat)
  | serverReceives (n : Nat)
  | serverSends (n : Nat)
  | clientReceives (c n : Nat)
  /-- A client process is killed. -/
  | abort (c : Nat)
  /-- The pending operation of the server ends with an error. -/
  | connectionFails

def step (w : SocketIpc π ρ σ) : Event π → SocketIpc π ρ σ
  | .connect c request =>
      match w.client c with
      | .idle =>
          { w with
            client := Function.update w.client c
              (match frame Connection.header (app.requestArchive.save request) with
              | none => .failed
              | some unsent => .writing unsent)
            backlog := w.backlog ++ [c]
            request := Function.update w.request c (some request)
            connected := w.connected ++ [c] }
      | _ => w
  | .accept ok =>
      match w.server, w.backlog with
      | .accepting, c :: backlog =>
          if ok = true then { w with server := .reading c (.header []), backlog := backlog }
          else { w with server := .stopped }
      | _, _ => w
  | .clientSends c n =>
      match w.client c with
      | .writing unsent =>
          { w with
            client := Function.update w.client c
              (if unsent.drop n = [] then .reading (.header []) else .writing (unsent.drop n))
            toServer := Function.update w.toServer c (w.toServer c ++ unsent.take n) }
      | _ => w
  | .serverReceives n =>
      match w.server with
      | .reading c reader =>
          let n := min n (reader.need Connection.header)
          let reader := reader.advance Connection.header ((w.toServer c).take n)
          let w : SocketIpc π ρ σ := { w with
            server := .reading c reader
            toServer := Function.update w.toServer c ((w.toServer c).drop n) }
          match reader with
          | .complete inbound_data => app.handle_read w c inbound_data
          | .invalid => { w with server := .stopped }
          | _ => w
      | _ => w
  | .serverSends n =>
      match w.server with
      | .writing c unsent =>
          { w with
            server := if unsent.drop n = [] then .accepting else .writing c (unsent.drop n)
            toClient := Function.update w.toClient c (w.toClient c ++ unsent.take n) }
      | _ => w
  | .clientReceives c n =>
      match w.client c with
      | .reading reader =>
          let n := min n (reader.need Connection.header)
          let reader := reader.advance Connection.header ((w.toClient c).take n)
          { w with
            client := Function.update w.client c (app.clientAt reader)
            toClient := Function.update w.toClient c ((w.toClient c).drop n) }
      | _ => w
  | .abort c =>
      match w.client c with
      | .writing _ | .reading _ => { w with client := Function.update w.client c .failed }
      | _ => w
  | .connectionFails =>
      match w.server with
      | .reading c _ | .writing c _ =>
          match w.client c with
          | .failed => { w with server := .stopped }
          | _ => w
      | _ => w

end SocketApp

end AvbStreamHandler
