import Mathlib.Data.List.Basic

/-!
# Messages over a stream

A stream carries units one after the other and cuts them anywhere. A frame is a header of
fixed width that tells the length of the data behind it. The reader asks for as many units as
the header has, then for as many as the header tells, and takes what the stream gives it, in
whatever pieces.

`Reading` is the invariant: what the reader has and what is still under way are the frame.
It is kept by every piece, `Reading.advance`, and it is what `Reading.complete` and
`Reading.need_pos` are read off: the reader ends with the message and before that always asks
for more.
-/

namespace Kit.Framing

/-- A header of fixed width for a length. Not every length has one. -/
structure Header (α : Type) where
  width : Nat
  encode : Nat → Option (List α)
  decode : List α → Option Nat
  width_pos : 0 < width
  length_encode : ∀ {n h}, encode n = some h → h.length = width
  decode_encode : ∀ {n h}, encode n = some h → decode h = some n

inductive Reader (α : Type)
  | header (got : List α)
  | data (size : Nat) (got : List α)
  | complete (data : List α)
  | invalid

variable {α : Type}

/-- The header and the data. -/
def frame (c : Header α) (data : List α) : Option (List α) := (c.encode data.length).map (· ++ data)

/-- How much the reader asks for. -/
def Reader.need (c : Header α) : Reader α → Nat
  | .header got => c.width - got.length
  | .data size got => size - got.length
  | .complete _ | .invalid => 0

/-- So much of the data is there. -/
def Reader.fill (size : Nat) (got : List α) : Reader α :=
  if got.length < size then .data size got else .complete got

/-- A piece has come, at most as long as what was asked for. -/
def Reader.advance (c : Header α) : Reader α → List α → Reader α
  | .header got, piece =>
      if (got ++ piece).length < c.width then .header (got ++ piece)
      else
        match c.decode (got ++ piece) with
        | none => .invalid
        | some size => .fill size []
  | .data size got, piece => .fill size (got ++ piece)
  | .complete got, _ => .complete got
  | .invalid, _ => .invalid

/-- The reader is in the frame of a message of which `left` is still to come. -/
def Reading (c : Header α) (msg : List α) : Reader α → List α → Prop
  | .header got, left => got.length < c.width ∧ frame c msg = some (got ++ left)
  | .data size got, left => size = msg.length ∧ got.length < size ∧ got ++ left = msg
  | .complete data, left => data = msg ∧ left = []
  | .invalid, _ => False

variable {c : Header α} {msg f left piece : List α} {r : Reader α}

theorem frame_eq_some (h : frame c msg = some f) :
    ∃ head, c.encode msg.length = some head ∧ f = head ++ msg := by
  obtain ⟨head, hhead, hf⟩ := Option.map_eq_some_iff.mp h
  exact ⟨head, hhead, hf.symm⟩

theorem frame_ne_nil (h : frame c msg = some f) : f ≠ [] := by
  obtain ⟨head, hhead, rfl⟩ := frame_eq_some h
  intro hnil
  have hlen := c.length_encode hhead
  have := c.width_pos
  rw [(List.append_eq_nil_iff.mp hnil).1, List.length_nil] at hlen
  omega

/-- A new reader is in the frame that is sent to it. -/
theorem Reading.init (h : frame c msg = some f) : Reading c msg (.header []) f :=
  ⟨c.width_pos, h⟩

theorem reading_fill {got : List α} (h : got ++ left = msg) :
    Reading c msg (.fill msg.length got) left := by
  unfold Reader.fill
  split
  · rename_i hlt
    exact ⟨rfl, hlt, h⟩
  · rename_i hge
    have hleft : left = [] := by
      have := congrArg List.length h
      rw [List.length_append] at this
      exact List.length_eq_zero_iff.mp (by omega)
    rw [hleft, List.append_nil] at h
    exact ⟨h, hleft⟩

/-- **A piece of the frame.** -/
theorem Reading.advance (h : Reading c msg r (piece ++ left)) (hneed : piece.length ≤ r.need c) :
    Reading c msg (r.advance c piece) left := by
  cases r with
  | header got =>
      obtain ⟨hgot, hframe⟩ := h
      simp only [Reader.need] at hneed
      simp only [Reader.advance]
      split
      · rename_i hlt
        exact ⟨hlt, by rw [List.append_assoc]; exact hframe⟩
      · -- the header is complete: it is the one of the message
        rename_i hge
        obtain ⟨head, hhead, hf⟩ := frame_eq_some hframe
        have hlen := c.length_encode hhead
        rw [List.length_append] at hge
        rw [← List.append_assoc] at hf
        obtain ⟨hgotten, hleft⟩ := List.append_inj hf (by rw [List.length_append]; omega)
        rw [hgotten, c.decode_encode hhead]
        exact reading_fill hleft
  | data size got =>
      obtain ⟨rfl, hgot, hmsg⟩ := h
      rw [← List.append_assoc] at hmsg
      exact reading_fill hmsg
  | complete data =>
      obtain ⟨hdata, hnil⟩ := h
      exact ⟨hdata, (List.append_eq_nil_iff.mp hnil).2⟩
  | invalid => exact h

theorem Reading.complete {data : List α} (h : Reading c msg (.complete data) left) :
    data = msg := h.1

theorem Reading.ne_invalid (h : Reading c msg r left) : r ≠ .invalid := by
  rintro rfl
  exact h

/-- **A reader that has not come to the end asks for more, and more is under way.** -/
theorem Reading.need_pos (h : Reading c msg r left) (hr : ∀ data, r ≠ .complete data) :
    0 < r.need c ∧ left ≠ [] := by
  cases r with
  | header got =>
      obtain ⟨hgot, hframe⟩ := h
      refine ⟨by simp only [Reader.need]; omega, ?_⟩
      rintro rfl
      obtain ⟨head, hhead, hf⟩ := frame_eq_some hframe
      have hlen := c.length_encode hhead
      have := congrArg List.length hf
      rw [List.append_nil, List.length_append] at this
      omega
  | data size got =>
      obtain ⟨rfl, hgot, hmsg⟩ := h
      refine ⟨by simp only [Reader.need]; omega, ?_⟩
      rintro rfl
      rw [List.append_nil] at hmsg
      rw [hmsg] at hgot
      exact absurd hgot (Nat.lt_irrefl _)
  | complete data => exact absurd rfl (hr data)
  | invalid => exact absurd h id

end Kit.Framing
