import Mathlib.Tactic.Basic
import Mathlib.Logic.Function.Basic

/-!
# Bytes behind a pointer

A frame is what a `uint8_t*` points at: a byte at every offset, and nothing that stops an
access from going past the frame's end. Multi-byte fields are in network order, most
significant byte first.

A frame that interleaves several columns of 16-bit words keeps word `j` of a column at
`base + j * stride`. Columns next to each other, written one after the other, do not
disturb each other as long as the stride leaves room for all of them.
-/

namespace Kit

/-- What a `uint8_t*` points at. -/
abbrev Bytes := Nat → UInt8

namespace Bytes

/-- `ntohs` of the two bytes at `i`. -/
def be16 (m : Bytes) (i : Nat) : Nat := 256 * (m i).toNat + (m (i + 1)).toNat

/-- `ntohl` of the four bytes at `i`. -/
def be32 (m : Bytes) (i : Nat) : Nat := 65536 * m.be16 i + m.be16 (i + 2)

/-- The eight bytes at `i`, shifted in one by one. -/
def be64 (m : Bytes) (i : Nat) : Nat := 4294967296 * m.be32 i + m.be32 (i + 4)

/-- The `n` bytes at `i`. -/
def slice (m : Bytes) (i n : Nat) : List UInt8 := (List.range' i n).map m

def put (m : Bytes) (i : Nat) (b : UInt8) : Bytes := Function.update m i b

def put16 (m : Bytes) (i v : Nat) : Bytes :=
  (m.put i (UInt8.ofNat (v / 256))).put (i + 1) (UInt8.ofNat v)

def put32 (m : Bytes) (i v : Nat) : Bytes := (m.put16 i (v / 65536)).put16 (i + 2) v

def put64 (m : Bytes) (i v : Nat) : Bytes := (m.put32 i (v / 4294967296)).put32 (i + 4) v

/-- A frame that is written down; zeros lie behind it. -/
def ofList (bytes : List UInt8) : Bytes := fun i => bytes.getD i 0

/-- Words `base`, `base + stride`, … are overwritten one by one. -/
def putColumn (m : Bytes) (base stride : Nat) : List Nat → Bytes
  | [] => m
  | v :: vs => putColumn (m.put16 base v) (base + stride) stride vs

/-- Column after column, each two bytes to the right of the one before. -/
def putColumns (m : Bytes) (base stride : Nat) : List (List Nat) → Bytes
  | [] => m
  | vs :: rest => putColumns (m.putColumn base stride vs) (base + 2) stride rest

/-- The first `n` words of a column. -/
def column (m : Bytes) (base stride n : Nat) : List Nat :=
  (List.range n).map fun j => m.be16 (base + j * stride)

/-! ## Single fields -/

theorem be16_lt (m : Bytes) (i : Nat) : m.be16 i < 65536 := by
  have h₁ := (m i).toNat_lt
  have h₂ := (m (i + 1)).toNat_lt
  unfold be16; omega

theorem be32_lt (m : Bytes) (i : Nat) : m.be32 i < 4294967296 := by
  have h₁ := m.be16_lt i
  have h₂ := m.be16_lt (i + 2)
  unfold be32; omega

theorem be64_lt (m : Bytes) (i : Nat) : m.be64 i < 18446744073709551616 := by
  have h₁ := m.be32_lt i
  have h₂ := m.be32_lt (i + 4)
  unfold be64; omega

/-- A 16-bit field depends on its two bytes only. -/
theorem be16_congr {m m' : Bytes} {i : Nat} (h₀ : m i = m' i) (h₁ : m (i + 1) = m' (i + 1)) :
    m.be16 i = m'.be16 i := by
  unfold be16; rw [h₀, h₁]

@[simp] theorem put_self (m : Bytes) (i : Nat) (b : UInt8) : m.put i b i = b :=
  Function.update_self ..

theorem put_apply (m : Bytes) (i j : Nat) (b : UInt8) :
    m.put i b j = if j = i then b else m j :=
  Function.update_apply ..

theorem put_of_ne {m : Bytes} {i j : Nat} {b : UInt8} (h : j ≠ i) : m.put i b j = m j :=
  Function.update_of_ne h ..

theorem be16_put_of_ne {m : Bytes} {i j : Nat} {b : UInt8} (h₀ : j ≠ i) (h₁ : j + 1 ≠ i) :
    (m.put i b).be16 j = m.be16 j :=
  be16_congr (put_of_ne h₀) (put_of_ne h₁)

@[simp] theorem be16_put16 (m : Bytes) (i v : Nat) : (m.put16 i v).be16 i = v % 65536 := by
  unfold be16 put16
  rw [put_of_ne (by omega : i ≠ i + 1), put_self, put_self, UInt8.toNat_ofNat', UInt8.toNat_ofNat']
  omega

theorem put16_of_ne {m : Bytes} {i j v : Nat} (h₀ : j ≠ i) (h₁ : j ≠ i + 1) :
    m.put16 i v j = m j := by
  unfold put16
  rw [put_of_ne h₁, put_of_ne h₀]

theorem be16_put16_of_ne {m : Bytes} {i j v : Nat} (h : j + 1 < i ∨ i + 1 < j) :
    (m.put16 i v).be16 j = m.be16 j :=
  be16_congr (put16_of_ne (by omega) (by omega)) (put16_of_ne (by omega) (by omega))

@[simp] theorem be32_put32 (m : Bytes) (i v : Nat) : (m.put32 i v).be32 i = v % 4294967296 := by
  unfold be32 put32
  rw [be16_put16_of_ne (by omega), be16_put16, be16_put16]
  omega

theorem put32_of_ne {m : Bytes} {i j v : Nat} (h : j < i ∨ i + 3 < j) :
    m.put32 i v j = m j := by
  unfold put32
  rw [put16_of_ne (by omega) (by omega), put16_of_ne (by omega) (by omega)]

theorem be32_congr {m m' : Bytes} {i : Nat} (h : ∀ k, k < 4 → m (i + k) = m' (i + k)) :
    m.be32 i = m'.be32 i := by
  have h₀ : m.be16 i = m'.be16 i := be16_congr (h 0 (by omega)) (h 1 (by omega))
  have h₂ : m.be16 (i + 2) = m'.be16 (i + 2) := be16_congr (h 2 (by omega)) (h 3 (by omega))
  unfold be32; rw [h₀, h₂]

theorem be64_congr {m m' : Bytes} {i : Nat} (h : ∀ k, k < 8 → m (i + k) = m' (i + k)) :
    m.be64 i = m'.be64 i := by
  have h₀ : m.be32 i = m'.be32 i := be32_congr fun k hk => h k (by omega)
  have h₄ : m.be32 (i + 4) = m'.be32 (i + 4) := be32_congr fun k hk => by
    rw [Nat.add_assoc]
    exact h (4 + k) (by omega)
  unfold be64; rw [h₀, h₄]

@[simp] theorem be64_put64 (m : Bytes) (i v : Nat) :
    (m.put64 i v).be64 i = v % 18446744073709551616 := by
  have hhigh : (m.put64 i v).be32 i = (m.put32 i (v / 4294967296)).be32 i :=
    be32_congr fun k hk => put32_of_ne (by omega)
  unfold be64
  rw [hhigh, be32_put32]
  unfold put64
  rw [be32_put32]
  omega

theorem put64_of_ne {m : Bytes} {i j v : Nat} (h : j < i ∨ i + 7 < j) :
    m.put64 i v j = m j := by
  unfold put64
  rw [put32_of_ne (by omega), put32_of_ne (by omega)]

/-- A field of a frame, seen from `p` on. -/
theorem be16_shift (m : Bytes) (p i : Nat) : be16 (fun j => m (p + j)) i = m.be16 (p + i) := rfl

theorem be32_shift (m : Bytes) (p i : Nat) : be32 (fun j => m (p + j)) i = m.be32 (p + i) := rfl

/-! ## Columns -/

/-- Two positions in a frame of `stride` columns are the same only in the same row. -/
theorem row_injective {s d e j k : Nat} (hd : d < s) (he : e < s)
    (h : d + j * s = e + k * s) : d = e := by
  have hmod := congrArg (· % s) h
  simpa [Nat.add_mul_mod_self_right, Nat.mod_eq_of_lt hd, Nat.mod_eq_of_lt he] using hmod

/-- A column changes its own words and nothing else. -/
theorem putColumn_of_ne {m : Bytes} {base stride i : Nat} {vs : List Nat}
    (h : ∀ j, j < vs.length → i ≠ base + j * stride ∧ i ≠ base + j * stride + 1) :
    m.putColumn base stride vs i = m i := by
  induction vs generalizing m base with
  | nil => rfl
  | cons v vs ih =>
      have hhead := h 0 (by simp)
      have htail : ∀ j, j < vs.length →
          i ≠ base + stride + j * stride ∧ i ≠ base + stride + j * stride + 1 := by
        intro j hlen
        have hj := h (j + 1) (by simpa using hlen)
        rw [Nat.succ_mul, ← Nat.add_assoc] at hj
        omega
      rw [putColumn, ih htail]
      exact put16_of_ne (by omega) (by omega)

theorem putColumn_of_lt {m : Bytes} {base stride i : Nat} {vs : List Nat} (h : i < base) :
    m.putColumn base stride vs i = m i :=
  putColumn_of_ne fun j _ => ⟨by have := Nat.zero_le (j * stride); omega,
    by have := Nat.zero_le (j * stride); omega⟩

/-- A word of a column just written is the word that was written there. -/
theorem be16_putColumn {m : Bytes} {base stride j : Nat} {vs : List Nat} (hs : 2 ≤ stride)
    (hj : j < vs.length) :
    (m.putColumn base stride vs).be16 (base + j * stride) = vs[j] % 65536 := by
  induction vs generalizing m base j with
  | nil => simp at hj
  | cons v vs ih =>
      cases j with
      | zero =>
          have hbase : (putColumn (m.put16 base v) (base + stride) stride vs).be16 base
              = (m.put16 base v).be16 base :=
            be16_congr (putColumn_of_lt (by omega)) (putColumn_of_lt (by omega))
          rw [putColumn, Nat.zero_mul, Nat.add_zero, hbase, be16_put16, List.getElem_cons_zero]
      | succ j =>
          have hrow : base + (j + 1) * stride = base + stride + j * stride := by
            rw [Nat.succ_mul]; omega
          rw [putColumn, hrow, ih (by simpa using hj), List.getElem_cons_succ]

theorem putColumns_of_lt {m : Bytes} {base stride i : Nat} {cols : List (List Nat)}
    (h : i < base) : m.putColumns base stride cols i = m i := by
  induction cols generalizing m base with
  | nil => rfl
  | cons vs rest ih => rw [putColumns, ih (by omega), putColumn_of_lt h]

/-- Columns to the right, inside the stride, leave a word of this column alone. -/
theorem putColumns_of_left {m : Bytes} {base stride d j : Nat} {cols : List (List Nat)}
    (hd : d < 2) (hs : 2 + 2 * cols.length ≤ stride) :
    m.putColumns (base + 2) stride cols (base + d + j * stride) = m (base + d + j * stride) := by
  suffices hgen : ∀ (cols : List (List Nat)) (m : Bytes) (off : Nat), 2 ≤ off →
      off + 2 * cols.length ≤ stride →
      m.putColumns (base + off) stride cols (base + d + j * stride)
        = m (base + d + j * stride) from hgen cols m 2 (by omega) hs
  intro cols
  induction cols with
  | nil => intros; rfl
  | cons vs rest ih =>
      intro m off hoff hlen
      rw [List.length_cons] at hlen
      rw [putColumns, Nat.add_assoc base off 2, ih _ (off + 2) (by omega) (by omega)]
      refine putColumn_of_ne fun k _ => ⟨?_, ?_⟩
      · intro heq
        have := row_injective (s := stride) (d := d) (e := off) (j := j) (k := k)
          (by omega) (by omega) (by omega)
        omega
      · intro heq
        have := row_injective (s := stride) (d := d) (e := off + 1) (j := j) (k := k)
          (by omega) (by omega) (by omega)
        omega

/-- Columns of `n` words end where row `n` begins. -/
theorem putColumns_of_ge {m : Bytes} {base stride i n off : Nat} {cols : List (List Nat)}
    (hs : off + 2 * cols.length ≤ stride) (hn : ∀ vs ∈ cols, vs.length ≤ n)
    (hi : base + n * stride ≤ i) : m.putColumns (base + off) stride cols i = m i := by
  induction cols generalizing m off with
  | nil => rfl
  | cons vs rest ih =>
      rw [List.length_cons] at hs
      rw [putColumns, Nat.add_assoc base off 2,
        ih (by omega) fun vs h => hn vs (List.mem_cons_of_mem _ h)]
      refine putColumn_of_ne fun j hj => ?_
      have hrows : (j + 1) * stride ≤ n * stride :=
        Nat.mul_le_mul_right _ (Nat.lt_of_lt_of_le hj (hn vs (List.mem_cons_self ..)))
      rw [Nat.succ_mul] at hrows
      omega

/--
**Columns read back.**

Once all columns are written, word `j` of column `c` is the word that was put there, as
long as the stride has room for every column.
-/
theorem be16_putColumns {m : Bytes} {base stride c j : Nat} {cols : List (List Nat)}
    (hs : 2 * cols.length ≤ stride) (hc : c < cols.length) (hj : j < cols[c].length) :
    (m.putColumns base stride cols).be16 (base + 2 * c + j * stride) = cols[c][j] % 65536 := by
  induction cols generalizing m base c with
  | nil => simp at hc
  | cons vs rest ih =>
      rw [List.length_cons] at hs
      cases c with
      | zero =>
          have h₀ := @putColumns_of_left (m.putColumn base stride vs) base stride 0 j rest
            (by omega) (by omega)
          have h₁ := @putColumns_of_left (m.putColumn base stride vs) base stride 1 j rest
            (by omega) (by omega)
          rw [Nat.add_zero] at h₀
          rw [Nat.add_right_comm base 1] at h₁
          rw [putColumns, Nat.mul_zero, Nat.add_zero, be16_congr h₀ h₁]
          exact be16_putColumn (by omega) hj
      | succ c =>
          have hbase : base + 2 * (c + 1) = base + 2 + 2 * c := by omega
          have hc' : c < rest.length := by simpa using hc
          rw [putColumns, hbase, ih (by omega) hc' hj]
          rfl

/-! ## The same field in every row -/

variable {base stride : Nat}

/-- One field of 32 bits in each of `n` rows. -/
def putRows (m : Bytes) (base stride n v : Nat) : Bytes :=
  (List.range n).foldl (fun m k => m.put32 (base + stride * k) v) m

theorem putRows_succ (m : Bytes) (n v : Nat) :
    m.putRows base stride (n + 1) v = (m.putRows base stride n v).put32 (base + stride * n) v := by
  unfold putRows
  rw [List.range_succ, List.foldl_append, List.foldl_cons, List.foldl_nil]

/-- What lies in none of the fields stays. -/
theorem putRows_of_ne {m : Bytes} {n v i : Nat}
    (h : ∀ k, k < n → i < base + stride * k ∨ base + stride * k + 3 < i) :
    m.putRows base stride n v i = m i := by
  induction n with
  | zero => rfl
  | succ n ih =>
      rw [putRows_succ, put32_of_ne (h n (Nat.lt_succ_self n)),
        ih fun k hk => h k (Nat.lt_succ_of_lt hk)]

/-- **Every row has the field**, if a row has room for one. -/
theorem be32_putRows {m : Bytes} {n v k : Nat} (hs : 4 ≤ stride) (hk : k < n) :
    (m.putRows base stride n v).be32 (base + stride * k) = v % 4294967296 := by
  induction n with
  | zero => exact absurd hk (Nat.not_lt_zero k)
  | succ n ih =>
      rw [putRows_succ]
      rcases Nat.lt_succ_iff_lt_or_eq.mp hk with hlt | rfl
      · -- the last field lies a row or more behind this one
        have hrows : stride * k + stride ≤ stride * n := by
          rw [← Nat.mul_succ]
          exact Nat.mul_le_mul_left stride hlt
        rw [← ih hlt]
        exact be32_congr fun j hj => put32_of_ne (by omega)
      · exact be32_put32 ..

end Bytes

end Kit
