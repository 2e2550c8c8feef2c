import Mathlib.Data.List.Nodup
import AvbStreamHandler.AvbTypes
import AvbStreamHandler.Kit.Word
import AvbStreamHandler.Kit.Run

/-!
# The packet pool

`IasAvbPacketPool` cuts DMA pages into packets of one size and keeps those that are free on
a stack. The packets live in an array that `init` allocates and `cleanup` deletes, and the
stack holds pointers into that array.

A packet is named by the allocation it belongs to and its index there, so a pointer that
outlives its array can be told from a pointer into the present one.
-/

namespace AvbStreamHandler

open Kit Kit.Word Kit.Run IasAvbProcessingResult

/-! ## The device -/

/-- `igb_dma_alloc`, as far as the pool reads it. -/
structure Page where
  dma_vaddr : Nat
  mmap_size : Nat
deriving DecidableEq, Repr

/-- What comes of the request for one page. -/
inductive PageOutcome
  | allocated
  /-- `new Page` yields `NULL`. -/
  | notEnoughMemory
  /-- `igb_dma_malloc_page` reports an error. -/
  | mallocFailed
deriving DecidableEq, Repr

/-- The `igb` device during one `init`: what it answers to the first request for a page, to
the second, and so on. Pages are of one size and do not overlap. -/
structure DmaDevice where
  mmap_size : Nat
  mmap_size_lt : mmap_size < 4294967296
  dma_vaddr : Nat → Nat
  disjoint : ∀ i j, i ≠ j →
    dma_vaddr i + mmap_size ≤ dma_vaddr j ∨ dma_vaddr j + mmap_size ≤ dma_vaddr i
  outcome : Nat → PageOutcome

def DmaDevice.page (d : DmaDevice) (k : Nat) : Page := ⟨d.dma_vaddr k, d.mmap_size⟩

/-- What `init` finds outside of the pool. -/
structure InitEnv where
  /-- `new IasAvbPacket[poolSize]` succeeds. -/
  baseAllocated : Bool := true
  igbDevice : Option DmaDevice

/-! ## The pool -/

/-- An `IasAvbPacket*`. -/
structure PacketPtr where
  /-- The array it points into. -/
  alloc : Nat
  index : Nat
deriving DecidableEq, Repr

/-- What `initPage` assigns to a packet once and for all. -/
structure IasAvbPacket where
  offset : Nat
  vaddr : Nat
  mmap_size : Nat
deriving DecidableEq, Repr

structure AvbPacketPool where
  mPacketSize : Nat := 0
  mPoolSize : Nat := 0
  /-- The top of the stack stands first. -/
  mFreeBufferStack : List PacketPtr := []
  /-- The array of packets, if there is one. -/
  mBase : Option Nat := none
  /-- Those of the array's packets that were assigned a section of a page. -/
  packets : List IasAvbPacket := []
  mDmaPages : List Page := []
deriving DecidableEq, Repr

namespace AvbPacketPool

def cMaxPoolSize : Nat := 2048

/-- `ETH_FRAME_LEN` and a VLAN tag. -/
def cMaxBufferSize : Nat := 1518

/-- The packet at `packetIdx` of a page. -/
def packetIn (page : Page) (packetSize packetIdx : Nat) : IasAvbPacket where
  offset := packetIdx * packetSize % 4294967296
  vaddr := page.dma_vaddr + packetIdx * packetSize % 4294967296
  mmap_size := page.mmap_size

/-- The body of the loop in `initPage`; `packetCountTotal` is how many packets there are. -/
def addPacket (p : AvbPacketPool) (alloc : Nat) (page : Page) (packetIdx : Nat) : AvbPacketPool :=
  { p with
    packets := p.packets ++ [packetIn page p.mPacketSize packetIdx]
    mFreeBufferStack := ⟨alloc, p.packets.length⟩ :: p.mFreeBufferStack }

/-- The loop in `initPage`, with `n` rounds left. -/
def addPackets (alloc : Nat) (page : Page) : Nat → Nat → AvbPacketPool → AvbPacketPool
  | 0, _, p => p
  | n + 1, packetIdx, p =>
      if p.packets.length < p.mPoolSize then
        addPackets alloc page n (packetIdx + 1) (p.addPacket alloc page packetIdx)
      else p

def addPage (p : AvbPacketPool) (page : Page) : AvbPacketPool :=
  { p with mDmaPages := p.mDmaPages ++ [page] }

def initPage (alloc : Nat) (page : Page) (packetsPerPage : Nat) (p : AvbPacketPool) :
    AvbPacketPool :=
  addPackets alloc page packetsPerPage 0 (p.addPage page)

/-- The loop over the pages behind the first, with `n` pages left. -/
def initPages (alloc : Nat) (d : DmaDevice) (packetsPerPage : Nat) :
    Nat → Nat → AvbPacketPool → IasAvbProcessingResult × AvbPacketPool
  | 0, _, p => (eIasAvbProcOK, p)
  | n + 1, pageCount, p =>
      match d.outcome pageCount with
      | .notEnoughMemory => (eIasAvbProcNotEnoughMemory, p)
      | .mallocFailed => (eIasAvbProcInitializationFailed, p)
      | .allocated =>
          initPages alloc d packetsPerPage n (pageCount + 1)
            (p.initPage alloc (d.page pageCount) packetsPerPage)

def packetsPerPage (d : DmaDevice) (packetSize : Nat) : Nat := d.mmap_size / packetSize

def pagesNeeded (d : DmaDevice) (packetSize poolSize : Nat) : Nat :=
  add32 poolSize (packetsPerPage d packetSize - 1) / packetsPerPage d packetSize

def setBase (p : AvbPacketPool) (alloc poolSize : Nat) : AvbPacketPool :=
  { p with mBase := some alloc, packets := [], mPoolSize := poolSize }

def setPacketSize (p : AvbPacketPool) (packetSize : Nat) : AvbPacketPool :=
  { p with mPacketSize := packetSize }

/-- `init` behind the check of its parameters, up to its end or its first error. -/
def allocate (p : AvbPacketPool) (packetSize poolSize alloc : Nat) (env : InitEnv) :
    IasAvbProcessingResult × AvbPacketPool :=
  if env.baseAllocated = false then (eIasAvbProcNotEnoughMemory, p)
  else
    let p := p.setBase alloc poolSize
    match env.igbDevice with
    | none => (eIasAvbProcInitializationFailed, p)
    | some d =>
        match d.outcome 0 with
        | .notEnoughMemory => (eIasAvbProcNotEnoughMemory, p)
        | .mallocFailed => (eIasAvbProcInitializationFailed, p)
        | .allocated =>
            let p := p.setPacketSize packetSize
            if packetsPerPage d packetSize = 0 then (eIasAvbProcUnsupportedFormat, p)
            else
              initPages alloc d (packetsPerPage d packetSize)
                (pagesNeeded d packetSize poolSize - 1) 1
                (p.initPage alloc (d.page 0) (packetsPerPage d packetSize))

/-- The pages go back to the device and the array is deleted. -/
def cleanup (p : AvbPacketPool) : AvbPacketPool :=
  { p with mDmaPages := [], mBase := none, packets := [] }

/-- The parameters `init` accepts. -/
def ValidParam (packetSize poolSize : Nat) : Prop :=
  (packetSize ≠ 0 ∧ packetSize ≤ cMaxBufferSize) ∧ poolSize ≠ 0 ∧ poolSize ≤ cMaxPoolSize

instance (packetSize poolSize : Nat) : Decidable (ValidParam packetSize poolSize) :=
  inferInstanceAs (Decidable ((_ ∧ _) ∧ _ ∧ _))

def init (p : AvbPacketPool) (packetSize poolSize alloc : Nat) (env : InitEnv) :
    IasAvbProcessingResult × AvbPacketPool :=
  if p.mBase.isSome then (eIasAvbProcInitializationFailed, p)
  else if ¬ ValidParam packetSize poolSize then (eIasAvbProcInvalidParam, p.cleanup)
  else
    let (ret, p) := p.allocate packetSize poolSize alloc env
    if ret = eIasAvbProcOK then (ret, p) else (ret, p.cleanup)

def setStack (p : AvbPacketPool) (stack : List PacketPtr) : AvbPacketPool :=
  { p with mFreeBufferStack := stack }

def getPacket (p : AvbPacketPool) : Option PacketPtr × AvbPacketPool :=
  if p.mBase.isSome then
    match p.mFreeBufferStack with
    | [] => (none, p)
    | ret :: stack => (some ret, p.setStack stack)
  else (none, p)

/-- One packet too many is still taken, to keep the log quiet. -/
def doReturnPacket (p : AvbPacketPool) (packet : PacketPtr) :
    IasAvbProcessingResult × AvbPacketPool :=
  if p.mBase.isSome then
    if p.mFreeBufferStack.length ≤ p.mPoolSize then
      (eIasAvbProcOK, p.setStack (packet :: p.mFreeBufferStack))
    else (eIasAvbProcOK, p)
  else (eIasAvbProcNotInitialized, p)

/-- The pointers `&mBase[0]` to `&mBase[n - 1]`, the last of them on top. -/
def allPackets (alloc n : Nat) : List PacketPtr := ((List.range n).map (PacketPtr.mk alloc)).reverse

def reset (p : AvbPacketPool) : IasAvbProcessingResult × AvbPacketPool :=
  match p.mBase with
  | none => (eIasAvbProcNotInitialized, p)
  | some alloc => (eIasAvbProcOK, p.setStack (allPackets alloc p.mPoolSize))

/-- The packet behind a pointer, if the pointer is still good. -/
def deref (p : AvbPacketPool) (packet : PacketPtr) : Option IasAvbPacket :=
  if p.mBase = some packet.alloc then p.packets[packet.index]? else none

/-! ## How `init` fills the pool -/

/-- Packet `i` of a pool goes to section `i % packetsPerPage` of page `i / packetsPerPage`. -/
def laidOut (d : DmaDevice) (packetSize i : Nat) : IasAvbPacket :=
  packetIn (d.page (i / packetsPerPage d packetSize)) packetSize
    (i % packetsPerPage d packetSize)

/-- The pool while `init` is at work: so many pages are there, and so many packets. Below
them on the stack lies whatever lay there before. -/
structure Filling (alloc : Nat) (d : DmaDevice) (packetSize poolSize : Nat)
    (stale : List PacketPtr) (pages count : Nat) (p : AvbPacketPool) : Prop where
  base : p.mBase = some alloc
  sizes : p.mPacketSize = packetSize ∧ p.mPoolSize = poolSize
  pages : p.mDmaPages = (List.range pages).map d.page
  packets : p.packets = (List.range count).map (laidOut d packetSize)
  stack : p.mFreeBufferStack = allPackets alloc count ++ stale

theorem mem_allPackets {alloc n : Nat} {a : PacketPtr} :
    a ∈ allPackets alloc n ↔ a.alloc = alloc ∧ a.index < n := by
  unfold allPackets
  rw [List.mem_reverse, List.mem_map]
  constructor
  · rintro ⟨i, hi, rfl⟩
    exact ⟨rfl, List.mem_range.mp hi⟩
  · rintro ⟨rfl, hi⟩
    exact ⟨a.index, List.mem_range.mpr hi, rfl⟩

@[simp] theorem length_allPackets (alloc n : Nat) : (allPackets alloc n).length = n := by
  simp [allPackets]

theorem nodup_allPackets (alloc n : Nat) : (allPackets alloc n).Nodup := by
  unfold allPackets
  rw [List.nodup_reverse]
  refine List.Nodup.map (fun i j hij => ?_) List.nodup_range
  exact congrArg PacketPtr.index hij

theorem allPackets_succ (alloc n : Nat) :
    allPackets alloc (n + 1) = ⟨alloc, n⟩ :: allPackets alloc n := by
  simp [allPackets, List.range_succ]

variable {alloc : Nat} {d : DmaDevice} {packetSize poolSize : Nat} {stale : List PacketPtr}
  {p : AvbPacketPool}

theorem Filling.length {pages count : Nat}
    (h : Filling alloc d packetSize poolSize stale pages count p) : p.packets.length = count := by
  rw [h.packets]; simp

theorem Filling.addPacket {pages count : Nat}
    (h : Filling alloc d packetSize poolSize stale pages count p) :
    Filling alloc d packetSize poolSize stale pages (count + 1)
      (p.addPacket alloc (d.page (count / packetsPerPage d packetSize))
        (count % packetsPerPage d packetSize)) where
  base := h.base
  sizes := h.sizes
  pages := h.pages
  packets := by
    show p.packets ++ [packetIn _ p.mPacketSize _] = _
    rw [h.packets, h.sizes.1, List.range_succ, List.map_append]
    rfl
  stack := by
    show ⟨alloc, p.packets.length⟩ :: p.mFreeBufferStack = _
    rw [h.length, h.stack, allPackets_succ, List.cons_append]

/-- A page is filled up, or the pool is. -/
theorem Filling.addPackets {pages k : Nat} (n : Nat) {idx : Nat} {p : AvbPacketPool}
    (h : Filling alloc d packetSize poolSize stale pages
      (k * packetsPerPage d packetSize + idx) p)
    (hidx : idx + n ≤ packetsPerPage d packetSize)
    (hcount : k * packetsPerPage d packetSize + idx ≤ poolSize) :
    Filling alloc d packetSize poolSize stale pages
      (min poolSize (k * packetsPerPage d packetSize + (idx + n)))
      (AvbPacketPool.addPackets alloc (d.page k) n idx p) := by
  induction n generalizing idx p with
  | zero =>
      rw [Nat.add_zero, Nat.min_eq_right hcount]
      exact h
  | succ n ih =>
      unfold AvbPacketPool.addPackets
      rw [h.length, h.sizes.2]
      split
      · rename_i hroom
        have hpos : 0 < packetsPerPage d packetSize := by omega
        have hadd := h.addPacket
        rw [Nat.mul_comm k, Nat.mul_add_div hpos, Nat.mul_add_mod,
          Nat.div_eq_of_lt (by omega), Nat.mod_eq_of_lt (by omega), Nat.add_zero,
          Nat.mul_comm _ k, Nat.add_assoc] at hadd
        have hnext := ih hadd (by omega) (by omega)
        rwa [Nat.add_assoc idx 1 n, Nat.add_comm 1 n] at hnext
      · have hfull : k * packetsPerPage d packetSize + idx = poolSize := by omega
        rw [Nat.min_eq_left (by omega)]
        rw [hfull] at h
        exact h

theorem Filling.initPage {k : Nat}
    (h : Filling alloc d packetSize poolSize stale k (k * packetsPerPage d packetSize) p)
    (hcount : k * packetsPerPage d packetSize ≤ poolSize) :
    Filling alloc d packetSize poolSize stale (k + 1)
      (min poolSize ((k + 1) * packetsPerPage d packetSize))
      (AvbPacketPool.initPage alloc (d.page k) (packetsPerPage d packetSize) p) := by
  have hpage : Filling alloc d packetSize poolSize stale (k + 1)
      (k * packetsPerPage d packetSize + 0) (p.addPage (d.page k)) :=
    ⟨h.base, h.sizes, by
      show p.mDmaPages ++ [d.page k] = _
      rw [h.pages, List.range_succ, List.map_append]
      rfl, h.packets, h.stack⟩
  have hfull := hpage.addPackets (packetsPerPage d packetSize) (by omega) hcount
  rw [Nat.zero_add, ← Nat.succ_mul] at hfull
  exact hfull

/-- The pages behind the first are filled one by one, until one cannot be had. -/
theorem Filling.initPages (n : Nat) {k : Nat} {p : AvbPacketPool}
    (h : Filling alloc d packetSize poolSize stale k
      (min poolSize (k * packetsPerPage d packetSize)) p)
    (hneeded : ∀ j, j < k + n → j * packetsPerPage d packetSize < poolSize) :
    ∃ m, k ≤ m ∧ m ≤ k + n
      ∧ Filling alloc d packetSize poolSize stale m
        (min poolSize (m * packetsPerPage d packetSize))
        (AvbPacketPool.initPages alloc d (packetsPerPage d packetSize) n k p).2
      ∧ (if m = k + n then
          (AvbPacketPool.initPages alloc d (packetsPerPage d packetSize) n k p).1 = eIasAvbProcOK
            ∧ ∀ j, k ≤ j → j < k + n → d.outcome j = .allocated
        else
          (AvbPacketPool.initPages alloc d (packetsPerPage d packetSize) n k p).1 ≠ eIasAvbProcOK
            ∧ d.outcome m ≠ .allocated) := by
  induction n generalizing k p with
  | zero =>
      refine ⟨k, Nat.le_refl _, Nat.le_refl _, h, ?_⟩
      rw [if_pos (Nat.add_zero k).symm]
      exact ⟨rfl, fun j hk hj => by omega⟩
  | succ n ih =>
      unfold AvbPacketPool.initPages
      cases hout : d.outcome k with
      | notEnoughMemory =>
          refine ⟨k, Nat.le_refl _, by omega, h, ?_⟩
          rw [if_neg (by omega), hout]
          exact ⟨(by decide : eIasAvbProcNotEnoughMemory ≠ eIasAvbProcOK), by decide⟩
      | mallocFailed =>
          refine ⟨k, Nat.le_refl _, by omega, h, ?_⟩
          rw [if_neg (by omega), hout]
          exact ⟨(by decide : eIasAvbProcInitializationFailed ≠ eIasAvbProcOK), by decide⟩
      | allocated =>
          -- the page is needed, so the pool has room for all of its packets
          have hroom := hneeded k (by omega)
          rw [Nat.min_eq_right (Nat.le_of_lt hroom)] at h
          obtain ⟨m, hkm, hmn, hfill, hend⟩ :=
            ih (h.initPage (Nat.le_of_lt hroom)) fun j hj => hneeded j (by omega)
          refine ⟨m, by omega, by omega, hfill, ?_⟩
          dsimp only
          rw [show k + (n + 1) = k + 1 + n by omega]
          split at hend
          · rename_i hm
            rw [if_pos hm]
            refine ⟨hend.1, fun j hkj hjn => ?_⟩
            by_cases hj : j = k
            · rw [hj]; exact hout
            · exact hend.2 j (by omega) hjn
          · rename_i hm
            rw [if_neg hm]
            exact hend

/-! ## How `init` ends -/

/-- The device grants the first page and refuses a later one that is needed. -/
def FailsLate (packetSize poolSize : Nat) (env : InitEnv) : Prop :=
  ValidParam packetSize poolSize ∧ env.baseAllocated = true ∧
    match env.igbDevice with
    | none => False
    | some d =>
        d.outcome 0 = .allocated ∧ packetsPerPage d packetSize ≠ 0
          ∧ ∃ k, k < pagesNeeded d packetSize poolSize ∧ 1 ≤ k ∧ d.outcome k ≠ .allocated

instance (packetSize poolSize : Nat) (env : InitEnv) :
    Decidable (FailsLate packetSize poolSize env) := by
  unfold FailsLate
  cases env.igbDevice <;> infer_instance

/-- A pool without packets, but for those that are left on its stack. -/
structure Empty (stale : List PacketPtr) (p : AvbPacketPool) : Prop where
  base : p.mBase = none
  pages : p.mDmaPages = []
  stack : p.mFreeBufferStack = stale

/-- **The three ways `init` of an empty pool ends.** -/
inductive InitCases (packetSize poolSize alloc : Nat) (env : InitEnv) (stale : List PacketPtr)
    (ret : IasAvbProcessingResult) (p : AvbPacketPool) : Prop
  /-- All packets are there. -/
  | filled (d : DmaDevice) (pages : Nat) (hret : ret = eIasAvbProcOK)
      (hlate : ¬ FailsLate packetSize poolSize env)
      (henough : poolSize ≤ pages * packetsPerPage d packetSize)
      (hfill : Filling alloc d packetSize poolSize stale pages poolSize p)
  /-- It failed before there was a packet. -/
  | early (hret : ret ≠ eIasAvbProcOK) (hlate : ¬ FailsLate packetSize poolSize env)
      (hempty : Empty stale p)
  /-- It failed when some of the packets were there, and they are still on the stack. -/
  | late (count : Nat) (hret : ret ≠ eIasAvbProcOK) (hlate : FailsLate packetSize poolSize env)
      (hpos : 0 < count) (hempty : Empty (allPackets alloc count ++ stale) p)

theorem packetsPerPage_lt (d : DmaDevice) (packetSize : Nat) :
    packetsPerPage d packetSize < 4294967296 :=
  Nat.lt_of_le_of_lt (Nat.div_le_self ..) d.mmap_size_lt

/-- All pages but the last are full. -/
theorem lt_of_lt_pagesNeeded {j : Nat} (hpos : 0 < packetsPerPage d packetSize)
    (hpool : 0 < poolSize) (hj : j < 1 + (pagesNeeded d packetSize poolSize - 1)) :
    j * packetsPerPage d packetSize < poolSize := by
  have hsum : pagesNeeded d packetSize poolSize * packetsPerPage d packetSize
      ≤ poolSize + (packetsPerPage d packetSize - 1) :=
    Nat.le_trans (Nat.div_mul_le_self ..) (Nat.mod_le ..)
  rcases Nat.eq_zero_or_pos j with hzero | hj'
  · rw [hzero, Nat.zero_mul]
    exact hpool
  · have hrows : (j + 1) * packetsPerPage d packetSize
        ≤ pagesNeeded d packetSize poolSize * packetsPerPage d packetSize :=
      Nat.mul_le_mul_right _ (by omega)
    rw [Nat.succ_mul] at hrows
    omega

/-- The pages suffice. Where the sum wraps, the first page alone does. -/
theorem le_pagesNeeded (hpos : 0 < packetsPerPage d packetSize)
    (hpool : 0 < poolSize) (hmax : poolSize ≤ cMaxPoolSize) :
    poolSize ≤ (1 + (pagesNeeded d packetSize poolSize - 1)) * packetsPerPage d packetSize := by
  unfold cMaxPoolSize at hmax
  have hlt := packetsPerPage_lt d packetSize
  by_cases hwrap : poolSize + (packetsPerPage d packetSize - 1) < 4294967296
  · have hneeded : pagesNeeded d packetSize poolSize
        = (poolSize + (packetsPerPage d packetSize - 1)) / packetsPerPage d packetSize := by
      unfold pagesNeeded
      rw [add32_of_lt hwrap]
    have hcover : poolSize + (packetsPerPage d packetSize - 1)
        < pagesNeeded d packetSize poolSize * packetsPerPage d packetSize
          + packetsPerPage d packetSize := by
      rw [hneeded]
      exact Nat.lt_div_mul_add hpos
    rcases Nat.eq_zero_or_pos (pagesNeeded d packetSize poolSize) with hzero | hsome
    · rw [hzero, Nat.zero_mul] at hcover
      omega
    · rw [Nat.add_sub_cancel' hsome]
      omega
  · refine Nat.le_trans ?_ (Nat.mul_le_mul_right _ (Nat.le_add_right 1 _))
    omega

theorem empty_cleanup (p : AvbPacketPool) : Empty p.mFreeBufferStack p.cleanup := ⟨rfl, rfl, rfl⟩

theorem init_cases (hp : Empty stale p) (packetSize poolSize alloc : Nat) (env : InitEnv) :
    InitCases packetSize poolSize alloc env stale (p.init packetSize poolSize alloc env).1
      (p.init packetSize poolSize alloc env).2 := by
  -- what fails before the first page leaves an empty pool
  have hclean : Empty stale p.cleanup := ⟨rfl, rfl, hp.stack⟩
  unfold AvbPacketPool.init
  rw [if_neg (by rw [hp.base]; exact Bool.false_ne_true)]
  by_cases hvalid : ValidParam packetSize poolSize
  · rw [if_neg (not_not_intro hvalid)]
    unfold AvbPacketPool.allocate
    by_cases hbase : env.baseAllocated = false
    · rw [if_pos hbase]
      refine .early (show eIasAvbProcNotEnoughMemory ≠ eIasAvbProcOK by decide)
        (fun hlate => ?_) hclean
      exact Bool.noConfusion (hbase.symm.trans hlate.2.1)
    · rw [if_neg hbase]
      have hstart : Empty stale (p.setBase alloc poolSize).cleanup := ⟨rfl, rfl, hp.stack⟩
      cases hdev : env.igbDevice with
      | none =>
          refine .early (show eIasAvbProcInitializationFailed ≠ eIasAvbProcOK by decide)
            (fun hlate => ?_) hstart
          have hdevice := hlate.2.2
          rw [hdev] at hdevice
          exact hdevice
      | some d =>
          have hlateOf : FailsLate packetSize poolSize env ↔ d.outcome 0 = .allocated
              ∧ packetsPerPage d packetSize ≠ 0
              ∧ ∃ k, k < pagesNeeded d packetSize poolSize ∧ 1 ≤ k ∧ d.outcome k ≠ .allocated := by
            unfold FailsLate
            rw [hdev, and_iff_right hvalid, and_iff_right ((Bool.not_eq_false _).mp hbase)]
          dsimp only
          cases hfirst : d.outcome 0 with
          | notEnoughMemory =>
              refine .early (show eIasAvbProcNotEnoughMemory ≠ eIasAvbProcOK by decide)
                (fun hlate => ?_) hstart
              rw [hlateOf, hfirst] at hlate
              exact absurd hlate.1 (by decide)
          | mallocFailed =>
              refine .early (show eIasAvbProcInitializationFailed ≠ eIasAvbProcOK by decide)
                (fun hlate => ?_) hstart
              rw [hlateOf, hfirst] at hlate
              exact absurd hlate.1 (by decide)
          | allocated =>
              dsimp only
              by_cases hnone : packetsPerPage d packetSize = 0
              · rw [if_pos hnone]
                refine .early (show eIasAvbProcUnsupportedFormat ≠ eIasAvbProcOK by decide)
                  (fun hlate => ?_) ⟨rfl, rfl, hp.stack⟩
                exact (hlateOf.mp hlate).2.1 hnone
              · rw [if_neg hnone]
                -- the first page is there: the others follow, as many as are needed
                have hpos := Nat.pos_of_ne_zero hnone
                have hpool := Nat.pos_of_ne_zero hvalid.2.1
                have hbegin : Filling alloc d packetSize poolSize stale 0
                    (0 * packetsPerPage d packetSize)
                    ((p.setBase alloc poolSize).setPacketSize packetSize) := by
                  rw [Nat.zero_mul]
                  exact ⟨rfl, ⟨rfl, rfl⟩, hp.pages, rfl, hp.stack⟩
                have hone := hbegin.initPage (by omega)
                obtain ⟨m, hm1, hmn, hfill, hend⟩ := hone.initPages
                  (pagesNeeded d packetSize poolSize - 1)
                  fun j hj => lt_of_lt_pagesNeeded hpos hpool (by omega)
                have henough := le_pagesNeeded hpos hpool hvalid.2.2
                split at hend
                · -- all pages could be had
                  rename_i hlast
                  rw [if_pos hend.1]
                  rw [hlast, Nat.zero_add, Nat.min_eq_left henough] at hfill
                  refine .filled d _ hend.1 (fun hlate => ?_) henough hfill
                  obtain ⟨k, hk, hk1, hout⟩ := (hlateOf.mp hlate).2.2
                  exact hout (hend.2 k (by omega) (by omega))
                · -- a later page could not be had: the packets of the others stay on the stack
                  rename_i hlast
                  rw [if_neg hend.1]
                  refine .late (min poolSize (m * packetsPerPage d packetSize)) hend.1 ?_ ?_
                    ⟨rfl, rfl, hfill.stack⟩
                  · exact hlateOf.mpr ⟨hfirst, hnone, m, by omega, by omega, hend.2⟩
                  · have hrow := Nat.mul_le_mul_right (packetsPerPage d packetSize) hm1
                    rw [Nat.lt_min]
                    omega
  · rw [if_pos hvalid]
    exact .early (show eIasAvbProcInvalidParam ≠ eIasAvbProcOK by decide)
      (fun hlate => hvalid hlate.1) hclean

/-! ## Where the packets lie -/

/-- What a freshly filled pool is there for: `poolSize` packets of `packetSize` bytes. -/
structure Yields (p : AvbPacketPool) (packetSize poolSize : Nat) : Prop where
  count : p.mFreeBufferStack.length = poolSize
  distinct : p.mFreeBufferStack.Nodup
  /-- Every packet lies inside one DMA page. -/
  inPage : ∀ a ∈ p.mFreeBufferStack, ∃ packet, p.deref a = some packet ∧ ∃ page ∈ p.mDmaPages,
    page.dma_vaddr ≤ packet.vaddr
      ∧ packet.vaddr + packetSize ≤ page.dma_vaddr + page.mmap_size
  /-- The data of no two packets overlap. -/
  disjoint : ∀ a ∈ p.mFreeBufferStack, ∀ b ∈ p.mFreeBufferStack, a ≠ b →
    ∀ x y, p.deref a = some x → p.deref b = some y →
      x.vaddr + packetSize ≤ y.vaddr ∨ y.vaddr + packetSize ≤ x.vaddr

/-- A section ends before its page does. -/
theorem section_le (hpos : 0 < packetsPerPage d packetSize) (i : Nat) :
    i % packetsPerPage d packetSize * packetSize + packetSize ≤ d.mmap_size := by
  have hidx := Nat.mod_lt i hpos
  have hrow := Nat.mul_le_mul_right packetSize hidx
  rw [Nat.succ_mul] at hrow
  exact Nat.le_trans hrow (Nat.div_mul_le_self ..)

theorem laidOut_vaddr (hsize : 0 < packetSize) (hpos : 0 < packetsPerPage d packetSize) (i : Nat) :
    (laidOut d packetSize i).vaddr = d.dma_vaddr (i / packetsPerPage d packetSize)
      + i % packetsPerPage d packetSize * packetSize := by
  have hend := @section_le d packetSize hpos i
  have hpage := d.mmap_size_lt
  show _ + _ % 4294967296 = _
  rw [Nat.mod_eq_of_lt (by omega)]
  rfl

theorem laidOut_disjoint (hsize : 0 < packetSize) (hpos : 0 < packetsPerPage d packetSize)
    {i j : Nat} (hij : i ≠ j) :
    (laidOut d packetSize i).vaddr + packetSize ≤ (laidOut d packetSize j).vaddr
      ∨ (laidOut d packetSize j).vaddr + packetSize ≤ (laidOut d packetSize i).vaddr := by
  rw [laidOut_vaddr hsize hpos, laidOut_vaddr hsize hpos]
  have hi := @section_le d packetSize hpos i
  have hj := @section_le d packetSize hpos j
  by_cases hpage : i / packetsPerPage d packetSize = j / packetsPerPage d packetSize
  · have hidx : i % packetsPerPage d packetSize ≠ j % packetsPerPage d packetSize := by
      intro hmod
      have hdivi := Nat.div_add_mod i (packetsPerPage d packetSize)
      have hdivj := Nat.div_add_mod j (packetsPerPage d packetSize)
      rw [hpage, hmod] at hdivi
      exact hij (hdivi.symm.trans hdivj)
    rw [hpage]
    rcases Nat.lt_or_gt_of_ne hidx with hlt | hlt
    · have hrow := Nat.mul_le_mul_right packetSize hlt
      rw [Nat.succ_mul] at hrow
      omega
    · have hrow := Nat.mul_le_mul_right packetSize hlt
      rw [Nat.succ_mul] at hrow
      omega
  · have hpages := d.disjoint _ _ hpage
    omega

/-- Where a pointer into a filled pool leads. -/
theorem Filling.deref {pages count : Nat}
    (h : Filling alloc d packetSize poolSize stale pages count p) {a : PacketPtr}
    (ha : a ∈ allPackets alloc count) : p.deref a = some (laidOut d packetSize a.index) := by
  obtain ⟨halloc, hindex⟩ := mem_allPackets.mp ha
  unfold AvbPacketPool.deref
  rw [h.base, halloc, if_pos rfl, h.packets, List.getElem?_map, List.getElem?_range hindex]
  rfl

/-- **A pool that was empty holds what was asked for.** -/
theorem Filling.yields {pages : Nat}
    (h : Filling alloc d packetSize poolSize [] pages poolSize p) (hsize : 0 < packetSize)
    (henough : poolSize ≤ pages * packetsPerPage d packetSize) :
    Yields p packetSize poolSize := by
  have hstack : p.mFreeBufferStack = allPackets alloc poolSize := by
    rw [h.stack, List.append_nil]
  have hpos : ∀ a ∈ allPackets alloc poolSize, 0 < packetsPerPage d packetSize := by
    intro a ha
    have hindex := (mem_allPackets.mp ha).2
    rcases Nat.eq_zero_or_pos (packetsPerPage d packetSize) with hzero | hpos
    · rw [hzero, Nat.mul_zero] at henough
      omega
    · exact hpos
  refine ⟨?_, ?_, ?_, ?_⟩
  · rw [hstack, length_allPackets]
  · rw [hstack]
    exact nodup_allPackets ..
  · rw [hstack]
    intro a ha
    have hindex := (mem_allPackets.mp ha).2
    have hend := @section_le d packetSize (hpos a ha) a.index
    refine ⟨_, h.deref ha, d.page (a.index / packetsPerPage d packetSize), ?_, ?_⟩
    · rw [h.pages]
      refine List.mem_map_of_mem (List.mem_range.mpr ?_)
      rw [Nat.div_lt_iff_lt_mul (hpos a ha)]
      omega
    · rw [laidOut_vaddr hsize (hpos a ha)]
      show d.dma_vaddr _ ≤ _ ∧ _ ≤ d.dma_vaddr _ + d.mmap_size
      omega
  · rw [hstack]
    intro a ha b hb hab x y hx hy
    rw [h.deref ha, Option.some.injEq] at hx
    rw [h.deref hb, Option.some.injEq] at hy
    rw [← hx, ← hy]
    refine laidOut_disjoint hsize (hpos a ha) fun hindex => hab ?_
    obtain ⟨halloc, -⟩ := mem_allPackets.mp ha
    obtain ⟨halloc', -⟩ := mem_allPackets.mp hb
    cases a
    cases b
    rw [PacketPtr.mk.injEq]
    exact ⟨halloc.trans halloc'.symm, hindex⟩

end AvbPacketPool

end AvbStreamHandler
