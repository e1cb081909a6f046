import Mathlib.Data.List.GetD
import FrameworksNative.Consumer

/-!
# What one call can do

Lemmas for each state update, the specification of the table search, and one inversion lemma
per call that says everything the call can do. A failed call leaves the table and the counter
as they were, but not always everything: a lock that fails in `lockBufferItem` has already
acquired a buffer and keeps it, and an unlock whose `unlockAsync` fails has already emptied the
conversion buffer of the entry it found. The process dies only at the converter's checks. Runs
of calls and the reachable states are defined here; the invariants are proved from these lemmas
alone, without unfolding the calls.
-/

namespace FrameworksNative

lemma getD_set {α : Type} (l : List α) (i j : Nat) (a d : α) :
    (l.set i a).getD j d = if i = j ∧ i < l.length then a else l.getD j d := by
  simp only [List.getD_eq_getElem?_getD, List.getElem?_set]
  by_cases h : i = j
  · subst h
    by_cases hi : i < l.length
    · simp [hi]
    · simp [hi, List.getElem?_eq_none (Nat.le_of_not_lt hi)]
  · simp [h]

namespace CpuConsumer

variable {s : CpuConsumer} {i j id : Nat} {ab : AcquiredBuffer} {mb : ByteVector}

@[simp] lemma setEntry_mAcquiredBuffers :
    (s.setEntry i ab).mAcquiredBuffers = s.mAcquiredBuffers.set i ab := rfl
@[simp] lemma setEntry_mMaxLockedBuffers : (s.setEntry i ab).mMaxLockedBuffers = s.mMaxLockedBuffers := rfl
@[simp] lemma setEntry_mCurrentLockedBuffers :
    (s.setEntry i ab).mCurrentLockedBuffers = s.mCurrentLockedBuffers := rfl
@[simp] lemma setEntry_mIsInited : (s.setEntry i ab).mIsInited = s.mIsInited := rfl
@[simp] lemma setEntry_mMemoryBuffer : (s.setEntry i ab).mMemoryBuffer = s.mMemoryBuffer := rfl
@[simp] lemma setEntry_heldSlots : (s.setEntry i ab).heldSlots = s.heldSlots := rfl
@[simp] lemma setEntry_mShmData : (s.setEntry i ab).mShmData = s.mShmData := rfl

@[simp] lemma setMemory_mAcquiredBuffers : (s.setMemory i mb).mAcquiredBuffers = s.mAcquiredBuffers := rfl
@[simp] lemma setMemory_mMaxLockedBuffers : (s.setMemory i mb).mMaxLockedBuffers = s.mMaxLockedBuffers := rfl
@[simp] lemma setMemory_mCurrentLockedBuffers :
    (s.setMemory i mb).mCurrentLockedBuffers = s.mCurrentLockedBuffers := rfl
@[simp] lemma setMemory_mIsInited : (s.setMemory i mb).mIsInited = s.mIsInited := rfl
@[simp] lemma setMemory_mMemoryBuffer : (s.setMemory i mb).mMemoryBuffer = s.mMemoryBuffer.set i mb := rfl
@[simp] lemma setMemory_heldSlots : (s.setMemory i mb).heldSlots = s.heldSlots := rfl
@[simp] lemma setMemory_mShmData : (s.setMemory i mb).mShmData = s.mShmData := rfl

variable {call : LockCall} {slot : Int} {gb : GraphicBuffer}

@[simp] lemma recordAcquire_mAcquiredBuffers :
    (s.recordAcquire call).mAcquiredBuffers = s.mAcquiredBuffers := rfl
@[simp] lemma recordAcquire_mMaxLockedBuffers :
    (s.recordAcquire call).mMaxLockedBuffers = s.mMaxLockedBuffers := rfl
@[simp] lemma recordAcquire_mCurrentLockedBuffers :
    (s.recordAcquire call).mCurrentLockedBuffers = s.mCurrentLockedBuffers := rfl
@[simp] lemma recordAcquire_mIsInited : (s.recordAcquire call).mIsInited = s.mIsInited := rfl
@[simp] lemma recordAcquire_mMemoryBuffer : (s.recordAcquire call).mMemoryBuffer = s.mMemoryBuffer := rfl
@[simp] lemma recordAcquire_mShmData : (s.recordAcquire call).mShmData = s.mShmData := rfl
@[simp] lemma recordAcquire_heldSlots :
    (s.recordAcquire call).heldSlots = s.heldSlots ++ [(call.acquired.mSlot, call.graphicBuffer)] := rfl

@[simp] lemma lockEntry_mAcquiredBuffers :
    (s.lockEntry i ab).mAcquiredBuffers = s.mAcquiredBuffers.set i ab := rfl
@[simp] lemma lockEntry_mMaxLockedBuffers : (s.lockEntry i ab).mMaxLockedBuffers = s.mMaxLockedBuffers := rfl
@[simp] lemma lockEntry_mCurrentLockedBuffers :
    (s.lockEntry i ab).mCurrentLockedBuffers = s.mCurrentLockedBuffers + 1 := rfl
@[simp] lemma lockEntry_mIsInited : (s.lockEntry i ab).mIsInited = s.mIsInited := rfl
@[simp] lemma lockEntry_mMemoryBuffer : (s.lockEntry i ab).mMemoryBuffer = s.mMemoryBuffer := rfl
@[simp] lemma lockEntry_heldSlots : (s.lockEntry i ab).heldSlots = s.heldSlots := rfl
@[simp] lemma lockEntry_mShmData : (s.lockEntry i ab).mShmData = s.mShmData := rfl

@[simp] lemma freeEntry_mAcquiredBuffers :
    (s.freeEntry i slot gb).mAcquiredBuffers = s.mAcquiredBuffers.set i .unused := rfl
@[simp] lemma freeEntry_mMaxLockedBuffers :
    (s.freeEntry i slot gb).mMaxLockedBuffers = s.mMaxLockedBuffers := rfl
@[simp] lemma freeEntry_mCurrentLockedBuffers :
    (s.freeEntry i slot gb).mCurrentLockedBuffers = s.mCurrentLockedBuffers - 1 := rfl
@[simp] lemma freeEntry_mIsInited : (s.freeEntry i slot gb).mIsInited = s.mIsInited := rfl
@[simp] lemma freeEntry_mMemoryBuffer : (s.freeEntry i slot gb).mMemoryBuffer = s.mMemoryBuffer := rfl
@[simp] lemma freeEntry_heldSlots :
    (s.freeEntry i slot gb).heldSlots = s.heldSlots.erase (slot, gb) := rfl
@[simp] lemma freeEntry_mShmData : (s.freeEntry i slot gb).mShmData = s.mShmData := rfl

@[simp] lemma releaseConverted_mAcquiredBuffers :
    (s.releaseConverted i id).mAcquiredBuffers = s.mAcquiredBuffers := by
  simp only [releaseConverted]; split_ifs <;> rfl
@[simp] lemma releaseConverted_mMaxLockedBuffers :
    (s.releaseConverted i id).mMaxLockedBuffers = s.mMaxLockedBuffers := by
  simp only [releaseConverted]; split_ifs <;> rfl
@[simp] lemma releaseConverted_mCurrentLockedBuffers :
    (s.releaseConverted i id).mCurrentLockedBuffers = s.mCurrentLockedBuffers := by
  simp only [releaseConverted]; split_ifs <;> rfl
@[simp] lemma releaseConverted_mIsInited : (s.releaseConverted i id).mIsInited = s.mIsInited := by
  simp only [releaseConverted]; split_ifs <;> rfl
@[simp] lemma releaseConverted_heldSlots : (s.releaseConverted i id).heldSlots = s.heldSlots := by
  simp only [releaseConverted]; split_ifs <;> rfl
@[simp] lemma releaseConverted_mShmData : (s.releaseConverted i id).mShmData = s.mShmData := by
  simp only [releaseConverted]; split_ifs <;> rfl

lemma releaseConverted_getD (j : Nat) :
    (s.releaseConverted i id).mMemoryBuffer.getD j .empty =
      if i = j ∧ s.mIsInited ∧ id = (s.mMemoryBuffer.getD i .empty).array
      then (s.mMemoryBuffer.getD i .empty).clear else s.mMemoryBuffer.getD j .empty := by
  simp only [releaseConverted]
  by_cases hinit : s.mIsInited
  · by_cases hid : id = (s.mMemoryBuffer.getD i .empty).array
    · simp only [hinit, hid, if_true, setMemory_mMemoryBuffer, getD_set, true_and]
      by_cases hij : i = j
      · subst hij
        by_cases hi : i < s.mMemoryBuffer.length
        · simp [hi]
        · simp [hi, List.getD_eq_getElem?_getD, List.getElem?_eq_none (Nat.le_of_not_lt hi),
            ByteVector.empty, ByteVector.clear]
      · simp [hij]
    · rw [if_pos hinit, if_neg hid, if_neg fun h => hid h.2.2]
  · rw [if_neg hinit, if_neg fun h => hinit h.2.1]

lemma initEgl_frame (w h : Nat) (p : Bool) :
    (s.initEgl w h p).2.mAcquiredBuffers = s.mAcquiredBuffers ∧
      (s.initEgl w h p).2.mMaxLockedBuffers = s.mMaxLockedBuffers ∧
      (s.initEgl w h p).2.mCurrentLockedBuffers = s.mCurrentLockedBuffers ∧
      (s.initEgl w h p).2.heldSlots = s.heldSlots := by
  unfold initEgl; split_ifs <;> simp

lemma initEgl_of_ne_ok {w h : Nat} {p : Bool} (hs : (s.initEgl w h p).1 ≠ .ok) :
    (s.initEgl w h p).2 = s := by
  unfold initEgl at hs ⊢; split_ifs at hs ⊢ <;> simp_all

lemma initEgl_mIsInited (w h : Nat) (p : Bool) :
    (s.initEgl w h p).2.mIsInited = (s.mIsInited || p) := by
  unfold initEgl; split_ifs <;> simp_all

lemma initEgl_getD (w h : Nat) (p : Bool) (j : Nat) :
    (s.initEgl w h p).2.mMemoryBuffer.getD j .empty = s.mMemoryBuffer.getD j .empty := by
  unfold initEgl
  split_ifs with hinit
  · rfl
  · rfl
  · have h0 : s.mMemoryBuffer = [] := by
      simpa [hinit] using s.memory_length
    simp only [h0, List.append_nil, List.getD_eq_getElem?_getD, List.getElem?_replicate,
      List.getElem?_nil]
    split_ifs <;> rfl

lemma findAcquiredBufferLocked_le (id : Nat) :
    s.findAcquiredBufferLocked id ≤ s.mMaxLockedBuffers.toNat := by
  rw [← s.acquired_length]
  exact List.findIdx_le_length _

lemma findAcquiredBufferLocked_lt_iff :
    s.findAcquiredBufferLocked id < s.mMaxLockedBuffers.toNat ↔
      ∃ ab ∈ s.mAcquiredBuffers, ab.mLockedBufferId = id := by
  rw [← s.acquired_length, findAcquiredBufferLocked, List.findIdx_lt_length]
  simp

lemma getD_findAcquiredBufferLocked (h : s.findAcquiredBufferLocked id < s.mMaxLockedBuffers.toNat) :
    (s.mAcquiredBuffers.getD (s.findAcquiredBufferLocked id) .unused).mLockedBufferId = id := by
  rw [← s.acquired_length] at h
  rw [List.getD_eq_getElem _ _ h]
  simpa using List.findIdx_getElem (w := h)

/-- The entry `lockNextBuffer` fills, the first one with id `kUnusedId`, is not in use. -/
lemma inUse_findUnused (s : CpuConsumer) :
    (s.mAcquiredBuffers.getD (s.findAcquiredBufferLocked kUnusedId) .unused).inUse = false := by
  by_cases h : s.findAcquiredBufferLocked kUnusedId < s.mMaxLockedBuffers.toNat
  · rw [not_inUse_iff]
    exact getD_findAcquiredBufferLocked h
  · rw [List.getD_eq_default _ _ (by rw [s.acquired_length]; exact not_lt.1 h)]
    rfl

lemma inited_of_size_ne (h : (s.mMemoryBuffer.getD i .empty).size ≠ 0) :
    s.mIsInited = true ∧ i < s.mMaxLockedBuffers.toNat := by
  have hi : i < s.mMemoryBuffer.length := by
    by_contra hle
    exact h (by rw [List.getD_eq_default _ _ (not_lt.1 hle)]; rfl)
  rw [s.memory_length] at hi
  split_ifs at hi with hinit
  · exact ⟨hinit, hi⟩
  · exact absurd hi (Nat.not_lt_zero i)

@[simp] lemma recordAcquire_findAcquiredBufferLocked {call : LockCall} :
    (s.recordAcquire call).findAcquiredBufferLocked id = s.findAcquiredBufferLocked id := rfl

lemma initEgl_findAcquiredBufferLocked (w h : Nat) (p : Bool) (id : Nat) :
    (s.initEgl w h p).2.findAcquiredBufferLocked id = s.findAcquiredBufferLocked id := by
  simp only [findAcquiredBufferLocked, (initEgl_frame w h p).1]

/-! ## What one call can do -/

@[simp] lemma convertedBuffer_size (old : ByteVector) (n block : Nat) (ops : List MemoryOp) :
    (convertedBuffer old n block ops).size = n := by
  simp [convertedBuffer]

@[simp] lemma convertedBuffer_array (old : ByteVector) (n block : Nat) (ops : List MemoryOp) :
    (convertedBuffer old n block ops).array = (old.resize n block).array := rfl

@[simp] lemma convertedBuffer_bytes (old : ByteVector) (n block : Nat) (ops : List MemoryOp) :
    (convertedBuffer old n block ops).bytes = applyStores old.bytes ops := by
  simp [convertedBuffer]

variable {item : BufferItem} {nb : LockedBuffer} {s' : CpuConsumer} {acc : List Access}
  {err : Status} {p : Planes} {ycbcr : AndroidYcbcr}

@[simp] lemma ofPlanes_data {flexFormat : PixelFormat} :
    (LockedBuffer.ofPlanes p item gb flexFormat).data = p.data := rfl

lemma lockYCbCrAttempt_error {format : PixelFormat} (h : lockYCbCrAttempt format call = .error err) :
    err ≠ .ok := by
  unfold lockYCbCrAttempt at h
  split_ifs at h with h1 h2
  cases h
  exact h2

lemma lockYCbCrAttempt_ok {format flexFormat : PixelFormat}
    (h : lockYCbCrAttempt format call = .ok (ycbcr, flexFormat)) : ycbcr = call.ycbcr ∨ ycbcr = default := by
  unfold lockYCbCrAttempt at h
  split_ifs at h <;> cases h <;> simp

lemma lockPlain_error (h : lockPlain gb call = .error err) : err ≠ .ok := by
  unfold lockPlain at h
  split_ifs at h with h1
  cases h
  exact h1

lemma lockPlain_ok (h : lockPlain gb call = .ok p) :
    call.lockAsyncStatus = .ok ∧ p = ⟨call.bufferPointer, gb.stride, 0, 0, 0, 0⟩ := by
  unfold lockPlain at h
  split_ifs at h with h1
  cases h
  exact ⟨not_not.1 h1, rfl⟩

lemma lockBufferItem_error (h : s.lockBufferItem item gb call = some (.error err)) : err ≠ .ok := by
  unfold lockBufferItem at h
  split at h
  · cases h; exact lockYCbCrAttempt_error ‹_›
  · split_ifs at h
    · simp at h
    · split at h <;> cases h
      exact lockPlain_error ‹_›

/-- What a successful `lockBufferItem` did: fill the `LockedBuffer` from planes found either
the plain way, changing nothing and describing gralloc's mapping, or in the flexible-YUV branch
with gralloc's layout. -/
lemma lockBufferItem_ok (h : s.lockBufferItem item gb call = some (.ok (nb, s', acc))) :
    ∃ p flexFormat, nb = LockedBuffer.ofPlanes p item gb flexFormat ∧
      ((s' = s ∧ acc = [] ∧ call.lockAsyncStatus = .ok ∧ p = ⟨call.bufferPointer, gb.stride, 0, 0, 0, 0⟩) ∨
       (call.ycbcr.y ≠ 0 ∧ s.lockFlexYuv gb call.ycbcr call = some (p, s', acc))) := by
  unfold lockBufferItem at h
  split at h
  · cases h
  · rename_i ycbcr flexFormat hy
    split_ifs at h with hy0
    · obtain ⟨⟨p, s₂, acc₂⟩, hf, he⟩ := Option.map_eq_some'.1 h
      cases he
      rcases lockYCbCrAttempt_ok hy with rfl | rfl
      · exact ⟨p, flexFormat, rfl, .inr ⟨hy0, hf⟩⟩
      · exact absurd rfl hy0
    · split at h <;> cases h
      obtain ⟨hs, rfl⟩ := lockPlain_ok ‹_›
      exact ⟨_, flexFormat, rfl, .inl ⟨rfl, rfl, hs, rfl⟩⟩

/-- What `lockFlexYuv` did. With EGL down it changed nothing and describes gralloc's planes;
with EGL up it put the converted buffer in place of the first unused entry's and describes
that buffer. -/
lemma lockFlexYuv_cases (h : s.lockFlexYuv gb ycbcr call = some (p, s', acc)) :
    ((s.initEgl gb.width gb.height call.eglIsPowervr).1 ≠ .ok ∧ s' = s ∧
      p = ⟨ycbcr.y, toUInt32Cast ycbcr.ystride, ycbcr.cb, ycbcr.cr, toUInt32Cast ycbcr.cstride,
        toUInt32Cast ycbcr.chromaStep⟩ ∧
      acc = [⟨.memoryBuffer, s.findAcquiredBufferLocked kUnusedId, s.mMemoryBuffer.length⟩]) ∨
    ((s.initEgl gb.width gb.height call.eglIsPowervr).1 = .ok ∧ ∃ ops mb,
      convertRGB32ToPlanar (toUInt32Cast ycbcr.ystride) (toUInt32Cast ycbcr.cstride) call.pixels
        gb.width gb.height (gb.width * 4) false = some ops ∧
      mb = convertedBuffer ((s.initEgl gb.width gb.height call.eglIsPowervr).2.mMemoryBuffer.getD
        (s.findAcquiredBufferLocked kUnusedId) .empty) (gb.width * gb.height * 3 / 2) call.block ops ∧
      s' = (s.initEgl gb.width gb.height call.eglIsPowervr).2.setMemory
        (s.findAcquiredBufferLocked kUnusedId) mb ∧
      p = ⟨mb.array, toUInt32Cast ycbcr.ystride, mb.array + gb.stride * gb.height,
        mb.array + gb.stride * gb.height + 1, toUInt32Cast ycbcr.cstride,
        toUInt32Cast ycbcr.chromaStep⟩ ∧
      acc = ⟨.memoryBuffer, s.findAcquiredBufferLocked kUnusedId,
          (s.initEgl gb.width gb.height call.eglIsPowervr).2.mMemoryBuffer.length⟩ ::
        ops.map (converterAccess ((s.initEgl gb.width gb.height call.eglIsPowervr).2.mShmData.getD 0)
          mb.size)) := by
  simp only [lockFlexYuv, initEgl_findAcquiredBufferLocked] at h
  split_ifs at h with hst
  · split at h
    · cases h
    · rename_i ops hops
      simp only [Option.some.injEq, Prod.mk.injEq] at h
      obtain ⟨rfl, rfl, rfl⟩ := h
      exact .inr ⟨hst, ops, _, hops, rfl, rfl, rfl, rfl⟩
  · simp only [Option.some.injEq, Prod.mk.injEq] at h
    obtain ⟨rfl, rfl, rfl⟩ := h
    rw [initEgl_of_ne_ok hst]
    exact .inl ⟨hst, rfl, rfl, rfl⟩

/-- What `lockNextBuffer` can do: refuse and change nothing; fail in `lockBufferItem` after the
acquire, which then stays recorded; or lock, filling the first unused entry with the acquired
slot, its buffer and the id handed out, and counting it. -/
theorem lockNextBuffer_cases {r : Result} (h : s.lockNextBuffer call = some r) :
    (r.status ≠ .ok ∧ r.buffer = none ∧ r.state = s ∧ r.accesses = []) ∨
    (r.status ≠ .ok ∧ r.buffer = none ∧ r.state = s.recordAcquire call ∧ r.accesses = [] ∧
      call.acquireStatus = .ok) ∨
    (∃ nb s₂ acc, s.mCurrentLockedBuffers ≠ s.mMaxLockedBuffers ∧
      (s.recordAcquire call).lockBufferItem call.acquired call.graphicBuffer call =
        some (.ok (nb, s₂, acc)) ∧
      r = ⟨.ok, some nb, s₂.lockEntry (s₂.findAcquiredBufferLocked kUnusedId)
        ⟨call.acquired.mSlot, some call.graphicBuffer, nb.data⟩,
        acc ++ [⟨.acquiredBuffers, s₂.findAcquiredBufferLocked kUnusedId, s₂.mMaxLockedBuffers.toNat⟩]⟩) := by
  unfold lockNextBuffer at h
  split_ifs at h with h1 h2 h3 h4
  · cases h; exact .inl ⟨Status.badValue_ne_ok, rfl, rfl, rfl⟩
  · cases h; exact .inl ⟨Status.notEnoughData_ne_ok, rfl, rfl, rfl⟩
  · cases h; exact .inl ⟨Status.badValue_ne_ok, rfl, rfl, rfl⟩
  · cases h; exact .inl ⟨h3, rfl, rfl, rfl⟩
  · dsimp only at h
    split at h
    · cases h
    · cases h
      exact .inr (.inl ⟨lockBufferItem_error ‹_›, rfl, rfl, rfl, not_not.1 h3⟩)
    · cases h
      exact .inr (.inr ⟨_, _, _, h2, ‹_›, rfl⟩)

/-- A failed lock leaves the table, the counter and the conversion buffers as they were. The
held slots are as they were, or, when the acquire succeeded, hold the acquired slot as well. -/
lemma lockNextBuffer_failure {r : Result} (h : s.lockNextBuffer call = some r) (hst : r.status ≠ .ok) :
    r.state.mAcquiredBuffers = s.mAcquiredBuffers ∧
    r.state.mCurrentLockedBuffers = s.mCurrentLockedBuffers ∧
    r.state.mMemoryBuffer = s.mMemoryBuffer ∧
    (r.state.heldSlots = s.heldSlots ∨ call.acquireStatus = .ok ∧
      r.state.heldSlots = s.heldSlots ++ [(call.acquired.mSlot, call.graphicBuffer)]) := by
  rcases lockNextBuffer_cases h with ⟨-, -, hr, -⟩ | ⟨-, -, hr, -, hacq⟩ | ⟨_, _, _, -, -, hr⟩
  · simp [hr]
  · simp [hr, hacq]
  · rw [hr] at hst
    exact absurd rfl hst

variable {ucall : UnlockCall} {r : Result}

/-- What `unlockBuffer` can do: refuse a buffer it cannot find, unchanged; or, for the entry
found by id, clear its conversion buffer if it holds it, then either stop at a failed unlock
or give the slot back and free the entry. -/
theorem unlockBuffer_cases (h : s.unlockBuffer nb ucall = some r) :
    (r.status = .badValue ∧ r.state = s ∧ r.accesses = [] ∧
      (getLockedBufferId nb = kUnusedId ∨
        s.findAcquiredBufferLocked (getLockedBufferId nb) = s.mMaxLockedBuffers.toNat)) ∨
    (∃ slot gb, getLockedBufferId nb ≠ kUnusedId ∧
      s.findAcquiredBufferLocked (getLockedBufferId nb) < s.mMaxLockedBuffers.toNat ∧
      s.mAcquiredBuffers.getD (s.findAcquiredBufferLocked (getLockedBufferId nb)) .unused =
        ⟨slot, some gb, getLockedBufferId nb⟩ ∧
      r.accesses = ⟨.acquiredBuffers, s.findAcquiredBufferLocked (getLockedBufferId nb),
        s.mMaxLockedBuffers.toNat⟩ :: (if s.mIsInited then [⟨.memoryBuffer,
          s.findAcquiredBufferLocked (getLockedBufferId nb), s.mMemoryBuffer.length⟩] else []) ∧
      ((ucall.unlockAsyncStatus ≠ .ok ∧ r.status = ucall.unlockAsyncStatus ∧ r.buffer = none ∧
        r.state = s.releaseConverted (s.findAcquiredBufferLocked (getLockedBufferId nb))
          (getLockedBufferId nb)) ∨
      (ucall.unlockAsyncStatus = .ok ∧ r.status = .ok ∧ r.buffer = none ∧
        r.state = (s.releaseConverted (s.findAcquiredBufferLocked (getLockedBufferId nb))
          (getLockedBufferId nb)).freeEntry (s.findAcquiredBufferLocked (getLockedBufferId nb))
          slot gb))) := by
  by_cases h1 : getLockedBufferId nb = kUnusedId
  · simp only [unlockBuffer, h1, ne_eq, not_true_eq_false, if_false, if_true] at h
    cases h
    exact .inl ⟨rfl, rfl, rfl, .inl h1⟩
  by_cases h2 : s.findAcquiredBufferLocked (getLockedBufferId nb) = s.mMaxLockedBuffers.toNat
  · simp only [unlockBuffer, h1, h2, ne_eq, not_false_eq_true, if_true] at h
    cases h
    exact .inl ⟨rfl, rfl, rfl, .inr h2⟩
  have hfound := (findAcquiredBufferLocked_le (getLockedBufferId nb)).lt_of_ne h2
  have hid := getD_findAcquiredBufferLocked hfound
  simp only [unlockBuffer, h1, h2, ne_eq, not_false_eq_true, if_true, if_false] at h
  generalize s.mAcquiredBuffers.getD _ .unused = ab at h hid ⊢
  obtain ⟨slot, gb?, idab⟩ := ab
  cases hid
  cases gb? with
  | none => cases h
  | some gb =>
    refine .inr ⟨slot, gb, h1, hfound, rfl, ?_⟩
    dsimp only at h
    by_cases h3 : ucall.unlockAsyncStatus = .ok
    · rw [if_neg (not_not.2 h3)] at h
      cases h
      exact ⟨rfl, .inr ⟨h3, rfl, rfl, rfl⟩⟩
    · rw [if_pos h3] at h
      cases h
      exact ⟨rfl, .inl ⟨h3, rfl, rfl, rfl⟩⟩

/-- A failed unlock leaves the table, the counter and the held slots as they were, and every
conversion buffer but that of the entry it found. -/
lemma unlockBuffer_failure (h : s.unlockBuffer nb ucall = some r) (hst : r.status ≠ .ok) :
    r.state.mAcquiredBuffers = s.mAcquiredBuffers ∧
    r.state.mCurrentLockedBuffers = s.mCurrentLockedBuffers ∧
    r.state.heldSlots = s.heldSlots ∧
    ∀ j ≠ s.findAcquiredBufferLocked (getLockedBufferId nb),
      r.state.mMemoryBuffer.getD j .empty = s.mMemoryBuffer.getD j .empty := by
  rcases unlockBuffer_cases h with ⟨-, hr, -⟩ | ⟨-, -, -, -, -, -, ⟨-, -, -, hr⟩ | ⟨-, hok, -, -⟩⟩
  · simp [hr]
  · rw [hr]
    exact ⟨releaseConverted_mAcquiredBuffers, releaseConverted_mCurrentLockedBuffers,
      releaseConverted_heldSlots, fun j hj => by rw [releaseConverted_getD, if_neg fun hc => hj hc.1.symm]⟩
  · exact absurd hok hst

lemma lockBufferItem_frame (h : s.lockBufferItem item gb call = some (.ok (nb, s', acc))) :
    s'.mAcquiredBuffers = s.mAcquiredBuffers ∧ s'.mMaxLockedBuffers = s.mMaxLockedBuffers ∧
      s'.mCurrentLockedBuffers = s.mCurrentLockedBuffers ∧ s'.heldSlots = s.heldSlots := by
  obtain ⟨p, -, -, ⟨rfl, -⟩ | ⟨-, hf⟩⟩ := lockBufferItem_ok h
  · exact ⟨rfl, rfl, rfl, rfl⟩
  · rcases lockFlexYuv_cases hf with ⟨-, rfl, -⟩ | ⟨-, ops, mb, -, -, rfl, -⟩
    · exact ⟨rfl, rfl, rfl, rfl⟩
    · simpa using initEgl_frame (s := s) gb.width gb.height call.eglIsPowervr

/-- A successful `lockBufferItem` does not index the table, and indexes `mMemoryBuffer` at
the first unused entry only, with the size `initEgl` left it. -/
lemma lockBufferItem_accesses (h : s.lockBufferItem item gb call = some (.ok (nb, s', acc))) :
    ∀ a ∈ acc, a.region ≠ .acquiredBuffers ∧
      (a.region = .memoryBuffer → a.index = s.findAcquiredBufferLocked kUnusedId ∧
        a.size = (s.initEgl gb.width gb.height call.eglIsPowervr).2.mMemoryBuffer.length) := by
  obtain ⟨p, -, -, ⟨-, rfl, -⟩ | ⟨-, hf⟩⟩ := lockBufferItem_ok h
  · simp
  · rcases lockFlexYuv_cases hf with ⟨hst, -, -, rfl⟩ | ⟨-, ops, mb, -, -, -, -, rfl⟩
    · simp [initEgl_of_ne_ok hst]
    · simp only [List.mem_cons, List.mem_map]
      rintro a (rfl | ⟨op, -, rfl⟩)
      · simp
      · cases op <;> simp [converterAccess]

lemma lockBufferItem_findAcquiredBufferLocked
    (h : s.lockBufferItem item gb call = some (.ok (nb, s', acc))) :
    s'.findAcquiredBufferLocked id = s.findAcquiredBufferLocked id := by
  simp only [findAcquiredBufferLocked, (lockBufferItem_frame h).1]

/-- A successful `lockBufferItem` changes at most the conversion buffer of the first unused
entry. If that one was empty and is not any more, it is at the address handed out, which is
then not null. -/
lemma lockBufferItem_memory (h : s.lockBufferItem item gb call = some (.ok (nb, s', acc))) :
    (∀ j, j ≠ s.findAcquiredBufferLocked kUnusedId →
      s'.mMemoryBuffer.getD j .empty = s.mMemoryBuffer.getD j .empty) ∧
    ((s.mMemoryBuffer.getD (s.findAcquiredBufferLocked kUnusedId) .empty).size = 0 →
      (s'.mMemoryBuffer.getD (s.findAcquiredBufferLocked kUnusedId) .empty).size ≠ 0 →
      (s'.mMemoryBuffer.getD (s.findAcquiredBufferLocked kUnusedId) .empty).array = nb.data ∧
        nb.data ≠ kUnusedId) := by
  obtain ⟨p, ff, rfl, ⟨rfl, -⟩ | ⟨-, hf⟩⟩ := lockBufferItem_ok h
  · exact ⟨fun _ _ => rfl, fun h0 hne => absurd h0 hne⟩
  · rcases lockFlexYuv_cases hf with ⟨-, rfl, -⟩ | ⟨-, ops, _, -, rfl, rfl, rfl, -⟩
    · exact ⟨fun _ _ => rfl, fun h0 hne => absurd h0 hne⟩
    · simp only [setMemory_mMemoryBuffer, getD_set, initEgl_getD, ofPlanes_data]
      refine ⟨fun j hj => if_neg fun hc => hj hc.1.symm, fun h0 hne => ?_⟩
      split_ifs at hne ⊢
      · rw [convertedBuffer_size] at hne
        rw [convertedBuffer_array, resize_array_of_ne _ _ (by rw [h0]; exact hne)]
        exact ⟨rfl, call.block_ne_null⟩
      · exact absurd h0 hne

/-- The address a successful `lockBufferItem` hands out, when the first unused entry's
conversion buffer is empty and the image is not: gralloc's mapping, the flexible-YUV luma
plane, or the new storage of the conversion buffer. -/
lemma lockBufferItem_data
    (h0 : (s.mMemoryBuffer.getD (s.findAcquiredBufferLocked kUnusedId) .empty).size = 0)
    (hw : 0 < gb.width) (hh : 0 < gb.height)
    (h : s.lockBufferItem item gb call = some (.ok (nb, s', acc))) :
    (call.lockAsyncStatus = .ok ∧ nb.data = call.bufferPointer) ∨
      (call.ycbcr.y ≠ 0 ∧ nb.data = call.ycbcr.y) ∨ nb.data = call.block := by
  obtain ⟨p, ff, rfl, ⟨-, -, hs, rfl⟩ | ⟨hy, hf⟩⟩ := lockBufferItem_ok h
  · exact .inl ⟨hs, rfl⟩
  · rcases lockFlexYuv_cases hf with ⟨-, -, rfl, -⟩ | ⟨-, ops, _, -, rfl, -, rfl, -⟩
    · exact .inr (.inl ⟨hy, rfl⟩)
    · have hwh : 0 < gb.width * gb.height := Nat.mul_pos hw hh
      rw [ofPlanes_data, convertedBuffer_array, initEgl_getD,
        resize_array_of_ne _ _ (by rw [h0]; omega)]
      exact .inr (.inr rfl)

/-- A lock indexes only after the counter check passed, and indexes the table and
`mMemoryBuffer` at the first unused entry only: the table with its size, `mMemoryBuffer` with
the size `initEgl` left it. -/
lemma lockNextBuffer_accesses {r : Result} (h : s.lockNextBuffer call = some r) :
    ∀ a ∈ r.accesses, s.mCurrentLockedBuffers ≠ s.mMaxLockedBuffers ∧
      (a.region = .acquiredBuffers →
        a.index = s.findAcquiredBufferLocked kUnusedId ∧ a.size = s.mMaxLockedBuffers.toNat) ∧
      (a.region = .memoryBuffer → a.index = s.findAcquiredBufferLocked kUnusedId ∧
        a.size = ((s.recordAcquire call).initEgl call.graphicBuffer.width call.graphicBuffer.height
          call.eglIsPowervr).2.mMemoryBuffer.length) := by
  rcases lockNextBuffer_cases h with ⟨-, -, -, hr⟩ | ⟨-, -, -, hr, -⟩ | ⟨nb, s₂, acc, hne, hl, rfl⟩
  · simp [hr]
  · simp [hr]
  intro a ha
  refine ⟨hne, ?_⟩
  rcases List.mem_append.1 ha with ha | ha
  · obtain ⟨hreg, hmb⟩ := lockBufferItem_accesses hl a ha
    exact ⟨fun h => absurd h hreg, hmb⟩
  · obtain rfl := List.mem_singleton.1 ha
    exact ⟨fun _ => ⟨by rw [lockBufferItem_findAcquiredBufferLocked hl]; rfl,
      congrArg UInt64.toNat (lockBufferItem_frame hl).2.1⟩, fun h => nomatch h⟩

/-- A lock acquires a buffer, whose slot it then holds, exactly when the caller gave a buffer,
the counter allowed a lock and `acquireBufferLocked` succeeded; otherwise it is refused and
changes nothing. -/
lemma lockNextBuffer_acquired {r : Result} (h : s.lockNextBuffer call = some r) :
    (call.nativeBuffer = true ∧ s.mCurrentLockedBuffers ≠ s.mMaxLockedBuffers ∧ call.acquireStatus = .ok ∧
      r.state.heldSlots = s.heldSlots ++ [(call.acquired.mSlot, call.graphicBuffer)]) ∨
    (r.status ≠ .ok ∧ r.state = s ∧
      ¬ (call.nativeBuffer = true ∧ s.mCurrentLockedBuffers ≠ s.mMaxLockedBuffers ∧ call.acquireStatus = .ok)) := by
  unfold lockNextBuffer at h
  split_ifs at h with h1 h2 h3 h4
  · cases h; exact .inr ⟨Status.badValue_ne_ok, rfl, by simp_all⟩
  · cases h; exact .inr ⟨Status.notEnoughData_ne_ok, rfl, by simp_all⟩
  · cases h; exact .inr ⟨Status.badValue_ne_ok, rfl, by simp_all⟩
  · cases h; exact .inr ⟨h3, rfl, by simp_all⟩
  refine .inl ⟨by simpa using h1, h2, not_not.1 h3, ?_⟩
  dsimp only at h
  split at h
  · cases h
  · cases h; rfl
  · cases h; exact (lockBufferItem_frame ‹_›).2.2.2

lemma initEgl_ok_iff {w h : Nat} {p : Bool} :
    (s.initEgl w h p).1 = .ok ↔ s.mIsInited = true ∨ p = true := by
  unfold initEgl; split_ifs <;> simp_all

lemma convertRGB32ToPlanar_eq_none_iff {ds dvs width height ss : Nat} {src : Nat → UInt8} {bgr : Bool} :
    convertRGB32ToPlanar ds dvs src width height ss bgr = none ↔ ¬ (width % 2 = 0 ∧ height % 2 = 0) := by
  unfold convertRGB32ToPlanar; split_ifs with h <;> simp [h]

lemma lockFlexYuv_eq_none_iff :
    s.lockFlexYuv gb ycbcr call = none ↔
      (s.initEgl gb.width gb.height call.eglIsPowervr).1 = .ok ∧ ¬ (gb.width % 2 = 0 ∧ gb.height % 2 = 0) := by
  unfold lockFlexYuv
  dsimp only
  split_ifs with hs
  · rw [← @convertRGB32ToPlanar_eq_none_iff (toUInt32Cast ycbcr.ystride) (toUInt32Cast ycbcr.cstride)
      gb.width gb.height (gb.width * 4) call.pixels false]
    split <;> simp_all
  · simp [hs]

lemma lockBufferItem_eq_none_iff :
    s.lockBufferItem item gb call = none ↔
      ∃ ycbcr flexFormat, lockYCbCrAttempt gb.format call = .ok (ycbcr, flexFormat) ∧ ycbcr.y ≠ 0 ∧
        s.lockFlexYuv gb ycbcr call = none := by
  unfold lockBufferItem
  split
  · simp_all
  · split_ifs with hy
    · simp_all
    · split <;> simp_all

/-- The process dies in `lockNextBuffer` exactly at the converter's `CHECK`s: for a buffer it
locks as flexible YUV and converts on the GPU, when the width or the height is odd. -/
lemma lockNextBuffer_eq_none_iff :
    s.lockNextBuffer call = none ↔
      call.nativeBuffer = true ∧ s.mCurrentLockedBuffers ≠ s.mMaxLockedBuffers ∧ call.acquireStatus = .ok ∧
      (∃ ycbcr flexFormat, lockYCbCrAttempt call.graphicBuffer.format call = .ok (ycbcr, flexFormat) ∧
        ycbcr.y ≠ 0) ∧
      (s.mIsInited = true ∨ call.eglIsPowervr = true) ∧
      ¬ (call.graphicBuffer.width % 2 = 0 ∧ call.graphicBuffer.height % 2 = 0) := by
  unfold lockNextBuffer
  split_ifs with h1 h2 h3
  · simp_all
  · simp_all
  · simp_all
  · dsimp only
    split <;> rename_i hb
    · obtain ⟨ycbcr, flex, hy, hy0, hf⟩ := lockBufferItem_eq_none_iff.1 hb
      obtain ⟨hok, hodd⟩ := lockFlexYuv_eq_none_iff.1 hf
      simp only [Bool.not_eq_true', Bool.not_eq_false] at h1
      exact iff_of_true rfl ⟨h1, h2, not_not.1 h3, ⟨ycbcr, flex, hy, hy0⟩,
        by simpa using initEgl_ok_iff.1 hok, hodd⟩
    all_goals
      refine iff_of_false (fun h => nomatch h) ?_
      rintro ⟨-, -, -, ⟨ycbcr, flex, hy, hy0⟩, hegl, hodd⟩
      have : (s.recordAcquire call).lockBufferItem call.acquired call.graphicBuffer call = none :=
        lockBufferItem_eq_none_iff.2 ⟨ycbcr, flex, hy, hy0,
        lockFlexYuv_eq_none_iff.2 ⟨initEgl_ok_iff.2 (by simpa using hegl), hodd⟩⟩
      simp_all

end CpuConsumer

section Samples

open CpuConsumer

/-- A lock of a `width × height` buffer of format `format` with row stride `width`, acquired
in slot 0: gralloc answers `lockAsyncYCbCr` with `ycbcr` and `lockAsync` with `lockStatus` and
address 64, the EGL driver is `powervr` or not, the GPU reads back `pixels`, and a conversion
buffer that moves goes to address 4096. -/
def sampleLock (format : PixelFormat) (width height : Nat) (ycbcr : AndroidYcbcr)
    (lockStatus : Status) (powervr : Bool) (pixels : Nat → UInt8) : LockCall where
  nativeBuffer := true
  acquireStatus := .ok
  acquired := ⟨none, 0, ⟨0, 0, width, height⟩, 0, 0, 0, 0, 0⟩
  slotBuffer := ⟨1, width, height, width, format⟩
  lockYCbCrStatus := .ok
  ycbcr := ycbcr
  lockAsyncStatus := lockStatus
  bufferPointer := 64
  eglIsPowervr := powervr
  pixels := pixels
  block := 4096
  block_ne_null := by decide

/-- A 2×2 RGBA buffer that `lockAsync` maps at address 64. -/
def rgbaLock : LockCall := sampleLock .rgba8888 2 2 default .ok false fun _ => 0

def rgbaLocked : Result :=
  ((create 1).lockNextBuffer rgbaLock).getD ⟨.badValue, none, create 1, []⟩

/-- The buffer `rgbaLock` hands out. -/
def rgbaBuffer : LockedBuffer :=
  ⟨64, 2, 2, .rgba8888, 2, ⟨0, 0, 2, 2⟩, 0, 0, 0, 0, 0, .rgba8888, 0, 0, 0, 0⟩

/-- A 2×2 RGBA buffer that gralloc fails to map. -/
def unmappableLock : LockCall := sampleLock .rgba8888 2 2 default (.other (-22)) false fun _ => 0

/-- A 2×2 flexible-YUV buffer that a `powervr` device converts on the GPU. -/
def convertedLock : LockCall :=
  sampleLock .ycbcr420888 2 2 ⟨64, 68, 69, 2, 2, 2⟩ .ok true fun _ => 0

/-- Both error exits change the state, from states a consumer with one entry reaches. A lock
whose `lockAsync` fails keeps the slot it acquired. After a lock of a buffer converted on the
GPU, an unlock whose `unlockAsync` fails returns the error with the buffer still locked, but
its 6-byte conversion buffer emptied. -/
theorem failed_calls_change_state :
    (∃ r, (create 1).lockNextBuffer unmappableLock = some r ∧ r.status = .other (-22) ∧
      (create 1).heldSlots = [] ∧ r.state.heldSlots = [(0, unmappableLock.graphicBuffer)]) ∧
    (∃ r₁ lb, (create 1).lockNextBuffer convertedLock = some r₁ ∧ r₁.buffer = some lb ∧
      ∃ r₂, r₁.state.unlockBuffer lb ⟨.other (-1)⟩ = some r₂ ∧ r₂.status = .other (-1) ∧
        r₂.state.mAcquiredBuffers = r₁.state.mAcquiredBuffers ∧
        (r₁.state.mMemoryBuffer.getD 0 .empty).size = 6 ∧
        (r₂.state.mMemoryBuffer.getD 0 .empty).size = 0) :=
  ⟨⟨_, rfl, rfl, rfl, rfl⟩, ⟨_, _, rfl, rfl, _, rfl, rfl, rfl, rfl, rfl⟩⟩

end Samples

/-! ## Runs -/

/-- A call of the consumer, with the outside world's answers. -/
inductive Call
  | lock (call : LockCall)
  | unlock (buffer : LockedBuffer) (call : UnlockCall)

/-- One call from `s` that returned `r`. A lock is made under the assumption `ok` on what the
outside world answers. -/
inductive Step (ok : CpuConsumer → LockCall → Prop) : CpuConsumer → Call → Result → Prop
  | lock {s : CpuConsumer} {call : LockCall} {r : Result} :
      ok s call → s.lockNextBuffer call = some r → Step ok s (.lock call) r
  | unlock {s : CpuConsumer} {buffer : LockedBuffer} {call : UnlockCall} {r : Result} :
      s.unlockBuffer buffer call = some r → Step ok s (.unlock buffer call) r

/-- Calls made one after another from `s`, each returning; the trace records each call with
its result. -/
inductive Run (ok : CpuConsumer → LockCall → Prop) :
    CpuConsumer → List (Call × Result) → CpuConsumer → Prop
  | nil (s : CpuConsumer) : Run ok s [] s
  | cons {s : CpuConsumer} {call : Call} {r : Result} {trace : List (Call × Result)}
      {s' : CpuConsumer} : Step ok s call r → Run ok r.state trace s' → Run ok s ((call, r) :: trace) s'

/-- The states a consumer made with `N` entries reaches, by any calls under `ok`. -/
def Reachable (ok : CpuConsumer → LockCall → Prop) (N : UInt64) (s : CpuConsumer) : Prop :=
  ∃ trace, Run ok (CpuConsumer.create N) trace s

/-- No assumption on the outside world. -/
def anyWorld : CpuConsumer → LockCall → Prop := fun _ _ => True

section Runs

variable {ok : CpuConsumer → LockCall → Prop}

/-- What every step keeps holds all along a run. -/
theorem Run.preserves {P : CpuConsumer → Prop} (hP : ∀ s call r, P s → Step ok s call r → P r.state)
    {s s' : CpuConsumer} {trace : List (Call × Result)} (h : Run ok s trace s') (hs : P s) : P s' := by
  induction h with
  | nil => exact hs
  | cons hstep _ ih => exact ih (hP _ _ _ hs hstep)

/-- An invariant of the constructor and of every step holds in every reachable state. -/
theorem Reachable.induction {P : CpuConsumer → Prop} {N : UInt64} (h0 : P (CpuConsumer.create N))
    (hP : ∀ s call r, P s → Step ok s call r → P r.state) {s : CpuConsumer}
    (h : Reachable ok N s) : P s :=
  let ⟨_, hrun⟩ := h
  hrun.preserves hP h0

theorem Run.snoc {s s' : CpuConsumer} {trace : List (Call × Result)} {call : Call} {r : Result}
    (h : Run ok s trace s') (hstep : Step ok s' call r) : Run ok s (trace ++ [(call, r)]) r.state := by
  induction h with
  | nil => exact .cons hstep (.nil _)
  | cons h₁ _ ih => exact .cons h₁ (ih hstep)

theorem Run.append {s s' s'' : CpuConsumer} {t₁ t₂ : List (Call × Result)}
    (h₁ : Run ok s t₁ s') (h₂ : Run ok s' t₂ s'') : Run ok s (t₁ ++ t₂) s'' := by
  induction h₁ with
  | nil => exact h₂
  | cons hstep _ ih => exact .cons hstep (ih h₂)

theorem Reachable.run {N : UInt64} {s s' : CpuConsumer} {trace : List (Call × Result)}
    (h : Reachable ok N s) (hrun : Run ok s trace s') : Reachable ok N s' :=
  let ⟨t, ht⟩ := h
  ⟨t ++ trace, ht.append hrun⟩

theorem Reachable.step {N : UInt64} {s : CpuConsumer} {call : Call} {r : Result}
    (h : Reachable ok N s) (hstep : Step ok s call r) : Reachable ok N r.state :=
  let ⟨trace, hrun⟩ := h
  ⟨trace ++ [(call, r)], hrun.snoc hstep⟩

theorem Run.mono {ok' : CpuConsumer → LockCall → Prop} (hle : ∀ s c, ok s c → ok' s c)
    {s s' : CpuConsumer} {trace : List (Call × Result)} (h : Run ok s trace s') :
    Run ok' s trace s' := by
  induction h with
  | nil => exact .nil _
  | cons hstep _ ih =>
    refine .cons ?_ ih
    cases hstep with
    | lock hok hl => exact .lock (hle _ _ hok) hl
    | unlock hu => exact .unlock hu

theorem Reachable.mono {ok' : CpuConsumer → LockCall → Prop} (hle : ∀ s c, ok s c → ok' s c)
    {N : UInt64} {s : CpuConsumer} (h : Reachable ok N s) : Reachable ok' N s :=
  let ⟨trace, hrun⟩ := h
  ⟨trace, hrun.mono hle⟩

end Runs

end FrameworksNative
