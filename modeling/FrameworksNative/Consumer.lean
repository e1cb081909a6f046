import FrameworksNative.Convert

/-!
# The CPU consumer

`CpuConsumer` locks buffers acquired from a buffer queue for reading by the CPU. Its table
`mAcquiredBuffers` has one entry per buffer that may be locked at a time; an entry is in use
while its `mLockedBufferId`, the data pointer handed to the client, is not `kUnusedId`. A
buffer gralloc can lock as flexible YUV is, on an EGL device, drawn by the GPU into the RGBA
scratch buffer `mShmData` and converted into the entry's own byte vector in `mMemoryBuffer`.

The outside world (buffer queue, gralloc, EGL, GL, allocator) is modelled by what it returns,
given with each call. A call returns `none` when the process dies in it; each call also
records the indexed accesses it makes, so that their bounds can be stated.
-/

namespace FrameworksNative

/-- The consumer's state. `heldSlots` is ghost state: the buffer-queue slots acquired through
`acquireBufferLocked` and not yet given back through `releaseBufferLocked`, with their buffers.
`size_t` is 64 bits wide. -/
structure CpuConsumer where
  mMaxLockedBuffers : UInt64
  mCurrentLockedBuffers : UInt64
  mAcquiredBuffers : List AcquiredBuffer
  mIsInited : Bool
  mShmData : Option Nat
  mMemoryBuffer : List ByteVector
  heldSlots : List (Int × GraphicBuffer)
  acquired_length : mAcquiredBuffers.length = mMaxLockedBuffers.toNat
  memory_length : mMemoryBuffer.length = if mIsInited then mMaxLockedBuffers.toNat else 0

namespace CpuConsumer

/-- The constructor: `maxLockedBuffers` unused entries, nothing locked, EGL not set up. -/
def create (maxLockedBuffers : UInt64) : CpuConsumer where
  mMaxLockedBuffers := maxLockedBuffers
  mCurrentLockedBuffers := 0
  mAcquiredBuffers := List.replicate maxLockedBuffers.toNat .unused
  mIsInited := false
  mShmData := none
  mMemoryBuffer := []
  heldSlots := []
  acquired_length := List.length_replicate _ _
  memory_length := rfl

/-- Entry `i` of the table replaced by `ab`. -/
def setEntry (s : CpuConsumer) (i : Nat) (ab : AcquiredBuffer) : CpuConsumer :=
  { s with
    mAcquiredBuffers := s.mAcquiredBuffers.set i ab
    acquired_length := by rw [List.length_set, s.acquired_length] }

/-- Conversion buffer `i` replaced by `mb`. -/
def setMemory (s : CpuConsumer) (i : Nat) (mb : ByteVector) : CpuConsumer :=
  { s with
    mMemoryBuffer := s.mMemoryBuffer.set i mb
    memory_length := by rw [List.length_set, s.memory_length] }

/-- `initEgl`: a no-op once done, `INVALID_OPERATION` unless the EGL driver is `powervr`;
otherwise it allocates `mShmData` for a `width × height` RGBA image, if not yet allocated,
and one empty conversion buffer per table entry. The EGL and GL objects are not modelled. -/
def initEgl (s : CpuConsumer) (width height : Nat) (eglIsPowervr : Bool) : Status × CpuConsumer :=
  if h : s.mIsInited then (.ok, s)
  else if !eglIsPowervr then (.invalidOperation, s)
  else (.ok,
    { s with
      mShmData := some (s.mShmData.getD (width * height * 4))
      mMemoryBuffer := List.replicate s.mMaxLockedBuffers.toNat .empty ++ s.mMemoryBuffer
      mIsInited := true
      memory_length := by simp [s.memory_length, h] })

/-- `closeEgl`, which the destructor calls: once EGL is set up it deletes `mShmData` when that
is not null, then destroys the GL program and the EGL objects (not modelled). The block it
deletes, or `none`. -/
def closeEgl (s : CpuConsumer) : Option Nat :=
  if s.mIsInited then s.mShmData else none

/-- `findAcquiredBufferLocked`: the first entry whose id is `id`, or `mMaxLockedBuffers`
(the table's length) when there is none. -/
def findAcquiredBufferLocked (s : CpuConsumer) (id : Nat) : Nat :=
  s.mAcquiredBuffers.findIdx (·.mLockedBufferId == id)

end CpuConsumer

/-- What the outside world answers during one `lockNextBuffer` call. -/
structure LockCall where
  /-- The caller passed a non-null `LockedBuffer*`. -/
  nativeBuffer : Bool
  acquireStatus : Status
  acquired : BufferItem
  /-- `mSlots[b.mSlot].mGraphicBuffer`, which the consumer base keeps for acquired slots. -/
  slotBuffer : GraphicBuffer
  lockYCbCrStatus : Status
  ycbcr : AndroidYcbcr
  lockAsyncStatus : Status
  bufferPointer : Nat
  /-- `ro.hardware.egl` reads `powervr`. -/
  eglIsPowervr : Bool
  /-- The RGBA bytes `glReadPixels` leaves in `mShmData`. -/
  pixels : Nat → UInt8
  /-- Where the allocator puts a conversion buffer that `resize` moves. -/
  block : Nat
  block_ne_null : block ≠ 0

/-- What the outside world answers during one `unlockBuffer` call. -/
structure UnlockCall where
  unlockAsyncStatus : Status

/-- What a call returns, the state it leaves and the indexed accesses it made. -/
structure Result where
  status : Status
  buffer : Option LockedBuffer
  state : CpuConsumer
  accesses : List Access

/-- The image fields of a `LockedBuffer`: where its planes are and how they are laid out. -/
structure Planes where
  data : Nat
  stride : Nat
  dataCb : Nat
  dataCr : Nat
  chromaStride : Nat
  chromaStep : Nat

/-- `static_cast<uint32_t>` of a `size_t`. -/
def toUInt32Cast (n : Nat) : Nat := n % 2 ^ 32

/-- The buffer `lockNextBuffer` works on: the item's, or the slot's when the item has none. -/
def LockCall.graphicBuffer (call : LockCall) : GraphicBuffer :=
  call.acquired.mGraphicBuffer.getD call.slotBuffer

/-- The `LockedBuffer` filled by `lockBufferItem` from the planes it found. -/
def LockedBuffer.ofPlanes (p : Planes) (item : BufferItem) (gb : GraphicBuffer)
    (flexFormat : PixelFormat) : LockedBuffer :=
  ⟨p.data, gb.width, gb.height, gb.format, p.stride, item.mCrop, item.mTransform,
    item.mScalingMode, item.mTimestamp, item.mDataSpace, item.mFrameNumber, flexFormat,
    p.dataCb, p.dataCr, p.chromaStride, p.chromaStep⟩

/-- The first block of `lockBufferItem`: a buffer that may be YUV is locked as flexible YUV.
It gives the layout gralloc left in `ycbcr` and the format to report, or the error returned
for a `YCbCr_420_888` buffer gralloc could not lock that way. -/
def lockYCbCrAttempt (format : PixelFormat) (call : LockCall) :
    Except Status (AndroidYcbcr × PixelFormat) :=
  if isPossiblyYUV format then
    if call.lockYCbCrStatus = .ok then .ok (call.ycbcr, .ycbcr420888)
    else if format = .ycbcr420888 then .error call.lockYCbCrStatus
    else .ok (call.ycbcr, format)
  else .ok (default, format)

/-- The `lockAsync` branch of `lockBufferItem`: one plane at the mapped address. -/
def lockPlain (gb : GraphicBuffer) (call : LockCall) : Except Status Planes :=
  if call.lockAsyncStatus ≠ .ok then .error call.lockAsyncStatus
  else .ok ⟨call.bufferPointer, gb.stride, 0, 0, 0, 0⟩

/-- The accesses of the converter: loads from `mShmData`, stores into the conversion buffer. -/
def converterAccess (shmSize mbSize : Nat) : MemoryOp → Access
  | .load o => ⟨.shmData, o, shmSize⟩
  | .store o _ => ⟨.conversion, o, mbSize⟩

namespace CpuConsumer

/-- The conversion buffer the flexible-YUV branch leaves: `old` resized to `n` bytes, the
storage moved to `block` if the size changed, then written by the converter's stores. -/
def convertedBuffer (old : ByteVector) (n block : Nat) (ops : List MemoryOp) : ByteVector :=
  let mb := old.resize n block
  { mb with bytes := applyStores mb.bytes ops }

/-- The flexible-YUV branch of `lockBufferItem` (`ycbcr.y` non-null). It initialises EGL and
takes the conversion buffer `mb` of the first unused entry. When EGL is up it reads the
drawn buffer back, resizes `mb` to `width * height * 3 / 2` bytes and converts into it; the
planes then describe `mb`. Otherwise they are gralloc's. `none` when the converter aborts. -/
def lockFlexYuv (s : CpuConsumer) (gb : GraphicBuffer) (ycbcr : AndroidYcbcr) (call : LockCall) :
    Option (Planes × CpuConsumer × List Access) :=
  let width := gb.width
  let height := gb.height
  let status := (s.initEgl width height call.eglIsPowervr).1
  let s₁ := (s.initEgl width height call.eglIsPowervr).2
  let lockedIdx := s₁.findAcquiredBufferLocked kUnusedId
  let editMb : Access := ⟨.memoryBuffer, lockedIdx, s₁.mMemoryBuffer.length⟩
  if status = .ok then
    match convertRGB32ToPlanar (toUInt32Cast ycbcr.ystride) (toUInt32Cast ycbcr.cstride)
        call.pixels width height (width * 4) false with
    | none => none
    | some ops =>
      let mb := convertedBuffer (s₁.mMemoryBuffer.getD lockedIdx .empty) (width * height * 3 / 2)
        call.block ops
      let stride := gb.stride
      some (⟨mb.array, toUInt32Cast ycbcr.ystride, mb.array + stride * height,
          mb.array + stride * height + 1, toUInt32Cast ycbcr.cstride,
          toUInt32Cast ycbcr.chromaStep⟩,
        s₁.setMemory lockedIdx mb,
        editMb :: ops.map (converterAccess (s₁.mShmData.getD 0) mb.size))
  else
    some (⟨ycbcr.y, toUInt32Cast ycbcr.ystride, ycbcr.cb, ycbcr.cr, toUInt32Cast ycbcr.cstride,
      toUInt32Cast ycbcr.chromaStep⟩, s₁, [editMb])

/-- `lockBufferItem`, for the item's buffer `gb`: on success the filled `LockedBuffer`, the
state and the accesses; its errors change nothing. `none` when the converter aborts. -/
def lockBufferItem (s : CpuConsumer) (item : BufferItem) (gb : GraphicBuffer) (call : LockCall) :
    Option (Except Status (LockedBuffer × CpuConsumer × List Access)) :=
  match lockYCbCrAttempt gb.format call with
  | .error err => some (.error err)
  | .ok (ycbcr, flexFormat) =>
    if ycbcr.y ≠ 0 then
      (s.lockFlexYuv gb ycbcr call).map fun r =>
        .ok (LockedBuffer.ofPlanes r.1 item gb flexFormat, r.2.1, r.2.2)
    else
      match lockPlain gb call with
      | .error err => some (.error err)
      | .ok p => some (.ok (LockedBuffer.ofPlanes p item gb flexFormat, s, []))

/-- The acquire's ghost effect: the slot is now held, with the buffer the consumer uses. -/
def recordAcquire (s : CpuConsumer) (call : LockCall) : CpuConsumer :=
  { s with heldSlots := s.heldSlots ++ [(call.acquired.mSlot, call.graphicBuffer)] }

/-- Entry `i` records a locked buffer, and the counter counts it. -/
def lockEntry (s : CpuConsumer) (i : Nat) (ab : AcquiredBuffer) : CpuConsumer :=
  { s.setEntry i ab with mCurrentLockedBuffers := s.mCurrentLockedBuffers + 1 }

/-- `lockNextBuffer`: refuse when the caller gave no buffer or the table is full, acquire the
next buffer, lock it, and record it in the first unused entry, keyed by its data pointer. -/
def lockNextBuffer (s : CpuConsumer) (call : LockCall) : Option Result :=
  if !call.nativeBuffer then some ⟨.badValue, none, s, []⟩
  else if s.mCurrentLockedBuffers = s.mMaxLockedBuffers then some ⟨.notEnoughData, none, s, []⟩
  else if call.acquireStatus ≠ .ok then
    some ⟨if call.acquireStatus = .noBufferAvailable then .badValue else call.acquireStatus,
      none, s, []⟩
  else
    let b := call.acquired
    let gb := call.graphicBuffer
    let s₁ := s.recordAcquire call
    match s₁.lockBufferItem b gb call with
    | none => none
    | some (.error err) => some ⟨err, none, s₁, []⟩
    | some (.ok (nb, s₂, acc)) =>
      let lockedIdx := s₂.findAcquiredBufferLocked kUnusedId
      some ⟨.ok, some nb, s₂.lockEntry lockedIdx ⟨b.mSlot, some gb, getLockedBufferId nb⟩,
        acc ++ [⟨.acquiredBuffers, lockedIdx, s₂.mMaxLockedBuffers.toNat⟩]⟩

/-- The `mIsInited` block of `unlockBuffer`: entry `i`'s conversion buffer is cleared when the
locked id is its address. -/
def releaseConverted (s : CpuConsumer) (i id : Nat) : CpuConsumer :=
  if s.mIsInited then
    let mb := s.mMemoryBuffer.getD i .empty
    if id = mb.array then s.setMemory i mb.clear else s
  else s

/-- Entry `i` freed after its buffer `(slot, gb)` went back to the queue; the counter drops. -/
def freeEntry (s : CpuConsumer) (i : Nat) (slot : Int) (gb : GraphicBuffer) : CpuConsumer :=
  { s.setEntry i .unused with
    heldSlots := s.heldSlots.erase (slot, gb)
    mCurrentLockedBuffers := s.mCurrentLockedBuffers - 1 }

/-- `unlockBuffer`: find the entry by the buffer's data pointer, clear its conversion buffer,
unlock the graphic buffer, release the slot to the queue and free the entry. The process dies
if the entry has no graphic buffer. -/
def unlockBuffer (s : CpuConsumer) (nativeBuffer : LockedBuffer) (call : UnlockCall) :
    Option Result :=
  let id := getLockedBufferId nativeBuffer
  let lockedIdx := if id ≠ kUnusedId then s.findAcquiredBufferLocked id else s.mMaxLockedBuffers.toNat
  if lockedIdx = s.mMaxLockedBuffers.toNat then some ⟨.badValue, none, s, []⟩
  else
    let ab := s.mAcquiredBuffers.getD lockedIdx .unused
    let s₁ := s.releaseConverted lockedIdx ab.mLockedBufferId
    let acc : List Access := ⟨.acquiredBuffers, lockedIdx, s.mMaxLockedBuffers.toNat⟩ ::
      if s.mIsInited then [⟨.memoryBuffer, lockedIdx, s.mMemoryBuffer.length⟩] else []
    match ab.mGraphicBuffer with
    | none => none
    | some gb =>
      if call.unlockAsyncStatus ≠ .ok then some ⟨call.unlockAsyncStatus, none, s₁, acc⟩
      else some ⟨.ok, none, s₁.freeEntry lockedIdx ab.mSlot gb, acc⟩

end CpuConsumer

end FrameworksNative
