import Mathlib.Data.List.Basic

/-!
# Buffers of the CPU consumer

The values `CpuConsumer.cpp` passes around: `status_t` codes, pixel formats, graphic buffers,
buffer-queue items, the flexible YUV layout gralloc reports, the `LockedBuffer` handed to the
client, the `AcquiredBuffer` entries of the locked-buffer table and the byte vectors that hold
converted images. Addresses are natural numbers, with `0` the null pointer.
-/

namespace FrameworksNative

/-- `status_t`, an `int32_t`. The named codes are the constants of `Errors.h` the consumer uses;
`other c` is the code `c`, so a named code and `other` of its value are one status. -/
structure Status where
  code : Int
  deriving DecidableEq, Repr

namespace Status

def ok : Status := ⟨0⟩
def badValue : Status := ⟨-22⟩
def invalidOperation : Status := ⟨-38⟩
def notEnoughData : Status := ⟨-61⟩
def noBufferAvailable : Status := ⟨2⟩
def other (code : Int) : Status := ⟨code⟩

@[simp] lemma badValue_ne_ok : badValue ≠ ok := by decide
@[simp] lemma invalidOperation_ne_ok : invalidOperation ≠ ok := by decide
@[simp] lemma notEnoughData_ne_ok : notEnoughData ≠ ok := by decide
@[simp] lemma noBufferAvailable_ne_ok : noBufferAvailable ≠ ok := by decide

end Status

/-- `android::PixelFormat`, an `int32_t`. The named formats are the `HAL_PIXEL_FORMAT_*` values
the consumer tests for. -/
structure PixelFormat where
  value : Int
  deriving DecidableEq, Repr

namespace PixelFormat

def rgba8888 : PixelFormat := ⟨0x1⟩
def rgbx8888 : PixelFormat := ⟨0x2⟩
def rgb888 : PixelFormat := ⟨0x3⟩
def rgb565 : PixelFormat := ⟨0x4⟩
def bgra8888 : PixelFormat := ⟨0x5⟩
def rgbaFp16 : PixelFormat := ⟨0x16⟩
def raw16 : PixelFormat := ⟨0x20⟩
def blob : PixelFormat := ⟨0x21⟩
def implementationDefined : PixelFormat := ⟨0x22⟩
def ycbcr420888 : PixelFormat := ⟨0x23⟩
def rawOpaque : PixelFormat := ⟨0x24⟩
def raw10 : PixelFormat := ⟨0x25⟩
def rgba1010102 : PixelFormat := ⟨0x2B⟩
def y8 : PixelFormat := ⟨0x20203859⟩
def y16 : PixelFormat := ⟨0x20363159⟩

end PixelFormat

/-- `isPossiblyYUV`: every format but the RGB, raw and blob ones of its `switch`. The YUV cases
of the `switch` return `true` with `default`. -/
def isPossiblyYUV (format : PixelFormat) : Bool :=
  decide (format ∉ [.rgba8888, .rgbx8888, .rgbaFp16, .rgba1010102, .rgb888, .rgb565, .bgra8888,
    .y8, .y16, .raw16, .raw10, .rawOpaque, .blob, .implementationDefined])

/-- A graphic buffer as the consumer sees it: an identity and what its getters report. -/
structure GraphicBuffer where
  handle : Nat
  width : Nat
  height : Nat
  stride : Nat
  format : PixelFormat
  deriving DecidableEq, Repr

structure Rect where
  left : Int
  top : Int
  right : Int
  bottom : Int
  deriving DecidableEq, Repr

/-- The fields of a `BufferItem` the consumer reads. -/
structure BufferItem where
  mGraphicBuffer : Option GraphicBuffer
  mSlot : Int
  mCrop : Rect
  mTransform : Nat
  mScalingMode : Nat
  mTimestamp : Int
  mDataSpace : Int
  mFrameNumber : Nat
  deriving DecidableEq, Repr

/-- `android_ycbcr`: plane addresses and strides; `android_ycbcr()` is all zeros. -/
structure AndroidYcbcr where
  y : Nat
  cb : Nat
  cr : Nat
  ystride : Nat
  cstride : Nat
  chromaStep : Nat
  deriving DecidableEq, Repr, Inhabited

/-- `CpuConsumer::LockedBuffer`, the description of a locked image handed to the client. -/
structure LockedBuffer where
  data : Nat
  width : Nat
  height : Nat
  format : PixelFormat
  stride : Nat
  crop : Rect
  transform : Nat
  scalingMode : Nat
  timestamp : Int
  dataSpace : Int
  frameNumber : Nat
  flexFormat : PixelFormat
  dataCb : Nat
  dataCr : Nat
  chromaStride : Nat
  chromaStep : Nat
  deriving DecidableEq, Repr

/-- `AcquiredBuffer::kUnusedId` of `CpuConsumer.h`: the id of a free entry, the null address. -/
def kUnusedId : Nat := 0

/-- `BufferQueue::INVALID_BUFFER_SLOT`. -/
def invalidBufferSlot : Int := -1

/-- An entry of `mAcquiredBuffers`. -/
structure AcquiredBuffer where
  mSlot : Int
  mGraphicBuffer : Option GraphicBuffer
  mLockedBufferId : Nat
  deriving DecidableEq, Repr

/-- A default-constructed entry, and what `AcquiredBuffer::reset` leaves. -/
def AcquiredBuffer.unused : AcquiredBuffer := ⟨invalidBufferSlot, none, kUnusedId⟩

/-- An entry is in use when its id is not `kUnusedId`. -/
def AcquiredBuffer.inUse (ab : AcquiredBuffer) : Bool := ab.mLockedBufferId != kUnusedId

/-- `getLockedBufferId`: a locked buffer is known by its data pointer. -/
def getLockedBufferId (buffer : LockedBuffer) : Nat := buffer.data

@[simp] lemma unused_inUse : AcquiredBuffer.unused.inUse = false := rfl

lemma inUse_iff (ab : AcquiredBuffer) : ab.inUse = true ↔ ab.mLockedBufferId ≠ kUnusedId := by
  simp [AcquiredBuffer.inUse]

lemma not_inUse_iff (ab : AcquiredBuffer) : ab.inUse = false ↔ ab.mLockedBufferId = kUnusedId := by
  simp [AcquiredBuffer.inUse]

/-- A `Vector<uint8_t>`: the address `array()` returns, its size, and its bytes by index. -/
structure ByteVector where
  array : Nat
  size : Nat
  bytes : Nat → UInt8

/-- A default-constructed vector: empty, with no storage. -/
def ByteVector.empty : ByteVector := ⟨0, 0, fun _ => 0⟩

/-- `clear()` empties the vector. The model keeps `array`; Android's `Vector::clear` shrinks the
storage through `editResize`, which may move it. -/
def ByteVector.clear (v : ByteVector) : ByteVector := { v with size := 0 }

/-- `resize(n)`: a change of size may move the storage, to `block`, where the allocator
puts it; the bytes kept are the old ones, the new ones are uninitialised. -/
def ByteVector.resize (v : ByteVector) (n block : Nat) : ByteVector :=
  if n = v.size then v else { v with array := block, size := n }

@[simp] lemma clear_size (v : ByteVector) : v.clear.size = 0 := rfl

lemma clear_eq_self {v : ByteVector} (h : v.size = 0) : v.clear = v := by
  cases v
  simp_all [ByteVector.clear]

@[simp] lemma resize_size (v : ByteVector) (n block : Nat) : (v.resize n block).size = n := by
  unfold ByteVector.resize; split <;> simp_all

@[simp] lemma resize_bytes (v : ByteVector) (n block : Nat) : (v.resize n block).bytes = v.bytes := by
  unfold ByteVector.resize; split <;> rfl

lemma resize_array_of_ne (v : ByteVector) {n : Nat} (block : Nat) (h : n ≠ v.size) :
    (v.resize n block).array = block := by
  simp [ByteVector.resize, h]

/-- The objects a call indexes into: the two tables, `mShmData` and a conversion buffer. -/
inductive Region
  | acquiredBuffers
  | memoryBuffer
  | shmData
  | conversion
  deriving DecidableEq, Repr

/-- One indexed access a call makes, with the size of the object at that moment. -/
structure Access where
  region : Region
  index : Nat
  size : Nat
  deriving DecidableEq, Repr

/-- An access stays inside its object. -/
def Access.InBounds (a : Access) : Prop := a.index < a.size

instance (a : Access) : Decidable a.InBounds := inferInstanceAs (Decidable (a.index < a.size))

end FrameworksNative
