import FrameworksNative.Invariants

/-!
# Indices into the tables and the buffers

Which of the indexed accesses the calls make stay inside their objects. An unlock's always do.
A lock's index into `mMemoryBuffer` does exactly when EGL is set up; on a device whose EGL
driver is not `powervr` the flexible-YUV branch indexes the empty vector. The converter's
stores follow gralloc's luma stride, not the width the conversion buffer is sized for, and its
loads follow the current buffer's size, not the size `mShmData` was allocated for.
-/

namespace FrameworksNative

open CpuConsumer

variable {s : CpuConsumer} {call : LockCall} {nb : LockedBuffer} {ucall : UnlockCall} {r : Result}

/-- Every index an unlock uses, into the table and into `mMemoryBuffer`, is in bounds. -/
theorem unlockBuffer_accesses_inBounds (h : s.unlockBuffer nb ucall = some r) :
    ∀ a ∈ r.accesses, a.InBounds := by
  rcases unlockBuffer_cases h with ⟨-, -, hacc, -⟩ | ⟨slot, gb, -, hfound, -, hacc, -⟩
  · simp [hacc]
  rw [hacc]
  intro a ha
  split_ifs at ha with hinit
  · rcases List.mem_cons.1 ha with rfl | ha
    · exact hfound
    · obtain rfl := List.mem_singleton.1 ha
      show _ < s.mMemoryBuffer.length
      rw [s.memory_length, if_pos hinit]
      exact hfound
  · obtain rfl := List.mem_singleton.1 ha
    exact hfound

theorem unlockBuffer_accesses_inBounds_rgba :
    ∃ r, rgbaLocked.state.unlockBuffer rgbaBuffer ⟨.ok⟩ = some r ∧ ∀ a ∈ r.accesses, a.InBounds :=
  have hu : rgbaLocked.state.unlockBuffer rgbaBuffer ⟨.ok⟩ = _ := rfl
  ⟨_, hu, unlockBuffer_accesses_inBounds hu⟩

/-- From a state whose counter counts the entries in use, the index a lock uses into
`mMemoryBuffer` is in bounds exactly when EGL is set up: before the call, or by it on a
`powervr` driver. -/
theorem lockNextBuffer_memoryBuffer_inBounds (hcnt : CountExact s) (h : s.lockNextBuffer call = some r) :
    ∀ a ∈ r.accesses, a.region = .memoryBuffer →
      (a.InBounds ↔ s.mIsInited = true ∨ call.eglIsPowervr = true) := by
  intro a ha hreg
  obtain ⟨hne, -, hmb⟩ := lockNextBuffer_accesses h a ha
  obtain ⟨hidx, hsize⟩ := hmb hreg
  have hlt := hcnt.findUnused_lt hne
  show a.index < a.size ↔ _
  rw [hidx, hsize, memory_length, initEgl_mIsInited, (initEgl_frame _ _ _).2.1,
    recordAcquire_mIsInited, recordAcquire_mMaxLockedBuffers]
  split_ifs with hi
  · simpa [hlt] using hi
  · simpa using hi

theorem lockNextBuffer_memoryBuffer_inBounds_converted :
    CountExact (create 1) ∧ ∃ r, (create 1).lockNextBuffer convertedLock = some r ∧
      ∀ a ∈ r.accesses, a.region = .memoryBuffer →
        (a.InBounds ↔ (create 1).mIsInited = true ∨ convertedLock.eglIsPowervr = true) :=
  have hl : (create 1).lockNextBuffer convertedLock = _ := rfl
  ⟨countExact_create 1, _, hl, lockNextBuffer_memoryBuffer_inBounds (countExact_create 1) hl⟩

/-- A 2×2 flexible-YUV buffer on a device whose EGL driver is not `powervr`. -/
def nonPowervrLock : LockCall :=
  sampleLock .ycbcr420888 2 2 ⟨64, 68, 69, 2, 2, 2⟩ .ok false fun _ => 0

/-- The first lock of a consumer with one entry, on a device whose EGL driver is not `powervr`,
succeeds through the flexible-YUV branch after indexing the empty `mMemoryBuffer` at 0. -/
theorem memoryBuffer_index_out_of_bounds :
    ∃ r, (create 1).lockNextBuffer nonPowervrLock = some r ∧ r.status = .ok ∧
      (⟨.memoryBuffer, 0, 0⟩ : Access) ∈ r.accesses ∧ ¬ (⟨.memoryBuffer, 0, 0⟩ : Access).InBounds :=
  ⟨_, rfl, rfl, by decide, by decide⟩

/-! ## The converter's footprint -/

section Footprint

variable {src : Nat → UInt8} {bgr : Bool} {width height ds o : Nat} {b : UInt8}

lemma convertRGB32ToPlanar_eq_some {dvs ss : Nat} {ops : List MemoryOp}
    (h : convertRGB32ToPlanar ds dvs src width height ss bgr = some ops) :
    width % 2 = 0 ∧ height % 2 = 0 ∧ ops = convertRows src bgr width ds ss 0 0 0 (ds * height) height := by
  simp only [convertRGB32ToPlanar, surfaceIsBgr32, Bool.false_eq_true, ite_false] at h
  split_ifs at h with he
  exact ⟨he.1, he.2, (Option.some.inj h).symm⟩

lemma store_lt_size {ss : Nat} (hw : width % 2 = 0) (hh : height % 2 = 0) (hd : ds ≤ width)
    (h : MemoryOp.store o b ∈ convertRows src bgr width ds ss 0 0 0 (ds * height) height) :
    o < width * height * 3 / 2 := by
  obtain ⟨y, hy, x, hx, hp⟩ := mem_convertRows_image.1 h
  have hcomm : height * width = width * height := Nat.mul_comm _ _
  rcases store_mem_convertPixel.1 hp with ⟨rfl, -⟩ | ⟨hx2, hy2, ⟨rfl, -⟩ | ⟨rfl, -⟩⟩
  · have h1 : y * ds ≤ y * width := Nat.mul_le_mul_left y hd
    have h2 : (y + 1) * width ≤ height * width := Nat.mul_le_mul_right width hy
    rw [Nat.add_mul, Nat.one_mul] at h2
    omega
  all_goals
    have h1 : ds * height ≤ width * height := Nat.mul_le_mul_right height hd
    have h2 : (y + 1) / 2 * ds ≤ (y + 1) / 2 * width := Nat.mul_le_mul_left _ hd
    have h3 : ((y + 1) / 2 * 2 + 2) * width ≤ height * width :=
      Nat.mul_le_mul_right width (by omega)
    have h4 : ((y + 1) / 2 * 2 + 2) * width = 2 * ((y + 1) / 2 * width) + 2 * width := by ring
    omega

lemma exists_store_ge_size (src : Nat → UInt8) (bgr : Bool) (ss : Nat) (hw : width % 2 = 0)
    (hh : height % 2 = 0) (hw0 : 0 < width) (hh0 : 0 < height) (hd : width < ds) :
    ∃ o b, MemoryOp.store o b ∈ convertRows src bgr width ds ss 0 0 0 (ds * height) height ∧
      width * height * 3 / 2 ≤ o := by
  refine ⟨_, _, mem_convertRows_image.2 ⟨height - 2, by omega, width - 2, by omega,
    store_mem_convertPixel.2 (.inr ⟨by omega, by omega, .inr ⟨rfl, rfl⟩⟩)⟩, ?_⟩
  have h1 : (width + 1) * height ≤ ds * height := Nat.mul_le_mul_right height hd
  have h2 : (height - 2 + 1) / 2 * (width + 1) ≤ (height - 2 + 1) / 2 * ds := Nat.mul_le_mul_left _ hd
  have h3 : ((height - 2 + 1) / 2 * 2 + 2) * width = height * width := by
    rw [show (height - 2 + 1) / 2 * 2 + 2 = height by omega]
  have h4 : ((height - 2 + 1) / 2 * 2 + 2) * width =
      2 * ((height - 2 + 1) / 2 * width) + 2 * width := by ring
  have h5 : (width + 1) * height = width * height + height := by ring
  have h6 : (height - 2 + 1) / 2 * (width + 1) = (height - 2 + 1) / 2 * width + (height - 2 + 1) / 2 := by
    ring
  have hcomm : height * width = width * height := Nat.mul_comm _ _
  omega

lemma load_add_two_le (h : MemoryOp.load o ∈ convertRows src bgr width ds (width * 4) 0 0 0 (ds * height) height) :
    o + 2 ≤ width * height * 4 := by
  obtain ⟨y, hy, x, hx, hp⟩ := mem_convertRows_image.1 h
  have ho := load_mem_convertPixel.1 hp
  have h1 : (y + 1) * (width * 4) ≤ height * (width * 4) := Nat.mul_le_mul_right _ hy
  have h2 : (y + 1) * (width * 4) = y * (width * 4) + width * 4 := by ring
  have h3 : height * (width * 4) = width * height * 4 := by ring
  omega

lemma last_load_mem (hw0 : 0 < width) (hh0 : 0 < height) :
    MemoryOp.load (width * height * 4 - 2) ∈
      convertRows src bgr width ds (width * 4) 0 0 0 (ds * height) height := by
  refine mem_convertRows_image.2 ⟨height - 1, by omega, width - 1, by omega, load_mem_convertPixel.2 ?_⟩
  have h1 : (height - 1) * (width * 4) + width * 4 = width * height * 4 := by
    conv_rhs => rw [← Nat.sub_add_cancel (show 1 ≤ height from hh0)]
    ring
  omega

end Footprint

/-- The loads of a GPU conversion stay inside `mShmData` exactly when the image, all but the
alpha byte of its last pixel, fits in it. -/
lemma lockFlexYuv_loads_inBounds_iff {s s' : CpuConsumer} {gb : GraphicBuffer}
    {ycbcr : AndroidYcbcr} {p : Planes} {acc : List Access}
    (h : s.lockFlexYuv gb ycbcr call = some (p, s', acc))
    (hok : (s.initEgl gb.width gb.height call.eglIsPowervr).1 = .ok)
    (hw0 : 0 < gb.width) (hh0 : 0 < gb.height) :
    (∀ a ∈ acc, a.region = .shmData → a.InBounds) ↔
      gb.width * gb.height * 4 - 1 ≤ (s.initEgl gb.width gb.height call.eglIsPowervr).2.mShmData.getD 0 := by
  rcases lockFlexYuv_cases h with ⟨hne, -⟩ | ⟨-, ops, mb, hops, -, -, -, rfl⟩
  · exact absurd hok hne
  obtain ⟨-, -, rfl⟩ := convertRGB32ToPlanar_eq_some hops
  simp only [List.mem_cons, List.mem_map, forall_eq_or_imp, forall_exists_index, and_imp,
    forall_apply_eq_imp_iff₂, reduceCtorEq, false_implies, true_and]
  refine ⟨fun hall => ?_, fun hS op hop => ?_⟩
  · have := hall _ (last_load_mem hw0 hh0) rfl
    simp only [converterAccess, Access.InBounds] at this
    omega
  · cases op with
    | load o =>
      intro _
      simp only [converterAccess, Access.InBounds]
      have := load_add_two_le hop
      omega
    | store o b => exact fun h => nomatch h

/-- The indices of a GPU conversion. Its stores stay inside the conversion buffer exactly when
gralloc's luma stride, as the `uint32_t` the converter gets, is at most the width; its loads
stay inside `mShmData` exactly when the image, all but the alpha byte of its last pixel, fits
in it. -/
theorem lockFlexYuv_converter_inBounds {s s' : CpuConsumer} {gb : GraphicBuffer}
    {ycbcr : AndroidYcbcr} {p : Planes} {acc : List Access}
    (h : s.lockFlexYuv gb ycbcr call = some (p, s', acc))
    (hok : (s.initEgl gb.width gb.height call.eglIsPowervr).1 = .ok)
    (hw0 : 0 < gb.width) (hh0 : 0 < gb.height) :
    ((∀ a ∈ acc, a.region = .conversion → a.InBounds) ↔ toUInt32Cast ycbcr.ystride ≤ gb.width) ∧
    ((∀ a ∈ acc, a.region = .shmData → a.InBounds) ↔
      gb.width * gb.height * 4 - 1 ≤ (s.initEgl gb.width gb.height call.eglIsPowervr).2.mShmData.getD 0) := by
  refine ⟨?_, lockFlexYuv_loads_inBounds_iff h hok hw0 hh0⟩
  rcases lockFlexYuv_cases h with ⟨hne, -⟩ | ⟨-, ops, mb, hops, hmb, -, -, rfl⟩
  · exact absurd hok hne
  obtain ⟨hw, hh, rfl⟩ := convertRGB32ToPlanar_eq_some hops
  have hsize : mb.size = gb.width * gb.height * 3 / 2 := by rw [hmb, convertedBuffer_size]
  simp only [List.mem_cons, List.mem_map, forall_eq_or_imp, forall_exists_index, and_imp,
    forall_apply_eq_imp_iff₂, reduceCtorEq, false_implies, true_and]
  refine ⟨fun hall => ?_, fun hd op hop => ?_⟩
  · -- a stride past the width puts the V byte of the last block past the buffer
    by_contra hd
    obtain ⟨o, b, hmem, hge⟩ := exists_store_ge_size call.pixels false (gb.width * 4) hw hh
      hw0 hh0 (Nat.lt_of_not_le hd)
    have := hall _ hmem rfl
    simp only [converterAccess, Access.InBounds] at this
    omega
  · cases op with
    | load o => exact fun h => nomatch h
    | store o b => exact fun _ => show o < mb.size by rw [hsize]; exact store_lt_size hw hh hd hop

/-- The 2×2 buffer of `convertedLock`, converted with luma rows 2 bytes apart into a 6-byte
buffer, from the 16 bytes `mShmData` holds. -/
theorem lockFlexYuv_converter_inBounds_converted :
    ∃ p s' acc, (create 1).lockFlexYuv convertedLock.graphicBuffer convertedLock.ycbcr convertedLock =
        some (p, s', acc) ∧
      ((create 1).initEgl 2 2 true).1 = .ok ∧ 0 < convertedLock.graphicBuffer.width ∧
      0 < convertedLock.graphicBuffer.height ∧
      (((∀ a ∈ acc, a.region = .conversion → a.InBounds) ↔
          toUInt32Cast convertedLock.ycbcr.ystride ≤ convertedLock.graphicBuffer.width) ∧
        ((∀ a ∈ acc, a.region = .shmData → a.InBounds) ↔
          convertedLock.graphicBuffer.width * convertedLock.graphicBuffer.height * 4 - 1 ≤
            ((create 1).initEgl 2 2 true).2.mShmData.getD 0)) :=
  ⟨_, _, _, rfl, rfl, by decide, by decide, lockFlexYuv_converter_inBounds
    (rfl : (create 1).lockFlexYuv convertedLock.graphicBuffer convertedLock.ycbcr convertedLock = _)
    rfl (by decide) (by decide)⟩

/-- A 2×2 buffer converted on the GPU, whose luma rows gralloc lays out 4 bytes apart. -/
def wideStrideLock : LockCall :=
  sampleLock .ycbcr420888 2 2 ⟨64, 72, 73, 4, 4, 2⟩ .ok true fun _ => 0

/-- A 4×4 buffer converted on the GPU. -/
def largerLock : LockCall :=
  sampleLock .ycbcr420888 4 4 ⟨64, 80, 81, 4, 4, 2⟩ .ok true fun _ => 0

/-- Two GPU conversions that leave their objects. With a luma stride of 4 for a 2×2 image, the
converter stores at offset 8 of the 6-byte conversion buffer. After a 2×2 buffer set up EGL
with a 16-byte `mShmData`, the conversion of a 4×4 buffer loads from offset 62 of it. -/
theorem converter_out_of_bounds :
    (∃ r, (create 1).lockNextBuffer wideStrideLock = some r ∧ r.status = .ok ∧
      (⟨.conversion, 8, 6⟩ : Access) ∈ r.accesses ∧ ¬ (⟨.conversion, 8, 6⟩ : Access).InBounds) ∧
    (∃ r₁ r₂, (create 2).lockNextBuffer convertedLock = some r₁ ∧
      r₁.state.lockNextBuffer largerLock = some r₂ ∧ r₂.status = .ok ∧
      (⟨.shmData, 62, 16⟩ : Access) ∈ r₂.accesses ∧ ¬ (⟨.shmData, 62, 16⟩ : Access).InBounds) :=
  ⟨⟨_, rfl, rfl, by decide, by decide⟩, ⟨_, _, rfl, rfl, rfl, by decide, by decide⟩⟩

end FrameworksNative
