import FrameworksNative.Bounds

/-!
# The planes a GPU conversion describes

`lockBufferItem` hands out the converted image through the planes of its `LockedBuffer`: the
luma plane at the conversion buffer with gralloc's luma stride, the chroma planes at
`getStride() * height` past it with gralloc's chroma stride and step. The converter writes the
luma plane with the luma stride and the chroma as interleaved U, V pairs with the luma stride
too. The luma plane is always described right; the chroma planes only when gralloc's layout
is the interleaved one the converter writes.
-/

namespace FrameworksNative

open CpuConsumer

/-- With EGL up, for an even-sized buffer whose luma stride is its width, the planes
of the flexible-YUV branch describe the conversion buffer it stores: the luma of every pixel
at `y * stride + x` from `data`. When the buffer's stride and the chroma stride are the luma
stride and the chroma step is 2, also the U and V of every 2×2 block at
`y * chromaStride + x * chromaStep` from `dataCb` and `dataCr`. -/
theorem lockFlexYuv_describes_conversion {s s' : CpuConsumer} {gb : GraphicBuffer}
    {ycbcr : AndroidYcbcr} {call : LockCall} {p : Planes} {acc : List Access}
    (h : s.lockFlexYuv gb ycbcr call = some (p, s', acc))
    (hok : (s.initEgl gb.width gb.height call.eglIsPowervr).1 = .ok)
    (hw : gb.width % 2 = 0) (hh : gb.height % 2 = 0) (hd : toUInt32Cast ycbcr.ystride = gb.width) :
    ∃ mb, s' = (s.initEgl gb.width gb.height call.eglIsPowervr).2.setMemory
        (s.findAcquiredBufferLocked kUnusedId) mb ∧ p.data = mb.array ∧
      (∀ y < gb.height, ∀ x < gb.width, (mb.bytes (y * p.stride + x)).toNat =
        lumaValue (redByte call.pixels false (y * (gb.width * 4) + 4 * x)).toNat
          (greenByte call.pixels (y * (gb.width * 4) + 4 * x)).toNat
          (blueByte call.pixels false (y * (gb.width * 4) + 4 * x)).toNat) ∧
      (gb.stride = toUInt32Cast ycbcr.ystride → toUInt32Cast ycbcr.cstride = toUInt32Cast ycbcr.ystride →
        toUInt32Cast ycbcr.chromaStep = 2 →
        ∀ y < gb.height / 2, ∀ x < gb.width / 2,
          ((mb.bytes (p.dataCb - p.data + y * p.chromaStride + x * p.chromaStep)).toNat : Int) =
            cbValue (redByte call.pixels false (2 * y * (gb.width * 4) + 4 * (2 * x))).toNat
              (greenByte call.pixels (2 * y * (gb.width * 4) + 4 * (2 * x))).toNat
              (blueByte call.pixels false (2 * y * (gb.width * 4) + 4 * (2 * x))).toNat ∧
          ((mb.bytes (p.dataCr - p.data + y * p.chromaStride + x * p.chromaStep)).toNat : Int) =
            crValue (redByte call.pixels false (2 * y * (gb.width * 4) + 4 * (2 * x))).toNat
              (greenByte call.pixels (2 * y * (gb.width * 4) + 4 * (2 * x))).toNat
              (blueByte call.pixels false (2 * y * (gb.width * 4) + 4 * (2 * x))).toNat) := by
  rcases lockFlexYuv_cases h with ⟨hne, -⟩ | ⟨-, ops, mb, hops, hmb, rfl, rfl, -⟩
  · exact absurd hok hne
  obtain ⟨ops', hops', himage⟩ := convertRGB32ToPlanar_image call.pixels _ _ _ _ _ false hw hh hd.ge
  obtain rfl := Option.some.inj (hops.symm.trans hops')
  obtain ⟨dst, hbytes⟩ : ∃ dst, mb.bytes = applyStores dst ops := ⟨_, by rw [hmb, convertedBuffer_bytes]⟩
  refine ⟨mb, rfl, rfl, fun y hy x hx => ?_, fun hs hc hstep y hy x hx => ?_⟩
  · rw [hbytes]
    exact (himage dst).luma y hy x hx
  · have hcb : mb.array + gb.stride * gb.height - mb.array + y * toUInt32Cast ycbcr.cstride +
        x * toUInt32Cast ycbcr.chromaStep =
        toUInt32Cast ycbcr.ystride * gb.height + 2 * y / 2 * toUInt32Cast ycbcr.ystride + 2 * x := by
      rw [hs, hc, hstep, show 2 * y / 2 = y by omega]
      omega
    have hcr : mb.array + gb.stride * gb.height + 1 - mb.array + y * toUInt32Cast ycbcr.cstride +
        x * toUInt32Cast ycbcr.chromaStep =
        toUInt32Cast ycbcr.ystride * gb.height + 2 * y / 2 * toUInt32Cast ycbcr.ystride + 2 * x + 1 := by
      rw [hs, hc, hstep, show 2 * y / 2 = y by omega]
      omega
    dsimp only
    rw [hcb, hcr, hbytes]
    exact ⟨(himage dst).cb (2 * y) (by omega) (2 * x) (by omega) (by omega) (by omega),
      (himage dst).cr (2 * y) (by omega) (2 * x) (by omega) (by omega) (by omega)⟩

/-- The 2×2 buffer of `convertedLock`, whose buffer stride, luma and chroma strides are 2 and
chroma step 2: the layout the converter writes. -/
theorem lockFlexYuv_describes_conversion_converted :
    ∃ p s' acc, (create 1).lockFlexYuv convertedLock.graphicBuffer convertedLock.ycbcr convertedLock =
        some (p, s', acc) ∧
      ((create 1).initEgl 2 2 true).1 = .ok ∧ 2 % 2 = 0 ∧ 2 % 2 = 0 ∧
      toUInt32Cast convertedLock.ycbcr.ystride = 2 ∧
      ∃ mb, s' = ((create 1).initEgl 2 2 true).2.setMemory
          ((create 1).findAcquiredBufferLocked kUnusedId) mb ∧ p.data = mb.array ∧
        (∀ y < 2, ∀ x < 2, (mb.bytes (y * p.stride + x)).toNat =
          lumaValue (redByte convertedLock.pixels false (y * (2 * 4) + 4 * x)).toNat
            (greenByte convertedLock.pixels (y * (2 * 4) + 4 * x)).toNat
            (blueByte convertedLock.pixels false (y * (2 * 4) + 4 * x)).toNat) ∧
        (2 = toUInt32Cast convertedLock.ycbcr.ystride →
          toUInt32Cast convertedLock.ycbcr.cstride = toUInt32Cast convertedLock.ycbcr.ystride →
          toUInt32Cast convertedLock.ycbcr.chromaStep = 2 →
          ∀ y < 2 / 2, ∀ x < 2 / 2,
            ((mb.bytes (p.dataCb - p.data + y * p.chromaStride + x * p.chromaStep)).toNat : Int) =
              cbValue (redByte convertedLock.pixels false (2 * y * (2 * 4) + 4 * (2 * x))).toNat
                (greenByte convertedLock.pixels (2 * y * (2 * 4) + 4 * (2 * x))).toNat
                (blueByte convertedLock.pixels false (2 * y * (2 * 4) + 4 * (2 * x))).toNat ∧
            ((mb.bytes (p.dataCr - p.data + y * p.chromaStride + x * p.chromaStep)).toNat : Int) =
              crValue (redByte convertedLock.pixels false (2 * y * (2 * 4) + 4 * (2 * x))).toNat
                (greenByte convertedLock.pixels (2 * y * (2 * 4) + 4 * (2 * x))).toNat
                (blueByte convertedLock.pixels false (2 * y * (2 * 4) + 4 * (2 * x))).toNat) :=
  have h : (create 1).lockFlexYuv convertedLock.graphicBuffer convertedLock.ycbcr convertedLock = _ := rfl
  ⟨_, _, _, h, rfl, rfl, rfl, by decide,
    lockFlexYuv_describes_conversion h rfl (by decide) (by decide) (by decide)⟩

/-- A 4×2 buffer with planar chroma (chroma stride 2, step 1) converted on the GPU, from an
image whose pixels are all red. -/
def planarLock : LockCall :=
  sampleLock .ycbcr420888 4 2 ⟨64, 72, 74, 4, 2, 1⟩ .ok true fun o => if o % 4 = 0 then 255 else 0

/-- For a planar chroma layout the `LockedBuffer` points at the wrong bytes. For the 2×2 block
`(1, 0)` of the red image, `dataCb[0 * chromaStride + 1 * chromaStep]` holds 240, the V of
block `(0, 0)`, while the U of the block is 90, which the converter wrote two bytes further. -/
theorem lockedBuffer_chroma_mismatch :
    ∃ r nb, (create 1).lockNextBuffer planarLock = some r ∧ r.buffer = some nb ∧
      (r.state.mMemoryBuffer.getD 0 .empty).array = nb.data ∧
      (r.state.mMemoryBuffer.getD 0 .empty).bytes
        (nb.dataCb - nb.data + 0 * nb.chromaStride + 1 * nb.chromaStep) = 240 ∧
      cbValue 255 0 0 = 90 ∧
      (r.state.mMemoryBuffer.getD 0 .empty).bytes (4 * 2 + 0 * 4 + 2) = 90 :=
  ⟨_, _, rfl, rfl, rfl, by decide, by decide, by decide⟩

end FrameworksNative
