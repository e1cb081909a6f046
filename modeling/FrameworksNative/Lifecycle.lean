import FrameworksNative.Bounds

/-!
# The EGL lifecycle

`initEgl` sets EGL up at most once. The first lock that gets through it, that of a
flexible-YUV buffer on a `powervr` device, allocates the RGBA scratch block `mShmData` for the
size of its own buffer; no later call changes the block or frees it, and `closeEgl`, run by the
destructor, deletes exactly that block. So a later GPU conversion reads inside the block exactly
when its buffer is no larger than that first lock's. On a device whose EGL driver is not
`powervr`, EGL never comes up and every flexible-YUV lock indexes the empty `mMemoryBuffer`.
-/

namespace FrameworksNative

open CpuConsumer

/-- `s'` has EGL set up as `s` had, with the same scratch block. -/
def EglKept (s s' : CpuConsumer) : Prop :=
  s'.mIsInited = s.mIsInited ∧ s'.mShmData = s.mShmData

/-- `s'` has EGL set up where `s` had not, with a scratch block for a `width × height` RGBA
image unless `s` had one. -/
def EglSetUp (s s' : CpuConsumer) (width height : Nat) : Prop :=
  s.mIsInited = false ∧ s'.mIsInited = true ∧ s'.mShmData = some (s.mShmData.getD (width * height * 4))

variable {s s' s'' : CpuConsumer} {w h : Nat} {call : LockCall} {r : Result} {c : Call}
  {ok : CpuConsumer → LockCall → Prop}

lemma EglKept.refl (s : CpuConsumer) : EglKept s s := ⟨rfl, rfl⟩

lemma EglKept.trans (h₁ : EglKept s s') (h₂ : EglKept s' s'') : EglKept s s'' :=
  ⟨h₂.1.trans h₁.1, h₂.2.trans h₁.2⟩

lemma eglChange_of_kept (hc : EglKept s s' ∨ EglSetUp s s' w h) (h' : EglKept s' s'') :
    EglKept s s'' ∨ EglSetUp s s'' w h := by
  rcases hc with hk | ⟨h₀, h₁, h₂⟩
  · exact .inl (hk.trans h')
  · exact .inr ⟨h₀, h'.1.trans h₁, h'.2.trans h₂⟩

lemma initEgl_of_inited (hi : s.mIsInited = true) (w h : Nat) (p : Bool) : s.initEgl w h p = (.ok, s) :=
  dif_pos hi

lemma initEgl_of_not_powervr (hi : s.mIsInited = false) (w h : Nat) :
    s.initEgl w h false = (.invalidOperation, s) := by
  simp [initEgl, hi]

lemma initEgl_egl (w h : Nat) (p : Bool) :
    EglKept s (s.initEgl w h p).2 ∨ EglSetUp s (s.initEgl w h p).2 w h := by
  unfold initEgl
  split_ifs with hinit
  · exact .inl (.refl s)
  · exact .inl (.refl s)
  · exact .inr ⟨by simpa using hinit, rfl, rfl⟩

lemma initEgl_setUp {p : Bool} (hi : s.mIsInited = false) (hok : (s.initEgl w h p).1 = .ok) :
    EglSetUp s (s.initEgl w h p).2 w h := by
  unfold initEgl at hok ⊢
  split_ifs at hok ⊢ with h₁
  · exact absurd h₁ (by rw [hi]; decide)
  · exact absurd hok Status.invalidOperation_ne_ok
  · exact ⟨hi, rfl, rfl⟩

lemma lockFlexYuv_egl {gb : GraphicBuffer} {ycbcr : AndroidYcbcr} {p : Planes} {acc : List Access}
    (hf : s.lockFlexYuv gb ycbcr call = some (p, s', acc)) :
    EglKept s s' ∨ EglSetUp s s' gb.width gb.height := by
  rcases lockFlexYuv_cases hf with ⟨-, rfl, -⟩ | ⟨-, ops, mb, -, -, rfl, -⟩
  · exact .inl (.refl _)
  · exact eglChange_of_kept (initEgl_egl _ _ _) ⟨rfl, rfl⟩

lemma lockBufferItem_egl {item : BufferItem} {gb : GraphicBuffer} {nb : LockedBuffer}
    {acc : List Access} (hl : s.lockBufferItem item gb call = some (.ok (nb, s', acc))) :
    EglKept s s' ∨ EglSetUp s s' gb.width gb.height := by
  obtain ⟨p, -, -, ⟨rfl, -⟩ | ⟨-, hf⟩⟩ := lockBufferItem_ok hl
  · exact .inl (.refl _)
  · exact lockFlexYuv_egl hf

lemma lockNextBuffer_egl (hl : s.lockNextBuffer call = some r) :
    EglKept s r.state ∨ EglSetUp s r.state call.graphicBuffer.width call.graphicBuffer.height := by
  rcases lockNextBuffer_cases hl with ⟨-, -, hr, -⟩ | ⟨-, -, hr, -, -⟩ | ⟨nb, s₂, acc, -, hlock, rfl⟩
  · exact .inl (hr ▸ .refl s)
  · exact .inl (hr ▸ .refl s)
  · have hitem := lockBufferItem_egl hlock
    exact eglChange_of_kept hitem ⟨rfl, rfl⟩

lemma unlockBuffer_egl {nb : LockedBuffer} {ucall : UnlockCall} (hu : s.unlockBuffer nb ucall = some r) :
    EglKept s r.state := by
  rcases unlockBuffer_cases hu with ⟨-, hr, -⟩ | ⟨slot, gb, -, -, -, -, ⟨-, -, -, hr⟩ | ⟨-, -, -, hr⟩⟩ <;>
    rw [hr] <;> exact ⟨by simp, by simp⟩

/-- Only a lock sets EGL up, for the size of its buffer; every other step keeps it. -/
lemma step_egl (hs : Step ok s c r) :
    EglKept s r.state ∨
      ∃ call, c = .lock call ∧ EglSetUp s r.state call.graphicBuffer.width call.graphicBuffer.height := by
  cases hs with
  | lock _ hl => exact (lockNextBuffer_egl hl).imp_right fun h => ⟨_, rfl, h⟩
  | unlock hu => exact .inl (unlockBuffer_egl hu)

/-! ## Runs -/

/-- Once EGL is set up, every run keeps it set up, with the same scratch block. -/
theorem Run.eglKept {trace : List (Call × Result)} (hrun : Run ok s trace s') (hi : s.mIsInited = true) :
    EglKept s s' :=
  hrun.preserves (P := EglKept s) (fun _ _ _ ht hs => (step_egl hs).elim ht.trans
    fun ⟨_, _, hf, _⟩ => absurd (ht.1.trans hi) (by rw [hf]; decide)) (.refl s)

/-- From a state without EGL or scratch block, a run either leaves both so, or has a first step
that sets EGL up, a lock, whose buffer sizes the block the run ends with. -/
lemma Run.egl_first_setUp {trace : List (Call × Result)} (hrun : Run ok s trace s')
    (hi : s.mIsInited = false) (hd : s.mShmData = none) :
    (s'.mIsInited = false ∧ s'.mShmData = none) ∨
    ∃ pre call r post, trace = pre ++ (.lock call, r) :: post ∧
      (∀ x ∈ pre, x.2.state.mIsInited = false) ∧ r.state.mIsInited = true ∧
      s'.mIsInited = true ∧ s'.mShmData = some (call.graphicBuffer.width * call.graphicBuffer.height * 4) := by
  induction hrun with
  | nil => exact .inl ⟨hi, hd⟩
  | @cons s₀ c r₀ trace s₁ hstep hrest ih =>
    rcases step_egl hstep with ⟨hi₀, hd₀⟩ | ⟨call, rfl, -, hi₀, hd₀⟩
    · rcases ih (hi₀.trans hi) (hd₀.trans hd) with hnone | ⟨pre, call, r, post, rfl, hpre, hset⟩
      · exact .inl hnone
      · refine .inr ⟨(c, r₀) :: pre, call, r, post, rfl, ?_, hset⟩
        rintro x (_ | ⟨_, hx⟩)
        · exact hi₀.trans hi
        · exact hpre x hx
    · have hk := hrest.eglKept hi₀
      rw [hd, Option.getD_none] at hd₀
      exact .inr ⟨[], call, r₀, trace, rfl, (fun _ h => nomatch h), hi₀, hk.1.trans hi₀, hk.2.trans hd₀⟩

/-- Along every run from the constructor, whatever the outside world answers: until a lock sets
EGL up there is no scratch block and the destructor deletes nothing; from the first lock that
sets it up, the consumer holds one block of `width * height * 4` bytes for that lock's
`width × height` buffer, whatever the later buffers' sizes, and the destructor deletes exactly
that block. -/
theorem closeEgl_deletes_first_shmData {N : UInt64} {trace : List (Call × Result)}
    (hrun : Run ok (create N) trace s) :
    (s.mIsInited = false ∧ s.mShmData = none ∧ s.closeEgl = none) ∨
    ∃ pre call r post, trace = pre ++ (.lock call, r) :: post ∧
      (∀ x ∈ pre, x.2.state.mIsInited = false) ∧ r.state.mIsInited = true ∧
      s.mIsInited = true ∧ s.mShmData = some (call.graphicBuffer.width * call.graphicBuffer.height * 4) ∧
      s.closeEgl = s.mShmData := by
  rcases hrun.egl_first_setUp rfl rfl with ⟨hi, hd⟩ | ⟨pre, call, r, post, htr, hpre, hr, hi, hd⟩
  · exact .inl ⟨hi, hd, by rw [closeEgl, hi]; rfl⟩
  · exact .inr ⟨pre, call, r, post, htr, hpre, hr, hi, hd, by rw [closeEgl, hi]; rfl⟩

/-- After the lock of `convertedLock`, a 2×2 buffer converted on the GPU, the destructor deletes
its 16-byte block. -/
theorem closeEgl_deletes_first_shmData_converted :
    ∃ r, (create 2).lockNextBuffer convertedLock = some r ∧
      Run anyWorld (create 2) [(.lock convertedLock, r)] r.state ∧ r.state.closeEgl = some 16 ∧
      ((r.state.mIsInited = false ∧ r.state.mShmData = none ∧ r.state.closeEgl = none) ∨
      ∃ pre call r' post, [(Call.lock convertedLock, r)] = pre ++ (.lock call, r') :: post ∧
        (∀ x ∈ pre, x.2.state.mIsInited = false) ∧ r'.state.mIsInited = true ∧
        r.state.mIsInited = true ∧
        r.state.mShmData = some (call.graphicBuffer.width * call.graphicBuffer.height * 4) ∧
        r.state.closeEgl = r.state.mShmData) :=
  have hl : (create 2).lockNextBuffer convertedLock = _ := rfl
  have hrun : Run anyWorld (create 2) [(.lock convertedLock, _)] _ := .cons (.lock trivial hl) (.nil _)
  ⟨_, hl, hrun, rfl, closeEgl_deletes_first_shmData hrun⟩

/-- Along every run from the constructor, the loads of a GPU conversion in a lock stay inside
`mShmData` when that lock is the one that sets EGL up. After the first lock that set EGL up, for
a `width₀ × height₀` buffer, they stay inside exactly when the buffer converted is no larger:
`width * height ≤ width₀ * height₀`. -/
theorem lockFlexYuv_reads_inside_first_shmData {N : UInt64} {trace : List (Call × Result)}
    {p : Planes} {s₁ : CpuConsumer} {acc : List Access} (hrun : Run ok (create N) trace s)
    (hf : (s.recordAcquire call).lockFlexYuv call.graphicBuffer call.ycbcr call = some (p, s₁, acc))
    (hw0 : 0 < call.graphicBuffer.width) (hh0 : 0 < call.graphicBuffer.height) :
    (s.mIsInited = false ∧ ∀ a ∈ acc, a.region = .shmData → a.InBounds) ∨
    ∃ pre call₀ r₀ post, trace = pre ++ (.lock call₀, r₀) :: post ∧
      (∀ x ∈ pre, x.2.state.mIsInited = false) ∧ r₀.state.mIsInited = true ∧
      ((∀ a ∈ acc, a.region = .shmData → a.InBounds) ↔
        call.graphicBuffer.width * call.graphicBuffer.height ≤
          call₀.graphicBuffer.width * call₀.graphicBuffer.height) := by
  rcases hrun.egl_first_setUp rfl rfl with ⟨hi, hd⟩ | ⟨pre, call₀, r₀, post, htr, hpre, hr₀, hi, hd⟩
  · refine .inl ⟨hi, ?_⟩
    by_cases hok : ((s.recordAcquire call).initEgl call.graphicBuffer.width call.graphicBuffer.height
        call.eglIsPowervr).1 = .ok
    · refine (lockFlexYuv_loads_inBounds_iff hf hok hw0 hh0).2 ?_
      rw [(initEgl_setUp (s := s.recordAcquire call) hi hok).2.2, recordAcquire_mShmData, hd]
      simp
    · rcases lockFlexYuv_cases hf with ⟨-, -, -, rfl⟩ | ⟨hok', -⟩
      · simp
      · exact absurd hok' hok
  · refine .inr ⟨pre, call₀, r₀, post, htr, hpre, hr₀, ?_⟩
    have hinit := initEgl_of_inited (s := s.recordAcquire call) hi call.graphicBuffer.width
      call.graphicBuffer.height call.eglIsPowervr
    rw [lockFlexYuv_loads_inBounds_iff hf (by rw [hinit]) hw0 hh0, hinit, recordAcquire_mShmData, hd,
      Option.getD_some]
    omega

/-- After `convertedLock` set EGL up for a 2×2 buffer, the GPU conversion of the 4×4 buffer of
`largerLock`. -/
theorem lockFlexYuv_reads_inside_first_shmData_larger :
    ∃ r p s₁ acc, (create 2).lockNextBuffer convertedLock = some r ∧
      Run anyWorld (create 2) [(.lock convertedLock, r)] r.state ∧
      (r.state.recordAcquire largerLock).lockFlexYuv largerLock.graphicBuffer largerLock.ycbcr largerLock =
        some (p, s₁, acc) ∧
      0 < largerLock.graphicBuffer.width ∧ 0 < largerLock.graphicBuffer.height ∧
      ((r.state.mIsInited = false ∧ ∀ a ∈ acc, a.region = .shmData → a.InBounds) ∨
      ∃ pre call₀ r₀ post, [(Call.lock convertedLock, r)] = pre ++ (.lock call₀, r₀) :: post ∧
        (∀ x ∈ pre, x.2.state.mIsInited = false) ∧ r₀.state.mIsInited = true ∧
        ((∀ a ∈ acc, a.region = .shmData → a.InBounds) ↔
          largerLock.graphicBuffer.width * largerLock.graphicBuffer.height ≤
            call₀.graphicBuffer.width * call₀.graphicBuffer.height)) :=
  have hl : (create 2).lockNextBuffer convertedLock = _ := rfl
  have hrun : Run anyWorld (create 2) [(.lock convertedLock, _)] _ := .cons (.lock trivial hl) (.nil _)
  have hf : (_ : CpuConsumer).lockFlexYuv largerLock.graphicBuffer largerLock.ycbcr largerLock = _ := rfl
  ⟨_, _, _, _, hl, hrun, hf, by decide, by decide,
    lockFlexYuv_reads_inside_first_shmData hrun hf (by decide) (by decide)⟩

/-! ## A device without `powervr` -/

/-- The device's `ro.hardware.egl` does not read `powervr`. -/
def LockCall.NotPowervr (_ : CpuConsumer) (call : LockCall) : Prop :=
  call.eglIsPowervr = false

lemma lockNextBuffer_inited (hl : s.lockNextBuffer call = some r) (hi : r.state.mIsInited = true) :
    s.mIsInited = true ∨ call.eglIsPowervr = true := by
  rcases lockNextBuffer_cases hl with ⟨-, -, hr, -⟩ | ⟨-, -, hr, -, -⟩ | ⟨nb, s₂, acc, -, hlock, rfl⟩
  · exact .inl (hr ▸ hi)
  · rw [hr] at hi; exact .inl hi
  obtain ⟨p, -, -, ⟨rfl, -⟩ | ⟨-, hf⟩⟩ := lockBufferItem_ok hlock
  · exact .inl hi
  rcases lockFlexYuv_cases hf with ⟨-, rfl, -⟩ | ⟨-, ops, mb, -, -, rfl, -⟩
  · exact .inl hi
  have h : ((s.recordAcquire call).initEgl call.graphicBuffer.width call.graphicBuffer.height
      call.eglIsPowervr).2.mIsInited = true := hi
  rw [initEgl_mIsInited, recordAcquire_mIsInited] at h
  exact Bool.or_eq_true_iff.1 h

/-- A lock that gets past its checks into the flexible-YUV branch, where `initEgl` fails,
succeeds with gralloc's planes after indexing `mMemoryBuffer` at the first unused entry. -/
lemma lockNextBuffer_flex_of_initEgl_ne_ok (h1 : call.nativeBuffer = true)
    (h2 : s.mCurrentLockedBuffers ≠ s.mMaxLockedBuffers) (h3 : call.acquireStatus = .ok)
    {ycbcr : AndroidYcbcr} {ff : PixelFormat}
    (hy : lockYCbCrAttempt call.graphicBuffer.format call = .ok (ycbcr, ff)) (hy0 : ycbcr.y ≠ 0)
    (hst : ((s.recordAcquire call).initEgl call.graphicBuffer.width call.graphicBuffer.height
      call.eglIsPowervr).1 ≠ .ok)
    (hl : s.lockNextBuffer call = some r) :
    r.status = .ok ∧
      (⟨.memoryBuffer, s.findAcquiredBufferLocked kUnusedId, s.mMemoryBuffer.length⟩ : Access) ∈ r.accesses := by
  have hf : (s.recordAcquire call).lockFlexYuv call.graphicBuffer ycbcr call =
      some (⟨ycbcr.y, toUInt32Cast ycbcr.ystride, ycbcr.cb, ycbcr.cr, toUInt32Cast ycbcr.cstride,
        toUInt32Cast ycbcr.chromaStep⟩, s.recordAcquire call,
        [⟨.memoryBuffer, s.findAcquiredBufferLocked kUnusedId, s.mMemoryBuffer.length⟩]) := by
    simp only [lockFlexYuv, initEgl_findAcquiredBufferLocked]
    rw [if_neg hst, initEgl_of_ne_ok hst]
    rfl
  simp [lockNextBuffer, lockBufferItem, h1, h2, h3, hy, hy0, hf] at hl
  rw [← hl]
  simp

/-- On a device whose EGL driver is not `powervr`, along every run from the constructor: EGL is
never set up, `mShmData` stays null, `mMemoryBuffer` stays empty and the destructor deletes
nothing; every lock that gets past its checks into the flexible-YUV branch succeeds after
indexing the empty `mMemoryBuffer` at the first unused entry; and every index into
`mMemoryBuffer` that a lock makes is out of bounds. -/
theorem egl_never_set_up_without_powervr {N : UInt64} {trace : List (Call × Result)}
    (hrun : Run LockCall.NotPowervr (create N) trace s) :
    s.mIsInited = false ∧ s.mShmData = none ∧ s.mMemoryBuffer = [] ∧ s.closeEgl = none ∧
    (∀ call r, LockCall.NotPowervr s call → s.lockNextBuffer call = some r →
      call.nativeBuffer = true → s.mCurrentLockedBuffers ≠ s.mMaxLockedBuffers → call.acquireStatus = .ok →
      (∃ ycbcr flexFormat, lockYCbCrAttempt call.graphicBuffer.format call = .ok (ycbcr, flexFormat) ∧
        ycbcr.y ≠ 0) →
      r.status = .ok ∧ (⟨.memoryBuffer, s.findAcquiredBufferLocked kUnusedId, 0⟩ : Access) ∈ r.accesses) ∧
    ∀ call r, LockCall.NotPowervr s call → s.lockNextBuffer call = some r →
      ∀ a ∈ r.accesses, a.region = .memoryBuffer → ¬ a.InBounds := by
  have hP : s.mIsInited = false ∧ s.mShmData = none := by
    refine hrun.preserves (P := fun t => t.mIsInited = false ∧ t.mShmData = none) (fun t c r ht hs => ?_)
      ⟨rfl, rfl⟩
    rcases step_egl hs with ⟨hi, hd⟩ | ⟨call, rfl, -, hi, -⟩
    · exact ⟨hi.trans ht.1, hd.trans ht.2⟩
    cases hs with
    | lock hok hl =>
      rcases lockNextBuffer_inited hl hi with h | h
      · exact absurd (ht.1.symm.trans h) (by decide)
      · exact absurd (hok.symm.trans h) (by decide)
  have hmem : s.mMemoryBuffer = [] := List.eq_nil_of_length_eq_zero (by simp [s.memory_length, hP.1])
  refine ⟨hP.1, hP.2, hmem, by rw [closeEgl, hP.1]; rfl, fun call r hp hl h1 h2 h3 ⟨ycbcr, ff, hy, hy0⟩ => ?_,
    fun call r hp hl a ha hreg hin => ?_⟩
  · have hst : ((s.recordAcquire call).initEgl call.graphicBuffer.width call.graphicBuffer.height
        call.eglIsPowervr).1 ≠ .ok := by
      rw [show call.eglIsPowervr = false from hp, initEgl_of_not_powervr (s := s.recordAcquire call) hP.1]
      exact Status.invalidOperation_ne_ok
    simpa only [hmem, List.length_nil] using lockNextBuffer_flex_of_initEgl_ne_ok h1 h2 h3 hy hy0 hst hl
  have hsize := ((lockNextBuffer_accesses hl a ha).2.2 hreg).2
  rw [show call.eglIsPowervr = false from hp, initEgl_of_not_powervr (s := s.recordAcquire call) hP.1,
    recordAcquire_mMemoryBuffer, hmem] at hsize
  have hlt : a.index < a.size := hin
  rw [hsize] at hlt
  exact Nat.not_lt_zero _ hlt

/-- After the lock of `nonPowervrLock`, a flexible-YUV buffer, from a consumer with two entries
on a device without `powervr`. -/
theorem egl_never_set_up_without_powervr_nonPowervr :
    ∃ r, (create 2).lockNextBuffer nonPowervrLock = some r ∧
      Run LockCall.NotPowervr (create 2) [(.lock nonPowervrLock, r)] r.state ∧
      (r.state.mIsInited = false ∧ r.state.mShmData = none ∧ r.state.mMemoryBuffer = [] ∧ r.state.closeEgl = none ∧
        (∀ call r', LockCall.NotPowervr r.state call → r.state.lockNextBuffer call = some r' →
          call.nativeBuffer = true → r.state.mCurrentLockedBuffers ≠ r.state.mMaxLockedBuffers →
          call.acquireStatus = .ok →
          (∃ ycbcr flexFormat, lockYCbCrAttempt call.graphicBuffer.format call = .ok (ycbcr, flexFormat) ∧
            ycbcr.y ≠ 0) →
          r'.status = .ok ∧ (⟨.memoryBuffer, r.state.findAcquiredBufferLocked kUnusedId, 0⟩ : Access) ∈ r'.accesses) ∧
        ∀ call r', LockCall.NotPowervr r.state call → r.state.lockNextBuffer call = some r' →
          ∀ a ∈ r'.accesses, a.region = .memoryBuffer → ¬ a.InBounds) :=
  have hl : (create 2).lockNextBuffer nonPowervrLock = _ := rfl
  have hrun : Run LockCall.NotPowervr (create 2) [(.lock nonPowervrLock, _)] _ := .cons (.lock rfl hl) (.nil _)
  ⟨_, hl, hrun, egl_never_set_up_without_powervr hrun⟩

end FrameworksNative
