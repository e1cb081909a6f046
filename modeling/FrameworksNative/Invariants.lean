import FrameworksNative.Steps

/-!
# Invariants of the locked-buffer table

What holds in every reachable state. Whatever the outside world answers, a conversion buffer
that is not empty belongs to the entry in use whose id is its address (`ConvertedOwned`), so
`unlockBuffer` clears the buffer of the entry it frees and no other. When buffers have positive
dimensions and a successful gralloc lock never returns the null address, the counter also
counts the entries in use (`CountExact`): the search for a free entry then succeeds whenever
the counter allows a lock, and the decrement of an unlock never wraps.
-/

namespace FrameworksNative

open CpuConsumer

/-- What the outside world is assumed to answer to a lock: the buffer has positive
dimensions, and a successful `lockAsync` returns a non-null address. -/
def LockCall.Sound (_ : CpuConsumer) (call : LockCall) : Prop :=
  0 < call.graphicBuffer.width ∧ 0 < call.graphicBuffer.height ∧
    (call.lockAsyncStatus = .ok → call.bufferPointer ≠ kUnusedId)

/-- Each conversion buffer that is not empty belongs to an entry in use, whose id is the
buffer's address. -/
def ConvertedOwned (s : CpuConsumer) : Prop :=
  ∀ i, (s.mMemoryBuffer.getD i .empty).size ≠ 0 →
    (s.mAcquiredBuffers.getD i .unused).inUse ∧
      (s.mAcquiredBuffers.getD i .unused).mLockedBufferId = (s.mMemoryBuffer.getD i .empty).array

/-- The counter counts the entries in use. -/
def CountExact (s : CpuConsumer) : Prop :=
  s.mCurrentLockedBuffers.toNat = s.mAcquiredBuffers.countP AcquiredBuffer.inUse

/-- Both invariants; they are kept together under `LockCall.Sound`. -/
structure Consistent (s : CpuConsumer) : Prop where
  owned : ConvertedOwned s
  count : CountExact s

variable {s s' : CpuConsumer} {call : LockCall} {nb : LockedBuffer} {ucall : UnlockCall}
  {r : Result} {i j id : Nat} {ok : CpuConsumer → LockCall → Prop} {N : UInt64}

lemma ConvertedOwned.size_eq_zero (hinv : ConvertedOwned s)
    (h : (s.mAcquiredBuffers.getD i .unused).inUse = false) : (s.mMemoryBuffer.getD i .empty).size = 0 := by
  by_contra hne
  have hu := (hinv i hne).1
  rw [h] at hu
  exact Bool.false_ne_true hu

theorem convertedOwned_create (N : UInt64) : ConvertedOwned (create N) :=
  fun _ h => (h (by simp [create, ByteVector.empty])).elim

theorem convertedOwned_lockNextBuffer (hinv : ConvertedOwned s) (h : s.lockNextBuffer call = some r) :
    ConvertedOwned r.state := by
  rcases lockNextBuffer_cases h with ⟨-, -, hr, -⟩ | ⟨-, -, hr, -⟩ | ⟨nb, s₂, acc, -, hl, rfl⟩
  · exact hr ▸ hinv
  · exact hr ▸ hinv
  have h₁ : ConvertedOwned (s.recordAcquire call) := hinv
  intro j hj
  simp only [lockEntry_mMemoryBuffer, lockEntry_mAcquiredBuffers, getD_set,
    lockBufferItem_findAcquiredBufferLocked hl, recordAcquire_findAcquiredBufferLocked] at hj ⊢
  by_cases hij : s.findAcquiredBufferLocked kUnusedId = j
  · subst hij
    obtain ⟨hid, hne⟩ := (lockBufferItem_memory hl).2 (h₁.size_eq_zero (inUse_findUnused _)) hj
    have hlt : s.findAcquiredBufferLocked kUnusedId < s₂.mAcquiredBuffers.length := by
      rw [s₂.acquired_length]; exact (inited_of_size_ne hj).2
    rw [if_pos ⟨rfl, hlt⟩]
    exact ⟨(inUse_iff _).2 hne, hid.symm⟩
  · rw [if_neg fun hc => hij hc.1, (lockBufferItem_frame hl).1]
    rw [(lockBufferItem_memory hl).1 j (Ne.symm hij)] at hj ⊢
    exact h₁ j hj

lemma convertedOwned_releaseConverted (hinv : ConvertedOwned s) (i id : Nat) :
    ConvertedOwned (s.releaseConverted i id) := by
  intro j hj
  rw [releaseConverted_getD] at hj ⊢
  rw [releaseConverted_mAcquiredBuffers]
  split_ifs at hj ⊢
  · exact absurd (clear_size _) hj
  · exact hinv j hj

lemma convertedOwned_freeEntry (hinv : ConvertedOwned s) {slot : Int} {gb : GraphicBuffer}
    (hid : (s.mAcquiredBuffers.getD i .unused).mLockedBufferId = id) :
    ConvertedOwned ((s.releaseConverted i id).freeEntry i slot gb) := by
  intro j hj
  simp only [freeEntry_mMemoryBuffer, freeEntry_mAcquiredBuffers, releaseConverted_mAcquiredBuffers,
    getD_set, releaseConverted_getD] at hj ⊢
  by_cases hc : i = j ∧ s.mIsInited ∧ id = (s.mMemoryBuffer.getD i .empty).array
  · rw [if_pos hc] at hj
    exact absurd (clear_size _) hj
  rw [if_neg hc] at hj ⊢
  have hij : i ≠ j := by
    rintro rfl
    exact hc ⟨rfl, (inited_of_size_ne hj).1, hid.symm.trans (hinv i hj).2⟩
  rw [if_neg fun h => hij h.1]
  exact hinv j hj

theorem convertedOwned_unlockBuffer (hinv : ConvertedOwned s) (h : s.unlockBuffer nb ucall = some r) :
    ConvertedOwned r.state := by
  rcases unlockBuffer_cases h with ⟨-, hr, -⟩ | ⟨slot, gb, -, -, hentry, -, ⟨-, -, -, hr⟩ | ⟨-, -, -, hr⟩⟩
  · exact hr ▸ hinv
  · exact hr ▸ convertedOwned_releaseConverted hinv _ _
  · exact hr ▸ convertedOwned_freeEntry hinv (by rw [hentry])

lemma countP_set_inUse {l : List AcquiredBuffer} (hi : i < l.length) (ab : AcquiredBuffer) :
    (l.set i ab).countP AcquiredBuffer.inUse + (if (l.getD i .unused).inUse then 1 else 0) =
      l.countP AcquiredBuffer.inUse + (if ab.inUse then 1 else 0) := by
  rw [List.countP_set _ _ _ _ hi, List.getD_eq_getElem _ _ hi]
  have hle : (if l[i].inUse then 1 else 0) ≤ l.countP AcquiredBuffer.inUse := by
    split_ifs with h
    · exact List.countP_pos_iff.2 ⟨l[i], List.getElem_mem hi, h⟩
    · exact Nat.zero_le _
  omega

lemma toNat_add_one64 {a b : UInt64} (h : a.toNat < b.toNat) : (a + 1).toNat = a.toNat + 1 := by
  rw [UInt64.toNat_add]
  exact Nat.mod_eq_of_lt (by have := b.toNat_lt_size; exact Nat.lt_of_le_of_lt h this)

lemma toNat_sub_one64 {a : UInt64} (h : 1 ≤ a.toNat) : (a - 1).toNat = a.toNat - 1 := by
  rw [UInt64.toNat_sub_of_le]
  · rfl
  · show (1 : UInt64).toBitVec ≤ a.toBitVec
    rw [BitVec.le_def]
    exact h

lemma CountExact.le (h : CountExact s) : s.mCurrentLockedBuffers.toNat ≤ s.mMaxLockedBuffers.toNat := by
  rw [h, ← s.acquired_length]
  exact List.countP_le_length _

lemma CountExact.findUnused_lt (h : CountExact s) (hne : s.mCurrentLockedBuffers ≠ s.mMaxLockedBuffers) :
    s.findAcquiredBufferLocked kUnusedId < s.mMaxLockedBuffers.toNat := by
  have hlt : s.mAcquiredBuffers.countP (·.inUse) ≠ s.mAcquiredBuffers.length := by
    rw [← h, s.acquired_length]
    exact fun he => hne (UInt64.toNat.inj he)
  obtain ⟨ab, hab, hfree⟩ : ∃ ab ∈ s.mAcquiredBuffers, ab.inUse = false := by
    by_contra hall
    exact hlt (List.countP_eq_length.2 fun ab hab => by simpa using fun h => hall ⟨ab, hab, h⟩)
  exact findAcquiredBufferLocked_lt_iff.2 ⟨ab, hab, (not_inUse_iff ab).1 hfree⟩

theorem countExact_create (N : UInt64) : CountExact (create N) := by
  simp [CountExact, create, List.countP_replicate]

/-- Under `LockCall.Sound`, a successful `lockBufferItem` from a state whose first unused
entry has an empty conversion buffer hands out a non-null address. -/
lemma lockBufferItem_data_ne {item : BufferItem} {gb : GraphicBuffer} {acc : List Access}
    (h0 : (s.mMemoryBuffer.getD (s.findAcquiredBufferLocked kUnusedId) .empty).size = 0)
    (hw : 0 < gb.width) (hh : 0 < gb.height)
    (hp : call.lockAsyncStatus = .ok → call.bufferPointer ≠ kUnusedId)
    (h : s.lockBufferItem item gb call = some (.ok (nb, s', acc))) : nb.data ≠ kUnusedId := by
  rcases lockBufferItem_data h0 hw hh h with ⟨hs, hd⟩ | ⟨hy, hd⟩ | hd <;> rw [hd]
  · exact hp hs
  · exact hy
  · exact call.block_ne_null

theorem countExact_lockNextBuffer (hinv : Consistent s) (hok : LockCall.Sound s call)
    (h : s.lockNextBuffer call = some r) : CountExact r.state := by
  rcases lockNextBuffer_cases h with ⟨-, -, hr, -⟩ | ⟨-, -, hr, -⟩ | ⟨nb, s₂, acc, hne, hl, rfl⟩
  · exact hr ▸ hinv.count
  · exact hr ▸ hinv.count
  obtain ⟨htab, -, hcur, -⟩ := lockBufferItem_frame hl
  obtain ⟨hw, hh, hp⟩ := hok
  have h₁ : ConvertedOwned (s.recordAcquire call) := hinv.owned
  have hdata := lockBufferItem_data_ne (h₁.size_eq_zero (inUse_findUnused _)) hw hh hp hl
  have hi : s.findAcquiredBufferLocked kUnusedId < s.mAcquiredBuffers.length := by
    rw [s.acquired_length]; exact hinv.count.findUnused_lt hne
  have hset := countP_set_inUse hi ⟨call.acquired.mSlot, some call.graphicBuffer, nb.data⟩
  rw [inUse_findUnused, (inUse_iff _).2 hdata] at hset
  have hc := toNat_add_one64 (lt_of_le_of_ne hinv.count.le fun he => hne (UInt64.toNat.inj he))
  show (s₂.mCurrentLockedBuffers + 1).toNat = (s₂.mAcquiredBuffers.set _ _).countP _
  rw [hcur, htab, lockBufferItem_findAcquiredBufferLocked hl]
  simp only [recordAcquire_mCurrentLockedBuffers, recordAcquire_mAcquiredBuffers,
    recordAcquire_findAcquiredBufferLocked, hc]
  simp only [Bool.false_eq_true, if_false, if_true] at hset
  have hcnt : s.mCurrentLockedBuffers.toNat = _ := hinv.count
  omega

lemma CountExact.one_le (h : CountExact s) (hi : i < s.mAcquiredBuffers.length)
    (hu : (s.mAcquiredBuffers.getD i .unused).inUse) : 1 ≤ s.mCurrentLockedBuffers.toNat := by
  rw [h]
  rw [List.getD_eq_getElem _ _ hi] at hu
  exact List.countP_pos_iff.2 ⟨_, List.getElem_mem hi, hu⟩

/-- An unlock that succeeds found an entry in use: the counter was positive, and it drops by
exactly one. -/
theorem unlockBuffer_counter (hcnt : CountExact s) (h : s.unlockBuffer nb ucall = some r)
    (hst : r.status = .ok) :
    1 ≤ s.mCurrentLockedBuffers.toNat ∧
      r.state.mCurrentLockedBuffers.toNat + 1 = s.mCurrentLockedBuffers.toNat := by
  rcases unlockBuffer_cases h with ⟨hbad, -⟩ | ⟨slot, gb, hid0, hfound, hentry, -, ⟨hne, hst', -⟩ | ⟨-, -, -, hr⟩⟩
  · exact absurd (hbad.symm.trans hst) (by decide)
  · exact absurd (hst'.symm.trans hst) hne
  have hu : (s.mAcquiredBuffers.getD (s.findAcquiredBufferLocked (getLockedBufferId nb)) .unused).inUse := by
    rw [hentry, inUse_iff]; exact hid0
  have hpos := hcnt.one_le (by rw [s.acquired_length]; exact hfound) hu
  rw [hr, freeEntry_mCurrentLockedBuffers, releaseConverted_mCurrentLockedBuffers, toNat_sub_one64 hpos]
  omega

theorem countExact_unlockBuffer (hcnt : CountExact s) (h : s.unlockBuffer nb ucall = some r) :
    CountExact r.state := by
  rcases unlockBuffer_cases h with ⟨-, hr, -⟩ | ⟨slot, gb, hid0, hfound, hentry, -, ⟨-, -, -, hr⟩ | ⟨hok, hst, -, hr⟩⟩
  · exact hr ▸ hcnt
  · rw [hr]
    simpa only [CountExact, releaseConverted_mCurrentLockedBuffers, releaseConverted_mAcquiredBuffers]
      using hcnt
  have hi : s.findAcquiredBufferLocked (getLockedBufferId nb) < s.mAcquiredBuffers.length := by
    rw [s.acquired_length]; exact hfound
  have hu : (s.mAcquiredBuffers.getD (s.findAcquiredBufferLocked (getLockedBufferId nb)) .unused).inUse := by
    rw [hentry, inUse_iff]; exact hid0
  have hset := countP_set_inUse hi .unused
  rw [hu, unused_inUse] at hset
  have hdec := (unlockBuffer_counter hcnt h hst).2
  have hc : s.mCurrentLockedBuffers.toNat = _ := hcnt
  show r.state.mCurrentLockedBuffers.toNat = r.state.mAcquiredBuffers.countP _
  rw [hr, freeEntry_mAcquiredBuffers, releaseConverted_mAcquiredBuffers] at *
  simp only [if_true, Bool.false_eq_true, if_false] at hset
  omega

theorem consistent_step {c : Call} (hinv : Consistent s) (h : Step LockCall.Sound s c r) :
    Consistent r.state := by
  cases h with
  | lock hok hl => exact ⟨convertedOwned_lockNextBuffer hinv.owned hl, countExact_lockNextBuffer hinv hok hl⟩
  | unlock hu => exact ⟨convertedOwned_unlockBuffer hinv.owned hu, countExact_unlockBuffer hinv.count hu⟩

theorem consistent_of_reachable (h : Reachable LockCall.Sound N s) : Consistent s :=
  Reachable.induction ⟨convertedOwned_create N, countExact_create N⟩
    (fun _ _ _ hinv hs => consistent_step hinv hs) h

/-! ## The table and its counter, over every run -/

/-- In every state reached under `LockCall.Sound`, the counter is the number of entries in use
and at most `mMaxLockedBuffers`; when the counter allows a lock, the search for an unused entry
stays inside the table, and so does every index a lock uses into it; an unlock that succeeds
finds the counter positive and lowers it by exactly one. -/
theorem currentLocked_eq_count_inUse (h : Reachable LockCall.Sound N s) :
    s.mCurrentLockedBuffers.toNat = s.mAcquiredBuffers.countP AcquiredBuffer.inUse ∧
    s.mCurrentLockedBuffers.toNat ≤ s.mMaxLockedBuffers.toNat ∧
    (s.mCurrentLockedBuffers ≠ s.mMaxLockedBuffers →
      s.findAcquiredBufferLocked kUnusedId < s.mMaxLockedBuffers.toNat) ∧
    (∀ call r, s.lockNextBuffer call = some r →
      ∀ a ∈ r.accesses, a.region = .acquiredBuffers → a.InBounds) ∧
    (∀ nb ucall r, s.unlockBuffer nb ucall = some r → r.status = .ok →
      1 ≤ s.mCurrentLockedBuffers.toNat ∧
        r.state.mCurrentLockedBuffers.toNat + 1 = s.mCurrentLockedBuffers.toNat) := by
  have hinv := consistent_of_reachable h
  refine ⟨hinv.count, hinv.count.le, hinv.count.findUnused_lt, fun call r hl a ha hreg => ?_,
    fun nb ucall r hu hst => unlockBuffer_counter hinv.count hu hst⟩
  obtain ⟨hne, hacq, -⟩ := lockNextBuffer_accesses hl a ha
  obtain ⟨hidx, hsize⟩ := hacq hreg
  show a.index < a.size
  rw [hidx, hsize]
  exact hinv.count.findUnused_lt hne

theorem currentLocked_eq_count_inUse_rgba :
    Reachable LockCall.Sound 1 rgbaLocked.state ∧
    (rgbaLocked.state.mCurrentLockedBuffers.toNat =
      rgbaLocked.state.mAcquiredBuffers.countP AcquiredBuffer.inUse ∧
    rgbaLocked.state.mCurrentLockedBuffers.toNat ≤ rgbaLocked.state.mMaxLockedBuffers.toNat ∧
    (rgbaLocked.state.mCurrentLockedBuffers ≠ rgbaLocked.state.mMaxLockedBuffers →
      rgbaLocked.state.findAcquiredBufferLocked kUnusedId < rgbaLocked.state.mMaxLockedBuffers.toNat) ∧
    (∀ call r, rgbaLocked.state.lockNextBuffer call = some r →
      ∀ a ∈ r.accesses, a.region = .acquiredBuffers → a.InBounds) ∧
    (∀ nb ucall r, rgbaLocked.state.unlockBuffer nb ucall = some r → r.status = .ok →
      1 ≤ rgbaLocked.state.mCurrentLockedBuffers.toNat ∧
        r.state.mCurrentLockedBuffers.toNat + 1 = rgbaLocked.state.mCurrentLockedBuffers.toNat)) :=
  have hreach : Reachable LockCall.Sound 1 rgbaLocked.state :=
    ⟨_, .cons (.lock (by unfold LockCall.Sound; decide)
      (rfl : (create 1).lockNextBuffer rgbaLock = some rgbaLocked)) (.nil _)⟩
  ⟨hreach, currentLocked_eq_count_inUse hreach⟩

end FrameworksNative
