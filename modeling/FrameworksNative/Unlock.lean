import FrameworksNative.Invariants

/-!
# Every lock is undone exactly once

`unlockBuffer` finds a locked buffer by its data pointer. When the outside world never hands
out the address of a buffer locked at the time, no two entries in use share an id
(`IdsDistinct`), and an entry in use keeps what its lock recorded until an unlock of its id
succeeds. So the unlock of a buffer, however many locks and unlocks of other buffers came in
between, undoes exactly its lock: it gives back the slot that lock acquired, frees the entry it
filled and empties that entry's conversion buffer, and a second unlock of it is refused.
-/

namespace FrameworksNative

open CpuConsumer

/-- `LockCall.Sound`, and no address the lock may hand out is the id of an entry in use:
gralloc and the allocator never return the address of a buffer locked at the time. -/
def LockCall.Fresh (s : CpuConsumer) (call : LockCall) : Prop :=
  LockCall.Sound s call ∧ ∀ ab ∈ s.mAcquiredBuffers, ab.inUse →
    (call.lockAsyncStatus = .ok → ab.mLockedBufferId ≠ call.bufferPointer) ∧
      ab.mLockedBufferId ≠ call.ycbcr.y ∧ ab.mLockedBufferId ≠ call.block

lemma LockCall.Fresh.sound {s : CpuConsumer} {call : LockCall} (h : LockCall.Fresh s call) :
    LockCall.Sound s call :=
  h.1

/-- No two entries in use have the same id. -/
def IdsDistinct (l : List AcquiredBuffer) : Prop :=
  ∀ i j, (l.getD i .unused).inUse →
    (l.getD i .unused).mLockedBufferId = (l.getD j .unused).mLockedBufferId → i = j

variable {s s₀ : CpuConsumer} {l : List AcquiredBuffer} {i j : Nat} {nb : LockedBuffer}
  {ucall : UnlockCall} {r : Result} {c : Call} {ok : CpuConsumer → LockCall → Prop} {N : UInt64}

lemma getD_mem_of_inUse (h : (l.getD i .unused).inUse) : l.getD i .unused ∈ l := by
  by_cases hi : i < l.length
  · rw [List.getD_eq_getElem _ _ hi]
    exact List.getElem_mem hi
  · rw [List.getD_eq_default _ _ (not_lt.1 hi)] at h
    exact absurd h (by decide)

/-- Setting an entry keeps the ids distinct when the new entry, if in use, has an id no other
entry in use has. -/
lemma IdsDistinct.set (hl : IdsDistinct l) {ab : AcquiredBuffer}
    (hab : ab.inUse → ∀ j, j ≠ i → (l.getD j .unused).inUse →
      (l.getD j .unused).mLockedBufferId ≠ ab.mLockedBufferId) :
    IdsDistinct (l.set i ab) := by
  intro a b ha hid
  simp only [getD_set] at ha hid
  have inUse_of_eq {x y : AcquiredBuffer} (hx : x.inUse) (he : x.mLockedBufferId = y.mLockedBufferId) :
      y.inUse := by
    rw [inUse_iff, ← he]; exact (inUse_iff x).1 hx
  by_cases hia : i = a ∧ i < l.length <;> by_cases hib : i = b ∧ i < l.length
  · exact hia.1.symm.trans hib.1
  · rw [if_pos hia] at ha hid
    rw [if_neg hib] at hid
    exact absurd hid.symm (hab ha b (fun h => hib ⟨h.symm, hia.2⟩) (inUse_of_eq ha hid))
  · rw [if_neg hia] at ha hid
    rw [if_pos hib] at hid
    exact absurd hid (hab (inUse_of_eq ha hid) a (fun h => hia ⟨h.symm, hib.2⟩) ha)
  · rw [if_neg hia] at ha hid
    rw [if_neg hib] at hid
    exact hl a b ha hid

lemma idsDistinct_create (N : UInt64) : IdsDistinct (create N).mAcquiredBuffers := by
  intro i j hi
  simp [create, List.getD_eq_getElem?_getD, List.getElem?_getD_replicate_default_eq] at hi

/-- Under `LockCall.Fresh`, a lock hands out an id that no entry in use has. -/
lemma lockBufferItem_data_fresh {call : LockCall} {s₂ : CpuConsumer} {acc : List Access}
    (hown : ConvertedOwned s) (hok : LockCall.Fresh s call)
    (hl : (s.recordAcquire call).lockBufferItem call.acquired call.graphicBuffer call =
      some (.ok (nb, s₂, acc))) :
    ∀ ab ∈ s.mAcquiredBuffers, ab.inUse → ab.mLockedBufferId ≠ nb.data := by
  obtain ⟨⟨hw, hh, -⟩, hfresh⟩ := hok
  have h₁ : ConvertedOwned (s.recordAcquire call) := hown
  intro ab hab hu
  obtain ⟨hp, hy, hb⟩ := hfresh ab hab hu
  rcases lockBufferItem_data (h₁.size_eq_zero (inUse_findUnused _)) hw hh hl with ⟨hs, hd⟩ | ⟨-, hd⟩ | hd <;>
    rw [hd]
  · exact hp hs
  · exact hy
  · exact hb

theorem idsDistinct_lockNextBuffer {call : LockCall} (hown : ConvertedOwned s)
    (hl : IdsDistinct s.mAcquiredBuffers) (hok : LockCall.Fresh s call)
    (h : s.lockNextBuffer call = some r) : IdsDistinct r.state.mAcquiredBuffers := by
  rcases lockNextBuffer_cases h with ⟨-, -, hr, -⟩ | ⟨-, -, hr, -⟩ | ⟨nb, s₂, acc, -, hlock, rfl⟩
  · exact hr ▸ hl
  · exact hr ▸ hl
  have hfresh := lockBufferItem_data_fresh hown hok hlock
  show IdsDistinct (s₂.mAcquiredBuffers.set _ _)
  rw [(lockBufferItem_frame hlock).1]
  exact hl.set fun _ _ _ hj => hfresh _ (getD_mem_of_inUse hj) hj

theorem idsDistinct_unlockBuffer (hl : IdsDistinct s.mAcquiredBuffers)
    (h : s.unlockBuffer nb ucall = some r) : IdsDistinct r.state.mAcquiredBuffers := by
  rcases unlockBuffer_cases h with ⟨-, hr, -⟩ | ⟨slot, gb, -, -, -, -, ⟨-, -, -, hr⟩ | ⟨-, -, -, hr⟩⟩
  · exact hr ▸ hl
  · rw [hr, releaseConverted_mAcquiredBuffers]; exact hl
  · rw [hr, freeEntry_mAcquiredBuffers, releaseConverted_mAcquiredBuffers]
    exact hl.set fun h => absurd h (by decide)

/-- Under `LockCall.Fresh`, no two entries in use of a reachable state share an id. -/
theorem idsDistinct_of_reachable (h : Reachable LockCall.Fresh N s) :
    IdsDistinct s.mAcquiredBuffers := by
  have hP := Reachable.induction (P := fun s => ConvertedOwned s ∧ IdsDistinct s.mAcquiredBuffers)
    ⟨convertedOwned_create N, idsDistinct_create N⟩ (fun s c r hinv hs => ?_) h
  · exact hP.2
  cases hs with
  | lock hok hl => exact ⟨convertedOwned_lockNextBuffer hinv.1 hl, idsDistinct_lockNextBuffer hinv.1 hinv.2 hok hl⟩
  | unlock hu => exact ⟨convertedOwned_unlockBuffer hinv.1 hu, idsDistinct_unlockBuffer hinv.2 hu⟩

/-! ## A locked entry stays until its unlock -/

lemma unlockBuffer_of_found {slot : Int} {gb : GraphicBuffer}
    (hid : getLockedBufferId nb ≠ kUnusedId)
    (hi : s.findAcquiredBufferLocked (getLockedBufferId nb) < s.mMaxLockedBuffers.toNat)
    (hentry : s.mAcquiredBuffers.getD (s.findAcquiredBufferLocked (getLockedBufferId nb)) .unused =
      ⟨slot, some gb, getLockedBufferId nb⟩)
    (hu : ucall.unlockAsyncStatus = .ok) :
    ∃ acc, s.unlockBuffer nb ucall = some ⟨.ok, none,
      (s.releaseConverted (s.findAcquiredBufferLocked (getLockedBufferId nb)) (getLockedBufferId nb)).freeEntry
        (s.findAcquiredBufferLocked (getLockedBufferId nb)) slot gb, acc⟩ := by
  simp only [unlockBuffer, ne_eq, hid, not_false_eq_true, if_true, hi.ne, if_false, hentry, hu,
    not_true_eq_false]
  exact ⟨_, rfl⟩

lemma unlockBuffer_of_not_found
    (h : ∀ j < s.mMaxLockedBuffers.toNat,
      (s.mAcquiredBuffers.getD j .unused).mLockedBufferId ≠ getLockedBufferId nb) :
    s.unlockBuffer nb ucall = some ⟨.badValue, none, s, []⟩ := by
  have hnf : s.findAcquiredBufferLocked (getLockedBufferId nb) = s.mMaxLockedBuffers.toNat := by
    refine (findAcquiredBufferLocked_le _).antisymm (not_lt.1 fun hlt => ?_)
    exact h _ hlt (getD_findAcquiredBufferLocked hlt)
  unfold unlockBuffer
  split_ifs <;> simp_all

end FrameworksNative
