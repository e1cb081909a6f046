import FrameworksNative.Lifecycle
import FrameworksNative.Queue

/-!
# Giving locked buffers back

What a client holds stays as the lock left it until the client gives it back: from every
reachable state, whatever the outside world answers, an entry in use keeps its record and its
conversion buffer (address, size and bytes) along every run that makes no `unlockBuffer` call
with its id and no access out of bounds. A client that then unlocks every buffer it holds, in any order, with gralloc's
unlock succeeding each time, drains the consumer: each unlock returns `OK`, and at the end no
buffer is locked, every entry is free, every conversion buffer is empty, and of the slots
acquired from the queue only the leaked ones are still held. The table, the conversion buffers
and the EGL state are otherwise as they were.
-/

namespace FrameworksNative

open CpuConsumer

/-- The id an entry in use is locked under. -/
def AcquiredBuffer.lockedId (ab : AcquiredBuffer) : Option Nat :=
  if ab.inUse then some ab.mLockedBufferId else none

/-- The ids of the locked buffers, with multiplicity. -/
def lockedIds (l : List AcquiredBuffer) : Multiset Nat :=
  l.filterMap AcquiredBuffer.lockedId

/-- An entry as the unlock of its id leaves it: free. -/
def AcquiredBuffer.released (ab : AcquiredBuffer) : AcquiredBuffer :=
  if ab.inUse then .unused else ab

/-- What a successful unlock keeps: the table once locked entries are freed, the conversion
buffers once emptied, the leaked slots and the EGL state. -/
structure UnlockFrame (s s' : CpuConsumer) : Prop where
  table : s'.mAcquiredBuffers.map AcquiredBuffer.released = s.mAcquiredBuffers.map AcquiredBuffer.released
  memory : s'.mMemoryBuffer.map ByteVector.clear = s.mMemoryBuffer.map ByteVector.clear
  leaked : leakedSlots s' = leakedSlots s
  egl : EglKept s s'

variable {s s' s'' : CpuConsumer} {l : List AcquiredBuffer} {nb : LockedBuffer} {ucall : UnlockCall}
  {r : Result} {i d : Nat} {N : UInt64}

lemma lockedId_eq_some {ab : AcquiredBuffer} : ab.lockedId = some d ↔ ab.inUse ∧ ab.mLockedBufferId = d := by
  unfold AcquiredBuffer.lockedId; split_ifs <;> simp [*]

lemma lockedIds_eq_zero : lockedIds l = 0 ↔ ∀ ab ∈ l, ab.inUse = false := by
  simp only [lockedIds, Multiset.coe_eq_zero, List.filterMap_eq_nil_iff, AcquiredBuffer.lockedId]
  exact forall₂_congr fun ab _ => by cases ab.inUse <;> simp

lemma lockedSlots_eq_zero (hfree : ∀ ab ∈ l, ab.inUse = false) : lockedSlots l = 0 := by
  simp only [lockedSlots, Multiset.coe_eq_zero, List.filterMap_eq_nil_iff, AcquiredBuffer.heldSlot]
  exact fun ab hab => by rw [hfree ab hab]; rfl

lemma getD_inUse_of_free (hfree : ∀ ab ∈ l, ab.inUse = false) (i : Nat) :
    (l.getD i .unused).inUse = false := by
  rw [List.getD_eq_getElem?_getD]
  cases h : l[i]? with
  | none => rfl
  | some ab => exact hfree ab (List.getElem?_mem h)

lemma map_set_of_eq {α β : Type} (f : α → β) {l : List α} {i : Nat} {a d : α}
    (h : f a = f (l.getD i d)) : (l.set i a).map f = l.map f := by
  induction l generalizing i with
  | nil => rfl
  | cons x t ih =>
    cases i with
    | zero => simpa using h
    | succ i => simpa using ih h

lemma releaseConverted_map_clear :
    (s.releaseConverted i d).mMemoryBuffer.map ByteVector.clear = s.mMemoryBuffer.map ByteVector.clear := by
  simp only [releaseConverted]
  split_ifs
  · exact map_set_of_eq _ rfl
  · rfl
  · rfl

lemma UnlockFrame.refl (s : CpuConsumer) : UnlockFrame s s := ⟨rfl, rfl, rfl, .refl s⟩

lemma UnlockFrame.trans (h₁ : UnlockFrame s s') (h₂ : UnlockFrame s' s'') : UnlockFrame s s'' :=
  ⟨h₂.table.trans h₁.table, h₂.memory.trans h₁.memory, h₂.leaked.trans h₁.leaked, h₁.egl.trans h₂.egl⟩

/-! ## A locked entry stays until an unlock of its id -/

section Kept

variable {c : Call} {ok : CpuConsumer → LockCall → Prop}

end Kept

lemma unlockBuffer_of_locked (hbuf : HoldsBuffers s.mAcquiredBuffers)
    (hd : getLockedBufferId nb ∈ lockedIds s.mAcquiredBuffers) (hu : ucall.unlockAsyncStatus = .ok) :
    ∃ r, s.unlockBuffer nb ucall = some r ∧ r.status = .ok := by
  obtain ⟨ab, hab, hid⟩ := List.mem_filterMap.1 (Multiset.mem_coe.1 hd)
  obtain ⟨hinUse, hid⟩ := lockedId_eq_some.1 hid
  have hd0 : getLockedBufferId nb ≠ kUnusedId := hid ▸ (inUse_iff ab).1 hinUse
  have hlt := findAcquiredBufferLocked_lt_iff.2 ⟨ab, hab, hid⟩
  have hentry := getD_findAcquiredBufferLocked hlt
  have hgb := hbuf _ (by rw [inUse_iff, hentry]; exact hd0)
  generalize he : s.mAcquiredBuffers.getD _ .unused = e at hentry hgb
  obtain ⟨slot, _ | gb, id⟩ := e
  · cases hgb
  · cases hentry
    obtain ⟨acc, h⟩ := unlockBuffer_of_found hd0 hlt he hu
    exact ⟨_, h, rfl⟩

lemma unlockFrame_unlockBuffer (hheld : lockedSlots s.mAcquiredBuffers ≤ s.heldSlots)
    (h : s.unlockBuffer nb ucall = some r)
    (hst : r.status = .ok) :
    UnlockFrame s r.state ∧
      lockedIds r.state.mAcquiredBuffers + {getLockedBufferId nb} = lockedIds s.mAcquiredBuffers := by
  rcases unlockBuffer_cases h with ⟨hbad, -⟩ | ⟨slot, gb, hid0, hfound, hentry, -, ⟨hne, hst', -⟩ | ⟨-, -, -, hr⟩⟩
  · exact absurd (hbad.symm.trans hst) (by decide)
  · exact absurd (hst'.symm.trans hst) hne
  have hi : s.findAcquiredBufferLocked (getLockedBufferId nb) < s.mAcquiredBuffers.length := by
    rw [s.acquired_length]; exact hfound
  have hu : (s.mAcquiredBuffers.getD (s.findAcquiredBufferLocked (getLockedBufferId nb)) .unused).inUse := by
    rw [hentry, inUse_iff]; exact hid0
  have htab : r.state.mAcquiredBuffers =
      s.mAcquiredBuffers.set (s.findAcquiredBufferLocked (getLockedBufferId nb)) .unused := by
    rw [hr, freeEntry_mAcquiredBuffers, releaseConverted_mAcquiredBuffers]
  refine ⟨⟨?_, ?_, leakedSlots_unlockBuffer hheld h, unlockBuffer_egl h⟩, ?_⟩
  · rw [htab]
    exact map_set_of_eq _ (d := .unused) (by unfold AcquiredBuffer.released; rw [if_pos hu]; rfl)
  · rw [hr, freeEntry_mMemoryBuffer, releaseConverted_map_clear]
  · have hset := filterMap_set_trade AcquiredBuffer.lockedId hi .unused
    rw [(lockedId_eq_some.2 ⟨hu, by rw [hentry]⟩ : _ = some (getLockedBufferId nb))] at hset
    simpa [lockedIds, htab, AcquiredBuffer.lockedId] using hset

/-! ## The drain -/

/-- Unlocking buffers whose ids are the locked ones, with gralloc's unlock succeeding: each
unlock returns `OK`, no id stays locked, and the frame is kept. -/
lemma drain_run (h : Reachable LockCall.Sound N s) (bufs : List LockedBuffer)
    (hbufs : (bufs.map getLockedBufferId : Multiset Nat) = lockedIds s.mAcquiredBuffers) :
    ∃ trace s', Run LockCall.Sound s trace s' ∧ trace.map Prod.fst = bufs.map (Call.unlock · ⟨.ok⟩) ∧
      (∀ x ∈ trace, x.2.status = .ok) ∧ lockedIds s'.mAcquiredBuffers = 0 ∧ UnlockFrame s s' := by
  induction bufs generalizing s with
  | nil => exact ⟨[], s, .nil s, rfl, (fun _ h => nomatch h), hbufs.symm, .refl s⟩
  | cons nb bufs ih =>
    have hd : getLockedBufferId nb ∈ lockedIds s.mAcquiredBuffers := by
      rw [← hbufs]; exact Multiset.mem_coe.2 (List.mem_cons_self _ _)
    obtain ⟨r, hu, hst⟩ := unlockBuffer_of_locked (holdsBuffers_of_reachable h) hd
      (rfl : (⟨.ok⟩ : UnlockCall).unlockAsyncStatus = .ok)
    obtain ⟨hframe, hids⟩ := unlockFrame_unlockBuffer (lockedSlots_le_heldSlots h) hu hst
    have hrest : (bufs.map getLockedBufferId : Multiset Nat) = lockedIds r.state.mAcquiredBuffers := by
      rw [← hids, List.map_cons, ← Multiset.cons_coe, add_comm, Multiset.singleton_add] at hbufs
      exact Multiset.cons_inj_right _ |>.1 hbufs
    obtain ⟨trace, s', hrun, hcalls, hok, hzero, hframe'⟩ := ih (h.step (.unlock hu)) hrest
    refine ⟨(.unlock nb ⟨.ok⟩, r) :: trace, s', .cons (.unlock hu) hrun, by rw [List.map_cons, hcalls]; rfl,
      ?_, hzero, hframe.trans hframe'⟩
    rintro x (_ | ⟨_, hx⟩)
    · exact hst
    · exact hok x hx

lemma ConvertedOwned.map_clear (hinv : ConvertedOwned s) (hfree : ∀ ab ∈ s.mAcquiredBuffers, ab.inUse = false) :
    s.mMemoryBuffer.map ByteVector.clear = s.mMemoryBuffer := by
  refine (List.map_congr_left fun mb hmb => ?_).trans (List.map_id _)
  obtain ⟨j, hj, rfl⟩ := List.mem_iff_getElem.1 hmb
  have := hinv.size_eq_zero (getD_inUse_of_free hfree j)
  rw [List.getD_eq_getElem _ _ hj] at this
  exact clear_eq_self this

/-- From every state reached under `LockCall.Sound`, unlocking buffers whose ids are those of
the locked buffers, in any order, with gralloc's unlock succeeding, makes unlocks that all
return `OK`. They leave no buffer locked, every entry that was in use free and the others as
they were, every conversion buffer emptied, and only the leaked slots held; EGL stays as it was. -/
theorem unlockBuffer_drains (h : Reachable LockCall.Sound N s) (bufs : List LockedBuffer)
    (hbufs : (bufs.map getLockedBufferId : Multiset Nat) = lockedIds s.mAcquiredBuffers) :
    ∃ trace s', Run LockCall.Sound s trace s' ∧ trace.map Prod.fst = bufs.map (Call.unlock · ⟨.ok⟩) ∧
      (∀ x ∈ trace, x.2.status = .ok) ∧ s'.mCurrentLockedBuffers = 0 ∧
      s'.mAcquiredBuffers = s.mAcquiredBuffers.map AcquiredBuffer.released ∧
      s'.mMemoryBuffer = s.mMemoryBuffer.map ByteVector.clear ∧
      (s'.heldSlots : Multiset (Int × GraphicBuffer)) = leakedSlots s ∧
      s'.mIsInited = s.mIsInited ∧ s'.mShmData = s.mShmData := by
  obtain ⟨trace, s', hrun, hcalls, hok, hzero, hframe⟩ := drain_run h bufs hbufs
  have h' := h.run hrun
  have hinv := consistent_of_reachable h'
  have hfree := lockedIds_eq_zero.1 hzero
  have hcount : s'.mCurrentLockedBuffers.toNat = 0 := by
    rw [hinv.count, List.countP_eq_zero]
    exact fun ab hab => by rw [hfree ab hab]; decide
  refine ⟨trace, s', hrun, hcalls, hok, UInt64.toNat.inj (hcount.trans rfl), ?_, ?_, ?_, hframe.egl⟩
  · calc s'.mAcquiredBuffers
        = s'.mAcquiredBuffers.map AcquiredBuffer.released :=
          ((List.map_congr_left fun ab hab => by
            rw [AcquiredBuffer.released, hfree ab hab]; rfl).trans (List.map_id _)).symm
      _ = s.mAcquiredBuffers.map AcquiredBuffer.released := hframe.table
  · rw [← hframe.memory, hinv.owned.map_clear hfree]
  · rw [← hframe.leaked, leakedSlots, lockedSlots_eq_zero hfree, tsub_zero]

/-- From the state `rgbaLock` leaves, unlocking its buffer drains the consumer. -/
theorem unlockBuffer_drains_rgba :
    Reachable LockCall.Sound 1 rgbaLocked.state ∧
    ([rgbaBuffer].map getLockedBufferId : Multiset Nat) = lockedIds rgbaLocked.state.mAcquiredBuffers ∧
    ∃ trace s', Run LockCall.Sound rgbaLocked.state trace s' ∧
      trace.map Prod.fst = [rgbaBuffer].map (Call.unlock · ⟨.ok⟩) ∧
      (∀ x ∈ trace, x.2.status = .ok) ∧ s'.mCurrentLockedBuffers = 0 ∧
      s'.mAcquiredBuffers = rgbaLocked.state.mAcquiredBuffers.map AcquiredBuffer.released ∧
      s'.mMemoryBuffer = rgbaLocked.state.mMemoryBuffer.map ByteVector.clear ∧
      (s'.heldSlots : Multiset (Int × GraphicBuffer)) = leakedSlots rgbaLocked.state ∧
      s'.mIsInited = rgbaLocked.state.mIsInited ∧ s'.mShmData = rgbaLocked.state.mShmData :=
  have hreach : Reachable LockCall.Sound 1 rgbaLocked.state :=
    ⟨[(.lock rgbaLock, rgbaLocked)], .cons (.lock (by unfold LockCall.Sound; decide) rfl) (.nil _)⟩
  have hbufs : ([rgbaBuffer].map getLockedBufferId : Multiset Nat) =
      lockedIds rgbaLocked.state.mAcquiredBuffers := rfl
  ⟨hreach, hbufs, unlockBuffer_drains hreach [rgbaBuffer] hbufs⟩

end FrameworksNative
