import FrameworksNative.Pool

/-!
# The buffer-queue slots the consumer holds

`acquireBufferLocked` hands the consumer a slot of the queue, `releaseBufferLocked` gives it
back. The ghost `heldSlots` records the slots held. A lock that fails after its acquire keeps
its slot without locking it (`failedLockSlot`). Along every run from the constructor the slots
held are exactly those of the locked buffers (`lockedSlots`) and those of the run's failed
locks: the slots no locked buffer accounts for (`leakedSlots`) are those of the failed locks,
and none of them is ever given back. So an unlock releases a slot it holds, never one it gave
back already.
-/

namespace FrameworksNative

open CpuConsumer

/-- The queue slot and buffer an entry in use holds. -/
def AcquiredBuffer.heldSlot (ab : AcquiredBuffer) : Option (Int × GraphicBuffer) :=
  if ab.inUse then ab.mGraphicBuffer.map (ab.mSlot, ·) else none

/-- The queue slots of the locked buffers, with multiplicity. -/
def lockedSlots (l : List AcquiredBuffer) : Multiset (Int × GraphicBuffer) :=
  l.filterMap AcquiredBuffer.heldSlot

/-- The slots held from the queue that no locked buffer accounts for. -/
def leakedSlots (s : CpuConsumer) : Multiset (Int × GraphicBuffer) :=
  (s.heldSlots : Multiset (Int × GraphicBuffer)) - lockedSlots s.mAcquiredBuffers

/-- The slot a call from `s` acquired and did not lock: that of a lock that got past the caller
and counter checks, whose `acquireBufferLocked` succeeded, and that then failed. -/
def failedLockSlot (s : CpuConsumer) : Call × Result → Multiset (Int × GraphicBuffer)
  | (.lock call, r) =>
    if call.nativeBuffer = true ∧ s.mCurrentLockedBuffers ≠ s.mMaxLockedBuffers ∧
        call.acquireStatus = .ok ∧ r.status ≠ .ok
    then {(call.acquired.mSlot, call.graphicBuffer)} else 0
  | (.unlock _ _, _) => 0

/-- The slots the failed locks of a trace from `s` acquired. -/
def failedLockSlots (s : CpuConsumer) : List (Call × Result) → Multiset (Int × GraphicBuffer)
  | [] => 0
  | x :: trace => failedLockSlot s x + failedLockSlots x.2.state trace

variable {l : List AcquiredBuffer} {i : Nat}

@[simp] lemma unused_heldSlot : AcquiredBuffer.unused.heldSlot = none := rfl

lemma filterMap_set_trade {α : Type} (f : AcquiredBuffer → Option α) (hi : i < l.length)
    (ab : AcquiredBuffer) :
    ((l.set i ab).filterMap f : Multiset α) + ((f (l.getD i .unused)).toList : Multiset α) =
      (l.filterMap f : Multiset α) + ((f ab).toList : Multiset α) := by
  have hl : l = l.take i ++ l[i] :: l.drop (i + 1) := by
    rw [← List.drop_eq_getElem_cons hi, List.take_append_drop]
  have hcons (x : AcquiredBuffer) (t : List AcquiredBuffer) :
      ((x :: t).filterMap f : Multiset α) = ((f x).toList : Multiset α) + (t.filterMap f : Multiset α) := by
    cases h : f x <;> simp [List.filterMap_cons, h]
  rw [List.set_eq_take_append_cons_drop, if_pos hi, List.getD_eq_getElem _ _ hi]
  conv_rhs => rw [hl]
  simp only [List.filterMap_append, ← Multiset.coe_add, hcons]
  abel

lemma lockedSlots_set (hi : i < l.length) (ab : AcquiredBuffer) :
    lockedSlots (l.set i ab) + ((l.getD i .unused).heldSlot.toList : Multiset _) =
      lockedSlots l + (ab.heldSlot.toList : Multiset _) :=
  filterMap_set_trade _ hi ab

lemma card_lockedSlots (hb : HoldsBuffers l) :
    Multiset.card (lockedSlots l) = l.countP AcquiredBuffer.inUse := by
  rw [lockedSlots, Multiset.coe_card, List.length_filterMap_eq_countP]
  refine List.countP_congr fun ab hab => ?_
  obtain ⟨i, hi, rfl⟩ := List.mem_iff_getElem.1 hab
  have hgb := hb i
  rw [List.getD_eq_getElem _ _ hi] at hgb
  unfold AcquiredBuffer.heldSlot
  cases hu : l[i].inUse
  · simp
  · simpa [hu] using hgb

lemma lockedSlots_create (N : UInt64) : lockedSlots (create N).mAcquiredBuffers = 0 := by
  simp [create, lockedSlots, List.filterMap_replicate]

section Steps

variable {s : CpuConsumer} {call : LockCall} {nb : LockedBuffer} {ucall : UnlockCall} {r : Result}

lemma coe_append_singleton (H : List (Int × GraphicBuffer)) (x : Int × GraphicBuffer) :
    ((H ++ [x] : List _) : Multiset _) = (H : Multiset _) + {x} := by
  rw [← Multiset.coe_add, Multiset.coe_singleton]

lemma coe_erase_slot (H : List (Int × GraphicBuffer)) (x : Int × GraphicBuffer) :
    ((H.erase x : List _) : Multiset _) = (H : Multiset _) - ({x} : Multiset _) := by
  rw [Multiset.sub_singleton, Multiset.coe_erase]
  congr
  exact @lawful_beq_subsingleton (Int × GraphicBuffer) _ _ Prod.instLawfulBEq instLawfulBEq

/-- What a lock does to the locked slots: it adds the acquired one when it succeeds. -/
lemma lockedSlots_lockNextBuffer (hinv : Consistent s) (hok : LockCall.Sound s call)
    (h : s.lockNextBuffer call = some r) :
    lockedSlots r.state.mAcquiredBuffers = lockedSlots s.mAcquiredBuffers +
      if r.status = .ok then {(call.acquired.mSlot, call.graphicBuffer)} else 0 := by
  by_cases hst : r.status = .ok
  swap
  · rw [if_neg hst, add_zero, (lockNextBuffer_failure h hst).1]
  rcases lockNextBuffer_cases h with ⟨hne, -⟩ | ⟨hne, -⟩ | ⟨nb, s₂, acc, hne, hl, rfl⟩
  · exact absurd hst hne
  · exact absurd hst hne
  obtain ⟨htab, -, -, -⟩ := lockBufferItem_frame hl
  obtain ⟨hw, hh, hp⟩ := hok
  have h₁ : ConvertedOwned (s.recordAcquire call) := hinv.owned
  have hdata := lockBufferItem_data_ne (h₁.size_eq_zero (inUse_findUnused _)) hw hh hp hl
  have hi : s.findAcquiredBufferLocked kUnusedId < s.mAcquiredBuffers.length := by
    rw [s.acquired_length]; exact hinv.count.findUnused_lt hne
  have hset := lockedSlots_set hi ⟨call.acquired.mSlot, some call.graphicBuffer, nb.data⟩
  have hfree : (s.mAcquiredBuffers.getD (s.findAcquiredBufferLocked kUnusedId) .unused).heldSlot = none := by
    rw [AcquiredBuffer.heldSlot, inUse_findUnused, if_neg Bool.false_ne_true]
  have hnew : (⟨call.acquired.mSlot, some call.graphicBuffer, nb.data⟩ : AcquiredBuffer).heldSlot =
      some (call.acquired.mSlot, call.graphicBuffer) := by
    rw [AcquiredBuffer.heldSlot, if_pos ((inUse_iff _).2 hdata)]; rfl
  rw [hfree, hnew] at hset
  simp only [Option.toList_none, Option.toList_some, Multiset.coe_nil, add_zero, Multiset.coe_singleton] at hset
  rw [if_pos rfl, lockEntry_mAcquiredBuffers, htab, lockBufferItem_findAcquiredBufferLocked hl]
  exact hset

/-- A lock keeps the held slots those of the locked buffers and `L`, and the slot it acquired
if it then failed. -/
lemma heldSlots_lockNextBuffer (hinv : Consistent s) (hok : LockCall.Sound s call)
    {L : Multiset (Int × GraphicBuffer)} (hH : (s.heldSlots : Multiset _) = lockedSlots s.mAcquiredBuffers + L)
    (h : s.lockNextBuffer call = some r) :
    (r.state.heldSlots : Multiset _) = lockedSlots r.state.mAcquiredBuffers + L + failedLockSlot s (.lock call, r) := by
  rcases lockNextBuffer_acquired h with ⟨h1, h2, h3, hheld⟩ | ⟨-, hr, hc⟩
  · rw [lockedSlots_lockNextBuffer hinv hok h, hheld, coe_append_singleton, hH]
    by_cases hst : r.status = .ok
    · rw [if_pos hst, show failedLockSlot s (.lock call, r) = 0 from if_neg fun h' => h'.2.2.2 hst]
      abel
    · rw [if_neg hst, show failedLockSlot s (.lock call, r) = {(call.acquired.mSlot, call.graphicBuffer)}
        from if_pos ⟨h1, h2, h3, hst⟩]
      abel
  · rw [show failedLockSlot s (.lock call, r) = 0 from if_neg fun h' => hc ⟨h'.1, h'.2.1, h'.2.2.1⟩,
      add_zero, hr, hH]

/-- A successful unlock releases the slot of the entry it frees, which it held and had locked. -/
lemma unlockBuffer_slots (hheld : lockedSlots s.mAcquiredBuffers ≤ s.heldSlots)
    (h : s.unlockBuffer nb ucall = some r)
    (hst : r.status = .ok) :
    ∃ x ∈ lockedSlots s.mAcquiredBuffers, x ∈ s.heldSlots ∧
      r.state.heldSlots = s.heldSlots.erase x ∧
      lockedSlots r.state.mAcquiredBuffers + {x} = lockedSlots s.mAcquiredBuffers := by
  rcases unlockBuffer_cases h with ⟨hbad, -⟩ | ⟨slot, gb, hid0, hfound, hentry, -, ⟨hne, hst', -⟩ | ⟨-, -, -, hr⟩⟩
  · exact absurd (hbad.symm.trans hst) (by decide)
  · exact absurd (hst'.symm.trans hst) hne
  have hi : s.findAcquiredBufferLocked (getLockedBufferId nb) < s.mAcquiredBuffers.length := by
    rw [s.acquired_length]; exact hfound
  have hset := lockedSlots_set hi .unused
  have hslot : (s.mAcquiredBuffers.getD (s.findAcquiredBufferLocked (getLockedBufferId nb)) .unused).heldSlot =
      some (slot, gb) := by
    rw [hentry, AcquiredBuffer.heldSlot, if_pos ((inUse_iff _).2 hid0)]; rfl
  rw [hslot, unused_heldSlot] at hset
  simp only [Option.toList_none, Option.toList_some, Multiset.coe_nil, add_zero, Multiset.coe_singleton] at hset
  have hmem : (slot, gb) ∈ lockedSlots s.mAcquiredBuffers := by
    rw [← hset]; exact Multiset.mem_add.2 (.inr (Multiset.mem_singleton_self _))
  refine ⟨(slot, gb), hmem, Multiset.mem_coe.1 (Multiset.mem_of_le hheld hmem), ?_, ?_⟩
  · rw [hr, freeEntry_heldSlots, releaseConverted_heldSlots]
  · rw [hr, freeEntry_mAcquiredBuffers, releaseConverted_mAcquiredBuffers]
    exact hset

/-- An unlock keeps the held slots those of the locked buffers and `L`: one that succeeds gives
back the slot it unlocks, any other changes neither. -/
lemma heldSlots_unlockBuffer {L : Multiset (Int × GraphicBuffer)}
    (hH : (s.heldSlots : Multiset _) = lockedSlots s.mAcquiredBuffers + L) (h : s.unlockBuffer nb ucall = some r) :
    (r.state.heldSlots : Multiset _) = lockedSlots r.state.mAcquiredBuffers + L := by
  by_cases hst : r.status = .ok
  · obtain ⟨x, -, -, hHr, hL⟩ := unlockBuffer_slots (hH ▸ Multiset.le_add_right _ _) h hst
    rw [hHr, coe_erase_slot, hH, ← hL, add_right_comm, add_tsub_cancel_right]
  · obtain ⟨htab, -, hheld, -⟩ := unlockBuffer_failure h hst
    rw [hheld, htab, hH]

lemma leakedSlots_unlockBuffer (hheld : lockedSlots s.mAcquiredBuffers ≤ s.heldSlots)
    (h : s.unlockBuffer nb ucall = some r) : leakedSlots r.state = leakedSlots s := by
  rw [leakedSlots, heldSlots_unlockBuffer (add_tsub_cancel_of_le hheld).symm h, add_tsub_cancel_left]
  rfl

lemma heldSlots_step {c : Call} (hinv : Consistent s) {L : Multiset (Int × GraphicBuffer)}
    (hH : (s.heldSlots : Multiset _) = lockedSlots s.mAcquiredBuffers + L) (h : Step LockCall.Sound s c r) :
    (r.state.heldSlots : Multiset _) = lockedSlots r.state.mAcquiredBuffers + L + failedLockSlot s (c, r) := by
  cases h with
  | lock hok hl => exact heldSlots_lockNextBuffer hinv hok hH hl
  | unlock hu => exact (heldSlots_unlockBuffer hH hu).trans (add_zero _).symm

/-- Along a run under `LockCall.Sound`, the held slots beyond the locked ones grow by the slots
of the run's failed locks, and by nothing else. -/
lemma heldSlots_run {s' : CpuConsumer} {trace : List (Call × Result)} (hinv : Consistent s)
    {L : Multiset (Int × GraphicBuffer)} (hH : (s.heldSlots : Multiset _) = lockedSlots s.mAcquiredBuffers + L)
    (hrun : Run LockCall.Sound s trace s') :
    (s'.heldSlots : Multiset _) = lockedSlots s'.mAcquiredBuffers + L + failedLockSlots s trace := by
  induction hrun generalizing L with
  | nil => rw [failedLockSlots, add_zero]; exact hH
  | cons hstep _ ih =>
    rw [ih (consistent_step hinv hstep) ((heldSlots_step hinv hH hstep).trans (add_assoc _ _ _)),
      failedLockSlots]
    abel

lemma failedLockSlots_append {ok : CpuConsumer → LockCall → Prop} {s' : CpuConsumer}
    {t₁ : List (Call × Result)} (hrun : Run ok s t₁ s') (t₂ : List (Call × Result)) :
    failedLockSlots s (t₁ ++ t₂) = failedLockSlots s t₁ + failedLockSlots s' t₂ := by
  induction hrun with
  | nil => rw [List.nil_append, failedLockSlots, zero_add]
  | cons _ _ ih => rw [List.cons_append, failedLockSlots, failedLockSlots, ih, add_assoc]

lemma heldSlots_of_run {N : UInt64} {trace : List (Call × Result)}
    (hrun : Run LockCall.Sound (create N) trace s) :
    (s.heldSlots : Multiset _) = lockedSlots s.mAcquiredBuffers + failedLockSlots (create N) trace := by
  have h := heldSlots_run ⟨convertedOwned_create N, countExact_create N⟩
    (L := 0) (by rw [lockedSlots_create]; rfl) hrun
  rwa [add_zero] at h

lemma lockedSlots_le_heldSlots {N : UInt64} (h : Reachable LockCall.Sound N s) :
    lockedSlots s.mAcquiredBuffers ≤ s.heldSlots :=
  let ⟨_, hrun⟩ := h
  heldSlots_of_run hrun ▸ Multiset.le_add_right _ _

/-- An unlock that succeeds gives back to the queue a slot the consumer holds, that of a
locked buffer: `releaseBufferLocked` never gets a slot it was given already. -/
theorem unlockBuffer_releases_held_slot {N : UInt64} (h : Reachable LockCall.Sound N s)
    (hu : s.unlockBuffer nb ucall = some r) (hst : r.status = .ok) :
    ∃ x ∈ s.heldSlots, x ∈ lockedSlots s.mAcquiredBuffers ∧ r.state.heldSlots = s.heldSlots.erase x ∧
      r.state.heldSlots.length + 1 = s.heldSlots.length := by
  obtain ⟨x, hxL, hxH, hH, -⟩ := unlockBuffer_slots (lockedSlots_le_heldSlots h) hu hst
  have hpos := List.length_pos_of_mem hxH
  refine ⟨x, hxH, hxL, hH, ?_⟩
  rw [hH, List.length_erase_of_mem hxH]
  omega

theorem unlockBuffer_releases_held_slot_rgba :
    Reachable LockCall.Sound 1 rgbaLocked.state ∧
    ∃ r, rgbaLocked.state.unlockBuffer rgbaBuffer ⟨.ok⟩ = some r ∧ r.status = .ok ∧
      ∃ x ∈ rgbaLocked.state.heldSlots, x ∈ lockedSlots rgbaLocked.state.mAcquiredBuffers ∧
        r.state.heldSlots = rgbaLocked.state.heldSlots.erase x ∧
        r.state.heldSlots.length + 1 = rgbaLocked.state.heldSlots.length :=
  have hreach : Reachable LockCall.Sound 1 rgbaLocked.state :=
    ⟨[(.lock rgbaLock, rgbaLocked)], .cons (.lock (by unfold LockCall.Sound; decide) rfl) (.nil _)⟩
  have hu : rgbaLocked.state.unlockBuffer rgbaBuffer ⟨.ok⟩ = _ := rfl
  ⟨hreach, _, hu, rfl, unlockBuffer_releases_held_slot hreach hu rfl⟩

/-- Along every run from the constructor under `LockCall.Sound`, followed by any run: the
slots held are those of the locked buffers and those of the failed locks of the whole trace, one
per locked buffer as the counter counts them and one per failed lock; the leaked slots are
exactly those of the failed locks; and no slot a failed lock of the first run acquired is ever
given back. -/
theorem leakedSlots_never_released {N : UInt64} {s₁ s₂ : CpuConsumer} {t₁ t₂ : List (Call × Result)}
    (h₁ : Run LockCall.Sound (create N) t₁ s₁) (h₂ : Run LockCall.Sound s₁ t₂ s₂) :
    (s₂.heldSlots : Multiset _) = lockedSlots s₂.mAcquiredBuffers + failedLockSlots (create N) (t₁ ++ t₂) ∧
    s₂.heldSlots.length = s₂.mCurrentLockedBuffers.toNat + Multiset.card (failedLockSlots (create N) (t₁ ++ t₂)) ∧
    leakedSlots s₂ = failedLockSlots (create N) (t₁ ++ t₂) ∧
    failedLockSlots (create N) t₁ ≤ leakedSlots s₂ := by
  have hrun := h₁.append h₂
  have hH := heldSlots_of_run hrun
  have hreach : Reachable LockCall.Sound N s₂ := ⟨_, hrun⟩
  have hleak : leakedSlots s₂ = failedLockSlots (create N) (t₁ ++ t₂) := by
    rw [leakedSlots, hH, add_tsub_cancel_left]
  refine ⟨hH, ?_, hleak, ?_⟩
  · rw [← Multiset.coe_card, hH, Multiset.card_add, card_lockedSlots (holdsBuffers_of_reachable hreach),
      ← (consistent_of_reachable hreach).count]
  · rw [hleak, failedLockSlots_append h₁]
    exact Multiset.le_add_right _ _

/-- A lock of `unmappableLock` from a fresh consumer leaks its slot. -/
theorem leakedSlots_never_released_unmappable :
    ∃ r, (create 1).lockNextBuffer unmappableLock = some r ∧
      Run LockCall.Sound (create 1) [(.lock unmappableLock, r)] r.state ∧ Run LockCall.Sound r.state [] r.state ∧
      (r.state.heldSlots : Multiset _) =
        lockedSlots r.state.mAcquiredBuffers + failedLockSlots (create 1) ([(.lock unmappableLock, r)] ++ []) ∧
      r.state.heldSlots.length = r.state.mCurrentLockedBuffers.toNat +
        Multiset.card (failedLockSlots (create 1) ([(.lock unmappableLock, r)] ++ [])) ∧
      leakedSlots r.state = failedLockSlots (create 1) ([(.lock unmappableLock, r)] ++ []) ∧
      failedLockSlots (create 1) [(.lock unmappableLock, r)] ≤ leakedSlots r.state :=
  have hl : (create 1).lockNextBuffer unmappableLock = _ := rfl
  have hrun : Run LockCall.Sound (create 1) [(.lock unmappableLock, _)] _ :=
    .cons (.lock (by unfold LockCall.Sound; decide) hl) (.nil _)
  ⟨_, hl, hrun, .nil _, leakedSlots_never_released hrun (.nil _)⟩

end Steps

end FrameworksNative
