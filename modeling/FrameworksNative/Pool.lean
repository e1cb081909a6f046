import Mathlib.Data.Finset.Card
import FrameworksNative.Unlock

/-!
# The consumer as a pool of loans

What `CpuConsumer` is for, stated without its table: it lends its client at most
`mMaxLockedBuffers` buffers at a time, each under an id that is never `kUnusedId` and that no
other outstanding loan has, and it takes a loan back by its id, refusing an id it has not lent.
`Pool` is that specification, with its invariants as fields, so that no pool breaks them.

The table refines the pool. Read the entries in use as loans (`loansOf`). Then, from every state
reached under `LockCall.Fresh`, each call is one pool operation: a lock that hands out a buffer
lends it, an unlock that succeeds takes it back, and every other outcome leaves the loans as
they were. An unlock the pool would refuse is refused, and no unlock dereferences an entry
without a buffer.
-/

namespace FrameworksNative

open CpuConsumer

/-- A buffer lent to the client: the id it is given back by, and the buffer-queue slot and
graphic buffer behind it. -/
structure Loan where
  id : Nat
  slot : Int
  buffer : GraphicBuffer
  deriving DecidableEq, Repr

/-- At most `capacity` loans, none under `kUnusedId`, no two under one id. -/
@[ext] structure Pool where
  capacity : Nat
  loans : Finset Loan
  card_le : loans.card ≤ capacity
  id_ne : ∀ l ∈ loans, l.id ≠ kUnusedId
  id_inj : ∀ l ∈ loans, ∀ l' ∈ loans, l.id = l'.id → l = l'

namespace Pool

/-- The pool of a consumer just made: nothing lent. -/
def empty (capacity : Nat) : Pool where
  capacity := capacity
  loans := ∅
  card_le := Nat.zero_le _
  id_ne := fun _ h => absurd h (Finset.not_mem_empty _)
  id_inj := fun _ h => absurd h (Finset.not_mem_empty _)

/-- `l` can be lent: there is room, and its id is neither `kUnusedId` nor that of an
outstanding loan. -/
def CanLend (P : Pool) (l : Loan) : Prop :=
  P.loans.card < P.capacity ∧ l.id ≠ kUnusedId ∧ ∀ l' ∈ P.loans, l'.id ≠ l.id

instance (P : Pool) (l : Loan) : Decidable (P.CanLend l) :=
  inferInstanceAs (Decidable (_ ∧ _ ∧ _))

/-- The pool with `l` lent as well. -/
def insertLoan (P : Pool) (l : Loan) (h : P.CanLend l) : Pool where
  capacity := P.capacity
  loans := insert l P.loans
  card_le := (Finset.card_insert_le _ _).trans h.1
  id_ne := Finset.forall_mem_insert _ _ _ |>.2 ⟨h.2.1, P.id_ne⟩
  id_inj := by
    simp only [Finset.mem_insert]
    rintro a (rfl | ha) b (rfl | hb) hab
    · rfl
    · exact absurd hab.symm (h.2.2 _ hb)
    · exact absurd hab (h.2.2 _ ha)
    · exact P.id_inj _ ha _ hb hab

/-- Lend `l`; refused unless it can be lent. -/
def lend (P : Pool) (l : Loan) : Option Pool :=
  if h : P.CanLend l then some (P.insertLoan l h) else none

/-- The pool without the loan under `d`. -/
def removeLoan (P : Pool) (d : Nat) : Pool where
  capacity := P.capacity
  loans := P.loans.filter (·.id ≠ d)
  card_le := (Finset.card_filter_le _ _).trans P.card_le
  id_ne := fun l hl => P.id_ne l (Finset.mem_filter.1 hl).1
  id_inj := fun l hl l' hl' => P.id_inj l (Finset.mem_filter.1 hl).1 l' (Finset.mem_filter.1 hl').1

/-- Take back the loan under `d`; refused when no loan has that id. -/
def giveBack (P : Pool) (d : Nat) : Option Pool :=
  if ∃ l ∈ P.loans, l.id = d then some (P.removeLoan d) else none

/-- What one call does to the loans. -/
inductive Event
  | lend (l : Loan)
  | giveBack (id : Nat)
  | refuse

/-- One event; `none` when the pool refuses it. -/
def apply (P : Pool) : Event → Option Pool
  | .lend l => P.lend l
  | .giveBack d => P.giveBack d
  | .refuse => some P

/-- Events one after another; `none` when the pool refuses one. -/
def applyAll (P : Pool) : List Event → Option Pool
  | [] => some P
  | e :: es => (P.apply e).bind fun P' => P'.applyAll es

variable {P P' : Pool} {l : Loan} {d : Nat}

lemma lend_of_canLend (h : P.CanLend l) : P.lend l = some (P.insertLoan l h) := dif_pos h

lemma giveBack_of_mem (hl : l ∈ P.loans) : P.giveBack l.id = some (P.removeLoan l.id) :=
  if_pos ⟨l, hl, rfl⟩

lemma card_insertLoan (h : P.CanLend l) : (P.insertLoan l h).loans.card = P.loans.card + 1 :=
  Finset.card_insert_of_not_mem fun hl => h.2.2 l hl rfl

lemma removeLoan_loans (hl : l ∈ P.loans) : (P.removeLoan l.id).loans = P.loans.erase l := by
  ext x
  simp only [removeLoan, Finset.mem_filter, Finset.mem_erase]
  constructor
  · rintro ⟨hx, hne⟩
    exact ⟨fun h => hne (h ▸ rfl), hx⟩
  · rintro ⟨hne, hx⟩
    exact ⟨hx, fun h => hne (P.id_inj x hx l hl h)⟩

lemma card_removeLoan (hl : l ∈ P.loans) : (P.removeLoan l.id).loans.card + 1 = P.loans.card := by
  rw [removeLoan_loans hl, Finset.card_erase_add_one hl]

end Pool

/-! ## The table read as loans -/

/-- The loan an entry records, when it holds a buffer. -/
def AcquiredBuffer.toLoan (ab : AcquiredBuffer) : Option Loan :=
  ab.mGraphicBuffer.map fun gb => ⟨ab.mLockedBufferId, ab.mSlot, gb⟩

/-- The loans a table records: those of its entries in use. -/
def loansOf (l : List AcquiredBuffer) : Finset Loan :=
  ((Finset.range l.length).filter fun i => (l.getD i .unused).inUse).biUnion
    fun i => (l.getD i .unused).toLoan.toFinset

/-- Every entry in use holds the graphic buffer it locked. -/
def HoldsBuffers (l : List AcquiredBuffer) : Prop :=
  ∀ i, (l.getD i .unused).inUse → (l.getD i .unused).mGraphicBuffer.isSome

variable {l : List AcquiredBuffer} {i : Nat} {x : Loan}

lemma mem_loansOf : x ∈ loansOf l ↔
    ∃ i < l.length, (l.getD i .unused).inUse ∧ (l.getD i .unused).toLoan = some x := by
  simp [loansOf, and_assoc, Option.mem_def]

lemma loansOf_replicate (n : Nat) : loansOf (List.replicate n .unused) = ∅ := by
  ext x
  simp [mem_loansOf, List.getD_eq_getElem?_getD, List.getElem?_getD_replicate_default_eq]

lemma loansOf_set_lend {slot : Int} {gb : GraphicBuffer} {d : Nat} (hi : i < l.length)
    (hfree : (l.getD i .unused).inUse = false) (hd : d ≠ kUnusedId) :
    loansOf (l.set i ⟨slot, some gb, d⟩) = insert ⟨d, slot, gb⟩ (loansOf l) := by
  ext x
  simp only [mem_loansOf, Finset.mem_insert, List.length_set, getD_set]
  constructor
  · rintro ⟨j, hj, hu, hx⟩
    by_cases hij : i = j ∧ i < l.length
    · rw [if_pos hij] at hx
      exact .inl (Option.some.inj hx).symm
    · rw [if_neg hij] at hu hx
      exact .inr ⟨j, hj, hu, hx⟩
  · rintro (rfl | ⟨j, hj, hu, hx⟩)
    · exact ⟨i, hi, by rw [if_pos ⟨rfl, hi⟩, inUse_iff]; exact hd, by rw [if_pos ⟨rfl, hi⟩]; rfl⟩
    · have hij : ¬ (i = j ∧ i < l.length) := fun h => by rw [h.1, hu] at hfree; cases hfree
      exact ⟨j, hj, by rwa [if_neg hij], by rwa [if_neg hij]⟩

lemma AcquiredBuffer.toLoan_id {ab : AcquiredBuffer} (h : ab.toLoan = some x) :
    x.id = ab.mLockedBufferId := by
  obtain ⟨gb, -, rfl⟩ := Option.map_eq_some'.1 h
  rfl

lemma loansOf_set_unused (hl : IdsDistinct l) :
    loansOf (l.set i .unused) = (loansOf l).filter (·.id ≠ (l.getD i .unused).mLockedBufferId) := by
  ext x
  simp only [mem_loansOf, Finset.mem_filter, List.length_set, getD_set]
  constructor
  · rintro ⟨j, hj, hv, hx⟩
    have hij : ¬ (i = j ∧ i < l.length) := fun h => by rw [if_pos h] at hv; cases hv
    rw [if_neg hij] at hv hx
    refine ⟨⟨j, hj, hv, hx⟩, fun hid => hij ?_⟩
    obtain rfl := hl j i hv ((AcquiredBuffer.toLoan_id hx).symm.trans hid)
    exact ⟨rfl, hj⟩
  · rintro ⟨⟨j, hj, hv, hx⟩, hne⟩
    have hij : ¬ (i = j ∧ i < l.length) := fun h => hne (by rw [AcquiredBuffer.toLoan_id hx, h.1])
    exact ⟨j, hj, by rwa [if_neg hij], by rwa [if_neg hij]⟩

section HoldsBuffers

variable {s : CpuConsumer} {c : Call} {r : Result} {ok : CpuConsumer → LockCall → Prop} {N : UInt64}

lemma HoldsBuffers.set (h : HoldsBuffers l) {ab : AcquiredBuffer}
    (hab : ab.inUse → ab.mGraphicBuffer.isSome) : HoldsBuffers (l.set i ab) := by
  intro j hj
  rw [getD_set] at hj ⊢
  split_ifs at hj ⊢
  · exact hab hj
  · exact h j hj

lemma holdsBuffers_step (h : HoldsBuffers s.mAcquiredBuffers) (hs : Step ok s c r) :
    HoldsBuffers r.state.mAcquiredBuffers := by
  cases hs with
  | lock _ hl =>
    rcases lockNextBuffer_cases hl with ⟨-, -, hr, -⟩ | ⟨-, -, hr, -⟩ | ⟨nb, s₂, acc, -, hlock, rfl⟩
    · exact hr ▸ h
    · exact hr ▸ h
    show HoldsBuffers (s₂.mAcquiredBuffers.set _ _)
    rw [(lockBufferItem_frame hlock).1]
    exact h.set fun _ => rfl
  | unlock hu =>
    rcases unlockBuffer_cases hu with ⟨-, hr, -⟩ | ⟨slot, gb, -, -, -, -, ⟨-, -, -, hr⟩ | ⟨-, -, -, hr⟩⟩
    · exact hr ▸ h
    · rw [hr, releaseConverted_mAcquiredBuffers]; exact h
    · rw [hr, freeEntry_mAcquiredBuffers, releaseConverted_mAcquiredBuffers]
      exact h.set fun h => absurd h (by decide)

lemma holdsBuffers_of_reachable (h : Reachable ok N s) : HoldsBuffers s.mAcquiredBuffers :=
  Reachable.induction (P := fun s => HoldsBuffers s.mAcquiredBuffers) (fun _ hi => by
      simp [create, List.getD_eq_getElem?_getD, List.getElem?_getD_replicate_default_eq] at hi)
    (fun _ _ _ hb hs => holdsBuffers_step hb hs) h

/-- `unlockBuffer` never calls `unlockAsync` through an entry without a buffer: from every
reachable state, whatever the outside world answers, it returns. -/
theorem unlockBuffer_returns (h : Reachable ok N s) (nb : LockedBuffer) (ucall : UnlockCall) :
    ∃ r, s.unlockBuffer nb ucall = some r := by
  by_cases hd : getLockedBufferId nb = kUnusedId
  · exact ⟨_, by simp only [unlockBuffer, hd, ne_eq, not_true_eq_false, if_false, if_true]; rfl⟩
  by_cases hf : s.findAcquiredBufferLocked (getLockedBufferId nb) = s.mMaxLockedBuffers.toNat
  · exact ⟨_, by simp only [unlockBuffer, hd, hf, ne_eq, not_false_eq_true, if_true]; rfl⟩
  have hu : (s.mAcquiredBuffers.getD (s.findAcquiredBufferLocked (getLockedBufferId nb)) .unused).inUse := by
    rw [inUse_iff, getD_findAcquiredBufferLocked ((findAcquiredBufferLocked_le _).lt_of_ne hf)]
    exact hd
  obtain ⟨gb, hgb⟩ := Option.isSome_iff_exists.1 (holdsBuffers_of_reachable h _ hu)
  simp only [unlockBuffer, hd, hf, ne_eq, not_false_eq_true, if_true, if_false, hgb]
  split_ifs <;> exact ⟨_, rfl⟩

theorem unlockBuffer_returns_rgba :
    Reachable anyWorld 1 rgbaLocked.state ∧ ∃ r, rgbaLocked.state.unlockBuffer rgbaBuffer ⟨.ok⟩ = some r :=
  have h : Reachable anyWorld 1 rgbaLocked.state :=
    ⟨_, .cons (.lock trivial (rfl : (create 1).lockNextBuffer rgbaLock = some rgbaLocked)) (.nil _)⟩
  ⟨h, unlockBuffer_returns h rgbaBuffer ⟨.ok⟩⟩

end HoldsBuffers

/-! ## The refinement -/

/-- `P` is what `s` lends: the capacity is the table's, the loans are those of the entries in
use, and the counter counts them. -/
structure Abstracts (P : Pool) (s : CpuConsumer) : Prop where
  capacity : P.capacity = s.mMaxLockedBuffers.toNat
  loans : P.loans = loansOf s.mAcquiredBuffers
  card : P.loans.card = s.mCurrentLockedBuffers.toNat

/-- What a call and its result do to the loans: a lock that hands out a buffer lends it, an
unlock that succeeds takes its buffer back, and nothing else changes them. -/
def Call.event : Call × Result → Pool.Event
  | (.lock call, r) =>
    match r.buffer with
    | some nb => .lend ⟨getLockedBufferId nb, call.acquired.mSlot, call.graphicBuffer⟩
    | none => .refuse
  | (.unlock nb _, r) => if r.status = .ok then .giveBack (getLockedBufferId nb) else .refuse

section Refinement

variable {P : Pool} {s : CpuConsumer} {call : LockCall} {nb : LockedBuffer} {ucall : UnlockCall}
  {r : Result} {c : Call} {N : UInt64} {trace : List (Call × Result)}

theorem abstracts_create (N : UInt64) : Abstracts (Pool.empty N.toNat) (create N) :=
  ⟨rfl, (loansOf_replicate _).symm, rfl⟩

lemma Abstracts.of_eq {s' : CpuConsumer} (hP : Abstracts P s)
    (hmax : s'.mMaxLockedBuffers = s.mMaxLockedBuffers) (htab : s'.mAcquiredBuffers = s.mAcquiredBuffers)
    (hcur : s'.mCurrentLockedBuffers = s.mCurrentLockedBuffers) : Abstracts P s' :=
  ⟨hmax ▸ hP.capacity, htab ▸ hP.loans, hcur ▸ hP.card⟩

/-- A lock under `LockCall.Fresh` is a pool operation: one that hands out a buffer lends it. -/
lemma Abstracts.lockNextBuffer (hP : Abstracts P s) (hinv : Consistent s)
    (hok : LockCall.Fresh s call) (h : s.lockNextBuffer call = some r) :
    ∃ P', P.apply (Call.event (.lock call, r)) = some P' ∧ Abstracts P' r.state := by
  rcases lockNextBuffer_cases h with ⟨-, hb, hr, -⟩ | ⟨-, hb, hr, -, -⟩ | ⟨nb, s₂, acc, hne, hl, rfl⟩
  · exact ⟨P, by simp only [Call.event, hb]; rfl, hr ▸ hP⟩
  · exact ⟨P, by simp only [Call.event, hb]; rfl, hP.of_eq (by simp [hr]) (by simp [hr]) (by simp [hr])⟩
  obtain ⟨htab, hmax, hcur, -⟩ := lockBufferItem_frame hl
  have hfresh := lockBufferItem_data_fresh hinv.owned hok hl
  obtain ⟨⟨hw, hh, hp⟩, -⟩ := hok
  have h₁ : ConvertedOwned (s.recordAcquire call) := hinv.owned
  have hdata := lockBufferItem_data_ne (h₁.size_eq_zero (inUse_findUnused _)) hw hh hp hl
  have hlt : s.mCurrentLockedBuffers.toNat < s.mMaxLockedBuffers.toNat :=
    lt_of_le_of_ne hinv.count.le fun he => hne (UInt64.toNat.inj he)
  have hi : s.findAcquiredBufferLocked kUnusedId < s.mAcquiredBuffers.length := by
    rw [s.acquired_length]; exact hinv.count.findUnused_lt hne
  have hcan : P.CanLend ⟨nb.data, call.acquired.mSlot, call.graphicBuffer⟩ := by
    refine ⟨by rw [hP.card, hP.capacity]; exact hlt, hdata, fun x hx hid => ?_⟩
    obtain ⟨j, -, hu, hx⟩ := mem_loansOf.1 (hP.loans ▸ hx)
    exact hfresh _ (getD_mem_of_inUse hu) hu ((AcquiredBuffer.toLoan_id hx).symm.trans hid)
  refine ⟨_, Pool.lend_of_canLend hcan, ⟨?_, ?_, ?_⟩⟩
  · show P.capacity = s₂.mMaxLockedBuffers.toNat
    rw [hmax, hP.capacity]; rfl
  · show insert _ P.loans = loansOf (s₂.mAcquiredBuffers.set _ _)
    rw [htab, lockBufferItem_findAcquiredBufferLocked hl, hP.loans]
    exact (loansOf_set_lend hi (inUse_findUnused s) hdata).symm
  · show (P.insertLoan _ hcan).loans.card = (s₂.mCurrentLockedBuffers + 1).toNat
    rw [Pool.card_insertLoan hcan, hcur, hP.card]
    exact (toNat_add_one64 hlt).symm

/-- An unlock is a pool operation: one that succeeds takes its buffer back. -/
lemma Abstracts.unlockBuffer (hP : Abstracts P s) (hl : IdsDistinct s.mAcquiredBuffers)
    (hcnt : CountExact s) (h : s.unlockBuffer nb ucall = some r) :
    ∃ P', P.apply (Call.event (.unlock nb ucall, r)) = some P' ∧ Abstracts P' r.state := by
  rcases unlockBuffer_cases h with ⟨hst, hr, -⟩ | ⟨slot, gb, hid0, hfound, hentry, -, ⟨hne, hst, -, hr⟩ | ⟨-, hst, -, hr⟩⟩
  · refine ⟨P, ?_, hr ▸ hP⟩
    show P.apply (if r.status = .ok then _ else _) = _
    rw [if_neg (by rw [hst]; decide)]; rfl
  · refine ⟨P, ?_, hP.of_eq (by simp [hr]) (by simp [hr]) (by simp [hr])⟩
    show P.apply (if r.status = .ok then _ else _) = _
    rw [if_neg (by rw [hst]; exact hne)]; rfl
  have hmem : (⟨getLockedBufferId nb, slot, gb⟩ : Loan) ∈ P.loans := by
    rw [hP.loans, mem_loansOf]
    exact ⟨_, by rw [s.acquired_length]; exact hfound, by rw [hentry, inUse_iff]; exact hid0,
      by rw [hentry]; rfl⟩
  refine ⟨P.removeLoan (getLockedBufferId nb), ?_, ⟨?_, ?_, ?_⟩⟩
  · show P.apply (if r.status = .ok then _ else _) = _
    rw [if_pos hst]
    exact Pool.giveBack_of_mem hmem
  · rw [hr, freeEntry_mMaxLockedBuffers, releaseConverted_mMaxLockedBuffers]; exact hP.capacity
  · show P.loans.filter _ = _
    rw [hr, freeEntry_mAcquiredBuffers, releaseConverted_mAcquiredBuffers, loansOf_set_unused hl, hentry,
      hP.loans]
  · have hcard : (P.removeLoan (getLockedBufferId nb)).loans.card + 1 = P.loans.card :=
      Pool.card_removeLoan hmem
    have hdec := (unlockBuffer_counter hcnt h hst).2
    rw [hP.card] at hcard
    omega

/-- From every state reached under `LockCall.Fresh`, one call is the pool operation
`Call.event` names, and the pool accepts it. -/
lemma Abstracts.step (hreach : Reachable LockCall.Fresh N s) (hP : Abstracts P s)
    (h : Step LockCall.Fresh s c r) :
    ∃ P', P.apply (Call.event (c, r)) = some P' ∧ Abstracts P' r.state := by
  have hinv := consistent_of_reachable (hreach.mono fun _ _ h => h.sound)
  cases h with
  | lock hok hl => exact hP.lockNextBuffer hinv hok hl
  | unlock hu => exact hP.unlockBuffer (idsDistinct_of_reachable hreach) hinv.count hu

lemma Abstracts.run {s' : CpuConsumer} (hreach : Reachable LockCall.Fresh N s)
    (hrun : Run LockCall.Fresh s trace s') (hP : Abstracts P s) :
    ∃ P', P.applyAll (trace.map Call.event) = some P' ∧ Abstracts P' s' := by
  induction hrun generalizing P with
  | nil => exact ⟨P, rfl, hP⟩
  | cons hstep _ ih =>
    obtain ⟨P₁, h₁, hP₁⟩ := hP.step hreach hstep
    obtain ⟨P', h', hP'⟩ := ih (hreach.step hstep) hP₁
    exact ⟨P', by rw [List.map_cons, Pool.applyAll, h₁]; exact h', hP'⟩

/-- The table refines the pool. Every run of a consumer made with `N` entries, under
`LockCall.Fresh`, is a run of the pool of capacity `N`: the pool accepts the operation each
call names, and the pool reached is what the consumer then lends, with the counter its size. -/
theorem lockedBuffers_refine_pool (h : Run LockCall.Fresh (create N) trace s) :
    ∃ P, (Pool.empty N.toNat).applyAll (trace.map Call.event) = some P ∧ Abstracts P s :=
  (abstracts_create N).run ⟨[], .nil _⟩ h

theorem lockedBuffers_refine_pool_rgba :
    Run LockCall.Fresh (create 1) [(.lock rgbaLock, rgbaLocked)] rgbaLocked.state ∧
    ∃ P, (Pool.empty (1 : UInt64).toNat).applyAll ([(Call.lock rgbaLock, rgbaLocked)].map Call.event) =
      some P ∧ Abstracts P rgbaLocked.state := by
  have hrun : Run LockCall.Fresh (create 1) [(.lock rgbaLock, rgbaLocked)] rgbaLocked.state :=
    .cons (.lock (by unfold LockCall.Fresh LockCall.Sound; decide) rfl) (.nil _)
  exact ⟨hrun, lockedBuffers_refine_pool hrun⟩

/-- An unlock of an id that no loan has returns `BAD_VALUE` and changes nothing, provided the
entries in use hold their buffers. -/
lemma unlockBuffer_refused (hP : Abstracts P s) (hbuf : HoldsBuffers s.mAcquiredBuffers)
    (hn : P.giveBack (getLockedBufferId nb) = none) :
    s.unlockBuffer nb ucall = some ⟨.badValue, none, s, []⟩ := by
  by_cases hd : getLockedBufferId nb = kUnusedId
  · simp only [unlockBuffer, hd, ne_eq, not_true_eq_false, if_false, if_true]
  refine unlockBuffer_of_not_found fun j hj hid => ?_
  have hu : (s.mAcquiredBuffers.getD j .unused).inUse := by rw [inUse_iff, hid]; exact hd
  obtain ⟨gb, hgb⟩ := Option.isSome_iff_exists.1 (hbuf j hu)
  have hmem : (⟨getLockedBufferId nb, (s.mAcquiredBuffers.getD j .unused).mSlot, gb⟩ : Loan) ∈ P.loans := by
    rw [hP.loans, mem_loansOf]
    exact ⟨j, by rw [s.acquired_length]; exact hj, hu, by rw [AcquiredBuffer.toLoan, hgb, hid]; rfl⟩
  rw [Pool.giveBack_of_mem hmem] at hn
  cases hn

lemma Abstracts.unlockBuffer_ok (hP : Abstracts P s) (h : s.unlockBuffer nb ucall = some r)
    (hu : ucall.unlockAsyncStatus = .ok) {P' : Pool} (hg : P.giveBack (getLockedBufferId nb) = some P') :
    r.status = .ok := by
  obtain ⟨l, hl, hid⟩ : ∃ l ∈ P.loans, l.id = getLockedBufferId nb := by
    unfold Pool.giveBack at hg
    split_ifs at hg with he
    exact he
  obtain ⟨j, -, hin, hx⟩ := mem_loansOf.1 (hP.loans ▸ hl)
  have hidj : (s.mAcquiredBuffers.getD j .unused).mLockedBufferId = getLockedBufferId nb :=
    (AcquiredBuffer.toLoan_id hx).symm.trans hid
  rcases unlockBuffer_cases h with ⟨-, -, -, hd | hf⟩ | ⟨-, -, -, -, -, -, ⟨hne, -⟩ | ⟨-, hst, -⟩⟩
  · exact absurd (hidj.trans hd) ((inUse_iff _).1 hin)
  · have hlt := findAcquiredBufferLocked_lt_iff.2 ⟨_, getD_mem_of_inUse hin, hidj⟩
    exact absurd hf hlt.ne
  · exact absurd hu hne
  · exact hst

/-- With gralloc's unlock succeeding, an unlock from a state reached under `LockCall.Fresh` does
what the pool does: when the pool takes the id back, it returns `OK` and leaves a state that the
pool after `giveBack` abstracts; when the pool refuses, it returns `BAD_VALUE` and changes
nothing. -/
theorem unlockBuffer_matches_pool (hreach : Reachable LockCall.Fresh N s) (hP : Abstracts P s)
    (nb : LockedBuffer) (hu : ucall.unlockAsyncStatus = .ok) :
    ∃ r, s.unlockBuffer nb ucall = some r ∧
      (∀ P', P.giveBack (getLockedBufferId nb) = some P' → r.status = .ok ∧ Abstracts P' r.state) ∧
      (P.giveBack (getLockedBufferId nb) = none → r = ⟨.badValue, none, s, []⟩) := by
  obtain ⟨r, hr⟩ := unlockBuffer_returns hreach nb ucall
  refine ⟨r, hr, fun P' hg => ?_, fun hn => Option.some.inj
    (hr.symm.trans (unlockBuffer_refused hP (holdsBuffers_of_reachable hreach) hn))⟩
  have hst := hP.unlockBuffer_ok hr hu hg
  obtain ⟨P'', happ, hP''⟩ := hP.step hreach (.unlock hr)
  have hev : P.apply (Call.event (.unlock nb ucall, r)) = P.giveBack (getLockedBufferId nb) := by
    simp only [Call.event, hst, if_true]; rfl
  rw [hev, hg] at happ
  exact ⟨hst, Option.some.inj happ ▸ hP''⟩

theorem unlockBuffer_matches_pool_rgba :
    Reachable LockCall.Fresh 1 rgbaLocked.state ∧ ∃ P, Abstracts P rgbaLocked.state ∧
      (⟨.ok⟩ : UnlockCall).unlockAsyncStatus = .ok ∧
      ∃ r, rgbaLocked.state.unlockBuffer rgbaBuffer ⟨.ok⟩ = some r ∧
        (∀ P', P.giveBack (getLockedBufferId rgbaBuffer) = some P' → r.status = .ok ∧ Abstracts P' r.state) ∧
        (P.giveBack (getLockedBufferId rgbaBuffer) = none → r = ⟨.badValue, none, rgbaLocked.state, []⟩) := by
  have hrun : Run LockCall.Fresh (create 1) [(.lock rgbaLock, rgbaLocked)] rgbaLocked.state :=
    .cons (.lock (by unfold LockCall.Fresh LockCall.Sound; decide) rfl) (.nil _)
  obtain ⟨P, -, hP⟩ := (abstracts_create 1).run ⟨[], .nil _⟩ hrun
  exact ⟨⟨_, hrun⟩, P, hP, rfl, unlockBuffer_matches_pool ⟨_, hrun⟩ hP rgbaBuffer rfl⟩

end Refinement

end FrameworksNative
