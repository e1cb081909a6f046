import Mathlib.Data.ZMod.Basic
import Mathlib.Data.String.Basic
import FrameworksNative.Buffers

/-!
# RGBA to planar YUV conversion

`ConvertRGB32ToPlanar` turns the RGBA pixels read back from the GPU into a luma plane followed
by an interleaved half-height chroma plane. The loops advance three pointers, `src`, `dstY` and
`dstU`, exactly as the source does; the model records the accesses they make, by offset from
the pointer passed in, so that both the bytes written and the footprint can be stated. The
arithmetic is the source's unsigned 32-bit arithmetic, truncated to a byte at each store.
-/

namespace FrameworksNative

/-- One memory access of the converter: a load through `src` or a store through `dstY`,
by offset from the pointer the caller passed. -/
inductive MemoryOp
  | load (offset : Nat)
  | store (offset : Nat) (byte : UInt8)
  deriving DecidableEq, Repr

/-- `SURFACE_IS_BGR32` is defined by none of the sources, so the `#ifdef` that flips `bgr`
is compiled out. -/
def surfaceIsBgr32 : Bool := false

/-- BT.601 luma, `((red * 65 + green * 129 + blue * 25 + 128) >> 8) + 16`, in `unsigned`. -/
def luma (red green blue : UInt32) : UInt32 :=
  ((red * 65 + green * 129 + blue * 25 + 128) >>> 8) + 16

/-- BT.601 blue difference, `((-red * 38 - green * 74 + blue * 112 + 128) >> 8) + 128`. -/
def chromaU (red green blue : UInt32) : UInt32 :=
  (((0 - red) * 38 - green * 74 + blue * 112 + 128) >>> 8) + 128

/-- BT.601 red difference, `((red * 112 - green * 94 - blue * 18 + 128) >> 8) + 128`. -/
def chromaV (red green blue : UInt32) : UInt32 :=
  ((red * 112 - green * 94 - blue * 18 + 128) >>> 8) + 128

/-- The inner loop's body at column `x` of row `y`, with `src` at `s`, `dstY` at `dY` and
`dstU` at `dU`. -/
def convertPixel (src : Nat → UInt8) (bgr : Bool) (x y s dY dU : Nat) : List MemoryOp :=
  let redOffset := if bgr then 2 else 0
  let greenOffset := 1
  let blueOffset := if bgr then 0 else 2
  let red := (src (s + redOffset)).toUInt32
  let green := (src (s + greenOffset)).toUInt32
  let blue := (src (s + blueOffset)).toUInt32
  [.load (s + redOffset), .load (s + greenOffset), .load (s + blueOffset),
    .store (dY + x) (luma red green blue).toUInt8] ++
  if x % 2 = 0 ∧ y % 2 = 0 then
    [.store (dU + x) (chromaU red green blue).toUInt8,
      .store (dU + x + 1) (chromaV red green blue).toUInt8]
  else []

/-- The loop over `x`, from column `x` with `n` columns left; `src += 4` after each pixel. -/
def convertRow (src : Nat → UInt8) (bgr : Bool) (y dY dU : Nat) : Nat → Nat → Nat → List MemoryOp
  | _, _, 0 => []
  | x, s, n + 1 => convertPixel src bgr x y s dY dU ++ convertRow src bgr y dY dU (x + 1) (s + 4) n

/-- The loop over `y`, from row `y` with `n` rows left. After a row `dstU` moves on when `y` is
even, `src` by `srcStride - 4 * width` and `dstY` by `dstStride`. -/
def convertRows (src : Nat → UInt8) (bgr : Bool) (width dstStride srcStride : Nat) :
    Nat → Nat → Nat → Nat → Nat → List MemoryOp
  | _, _, _, _, 0 => []
  | y, s, dY, dU, n + 1 =>
    convertRow src bgr y dY dU 0 s width ++
      convertRows src bgr width dstStride srcStride (y + 1) (s + 4 * width + srcStride - 4 * width)
        (dY + dstStride) (if y % 2 = 0 then dU + dstStride else dU) n

/-- `ConvertRGB32ToPlanar`: `none` when one of its `CHECK`s fails and the process aborts,
otherwise the accesses it makes, `dstU` starting at `dstY + dstStride * height`. -/
def convertRGB32ToPlanar (dstStride _dstVStride : Nat) (src : Nat → UInt8)
    (width height srcStride : Nat) (bgr : Bool) : Option (List MemoryOp) :=
  if width % 2 = 0 ∧ height % 2 = 0 then
    some (convertRows src (if surfaceIsBgr32 then !bgr else bgr) width dstStride srcStride
      0 0 0 (dstStride * height) height)
  else none

/-- The memory after the stores of `ops`, in order. -/
def applyStores (mem : Nat → UInt8) : List MemoryOp → Nat → UInt8
  | [] => mem
  | .load _ :: ops => applyStores mem ops
  | .store o b :: ops => applyStores (Function.update mem o b) ops

/-! ## The integer formulas -/

/-- Luma as an integer formula, `((65 R + 129 G + 25 B + 128) div 256) + 16`. -/
def lumaValue (r g b : Nat) : Nat := (65 * r + 129 * g + 25 * b + 128) / 256 + 16

/-- Blue difference with floored division, `⌊(-38 R - 74 G + 112 B + 128) / 256⌋ + 128`. -/
def cbValue (r g b : Nat) : Int := (-38 * r - 74 * g + 112 * b + 128) / 256 + 128

/-- Red difference with floored division, `⌊(112 R - 94 G - 18 B + 128) / 256⌋ + 128`. -/
def crValue (r g b : Nat) : Int := (112 * r - 94 * g - 18 * b + 128) / 256 + 128


private lemma cast_add32 (a b : UInt32) :
    ((a + b).toNat : ZMod UInt32.size) = a.toNat + b.toNat := by
  rw [UInt32.toNat_add, ZMod.natCast_mod, Nat.cast_add]

private lemma cast_mul32 (a b : UInt32) :
    ((a * b).toNat : ZMod UInt32.size) = a.toNat * b.toNat := by
  show (((a.toBitVec * b.toBitVec).toNat : Nat) : ZMod UInt32.size) = _
  rw [BitVec.toNat_mul, ZMod.natCast_mod, Nat.cast_mul]
  rfl

private lemma cast_sub32 (a b : UInt32) :
    ((a - b).toNat : ZMod UInt32.size) = a.toNat - b.toNat := by
  show (((a.toBitVec - b.toBitVec).toNat : Nat) : ZMod UInt32.size) = _
  rw [BitVec.toNat_sub, ZMod.natCast_mod, Nat.cast_add, Nat.cast_sub b.toBitVec.isLt.le]
  change ((UInt32.size : Nat) : ZMod UInt32.size) - b.toNat + a.toNat = _
  rw [ZMod.natCast_self]
  ring

private lemma cast_lit32 (n : Nat) :
    ((no_index (OfNat.ofNat n) : UInt32).toNat : ZMod UInt32.size) = (OfNat.ofNat n : Nat) := by
  show ((n % UInt32.size : Nat) : ZMod UInt32.size) = _
  rw [ZMod.natCast_mod]
  rfl

private lemma toNat_eq_emod {x : UInt32} {v : Int} (h : (x.toNat : ZMod UInt32.size) = v) :
    (x.toNat : Int) = v % 4294967296 := by
  have hx : x.toNat < 4294967296 := x.toNat_lt_size
  rw [← Int.cast_natCast, ZMod.intCast_eq_intCast_iff'] at h
  push_cast [UInt32.size] at h
  omega

private lemma shiftRight8_toNat (a : UInt32) : (a >>> 8).toNat = a.toNat / 256 := by
  show (a.toBitVec >>> (8 % 32 : UInt32).toBitVec).toNat = _
  simp [BitVec.toNat_ushiftRight, Nat.shiftRight_eq_div_pow]
  rfl

private lemma shift_add_byte (e : Nat) (v c : Int) (h : (e : Int) = v % 4294967296)
    (hc : 0 ≤ c) (h1 : -256 * c ≤ v) (h2 : v < 256 * (256 - c)) (hc' : c < 256) :
    ((((e / 256 + c.toNat) % 4294967296) % 256 : Nat) : Int) = v / 256 + c := by
  rcases le_or_lt 0 v with hv | hv
  · rw [Int.emod_eq_of_lt hv (by omega)] at h
    omega
  · have : v % 4294967296 = v + 4294967296 := by omega
    rw [this] at h
    omega

private lemma toUInt8_toNat32 (a : UInt32) : a.toUInt8.toNat = a.toNat % 256 := rfl

private lemma toUInt32_toNat8 (a : UInt8) : a.toUInt32.toNat = a.toNat := rfl

theorem luma_toNat (r g b : UInt8) :
    (luma r.toUInt32 g.toUInt32 b.toUInt32).toUInt8.toNat = lumaValue r.toNat g.toNat b.toNat := by
  have hr := r.toNat_lt_size
  have hg := g.toNat_lt_size
  have hb := b.toNat_lt_size
  have h := toNat_eq_emod (x := r.toUInt32 * 65 + g.toUInt32 * 129 + b.toUInt32 * 25 + 128)
    (v := 65 * r.toNat + 129 * g.toNat + 25 * b.toNat + 128)
    (by simp only [cast_add32, cast_mul32, cast_lit32, toUInt32_toNat8]; push_cast; ring)
  have h16 := shift_add_byte _ _ 16 h (by norm_num) (by omega) (by simp only [UInt8.size] at *; omega)
    (by norm_num)
  rw [luma, toUInt8_toNat32, UInt32.toNat_add, shiftRight8_toNat]
  simp only [lumaValue]
  exact_mod_cast h16

theorem chromaU_toNat (r g b : UInt8) :
    ((chromaU r.toUInt32 g.toUInt32 b.toUInt32).toUInt8.toNat : Int) =
      cbValue r.toNat g.toNat b.toNat := by
  have hr := r.toNat_lt_size
  have hg := g.toNat_lt_size
  have hb := b.toNat_lt_size
  simp only [UInt8.size] at *
  have h := toNat_eq_emod (x := (0 - r.toUInt32) * 38 - g.toUInt32 * 74 + b.toUInt32 * 112 + 128)
    (v := -38 * r.toNat - 74 * g.toNat + 112 * b.toNat + 128)
    (by simp only [cast_add32, cast_sub32, cast_mul32, cast_lit32, toUInt32_toNat8]; push_cast; ring)
  rw [chromaU, toUInt8_toNat32, UInt32.toNat_add, shiftRight8_toNat]
  exact shift_add_byte _ _ 128 h (by norm_num) (by omega) (by omega) (by norm_num)

theorem chromaV_toNat (r g b : UInt8) :
    ((chromaV r.toUInt32 g.toUInt32 b.toUInt32).toUInt8.toNat : Int) =
      crValue r.toNat g.toNat b.toNat := by
  have hr := r.toNat_lt_size
  have hg := g.toNat_lt_size
  have hb := b.toNat_lt_size
  simp only [UInt8.size] at *
  have h := toNat_eq_emod (x := r.toUInt32 * 112 - g.toUInt32 * 94 - b.toUInt32 * 18 + 128)
    (v := 112 * r.toNat - 94 * g.toNat - 18 * b.toNat + 128)
    (by simp only [cast_add32, cast_sub32, cast_mul32, cast_lit32, toUInt32_toNat8]; push_cast; ring)
  rw [chromaV, toUInt8_toNat32, UInt32.toNat_add, shiftRight8_toNat]
  exact shift_add_byte _ _ 128 h (by norm_num) (by omega) (by omega) (by norm_num)

/-- All three formulas stay in `[16, 240]` on bytes. -/
theorem values_mem_range (r g b : Nat) (hr : r < 256) (hg : g < 256) (hb : b < 256) :
    16 ≤ lumaValue r g b ∧ lumaValue r g b ≤ 240 ∧ 16 ≤ cbValue r g b ∧ cbValue r g b ≤ 240 ∧
      16 ≤ crValue r g b ∧ crValue r g b ≤ 240 := by
  simp only [lumaValue, cbValue, crValue]
  omega

/-! ## What the loops store -/

/-- The byte `src[redOffset]` with `src` at `s`. -/
def redByte (src : Nat → UInt8) (bgr : Bool) (s : Nat) : UInt8 := src (s + if bgr then 2 else 0)

/-- The byte `src[greenOffset]` with `src` at `s`. -/
def greenByte (src : Nat → UInt8) (s : Nat) : UInt8 := src (s + 1)

/-- The byte `src[blueOffset]` with `src` at `s`. -/
def blueByte (src : Nat → UInt8) (bgr : Bool) (s : Nat) : UInt8 := src (s + if bgr then 0 else 2)

lemma store_mem_convertPixel {src : Nat → UInt8} {bgr : Bool} {x y s dY dU o : Nat} {b : UInt8} :
    MemoryOp.store o b ∈ convertPixel src bgr x y s dY dU ↔
      (o = dY + x ∧ b = (luma (redByte src bgr s).toUInt32 (greenByte src s).toUInt32
        (blueByte src bgr s).toUInt32).toUInt8) ∨
      (x % 2 = 0 ∧ y % 2 = 0 ∧
        ((o = dU + x ∧ b = (chromaU (redByte src bgr s).toUInt32 (greenByte src s).toUInt32
          (blueByte src bgr s).toUInt32).toUInt8) ∨
         (o = dU + x + 1 ∧ b = (chromaV (redByte src bgr s).toUInt32 (greenByte src s).toUInt32
          (blueByte src bgr s).toUInt32).toUInt8))) := by
  unfold convertPixel redByte greenByte blueByte
  split_ifs <;> simp_all

lemma load_mem_convertPixel {src : Nat → UInt8} {bgr : Bool} {x y s dY dU o : Nat} :
    MemoryOp.load o ∈ convertPixel src bgr x y s dY dU ↔ s ≤ o ∧ o ≤ s + 2 := by
  unfold convertPixel
  split_ifs <;> cases bgr <;> simp <;> omega

lemma mem_convertRow {src : Nat → UInt8} {bgr : Bool} {y dY dU : Nat} {op : MemoryOp} :
    ∀ n x s, op ∈ convertRow src bgr y dY dU x s n ↔
      ∃ k < n, op ∈ convertPixel src bgr (x + k) y (s + 4 * k) dY dU
  | 0, _, _ => by simp [convertRow]
  | n + 1, x, s => by
    rw [convertRow, List.mem_append, mem_convertRow n (x + 1) (s + 4)]
    constructor
    · rintro (h | ⟨k, hk, h⟩)
      · exact ⟨0, by omega, by simpa using h⟩
      · exact ⟨k + 1, by omega, by rwa [show x + (k + 1) = x + 1 + k by omega,
          show s + 4 * (k + 1) = s + 4 + 4 * k by omega]⟩
    · rintro ⟨_ | k, hk, h⟩
      · exact .inl (by simpa using h)
      · exact .inr ⟨k, by omega, by rwa [show x + 1 + k = x + (k + 1) by omega,
          show s + 4 + 4 * k = s + 4 * (k + 1) by omega]⟩

private lemma dstU_next (base ds y : Nat) :
    (if y % 2 = 0 then base + (y + 1) / 2 * ds + ds else base + (y + 1) / 2 * ds) =
      base + (y + 1 + 1) / 2 * ds := by
  split_ifs with h
  · rw [show (y + 1 + 1) / 2 = (y + 1) / 2 + 1 by omega, Nat.add_mul, Nat.one_mul, Nat.add_assoc]
  · rw [show (y + 1 + 1) / 2 = (y + 1) / 2 by omega]

/-- From row `y` on, with the pointers where the loop has them, the rows make exactly the
accesses of the pixels `(x, y')`, `y ≤ y' < y + n`, each with its pointers in closed form. -/
lemma mem_convertRows {src : Nat → UInt8} {bgr : Bool} {width ds ss base : Nat} {op : MemoryOp} :
    ∀ n y, op ∈ convertRows src bgr width ds ss y (y * ss) (y * ds) (base + (y + 1) / 2 * ds) n ↔
      ∃ y', y ≤ y' ∧ y' < y + n ∧ ∃ x < width,
        op ∈ convertPixel src bgr x y' (y' * ss + 4 * x) (y' * ds) (base + (y' + 1) / 2 * ds)
  | 0, y => by simp [convertRows]; omega
  | n + 1, y => by
    have hs : y * ss + 4 * width + ss - 4 * width = (y + 1) * ss := by rw [add_mul, one_mul]; omega
    have hd : y * ds + ds = (y + 1) * ds := by rw [add_mul, one_mul]
    rw [convertRows, List.mem_append, hs, hd, dstU_next, mem_convertRows n (y + 1), mem_convertRow]
    simp only [Nat.zero_add]
    constructor
    · rintro (⟨x, hx, h⟩ | ⟨y', hy, hy', h⟩)
      · exact ⟨y, le_rfl, by omega, x, hx, h⟩
      · exact ⟨y', by omega, by omega, h⟩
    · rintro ⟨y', hy, hy', h⟩
      rcases Nat.eq_or_lt_of_le hy with rfl | hlt
      · exact .inl h
      · exact .inr ⟨y', by omega, by omega, h⟩

/-- The stores of the whole conversion are those of the pixels `(x, y)` of the image, with
`src` at `y * srcStride + 4 * x`, `dstY` at `y * dstStride` and `dstU` at
`dstStride * height + ((y + 1) / 2) * dstStride`. -/
lemma mem_convertRows_image {src : Nat → UInt8} {bgr : Bool} {width height ds ss : Nat}
    {op : MemoryOp} :
    op ∈ convertRows src bgr width ds ss 0 0 0 (ds * height) height ↔
      ∃ y < height, ∃ x < width,
        op ∈ convertPixel src bgr x y (y * ss + 4 * x) (y * ds) (ds * height + (y + 1) / 2 * ds) := by
  have h := @mem_convertRows src bgr width ds ss (ds * height) op height 0
  simp only [Nat.zero_mul, Nat.zero_add, Nat.reduceDiv, Nat.add_zero, zero_le, true_and] at h
  exact h

lemma applyStores_of_not_mem (o : Nat) : ∀ (mem : Nat → UInt8) (ops : List MemoryOp),
    (∀ b, MemoryOp.store o b ∉ ops) → applyStores mem ops o = mem o
  | _, [], _ => rfl
  | mem, .load _ :: ops, h => applyStores_of_not_mem o mem ops fun b hb => h b (.tail _ hb)
  | mem, .store o' b :: ops, h => by
    have ho : o ≠ o' := by rintro rfl; exact h b (.head _)
    rw [applyStores, applyStores_of_not_mem o _ ops fun b' hb => h b' (.tail _ hb),
      Function.update_noteq ho]

lemma applyStores_of_mem (o : Nat) (b : UInt8) : ∀ (mem : Nat → UInt8) (ops : List MemoryOp),
    MemoryOp.store o b ∈ ops → (∀ b', MemoryOp.store o b' ∈ ops → b' = b) →
      applyStores mem ops o = b
  | _, [], hm, _ => absurd hm (List.not_mem_nil _)
  | mem, .load _ :: ops, hm, h =>
    applyStores_of_mem o b mem ops (by simpa using hm) fun b' hb => h b' (.tail _ hb)
  | mem, .store o' b' :: ops, hm, h => by
    rw [applyStores]
    by_cases hin : MemoryOp.store o b ∈ ops
    · exact applyStores_of_mem o b _ ops hin fun b'' hb => h b'' (.tail _ hb)
    · obtain ⟨rfl, rfl⟩ : o = o' ∧ b = b' := by simpa [hin] using hm
      rw [applyStores_of_not_mem o _ ops fun b'' hb => hin (h b'' (.tail _ hb) ▸ hb),
        Function.update_same]

private lemma row_col_inj {d x x' y y' : Nat} (hx : x < d) (hx' : x' < d)
    (h : y * d + x = y' * d + x') : y = y' ∧ x = x' := by
  have hd : 0 < d := by omega
  have h1 := congrArg (· / d) h
  have h2 := congrArg (· % d) h
  simp only [Nat.add_comm _ x, Nat.add_comm _ x', Nat.add_mul_div_right _ _ hd,
    Nat.add_mul_mod_self_right, Nat.div_eq_of_lt hx, Nat.div_eq_of_lt hx', Nat.mod_eq_of_lt hx,
    Nat.mod_eq_of_lt hx', Nat.zero_add] at h1 h2
  exact ⟨h1, h2⟩

private lemma luma_lt_plane {d h x y : Nat} (hy : y < h) (hx : x < d) : y * d + x < d * h :=
  calc y * d + x < (y + 1) * d := by rw [add_mul, one_mul]; omega
    _ ≤ h * d := Nat.mul_le_mul_right d hy
    _ = d * h := Nat.mul_comm h d

/-- The image the converter is meant to leave in `out`, following the integer formulas: the
luma of every pixel `(x, y)` at `y * dstStride + x`; for every even `(x, y)`, U and V of the
pixel at `dstStride * height + (y / 2) * dstStride + x` and the byte after it; and every other
byte as it was in `dst`. -/
structure PlanarImage (dst src : Nat → UInt8) (dstStride width height srcStride : Nat) (bgr : Bool)
    (out : Nat → UInt8) : Prop where
  luma : ∀ y < height, ∀ x < width, (out (y * dstStride + x)).toNat =
    lumaValue (redByte src bgr (y * srcStride + 4 * x)).toNat
      (greenByte src (y * srcStride + 4 * x)).toNat (blueByte src bgr (y * srcStride + 4 * x)).toNat
  cb : ∀ y < height, ∀ x < width, y % 2 = 0 → x % 2 = 0 →
    ((out (dstStride * height + y / 2 * dstStride + x)).toNat : Int) =
      cbValue (redByte src bgr (y * srcStride + 4 * x)).toNat
        (greenByte src (y * srcStride + 4 * x)).toNat (blueByte src bgr (y * srcStride + 4 * x)).toNat
  cr : ∀ y < height, ∀ x < width, y % 2 = 0 → x % 2 = 0 →
    ((out (dstStride * height + y / 2 * dstStride + x + 1)).toNat : Int) =
      crValue (redByte src bgr (y * srcStride + 4 * x)).toNat
        (greenByte src (y * srcStride + 4 * x)).toNat (blueByte src bgr (y * srcStride + 4 * x)).toNat
  untouched : ∀ o, (∀ y < height, ∀ x < width, o ≠ y * dstStride + x) →
    (∀ y < height, ∀ x < width, y % 2 = 0 → x % 2 = 0 →
      o ≠ dstStride * height + y / 2 * dstStride + x ∧
        o ≠ dstStride * height + y / 2 * dstStride + x + 1) →
    out o = dst o

/-- A value in the video range `[16, 240]`. -/
def InVideoRange (v : Int) : Prop := 16 ≤ v ∧ v ≤ 240

section Image

variable {src : Nat → UInt8} {bgr : Bool} {width height ds ss o : Nat} {b : UInt8}

private lemma store_cases
    (h : MemoryOp.store o b ∈ convertRows src bgr width ds ss 0 0 0 (ds * height) height) :
    ∃ y < height, ∃ x < width,
      (o = y * ds + x ∧ b = (luma (redByte src bgr (y * ss + 4 * x)).toUInt32
        (greenByte src (y * ss + 4 * x)).toUInt32 (blueByte src bgr (y * ss + 4 * x)).toUInt32).toUInt8) ∨
      (y % 2 = 0 ∧ x % 2 = 0 ∧
        ((o = ds * height + y / 2 * ds + x ∧ b = (chromaU (redByte src bgr (y * ss + 4 * x)).toUInt32
          (greenByte src (y * ss + 4 * x)).toUInt32 (blueByte src bgr (y * ss + 4 * x)).toUInt32).toUInt8) ∨
        (o = ds * height + y / 2 * ds + x + 1 ∧ b = (chromaV (redByte src bgr (y * ss + 4 * x)).toUInt32
          (greenByte src (y * ss + 4 * x)).toUInt32 (blueByte src bgr (y * ss + 4 * x)).toUInt32).toUInt8))) := by
  obtain ⟨y, hy, x, hx, hp⟩ := mem_convertRows_image.1 h
  refine ⟨y, hy, x, hx, ?_⟩
  rcases store_mem_convertPixel.1 hp with h | ⟨hx2, hy2, h⟩
  · exact .inl h
  · rw [show (y + 1) / 2 = y / 2 by omega] at h
    exact .inr ⟨hy2, hx2, h⟩

private lemma store_mem {x y : Nat} (hy : y < height) (hx : x < width)
    (hp : MemoryOp.store o b ∈ convertPixel src bgr x y (y * ss + 4 * x) (y * ds)
      (ds * height + (y + 1) / 2 * ds)) :
    MemoryOp.store o b ∈ convertRows src bgr width ds ss 0 0 0 (ds * height) height :=
  mem_convertRows_image.2 ⟨y, hy, x, hx, hp⟩

private lemma image_untouched (dst : Nat → UInt8) (o : Nat)
    (hl : ∀ y < height, ∀ x < width, o ≠ y * ds + x)
    (hc : ∀ y < height, ∀ x < width, y % 2 = 0 → x % 2 = 0 →
      o ≠ ds * height + y / 2 * ds + x ∧ o ≠ ds * height + y / 2 * ds + x + 1) :
    applyStores dst (convertRows src bgr width ds ss 0 0 0 (ds * height) height) o = dst o := by
  refine applyStores_of_not_mem o dst _ fun b' hb => ?_
  obtain ⟨y, hy, x, hx, ⟨ho, -⟩ | ⟨hy2, hx2, ⟨ho, -⟩ | ⟨ho, -⟩⟩⟩ := store_cases hb
  · exact hl y hy x hx ho
  · exact (hc y hy x hx hy2 hx2).1 ho
  · exact (hc y hy x hx hy2 hx2).2 ho

variable (hw : width % 2 = 0) (hd : width ≤ ds)
include hw hd

private lemma image_luma (dst : Nat → UInt8) {x y : Nat} (hy : y < height) (hx : x < width) :
    (applyStores dst (convertRows src bgr width ds ss 0 0 0 (ds * height) height)
      (y * ds + x)).toNat =
    lumaValue (redByte src bgr (y * ss + 4 * x)).toNat (greenByte src (y * ss + 4 * x)).toNat
      (blueByte src bgr (y * ss + 4 * x)).toNat := by
  rw [applyStores_of_mem _ _ _ _ (store_mem hy hx (store_mem_convertPixel.2 (.inl ⟨rfl, rfl⟩))),
    luma_toNat]
  intro b' hb
  obtain ⟨y', hy', x', hx', h⟩ := store_cases hb
  rcases h with ⟨ho, rfl⟩ | ⟨-, -, ⟨ho, -⟩ | ⟨ho, -⟩⟩
  · obtain ⟨rfl, rfl⟩ := row_col_inj (by omega) (by omega) ho
    rfl
  all_goals have := luma_lt_plane (d := ds) hy (show x < ds by omega); omega

private lemma image_cb (dst : Nat → UInt8) {x y : Nat} (hy : y < height) (hx : x < width)
    (hy2 : y % 2 = 0) (hx2 : x % 2 = 0) :
    ((applyStores dst (convertRows src bgr width ds ss 0 0 0 (ds * height) height)
      (ds * height + y / 2 * ds + x)).toNat : Int) =
    cbValue (redByte src bgr (y * ss + 4 * x)).toNat (greenByte src (y * ss + 4 * x)).toNat
      (blueByte src bgr (y * ss + 4 * x)).toNat := by
  have hu : ds * height + y / 2 * ds + x = ds * height + (y + 1) / 2 * ds + x := by
    rw [show (y + 1) / 2 = y / 2 by omega]
  rw [applyStores_of_mem _ _ _ _ (store_mem hy hx (store_mem_convertPixel.2
    (.inr ⟨hx2, hy2, .inl ⟨hu, rfl⟩⟩))), chromaU_toNat]
  intro b' hb
  obtain ⟨y', hy', x', hx', h⟩ := store_cases hb
  rcases h with ⟨ho, -⟩ | ⟨hy2', hx2', ⟨ho, rfl⟩ | ⟨ho, -⟩⟩
  · have := luma_lt_plane (d := ds) hy' (show x' < ds by omega); omega
  · obtain ⟨hyy, rfl⟩ := @row_col_inj ds x x' (y / 2) (y' / 2) (by omega) (by omega)
      (by omega)
    obtain rfl : y' = y := by omega
    rfl
  · obtain ⟨-, h⟩ := row_col_inj (d := ds) (y := y / 2) (x := x) (by omega) (by omega)
      (show y / 2 * ds + x = y' / 2 * ds + (x' + 1) by omega)
    omega

private lemma image_cr (dst : Nat → UInt8) {x y : Nat} (hy : y < height) (hx : x < width)
    (hy2 : y % 2 = 0) (hx2 : x % 2 = 0) :
    ((applyStores dst (convertRows src bgr width ds ss 0 0 0 (ds * height) height)
      (ds * height + y / 2 * ds + x + 1)).toNat : Int) =
    crValue (redByte src bgr (y * ss + 4 * x)).toNat (greenByte src (y * ss + 4 * x)).toNat
      (blueByte src bgr (y * ss + 4 * x)).toNat := by
  have hv : ds * height + y / 2 * ds + x + 1 = ds * height + (y + 1) / 2 * ds + x + 1 := by
    rw [show (y + 1) / 2 = y / 2 by omega]
  rw [applyStores_of_mem _ _ _ _ (store_mem hy hx (store_mem_convertPixel.2
    (.inr ⟨hx2, hy2, .inr ⟨hv, rfl⟩⟩))), chromaV_toNat]
  intro b' hb
  obtain ⟨y', hy', x', hx', h⟩ := store_cases hb
  rcases h with ⟨ho, -⟩ | ⟨hy2', hx2', ⟨ho, -⟩ | ⟨ho, rfl⟩⟩
  · have := luma_lt_plane (d := ds) hy' (show x' < ds by omega); omega
  · obtain ⟨-, h⟩ := row_col_inj (d := ds) (y := y / 2) (x := x + 1) (by omega) (by omega)
      (show y / 2 * ds + (x + 1) = y' / 2 * ds + x' by omega)
    omega
  · obtain ⟨hyy, hxx⟩ := @row_col_inj ds (x + 1) (x' + 1) (y / 2) (y' / 2)
      (by omega) (by omega) (by omega)
    obtain ⟨rfl, rfl⟩ : y' = y ∧ x' = x := by omega
    rfl

end Image

/-- `ConvertRGB32ToPlanar` on an even-sized image with `dstStride ≥ width` passes its checks,
and its stores leave the planar image over whatever the destination held. -/
theorem convertRGB32ToPlanar_image (src : Nat → UInt8)
    (dstStride dstVStride width height srcStride : Nat) (bgr : Bool)
    (hw : width % 2 = 0) (hh : height % 2 = 0) (hd : width ≤ dstStride) :
    ∃ ops, convertRGB32ToPlanar dstStride dstVStride src width height srcStride bgr = some ops ∧
      ∀ dst, PlanarImage dst src dstStride width height srcStride bgr (applyStores dst ops) :=
  ⟨convertRows src bgr width dstStride srcStride 0 0 0 (dstStride * height) height,
    by simp [convertRGB32ToPlanar, hw, hh, surfaceIsBgr32], fun dst =>
    ⟨fun _ hy _ hx => image_luma hw hd dst hy hx,
      fun _ hy _ hx hy2 hx2 => image_cb hw hd dst hy hx hy2 hx2,
      fun _ hy _ hx hy2 hx2 => image_cr hw hd dst hy hx hy2 hx2, image_untouched dst⟩⟩

/-- `ConvertRGB32ToPlanar` on an even-sized image with `dstStride ≥ width` passes its checks
and writes exactly the planar image of the integer formulas, whose values all lie in
`[16, 240]`. No bound on `srcStride` is needed: after each row `src` stands at the row's start
plus `srcStride`, also when `srcStride - 4 * width` wraps. -/
theorem convertRGB32ToPlanar_spec (dst src : Nat → UInt8)
    (dstStride dstVStride width height srcStride : Nat) (bgr : Bool)
    (hw : width % 2 = 0) (hh : height % 2 = 0) (hd : width ≤ dstStride) :
    ∃ ops, convertRGB32ToPlanar dstStride dstVStride src width height srcStride bgr = some ops ∧
      PlanarImage dst src dstStride width height srcStride bgr (applyStores dst ops) ∧
      ∀ r g b : UInt8, InVideoRange (lumaValue r.toNat g.toNat b.toNat) ∧
        InVideoRange (cbValue r.toNat g.toNat b.toNat) ∧ InVideoRange (crValue r.toNat g.toNat b.toNat) := by
  obtain ⟨ops, hops, himage⟩ :=
    convertRGB32ToPlanar_image src dstStride dstVStride width height srcStride bgr hw hh hd
  refine ⟨ops, hops, himage dst, fun r g b => ?_⟩
  have := values_mem_range r.toNat g.toNat b.toNat r.toNat_lt_size g.toNat_lt_size b.toNat_lt_size
  exact ⟨⟨by exact_mod_cast this.1, by exact_mod_cast this.2.1⟩, ⟨this.2.2.1, this.2.2.2.1⟩,
    this.2.2.2.2⟩

theorem convertRGB32ToPlanar_spec_two_by_two :
    (2 % 2 = 0 ∧ 2 % 2 = 0 ∧ 2 ≤ 4) ∧
      ∃ ops, convertRGB32ToPlanar 4 2 (fun _ => 0) 2 2 8 false = some ops ∧
        PlanarImage (fun _ => 0) (fun _ => 0) 4 2 2 8 false (applyStores (fun _ => 0) ops) ∧
        ∀ r g b : UInt8, InVideoRange (lumaValue r.toNat g.toNat b.toNat) ∧
          InVideoRange (cbValue r.toNat g.toNat b.toNat) ∧ InVideoRange (crValue r.toNat g.toNat b.toNat) :=
  ⟨by decide, convertRGB32ToPlanar_spec (fun _ => 0) (fun _ => 0) 4 2 2 2 8 false rfl rfl (by decide)⟩

end FrameworksNative
