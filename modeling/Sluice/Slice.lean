/-!
Positions in a list. A negative position counts from the end, and the bounds of a slice are moved
inside the list instead of being refused.
-/
namespace Sluice

/-- Whether a machine word holds a number. Single positions have to fit, bounds of slices do not. -/
def fitsWord (i : Int) : Bool :=
  -9223372036854775808 ≤ i && i < 9223372036854775808

/-- The bound of a slice of a list of `n` items, as an offset in `0..n`. -/
def clamp (n : Nat) (i : Int) : Nat :=
  min n (if i < 0 then i + n else i).toNat

theorem clamp_of_le {n : Nat} {i : Int} (lo : 0 ≤ i) (hi : i ≤ n) : clamp n i = i.toNat := by
  unfold clamp
  omega

theorem clamp_of_neg {n : Nat} {i : Int} (neg : i < 0) : clamp n i = (i + n).toNat := by
  unfold clamp
  omega

/-- The items from `a` up to but excluding `b`. -/
def slice (xs : List α) (a b : Int) : List α :=
  let start := clamp xs.length a
  (xs.drop start).take (clamp xs.length b - start)

theorem slice_of_le {xs : List α} {a b : Int} (lo : 0 ≤ a) (mid : a ≤ b) (hi : b ≤ xs.length) :
    slice xs a b = (xs.drop a.toNat).take (b - a).toNat := by
  have ha : clamp xs.length a = a.toNat := clamp_of_le lo (by omega)
  have hb : clamp xs.length b = b.toNat := clamp_of_le (by omega) hi
  simp only [slice, ha, hb]
  congr 1
  omega

theorem slice_from_zero {xs : List α} {c : Nat} (inside : c ≤ xs.length) :
    slice xs 0 c = xs.take c := by
  rw [slice_of_le (Int.le_refl 0) (by omega) (by omega)]
  simp only [Int.toNat_zero, List.drop_zero, Int.sub_zero, Int.toNat_natCast]

/-- Pieces that follow each other make one piece. -/
theorem slice_append {xs : List α} {i j k : Int} (lo : 0 ≤ i) (first : i ≤ j) (rest : j ≤ k)
    (hi : k ≤ xs.length) : slice xs i j ++ slice xs j k = slice xs i k := by
  rw [slice_of_le lo first (by omega), slice_of_le (by omega) rest hi,
    slice_of_le lo (by omega) hi]
  have amount : (k - i).toNat = (j - i).toNat + (k - j).toNat := by omega
  have start : j.toNat = i.toNat + (j - i).toNat := by omega
  rw [amount, start, List.take_add, List.drop_drop]

/-- The item at a position, if there is one. -/
def itemAt? (xs : List α) (i : Int) : Option α :=
  if 0 ≤ i then xs[i.toNat]?
  else if 0 ≤ i + xs.length then xs[(i + xs.length).toNat]?
  else none

theorem itemAt?_eq_none_iff {xs : List α} {i : Int} :
    itemAt? xs i = none ↔ i < -xs.length ∨ xs.length ≤ i := by
  unfold itemAt?
  split
  · simp only [List.getElem?_eq_none_iff]; omega
  · split
    · simp only [List.getElem?_eq_none_iff]; omega
    · simp only [true_iff]; omega

/-- The offsets that a stepped slice of a list of `n` items visits. Going down, a missing start is
the last item and a missing end lies before the first. -/
def stridden (n : Nat) (a b : Option Int) (step : Int) : List Nat :=
  let low : Int := if step < 0 then -1 else 0
  let high : Int := if step < 0 then n - 1 else n
  let bound (i : Int) : Int := max low (min high (if i < 0 then i + n else i))
  let start := (a.map bound).getD (if step < 0 then high else low)
  let stop := (b.map bound).getD (if step < 0 then low else high)
  let span := if step < 0 then start - stop else stop - start
  let count := (span + step.natAbs - 1) / step.natAbs
  (List.range count.toNat).map fun (k : Nat) => (start + k * step).toNat

/-- A stepped slice. A step of zero has no meaning. -/
def stride (xs : List α) (a b : Option Int) (step : Int) : Option (List α) :=
  if step = 0 then none
  else some ((stridden xs.length a b step).filterMap (xs[·]?))

end Sluice
