import RmTest.Library.SingleRounding

/-! What the operations on singles make of the numbers that these stand for. -/
namespace Single

open FloatModel

/-- The largest number that a single stands for. -/
def largest : ℚ := valueOf 0x7f7fffff

theorem largest_eq : largest = (2 ^ 24 - 1) * 2 ^ 104 := by norm_num [largest, valueOf]

theorem toNat_bits_pack (sign : Bool) (n : Nat) :
    (pack sign n).bits.toNat = min n 0x7f800000 + if sign then 2 ^ 31 else 0 := by
  have hSmall : min n 0x7f800000 ≤ 0x7f800000 := min_le_right _ _
  rw [pack, UInt32.toNat_ofNat']
  refine Nat.mod_eq_of_lt ?_
  split_ifs <;> omega

theorem magnitude_pack (sign : Bool) (n : Nat) : (pack sign n).magnitude = min n 0x7f800000 := by
  have hSmall : min n 0x7f800000 ≤ 0x7f800000 := min_le_right _ _
  rw [magnitude, toNat_bits_pack]
  split_ifs <;> omega

theorem negative_pack (sign : Bool) (n : Nat) : (pack sign n).negative = sign := by
  have hSmall : min n 0x7f800000 ≤ 0x7f800000 := min_le_right _ _
  rw [negative, toNat_bits_pack]
  cases sign <;> simp

theorem read_pack {sign : Bool} {n : Nat} (finite : n < 0x7f800000) :
    (pack sign n).read = .num (if sign then -valueOf n else valueOf n) := by
  have hMagnitude : (pack sign n).magnitude = n := by
    rw [magnitude_pack]
    exact min_eq_left finite.le
  have hNan : (pack sign n).isNan = false := by
    rw [isNan, hMagnitude]
    exact decide_eq_false (by omega)
  rw [read, hNan, hMagnitude, negative_pack, if_neg Bool.false_ne_true, if_neg finite.ne]

theorem read_pack_infinite {sign : Bool} {n : Nat} (large : 0x7f800000 ≤ n) :
    (pack sign n).read = .infinite sign := by
  have hMagnitude : (pack sign n).magnitude = 0x7f800000 := by
    rw [magnitude_pack]
    exact min_eq_right large
  have hNan : (pack sign n).isNan = false := by
    rw [isNan, hMagnitude]
    exact decide_eq_false (lt_irrefl _)
  rw [read, hNan, hMagnitude, negative_pack, if_neg Bool.false_ne_true, if_pos rfl]

theorem read_pack_ne_nan (sign : Bool) (n : Nat) : (pack sign n).read ≠ .nan := by
  rcases Nat.lt_or_ge n 0x7f800000 with hFinite | hLarge
  · rw [read_pack hFinite]
    exact fun h => by cases h
  · rw [read_pack_infinite hLarge]
    exact fun h => by cases h

@[simp] theorem read_zero : (0 : Single).read = .num 0 := by decide +kernel
@[simp] theorem read_nan : nan.read = .nan := by decide +kernel

theorem magnitude_of_read {a : Single} {x : ℚ} (num : a.read = .num x) :
    a.magnitude < 0x7f800000 ∧
      x = if a.negative then -valueOf a.magnitude else valueOf a.magnitude := by
  rw [read] at num
  split_ifs at num with hNan hInfinite hSign
  · have hNot : ¬ 0x7f800000 < a.magnitude := fun h => hNan (decide_eq_true h)
    exact ⟨by omega, by rw [if_pos hSign]; exact (Reading.num.inj num).symm⟩
  · have hNot : ¬ 0x7f800000 < a.magnitude := fun h => hNan (decide_eq_true h)
    exact ⟨by omega, by rw [if_neg hSign]; exact (Reading.num.inj num).symm⟩

theorem abs_of_read {a : Single} {x : ℚ} (num : a.read = .num x) : |x| = valueOf a.magnitude := by
  rw [(magnitude_of_read num).2]
  split_ifs
  · rw [abs_neg, abs_of_nonneg (valueOf_nonneg _)]
  · exact abs_of_nonneg (valueOf_nonneg _)

theorem abs_le_largest {a : Single} {x : ℚ} (num : a.read = .num x) : |x| ≤ largest := by
  have hMagnitude := (magnitude_of_read num).1
  rw [abs_of_read num]
  exact valueOf_le_valueOf.mpr (by omega)

/-- A single stands for a number that rounding leaves alone. -/
theorem nearest_of_read {a : Single} {x : ℚ} (num : a.read = .num x) : nearest x = x := by
  rw [(magnitude_of_read num).2]
  split_ifs
  · rw [nearest_neg, nearest_valueOf]
  · exact nearest_valueOf _

/-- The sign bit tells the sign, but for zeros. -/
theorem negative_of_read {a : Single} {x : ℚ} (num : a.read = .num x) (nonzero : x ≠ 0) :
    a.negative = decide (x < 0) := by
  have hValue := (magnitude_of_read num).2
  have hNonneg := valueOf_nonneg a.magnitude
  cases hSign : a.negative with
  | true =>
      rw [if_pos hSign] at hValue
      exact (decide_eq_true (lt_of_le_of_ne (by linarith) nonzero)).symm
  | false =>
      rw [if_neg (by simp [hSign])] at hValue
      exact (decide_eq_false (by linarith)).symm

theorem nearestMagnitude_lt {q : ℚ} (nonneg : 0 ≤ q) (bound : q ≤ largest) :
    nearestMagnitude q < 0x7f800000 := by
  have hNearest := nearestMagnitude_mono nonneg bound
  rw [largest, nearestMagnitude_valueOf] at hNearest
  omega

/-- A rounded number with its sign. -/
theorem read_pack_nearest {q : ℚ} {sign : Bool} (bound : |q| ≤ largest)
    (signed : q ≠ 0 → sign = decide (q < 0)) :
    (pack sign (nearestMagnitude |q|)).read = .num (nearest q) := by
  rw [read_pack (nearestMagnitude_lt (abs_nonneg q) bound), nearest]
  by_cases hZero : q = 0
  · subst hZero
    simp [nearestMagnitude_zero, valueOf_zero]
  · rw [signed hZero]
    simp

theorem read_round {q : ℚ} (bound : |q| ≤ largest) : (round q).read = .num (nearest q) :=
  read_pack_nearest bound fun _ => rfl

theorem read_lit {q : ℚ} (bound : |q| ≤ largest) : (lit q : Single).read = .num (nearest q) :=
  read_round bound

/-- The number of a rank. -/
def ofRank (z : ℤ) : ℚ := if z < 0 then -valueOf z.natAbs else valueOf z.natAbs

theorem ofRank_le_ofRank {y z : ℤ} : ofRank y ≤ ofRank z ↔ y ≤ z := by
  have hNonneg := valueOf_nonneg
  have hPositive {n : Nat} (positive : 0 < n) : 0 < valueOf n := by
    refine (hNonneg n).lt_of_ne fun h => ?_
    rw [← valueOf_zero] at h
    exact positive.ne (valueOf_injective h)
  unfold ofRank
  split_ifs with hY hZ hZ
  · rw [neg_le_neg_iff, valueOf_le_valueOf]
    omega
  · refine iff_of_true ?_ (by omega)
    linarith [hNonneg y.natAbs, hNonneg z.natAbs]
  · refine iff_of_false ?_ (by omega)
    linarith [hNonneg y.natAbs, hPositive (n := z.natAbs) (by omega)]
  · rw [valueOf_le_valueOf]
    omega

theorem ofRank_rank {a : Single} {x : ℚ} (num : a.read = .num x) : x = ofRank a.rank := by
  rw [(magnitude_of_read num).2, rank, ofRank]
  cases hSign : a.negative with
  | true =>
      rcases Nat.eq_zero_or_pos a.magnitude with hZero | hPositive
      · simp [hZero, valueOf_zero]
      · rw [if_pos rfl, if_pos rfl, if_pos (by omega), Int.natAbs_neg, Int.natAbs_natCast]
  | false => simp

theorem isNan_iff {a : Single} : a.isNan = true ↔ a.read = .nan := by
  unfold read
  split_ifs with hNan
  · exact iff_of_true hNan rfl
  · exact iff_of_false hNan fun h => by cases h
  · exact iff_of_false hNan fun h => by cases h

theorem isNan_of_num {a : Single} {x : ℚ} (num : a.read = .num x) : a.isNan = false :=
  Bool.eq_false_iff.mpr fun h => by
    rw [isNan_iff.mp h] at num
    cases num

@[simp] theorem lt_of_nan {a b : Single} (nan : a.read = .nan ∨ b.read = .nan) :
    lt a b = false := by
  have hNan : a.isNan = true ∨ b.isNan = true := nan.imp isNan_iff.mpr isNan_iff.mpr
  show compare _ a b = false
  rcases hNan with h | h <;> simp [compare, h]

theorem lt_num {a b : Single} {x y : ℚ} (ha : a.read = .num x) (hb : b.read = .num y) :
    lt a b = decide (x < y) := by
  show compare _ a b = _
  rw [compare, isNan_of_num ha, isNan_of_num hb, ofRank_rank ha, ofRank_rank hb]
  simp only [Bool.not_false, Bool.true_and, ← not_le, ofRank_le_ofRank]

theorem eq_num {a b : Single} {x y : ℚ} (ha : a.read = .num x) (hb : b.read = .num y) :
    eq a b = decide (x = y) := by
  show compare _ a b = _
  rw [compare, isNan_of_num ha, isNan_of_num hb, ofRank_rank ha, ofRank_rank hb]
  simp only [Bool.not_false, Bool.true_and, le_antisymm_iff, ofRank_le_ofRank]

theorem toNat_bits_neg (a : Single) :
    (-a).bits.toNat = if a.negative then a.bits.toNat - 2 ^ 31 else a.bits.toNat + 2 ^ 31 := by
  have hSize := a.bits.toNat_lt
  have hSum : (-a).bits.toNat = (a.bits.toNat + 2 ^ 31) % 2 ^ 32 := UInt32.toNat_add ..
  rw [hSum, negative]
  split_ifs with hSign <;> simp only [decide_eq_true_eq] at hSign <;> omega

theorem magnitude_neg (a : Single) : (-a).magnitude = a.magnitude := by
  rw [magnitude, magnitude, toNat_bits_neg, negative]
  split_ifs with hSign <;> simp only [decide_eq_true_eq] at hSign <;> omega

theorem negative_neg (a : Single) : (-a).negative = !a.negative := by
  have hSize := a.bits.toNat_lt
  rw [negative, toNat_bits_neg]
  cases hSign : a.negative with
  | true =>
      have hHigh : 2 ^ 31 ≤ a.bits.toNat := of_decide_eq_true hSign
      rw [if_pos rfl]
      exact decide_eq_false (by omega)
  | false =>
      rw [if_neg Bool.false_ne_true]
      exact decide_eq_true (by omega)

theorem isNan_neg (a : Single) : (-a).isNan = a.isNan := by
  rw [isNan, isNan, magnitude_neg]

theorem read_neg_num {a : Single} {x : ℚ} (num : a.read = .num x) : (-a).read = .num (-x) := by
  obtain ⟨hMagnitude, hValue⟩ := magnitude_of_read num
  have hNan := isNan_of_num num
  rw [read, isNan_neg, hNan, magnitude_neg, negative_neg, if_neg Bool.false_ne_true,
    if_neg hMagnitude.ne, hValue]
  cases a.negative <;> simp

theorem read_neg_nan {a : Single} (nan : a.read = .nan) : (-a).read = .nan :=
  isNan_iff.mp (by rw [isNan_neg]; exact isNan_iff.mpr nan)

theorem negative_of_infinite {a : Single} {sign : Bool} (infinite : a.read = .infinite sign) :
    a.negative = sign := by
  rw [read] at infinite
  split_ifs at infinite
  exact Reading.infinite.inj infinite

theorem read_neg_infinite {a : Single} {sign : Bool} (infinite : a.read = .infinite sign) :
    (-a).read = .infinite (!sign) := by
  rw [← negative_of_infinite infinite]
  rw [read] at infinite
  split_ifs at infinite with hNan hMagnitude
  rw [read, isNan_neg, if_neg hNan, magnitude_neg, if_pos hMagnitude, negative_neg]

theorem add_def (a b : Single) : a + b = add a b := rfl

theorem read_add {a b : Single} {x y : ℚ} (ha : a.read = .num x) (hb : b.read = .num y)
    (bound : |x + y| ≤ largest) : (a + b).read = .num (nearest (x + y)) := by
  simp only [add_def, add, ha, hb]
  split_ifs with hZero
  · rw [zero, read_pack (by norm_num), hZero, nearest_zero, valueOf_zero, neg_zero, ite_self]
  · exact read_round bound

theorem read_sub {a b : Single} {x y : ℚ} (ha : a.read = .num x) (hb : b.read = .num y)
    (bound : |x - y| ≤ largest) : (a - b).read = .num (nearest (x - y)) := by
  rw [sub_eq_add_neg] at bound ⊢
  exact read_add ha (read_neg_num hb) bound

/-- The sign bit of a product or quotient that is not zero. -/
theorem xor_negative {a b : Single} {x y : ℚ} (ha : a.read = .num x) (hb : b.read = .num y)
    (hx : x ≠ 0) (hy : y ≠ 0) : (a.negative ^^ b.negative) = decide (x * y < 0) := by
  rw [negative_of_read ha hx, negative_of_read hb hy]
  rcases lt_or_gt_of_ne hx with hx | hx <;> rcases lt_or_gt_of_ne hy with hy | hy <;>
    simp [mul_neg_iff, hx, hy, hx.not_gt, hy.not_gt]

theorem mul_def (a b : Single) : a * b = mul a b := rfl

theorem read_mul {a b : Single} {x y : ℚ} (ha : a.read = .num x) (hb : b.read = .num y)
    (bound : |x * y| ≤ largest) : (a * b).read = .num (nearest (x * y)) := by
  simp only [mul_def, mul, ha, hb]
  exact read_pack_nearest bound fun hProduct =>
    xor_negative ha hb (left_ne_zero_of_mul hProduct) (right_ne_zero_of_mul hProduct)

theorem div_def (a b : Single) : a / b = div a b := rfl

theorem div_number {a b : Single} {x y : ℚ} (ha : a.read = .num x) (hb : b.read = .num y)
    (hy : y ≠ 0) : a / b = pack (a.negative ^^ b.negative) (nearestMagnitude |x / y|) := by
  simp only [div_def, div, ha, hb, if_neg hy]

theorem read_div {a b : Single} {x y : ℚ} (ha : a.read = .num x) (hb : b.read = .num y)
    (hy : y ≠ 0) (bound : |x / y| ≤ largest) : (a / b).read = .num (nearest (x / y)) := by
  rw [div_number ha hb hy]
  refine read_pack_nearest bound fun hQuotient => ?_
  have hx : x ≠ 0 := fun h => hQuotient (by rw [h, zero_div])
  rw [xor_negative ha hb hx hy]
  simp only [mul_neg_iff, div_neg_iff]

/-- Adding a zero changes no number. -/
theorem read_add_zero {a b : Single} {x : ℚ} (ha : a.read = .num x) (hb : b.read = .num 0) :
    (a + b).read = .num x := by
  have hSum := read_add ha hb ((add_zero x).symm ▸ abs_le_largest ha)
  rwa [add_zero, nearest_of_read ha] at hSum

theorem read_one_mul {a b : Single} {x : ℚ} (ha : a.read = .num 1) (hb : b.read = .num x) :
    (a * b).read = .num x := by
  have hProduct := read_mul ha hb ((one_mul x).symm ▸ abs_le_largest hb)
  rwa [one_mul, nearest_of_read hb] at hProduct

theorem read_zero_mul {a b : Single} {x : ℚ} (ha : a.read = .num 0) (hb : b.read = .num x) :
    (a * b).read = .num 0 := by
  have hProduct := read_mul ha hb (by rw [zero_mul, abs_zero]; exact valueOf_nonneg _)
  rwa [zero_mul, nearest_zero] at hProduct

theorem read_zero_div {a b : Single} {x : ℚ} (ha : a.read = .num 0) (hb : b.read = .num x)
    (hx : x ≠ 0) : (a / b).read = .num 0 := by
  have hQuotient := read_div ha hb hx (by rw [zero_div, abs_zero]; exact valueOf_nonneg _)
  rwa [zero_div, nearest_zero] at hQuotient

theorem add_nan {a b : Single} (nan : a.read = .nan ∨ b.read = .nan) : (a + b).read = .nan := by
  rcases nan with h | h
  · simp only [add_def, add, h, read_nan]
  · simp only [add_def, add, h]
    cases a.read <;> exact read_nan

theorem sub_nan {a b : Single} (nan : a.read = .nan ∨ b.read = .nan) : (a - b).read = .nan :=
  add_nan (nan.imp id read_neg_nan)

theorem mul_nan {a b : Single} (nan : a.read = .nan ∨ b.read = .nan) : (a * b).read = .nan := by
  rcases nan with h | h
  · simp only [mul_def, mul, h, read_nan]
  · simp only [mul_def, mul, h]
    cases a.read <;> exact read_nan

theorem ne_nan_of_num {a : Single} {x : ℚ} (num : a.read = .num x) : a.read ≠ .nan :=
  fun h => by cases num.symm.trans h

theorem div_nan {a b : Single} (nan : a.read = .nan) : (a / b).read = .nan := by
  simp only [div_def, div, nan, read_nan]

theorem div_zero {a b : Single} {x : ℚ} (ha : a.read = .num x) (hb : b.read = .num 0) :
    a / b = if x = 0 then nan else infinity (a.negative ^^ b.negative) := by
  simp only [div_def, div, ha, hb, if_true]

theorem infinite_div {a b : Single} {sign : Bool} {y : ℚ} (ha : a.read = .infinite sign)
    (hb : b.read = .num y) : a / b = infinity (a.negative ^^ b.negative) := by
  simp only [div_def, div, ha, hb]

/-- Quotients of opposite dividends by a number are NaNs or opposite. -/
theorem div_opposite (a : Single) {b : Single} {y : ℚ} (hb : b.read = .num y) :
    ((a / b).read = .nan ∧ (-a / b).read = .nan) ∨
      ∃ n, a / b = pack (a.negative ^^ b.negative) n ∧
        -a / b = pack (!(a.negative ^^ b.negative)) n := by
  have hSign : ((-a).negative ^^ b.negative) = !(a.negative ^^ b.negative) := by
    rw [negative_neg, Bool.not_xor]
  have hInfinity (sign : Bool) : infinity sign = pack sign 0x7f800000 := by rw [infinity]
  cases ha : a.read with
  | num x =>
      have hNeg := read_neg_num ha
      by_cases hy : y = 0
      · subst hy
        rw [div_zero ha hb, div_zero hNeg hb, hSign]
        by_cases hx : x = 0
        · rw [if_pos hx, if_pos (neg_eq_zero.mpr hx)]
          exact .inl ⟨read_nan, read_nan⟩
        · rw [if_neg hx, if_neg (neg_ne_zero.mpr hx)]
          exact .inr ⟨_, hInfinity _, hInfinity _⟩
      · rw [div_number ha hb hy, div_number hNeg hb hy, hSign, neg_div, abs_neg]
        exact .inr ⟨_, rfl, rfl⟩
  | infinite sign =>
      rw [infinite_div ha hb, infinite_div (read_neg_infinite ha) hb, hSign]
      exact .inr ⟨_, hInfinity _, hInfinity _⟩
  | nan => exact .inl ⟨div_nan ha, div_nan (read_neg_nan ha)⟩

theorem round_ne_nan (q : ℚ) : (round q).read ≠ .nan := read_pack_ne_nan _ _

theorem infinity_ne_nan (sign : Bool) : (infinity sign).read ≠ .nan := read_pack_ne_nan _ _

/-- A sum with a number is no NaN, but for that of a NaN. -/
theorem add_ne_nan {a b : Single} {x : ℚ} (ha : a.read = .num x) (hb : b.read ≠ .nan) :
    (a + b).read ≠ .nan := by
  simp only [add_def, add, ha]
  cases hB : b.read with
  | num y =>
      dsimp only
      split_ifs
      · exact read_pack_ne_nan _ _
      · exact round_ne_nan _
  | infinite sign => exact infinity_ne_nan sign
  | nan => exact absurd hB hb

protected theorem add_comm (a b : Single) : a + b = b + a := by
  simp only [add_def, add]
  cases a.read with
  | num x => cases b.read <;> simp only [add_comm x, Bool.and_comm a.negative]
  | infinite s =>
      cases b.read with
      | infinite t => cases s <;> cases t <;> rfl
      | _ => rfl
  | nan => cases b.read <;> rfl

theorem add_ne_nan' {a b : Single} {y : ℚ} (ha : a.read ≠ .nan) (hb : b.read = .num y) :
    (a + b).read ≠ .nan := by
  rw [Single.add_comm]
  exact add_ne_nan hb ha

theorem sub_ne_nan {a b : Single} {x y : ℚ} (ha : a.read = .num x) (hb : b.read = .num y) :
    (a - b).read ≠ .nan :=
  add_ne_nan ha (ne_nan_of_num (read_neg_num hb))

theorem mul_ne_nan {a b : Single} {x y : ℚ} (ha : a.read = .num x) (hb : b.read = .num y) :
    (a * b).read ≠ .nan := by
  simp only [mul_def, mul, ha, hb]
  exact read_pack_ne_nan _ _

/-- A product with a number that is not zero. -/
theorem mul_ne_nan' {a b : Single} {x : ℚ} (ha : a.read = .num x) (hx : x ≠ 0)
    (hb : b.read ≠ .nan) : (a * b).read ≠ .nan := by
  simp only [mul_def, mul, ha]
  cases hB : b.read with
  | num y => exact read_pack_ne_nan _ _
  | infinite sign =>
      dsimp only
      rw [if_neg hx]
      exact infinity_ne_nan _
  | nan => exact absurd hB hb

/-- A quotient by a number that is not zero. -/
theorem div_ne_nan {a b : Single} {y : ℚ} (ha : a.read ≠ .nan) (hb : b.read = .num y)
    (hy : y ≠ 0) : (a / b).read ≠ .nan := by
  simp only [div_def, div, hb]
  cases hA : a.read with
  | num x =>
      dsimp only
      rw [if_neg hy]
      exact read_pack_ne_nan _ _
  | infinite sign => exact infinity_ne_nan _
  | nan => exact absurd hA ha

theorem rank_of_num {a : Single} {x : ℚ} (num : a.read = .num x) :
    -0x7f800000 < a.rank ∧ a.rank < 0x7f800000 := by
  have hMagnitude := (magnitude_of_read num).1
  rw [rank]
  split_ifs <;> omega

theorem rank_of_infinite {a : Single} {sign : Bool} (infinite : a.read = .infinite sign) :
    a.isNan = false ∧ a.rank = if sign then -0x7f800000 else 0x7f800000 := by
  rw [read] at infinite
  split_ifs at infinite with hNan hMagnitude
  refine ⟨Bool.eq_false_iff.mpr hNan, ?_⟩
  rw [rank, hMagnitude, Reading.infinite.inj infinite]
  rfl

theorem lt_infinite_num {a b : Single} {sign : Bool} {y : ℚ} (ha : a.read = .infinite sign)
    (hb : b.read = .num y) : lt a b = sign ∧ lt b a = !sign := by
  obtain ⟨hNan, hRank⟩ := rank_of_infinite ha
  obtain ⟨hLow, hHigh⟩ := rank_of_num hb
  show compare _ a b = _ ∧ compare _ b a = _
  rw [compare, compare, hNan, isNan_of_num hb, hRank]
  cases sign <;> simp <;> omega

/-- Limits that are numbers in order: a NaN passes, an infinity is cut off. -/
theorem read_clamp {a low high : Single} {l h : ℚ} (hl : low.read = .num l)
    (hh : high.read = .num h) :
    (clamp a low high).read =
      match a.read with
      | .num x => .num (clamp x l h)
      | .infinite sign => .num (if sign then l else h)
      | .nan => .nan := by
  cases ha : a.read with
  | num x =>
      rw [clamp, lt_num ha hl, lt_num hh ha]
      simp only [clamp, lt_rat]
      split_ifs
      · exact hl
      · exact hh
      · exact ha
  | infinite sign =>
      rw [clamp, (lt_infinite_num ha hl).1, (lt_infinite_num ha hh).2]
      cases sign
      · exact hh
      · exact hl
  | nan =>
      rw [clamp, lt_of_nan (.inl ha), lt_of_nan (.inr ha)]
      exact ha

/-- What passes the limits is a NaN or between them. -/
theorem clamp_cases {a low high : Single} {l h : ℚ} (hl : low.read = .num l)
    (hh : high.read = .num h) (order : l ≤ h) :
    (a.read = .nan ∧ (clamp a low high).read = .nan) ∨
      a.read ≠ .nan ∧ ∃ q, (clamp a low high).read = .num q ∧ l ≤ q ∧ q ≤ h := by
  rw [read_clamp hl hh]
  cases a.read with
  | num x =>
      refine .inr ⟨(by rintro ⟨⟩), _, rfl, ?_⟩
      simp only [clamp, lt_rat, decide_eq_true_eq]
      split_ifs <;> constructor <;> linarith
  | infinite sign =>
      refine .inr ⟨(by rintro ⟨⟩), _, rfl, ?_⟩
      split_ifs
      · exact ⟨le_rfl, order⟩
      · exact ⟨order, le_rfl⟩
  | nan => exact .inl ⟨rfl, rfl⟩

theorem castInt16_num {a : Single} {x : ℚ} (num : a.read = .num x) : castInt16 a = castInt16 x := by
  rw [castInt16, castInt16, trunc_num num]

theorem castInt16_nan {a : Single} (nan : a.read = .nan) : castInt16 a = 0 := by
  rw [castInt16, trunc_nan nan]
  rfl

theorem lt_infinite {a b : Single} {s t : Bool} (ha : a.read = .infinite s)
    (hb : b.read = .infinite t) : lt a b = (s && !t) := by
  obtain ⟨hNan, hRank⟩ := rank_of_infinite ha
  obtain ⟨hNan', hRank'⟩ := rank_of_infinite hb
  show compare _ a b = _
  rw [compare, hNan, hNan', hRank, hRank']
  cases s <;> cases t <;> rfl

theorem lt_negInfinity {low : Single} (infinite : low.read = .infinite true) (a : Single) :
    lt a low = false := by
  cases ha : a.read with
  | num x => exact (lt_infinite_num infinite ha).2
  | infinite sign => exact (lt_infinite ha infinite).trans (Bool.and_false sign)
  | nan => exact lt_of_nan (.inl ha)

theorem infinity_lt {high : Single} (infinite : high.read = .infinite false) (a : Single) :
    lt high a = false := by
  cases ha : a.read with
  | num x => exact (lt_infinite_num infinite ha).1
  | infinite sign => exact (lt_infinite infinite ha).trans (Bool.false_and _)
  | nan => exact lt_of_nan (.inr ha)

/-- Infinite limits are none. -/
theorem clamp_infinite {low high : Single} (hl : low.read = .infinite true)
    (hh : high.read = .infinite false) (a : Single) : clamp a low high = a := by
  rw [clamp, lt_negInfinity hl, infinity_lt hh]
  rfl

/-- NaNs are no limits. -/
theorem clamp_nan_limits {low high : Single} (hl : low.read = .nan) (hh : high.read = .nan)
    (a : Single) : clamp a low high = a := by
  rw [clamp, lt_of_nan (.inr hl), lt_of_nan (.inl hh)]
  rfl

/-- What comes out of limits is the value or a limit. -/
theorem clamp_mem (a low high : Single) :
    clamp a low high = a ∨ clamp a low high = low ∨ clamp a low high = high := by
  unfold clamp
  split_ifs
  · exact .inr (.inl rfl)
  · exact .inr (.inr rfl)
  · exact .inl rfl

/-- Limits of one magnitude bring a number nearer to zero. -/
theorem clamp_opposite {a : Single} {x : ℚ} (num : a.read = .num x) (n : Nat) :
    ∃ q, (clamp a (pack true n) (pack false n)).read = .num q ∧ |q| ≤ |x| := by
  rcases Nat.lt_or_ge n 0x7f800000 with hFinite | hLarge
  · have hNonneg := valueOf_nonneg n
    rw [read_clamp (read_pack hFinite) (read_pack hFinite), num]
    refine ⟨_, rfl, ?_⟩
    simp only [clamp, lt_rat, decide_eq_true_eq, if_true, Bool.false_eq_true, if_false]
    split_ifs with hLow hHigh
    · rw [abs_neg, abs_of_nonneg hNonneg, abs_of_neg (by linarith)]
      linarith
    · rw [abs_of_nonneg hNonneg]
      exact hHigh.le.trans (le_abs_self x)
    · exact le_rfl
  · rw [clamp_infinite (read_pack_infinite hLarge) (read_pack_infinite hLarge)]
    exact ⟨x, num, le_rfl⟩

/-- An integer that fits 16 bits is a single. -/
theorem read_int16 (z : Int16) : (lit z.toInt : Single).read = .num z.toInt := by
  have hLow := z.le_toInt
  have hHigh := z.toInt_lt
  have hSmall : z.toInt.natAbs ≤ 2 ^ 24 := by omega
  have hBound : |(z.toInt : ℚ)| ≤ largest := by
    have hInt : |z.toInt| ≤ 2 ^ 15 := abs_le.mpr ⟨by omega, by omega⟩
    have hCast : |(z.toInt : ℚ)| ≤ 2 ^ 15 := by exact_mod_cast hInt
    rw [largest_eq]
    exact hCast.trans (by norm_num)
  rw [read_lit hBound, nearest_intCast hSmall]

end Single
