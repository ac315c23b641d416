import SalesDesk.Figure

/-!
Where arithmetic is exact, all ways of adding up a column come to the same: from left to right, in
eight lanes, or in halves.
-/
namespace SalesDesk.Figure

theorem zero_eq : (zero : Rat) = 0 := rfl

theorem sum_nil : sum ([] : List Rat) = 0 := rfl

/-- A running sum may start anywhere. -/
theorem foldl_add (x : Rat) (xs : List Rat) : xs.foldl (· + ·) x = x + sum xs := by
  induction xs generalizing x with
  | nil => exact (Rat.add_zero x).symm
  | cons y rest ih =>
    have hrest : sum (y :: rest) = y + sum rest := by
      rw [sum, List.foldl_cons, ih, zero_eq, Rat.zero_add]
    rw [List.foldl_cons, ih, hrest, Rat.add_assoc]

theorem sum_cons (x : Rat) (xs : List Rat) : sum (x :: xs) = x + sum xs := by
  rw [sum, List.foldl_cons, foldl_add, zero_eq, Rat.zero_add]

theorem sum_append (xs ys : List Rat) : sum (xs ++ ys) = sum xs + sum ys := by
  rw [sum, List.foldl_append, ← sum, foldl_add]

theorem sum_take_add_drop (n : Nat) (xs : List Rat) :
    sum (xs.take n) + sum (xs.drop n) = sum xs := by
  rw [← sum_append, List.take_append_drop]

theorem sumFromFirst_eq (xs : List Rat) : sumFromFirst xs = sum xs := by
  cases xs with
  | nil => rfl
  | cons x rest => rw [sumFromFirst, foldl_add, sum_cons]

theorem sum_zipWith {xs ys : List Rat} (h : xs.length = ys.length) :
    sum (List.zipWith (· + ·) xs ys) = sum xs + sum ys := by
  induction xs generalizing ys with
  | nil =>
    obtain rfl := List.eq_nil_of_length_eq_zero h.symm
    exact (Rat.add_zero 0).symm
  | cons x rest ih =>
    cases ys with
    | nil => cases h
    | cons y more =>
      have hrest : rest.length = more.length := Nat.succ.inj h
      rw [List.zipWith_cons_cons, sum_cons, sum_cons, sum_cons, ih hrest]
      grind

/-- The lanes and what they leave over hold all that was to be added. -/
theorem sum_addLanes {rows : Nat} {lanes xs : List Rat} (hlanes : lanes.length = 8)
    (hxs : 8 * rows ≤ xs.length) :
    (addLanes rows lanes xs).1.length = 8 ∧
      sum (addLanes rows lanes xs).1 + sum (addLanes rows lanes xs).2 = sum lanes + sum xs := by
  induction rows generalizing lanes xs with
  | zero => exact ⟨hlanes, rfl⟩
  | succ rows ih =>
    have htake : lanes.length = (xs.take 8).length := by
      rw [List.length_take, hlanes]
      omega
    have hlength : (List.zipWith (· + ·) lanes (xs.take 8)).length = 8 := by
      rw [List.length_zipWith, ← htake, hlanes, Nat.min_self]
    have hdrop : 8 * rows ≤ (xs.drop 8).length := by
      rw [List.length_drop]
      omega
    obtain ⟨hfound, hsum⟩ := ih hlength hdrop
    refine ⟨hfound, hsum.trans ?_⟩
    rw [sum_zipWith htake, Rat.add_assoc, sum_take_add_drop]

theorem joinLanes_eq {lanes : List Rat} (h : lanes.length = 8) : joinLanes lanes = sum lanes := by
  match lanes, h with
  | [a, b, c, d, e, f, g, h], _ =>
    simp only [joinLanes, sum_cons, sum_nil]
    grind

theorem laneSum_eq (xs : List Rat) : laneSum xs = sum xs := by
  unfold laneSum
  split
  · exact sumFromFirst_eq xs
  · have hlanes : (xs.take 8).length = 8 := by
      rw [List.length_take]
      omega
    have hrest : 8 * (xs.length / 8 - 1) ≤ (xs.drop 8).length := by
      rw [List.length_drop]
      omega
    obtain ⟨hlength, hsum⟩ := sum_addLanes hlanes hrest
    change List.foldl (· + ·) (joinLanes (addLanes _ _ _).1) (addLanes _ _ _).2 = sum xs
    rw [foldl_add, joinLanes_eq hlength, hsum, sum_take_add_drop]

theorem halvedSum_eq (depth : Nat) (xs : List Rat) : halvedSum depth xs = sum xs := by
  induction depth generalizing xs with
  | zero => exact laneSum_eq xs
  | succ depth ih =>
    unfold halvedSum
    split
    · exact laneSum_eq xs
    · simp only [ih, sum_take_add_drop]

theorem total_eq (xs : List Rat) : total xs = sum xs := by
  have hnone : (xs.map fun x => if isMissing x then zero else x) = xs :=
    List.map_id' xs
  rw [total, hnone, halvedSum_eq, zero_eq, Rat.zero_add]

theorem sum_perm {xs ys : List Rat} (h : xs.Perm ys) : sum xs = sum ys := by
  induction h with
  | nil => rfl
  | cons x _ ih => rw [sum_cons, sum_cons, ih]
  | swap x y rest =>
    rw [sum_cons, sum_cons, sum_cons, sum_cons, ← Rat.add_assoc, Rat.add_comm y, Rat.add_assoc]
  | trans _ _ ih ih' => exact ih.trans ih'

theorem total_perm {xs ys : List Rat} (h : xs.Perm ys) : total xs = total ys := by
  rw [total_eq, total_eq, sum_perm h]

theorem runSum_eq (xs : List Rat) : runSum xs = sum xs := by
  match xs with
  | [] => rfl
  | [x] => rw [runSum, sum_cons, sum_nil, Rat.add_zero]
  | x :: y :: rest => exact (congrArg (x + ·) (halvedSum_eq _ _)).trans (sum_cons x _).symm

/-- Nothing is ever added too much. -/
theorem running_add (s x : Rat) : Running.add ⟨s, zero⟩ x = ⟨s + x, zero⟩ := by
  have hstep : s + (x - zero) = s + x := by rw [zero_eq]; grind
  have hexcess : s + x - s - (x - zero) = zero := by rw [zero_eq]; grind
  simp only [Running.add, hstep, hexcess]
  rfl

theorem scatteredSum_eq (xs : List Rat) : scatteredSum xs = sum xs := by
  have hrun : ∀ s : Rat, xs.foldl Running.add ⟨s, zero⟩ = ⟨s + sum xs, zero⟩ := by
    induction xs with
    | nil => exact fun s => congrArg (Running.mk · zero) (Rat.add_zero s).symm
    | cons x rest ih =>
      intro s
      rw [List.foldl_cons, running_add, ih, sum_cons, Rat.add_assoc]
  rw [scatteredSum, hrun, zero_eq, Rat.zero_add]

theorem ofInt_ne_zero {n : Int} (h : 0 < n) : (ofInt n : Rat) ≠ 0 := by
  intro hzero
  have hn : n = 0 := Rat.intCast_eq_zero_iff.mp hzero
  omega

theorem divide?_eq {x y : Rat} (h : y ≠ 0) : divide? x y = some (x / y) := by
  have hzero : isZero y = false := beq_eq_false_iff_ne.mpr h
  simp only [divide?, hzero]
  rfl

end SalesDesk.Figure
