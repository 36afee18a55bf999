import Mathlib
import Chip.Support.SortUtils

/-! The two sorts of the support library as loops over an array, with the index arithmetic
of the machine. Where both loop nests stay inside the array they compute the one stable sort
of its items. -/
namespace Chip.Sorting

open List

variable {α : Type}

def tied (f : α → α → Bool) (a b : α) : Bool := !f a b && !f b a

/-- The items in order, with tied items in the order they came in. -/
structure StableSorted (f : α → α → Bool) (items sorted : List α) : Prop where
  perm : sorted.Perm items
  ordered : Ordered f sorted
  stable : ∀ a, sorted.filter (tied f a) = items.filter (tied f a)

/-- `a - b` for values of `size_t`. -/
def sizeSub (a b : Nat) : Nat := (a + (2 ^ 64 - b)) % 2 ^ 64

/-- One turn of the inner loop of `BubbleSort`. It has no value where an access is out of
bounds. -/
def compareSwap (f : α → α → Bool) (items : List α) (j : Nat) : Option (List α) := do
  let a ← items[j + 1]?
  let b ← items[j]?
  if f a b then some ((items.set j a).set (j + 1) b) else some items

def bubblePass (f : α → α → Bool) (n : Nat) (items : List α) (i : Nat) : Option (List α) :=
  (List.range (sizeSub (sizeSub n i) 1)).foldlM (compareSwap f) items

/-- `BubbleSort(items, n, f)`, for an array of `n` items. -/
def BubbleSort (f : α → α → Bool) (items : List α) : Option (List α) :=
  (List.range (sizeSub items.length 1)).foldlM (bubblePass f items.length) items

def intMin : Int := -2147483648

/-- `static_cast<int>(i) - 1`. The cast wraps, the difference has no value where it is below
every `int`. -/
def intBefore (i : Nat) : Option Int :=
  let j := (i : Int).bmod (2 ^ 32) - 1
  if j < intMin then none else some j

/-- An assignment to `items[j]`, for a signed index. -/
def assign (items : List α) (j : Int) (item : α) : Option (List α) :=
  if 0 ≤ j ∧ j < items.length then some (items.set j.toNat item) else none

/-- The `while` loop of `InsertionSort`: the items that `key` goes before move one place to
the right. -/
def shift (f : α → α → Bool) (key : α) (items : List α) (j : Int) : Option (List α × Int) :=
  if 0 ≤ j then do
    let item ← items[j.toNat]?
    if f key item then
      let items ← assign items (j + 1) item
      shift f key items (j - 1)
    else some (items, j)
  else some (items, j)
termination_by (j + 1).toNat

def insertStep (f : α → α → Bool) (items : List α) (i : Nat) : Option (List α) := do
  let key ← items[i]?
  let j ← intBefore i
  let (items, j) ← shift f key items j
  assign items (j + 1) key

/-- `InsertionSort(items, n, f)`, for an array of `n` items. -/
def InsertionSort (f : α → α → Bool) (items : List α) : Option (List α) :=
  (List.range' 1 (items.length - 1)).foldlM (insertStep f) items

variable {f : α → α → Bool}

theorem foldlM_none {step : List α → Nat → Option (List α)} {turns : List Nat} {k : Nat}
  (hTurn : k ∈ turns) (hStep : ∀ items, step items k = none) (items : List α) :
  turns.foldlM step items = none := by
  induction turns generalizing items with
  | nil => exact absurd hTurn not_mem_nil
  | cons turn turns ih =>
    rw [foldlM_cons]
    rcases mem_cons.mp hTurn with rfl | hLater
    · rw [hStep]
      rfl
    · cases hHere : step items turn with
      | none => rfl
      | some next => exact ih hLater next

section Bubble

theorem sizeSub_of_le {a b : Nat} (hle : b ≤ a) (ha : a < 2 ^ 64) : sizeSub a b = a - b := by
  unfold sizeSub
  omega

theorem compareSwap_at (front : List α) (b a : α) (rest : List α) :
  compareSwap f (front ++ b :: a :: rest) front.length =
    some (front ++ if f a b then a :: b :: rest else b :: a :: rest) := by
  by_cases hSwap : f a b
  · simp [compareSwap, hSwap]
  · simp [compareSwap, hSwap]

theorem compareSwaps (front items : List α) (count : Nat) (hCount : count < items.length) :
  (range' front.length count).foldlM (compareSwap f) (front ++ items) =
    some (front ++ bubble f count items) := by
  induction count generalizing front items with
  | zero => rfl
  | succ count ih =>
    match items, hCount with
    | b :: a :: rest, hCount =>
      have hRest : count < (a :: rest).length ∧ count < (b :: rest).length := by
        simp only [length_cons] at hCount ⊢
        omega
      rw [range'_succ, foldlM_cons, compareSwap_at, bubble]
      by_cases hSwap : f a b
      · have hNext := ih (front ++ [a]) (b :: rest) hRest.2
        simpa [hSwap] using hNext
      · have hNext := ih (front ++ [b]) (a :: rest) hRest.1
        simpa [hSwap] using hNext

theorem bubble_length (count : Nat) (items : List α) :
  (bubble f count items).length = items.length := by
  fun_induction bubble f count items <;> simp_all

theorem bubblePass_eq {n i : Nat} {items : List α} (hn : items.length = n) (hSize : n < 2 ^ 64)
  (hi : i < n - 1) : bubblePass f n items i = some (bubble f (n - i - 1) items) := by
  have hPass : sizeSub (sizeSub n i) 1 = n - i - 1 := by
    rw [sizeSub_of_le (by omega) hSize, sizeSub_of_le (by omega) (by omega)]
  rw [bubblePass, hPass, range_eq_range']
  exact compareSwaps [] items (n - i - 1) (by omega)

theorem BubbleSort_eq (items : List α) (hItem : 0 < items.length) (hSize : items.length < 2 ^ 64) :
  BubbleSort f items = some (bubbleSort f items) := by
  have hPasses : ∀ (turns : List Nat) (list : List α), (∀ i ∈ turns, i < items.length - 1) →
      list.length = items.length →
      turns.foldlM (bubblePass f items.length) list =
        some (turns.foldl (fun list i => bubble f (items.length - i - 1) list) list) := by
    intro turns
    induction turns with
    | nil => exact fun list _ _ => rfl
    | cons i turns ih =>
      intro list hTurns hLength
      rw [foldlM_cons, foldl_cons, bubblePass_eq hLength hSize (hTurns i (by simp))]
      exact ih _ (fun k hk => hTurns k (by simp [hk])) ((bubble_length _ _).trans hLength)
  rw [BubbleSort, sizeSub_of_le hItem hSize, bubbleSort]
  exact hPasses _ items (fun i hi => mem_range.mp hi) rfl

theorem BubbleSort_nil : BubbleSort f ([] : List α) = none := by
  have hFirst : ∀ step : List α → Nat → Option (List α), step [] 0 = none →
      (range (2 ^ 64 - 2 + 1)).foldlM step [] = none := by
    intro step hStep
    rw [range_succ_eq_map, foldlM_cons, hStep]
    rfl
  have hPasses : sizeSub 0 1 = 2 ^ 64 - 2 + 1 := by decide
  have hPass : bubblePass f 0 ([] : List α) 0 = none := by
    have hTurns : sizeSub (sizeSub 0 0) 1 = 2 ^ 64 - 2 + 1 := by decide
    rw [bubblePass, hTurns]
    exact hFirst _ rfl
  rw [BubbleSort, length_nil, hPasses]
  exact hFirst _ hPass

end Bubble

section Insertion

theorem intBefore_eq {i : Nat} (hi : i < 2 ^ 31) : intBefore i = some ((i : Int) - 1) := by
  have hCast : (i : Int).bmod (2 ^ 32) = i := Int.bmod_eq_of_le (by omega) (by omega)
  have hAbove : ¬(i : Int) - 1 < intMin := by
    unfold intMin
    omega
  rw [intBefore, hCast, if_neg hAbove]

theorem intBefore_overflow : intBefore (2 ^ 31) = none := by
  have hCast : ((2 ^ 31 : Nat) : Int).bmod (2 ^ 32) = intMin := by
    norm_num [Int.bmod_def, intMin]
  have hBelow : intMin - 1 < intMin := by omega
  rw [intBefore, hCast, if_pos hBelow]

/-- A new item behind the items of a list that it does not go before. -/
def insertBack (f : α → α → Bool) (key : α) (items : List α) : List α :=
  items.rdropWhile (f key) ++ key :: items.rtakeWhile (f key)

theorem assign_at (front : List α) (hole item : α) (rest : List α) :
  assign (front ++ hole :: rest) front.length item = some (front ++ item :: rest) := by
  have hRoom : (0 : Int) ≤ front.length ∧ (front.length : Int) < (front ++ hole :: rest).length := by
    simp
  rw [assign, if_pos hRoom]
  simp

theorem shift_spec (key : α) (front : List α) (hole : α) (rest : List α) :
  ∃ hole', shift f key (front ++ hole :: rest) ((front.length : Int) - 1) =
    some (front.rdropWhile (f key) ++ hole' :: (front.rtakeWhile (f key) ++ rest),
      ((front.rdropWhile (f key)).length : Int) - 1) := by
  induction front using reverseRecOn generalizing hole rest with
  | nil =>
    rw [shift]
    exact ⟨hole, by simp⟩
  | append_singleton front item ih =>
    have hPlace : ((front ++ [item]).length : Int) - 1 = (front.length : Int) := by simp
    have hItem : (front ++ [item] ++ hole :: rest)[front.length]? = some item := by simp
    have hWrite : assign (front ++ item :: hole :: rest) ((front.length : Int) + 1) item =
        some (front ++ item :: item :: rest) := by
      have hThere := assign_at (front ++ [item]) hole item rest
      simpa using hThere
    rw [shift, hPlace, if_pos (by omega), Int.toNat_natCast, hItem]
    by_cases hMove : f key item
    · rw [rdropWhile_concat_pos _ _ _ hMove, rtakeWhile_concat_pos _ _ _ hMove]
      obtain ⟨hole', hNext⟩ := ih item (item :: rest)
      refine ⟨hole', ?_⟩
      simp only [Option.bind_eq_bind, Option.bind_some, hMove, if_true, hWrite, hNext,
        append_assoc, cons_append, nil_append]
    · rw [rdropWhile_concat_neg _ _ _ hMove, rtakeWhile_concat_neg _ _ _ hMove, hPlace]
      exact ⟨hole, by simp [hMove]⟩

theorem insertStep_eq (sorted : List α) (key : α) (rest : List α)
  (hPlace : sorted.length < 2 ^ 31) :
  insertStep f (sorted ++ key :: rest) sorted.length = some (insertBack f key sorted ++ rest) := by
  obtain ⟨hole, hShift⟩ := shift_spec (f := f) key sorted key rest
  have hKey : (sorted ++ key :: rest)[sorted.length]? = some key := by simp
  have hWrite := assign_at (sorted.rdropWhile (f key)) hole key (sorted.rtakeWhile (f key) ++ rest)
  simp only [insertStep, hKey, intBefore_eq hPlace, hShift, Option.bind_eq_bind, Option.bind_some,
    Int.sub_add_cancel, hWrite, insertBack, append_assoc, cons_append]

theorem insertStep_overflow (items : List α) : insertStep f items (2 ^ 31) = none := by
  rw [insertStep, intBefore_overflow]
  cases items[2 ^ 31]? <;> rfl

theorem InsertionSort_overflow (items : List α) (hMany : 2 ^ 31 < items.length) :
  InsertionSort f items = none := by
  have hTurn : 2 ^ 31 ∈ range' 1 (items.length - 1) := by
    rw [mem_range'_1]
    omega
  exact foldlM_none hTurn insertStep_overflow items

theorem insertBack_perm (key : α) (items : List α) :
  (insertBack f key items).Perm (items ++ [key]) := by
  have hParts : items.rdropWhile (f key) ++ items.rtakeWhile (f key) = items :=
    rdropWhile_append_rtakeWhile
  have hMiddle : (insertBack f key items).Perm (key :: items) := by
    have hPlace : (insertBack f key items).Perm
        (key :: (items.rdropWhile (f key) ++ items.rtakeWhile (f key))) := perm_middle
    rwa [hParts] at hPlace
  exact hMiddle.trans (perm_append_singleton key items).symm

end Insertion

section Stable

theorem tied_iff {a b : α} : tied f a b = true ↔ ¬f a b ∧ ¬f b a := by
  simp [tied]

variable [IsStrictWeakOrder α fun a b => f a b = true]

theorem not_both_tied {a b c : α} (h : f a b) (ha : tied f c a) : tied f c b = false := by
  rw [Bool.eq_false_iff]
  intro hb
  rw [tied_iff] at ha hb
  exact not_before_trans ha.2 hb.1 h

theorem filter_tied_swap {a b : α} (h : f a b) (c : α) (rest : List α) :
  (a :: b :: rest).filter (tied f c) = (b :: a :: rest).filter (tied f c) := by
  by_cases ha : tied f c a
  · rw [filter_cons_of_pos ha]
    simp [ha, not_both_tied h ha]
  · rw [filter_cons_of_neg ha, filter_cons, filter_cons, filter_cons_of_neg ha]

theorem bubble_stable (c : α) (count : Nat) (items : List α) :
  (bubble f count items).filter (tied f c) = items.filter (tied f c) := by
  fun_induction bubble f count items with
  | case1 count b a rest hSwap ih =>
    rw [← filter_tied_swap hSwap, filter_cons, filter_cons, ih]
  | case2 count b a rest hSwap ih => rw [filter_cons, filter_cons, ih]
  | case3 => rfl

theorem bubbleSort_stable (c : α) (items : List α) :
  (bubbleSort f items).filter (tied f c) = items.filter (tied f c) := by
  have hPasses : ∀ (turns : List Nat) (list : List α),
      (turns.foldl (fun list i => bubble f (items.length - i - 1) list) list).filter (tied f c) =
        list.filter (tied f c) := by
    intro turns
    induction turns with
    | nil => exact fun list => rfl
    | cons i turns ih => exact fun list => (ih _).trans (bubble_stable c _ list)
  exact hPasses _ items

theorem bubbleSort_stableSorted (items : List α) : StableSorted f items (bubbleSort f items) where
  perm := bubbleSort_perm items
  ordered := bubbleSort_ordered items
  stable c := bubbleSort_stable c items

theorem not_before_kept {key : α} {items : List α} (hOrdered : Ordered f items) :
  ∀ a ∈ items.rdropWhile (f key), ¬f key a := by
  induction items using reverseRecOn with
  | nil => simp
  | append_singleton items last ih =>
    obtain ⟨hItems, _, hLast⟩ := pairwise_append.mp hOrdered
    by_cases hMove : f key last
    · rw [rdropWhile_concat_pos _ _ _ hMove]
      exact ih hItems
    · rw [rdropWhile_concat_neg _ _ _ hMove]
      intro a ha
      rcases mem_append.mp ha with ha | ha
      · exact not_before_trans hMove (hLast a ha last mem_cons_self)
      · rw [mem_singleton.mp ha]
        exact hMove

theorem insertBack_ordered (key : α) {items : List α} (hOrdered : Ordered f items) :
  Ordered f (insertBack f key items) := by
  have hParts : Ordered f (items.rdropWhile (f key) ++ items.rtakeWhile (f key)) := by
    rw [rdropWhile_append_rtakeWhile]
    exact hOrdered
  obtain ⟨hKept, hMoved, hCross⟩ := pairwise_append.mp hParts
  refine pairwise_append.mpr ⟨hKept, List.Pairwise.cons ?_ hMoved, ?_⟩
  · intro b hb
    exact not_before_of_before (mem_rtakeWhile_imp hb)
  · intro a ha b hb
    rcases mem_cons.mp hb with rfl | hb
    · exact not_before_kept hOrdered a ha
    · exact hCross a ha b hb

theorem insertBack_stable (c key : α) (items : List α) :
  (insertBack f key items).filter (tied f c) = (items ++ [key]).filter (tied f c) := by
  have hParts : items.filter (tied f c) = (items.rdropWhile (f key)).filter (tied f c) ++
      (items.rtakeWhile (f key)).filter (tied f c) := by
    rw [← filter_append, rdropWhile_append_rtakeWhile]
  rw [insertBack, filter_append, filter_append, hParts]
  by_cases hKey : tied f c key
  · have hMoved : (items.rtakeWhile (f key)).filter (tied f c) = [] := by
      rw [filter_eq_nil_iff]
      intro a ha hTied
      rw [not_both_tied (mem_rtakeWhile_imp ha) hKey] at hTied
      exact Bool.false_ne_true hTied
    rw [filter_cons_of_pos hKey, filter_cons_of_pos hKey, hMoved, append_nil,
      filter_nil]
  · rw [filter_cons_of_neg hKey, filter_cons_of_neg hKey, filter_nil,
      append_nil]

theorem StableSorted.insertBack {items sorted : List α} (hSorted : StableSorted f items sorted)
  (key : α) : StableSorted f (items ++ [key]) (Sorting.insertBack f key sorted) where
  perm := (insertBack_perm key sorted).trans (hSorted.perm.append_right [key])
  ordered := insertBack_ordered key hSorted.ordered
  stable c := by
    rw [insertBack_stable, filter_append, filter_append, hSorted.stable]

theorem insertSteps (first : α) (front rest : List α)
  (hFits : (first :: front).length ≤ 2 ^ 31) :
  ∃ sorted, StableSorted f (first :: front) sorted ∧
    (range' 1 front.length).foldlM (insertStep f) (first :: (front ++ rest)) =
      some (sorted ++ rest) := by
  induction front using reverseRecOn generalizing rest with
  | nil =>
    refine ⟨[first], ⟨List.Perm.refl _, pairwise_singleton .., fun a => rfl⟩, rfl⟩
  | append_singleton front key ih =>
    have hFront : (first :: front).length < 2 ^ 31 := by
      simp only [length_cons, length_append, length_nil] at hFits ⊢
      omega
    obtain ⟨sorted, hSorted, hRun⟩ := ih (key :: rest) (le_of_lt hFront)
    have hLength : sorted.length = 1 + front.length := by
      rw [hSorted.perm.length_eq, length_cons, Nat.add_comm]
    refine ⟨_, hSorted.insertBack key, ?_⟩
    have hStep := insertStep_eq (f := f) sorted key rest (by
      rw [hSorted.perm.length_eq]
      exact hFront)
    rw [hLength] at hStep
    rw [length_append, length_singleton, range'_concat, foldlM_append,
      append_assoc, singleton_append, hRun]
    simpa using hStep

theorem InsertionSort_sorts (items : List α) (hSize : items.length ≤ 2 ^ 31) :
  ∃ sorted, StableSorted f items sorted ∧ InsertionSort f items = some sorted := by
  match items, hSize with
  | [], _ => exact ⟨[], ⟨List.Perm.refl _, List.Pairwise.nil, fun a => rfl⟩, rfl⟩
  | first :: front, hSize =>
    obtain ⟨sorted, hSorted, hRun⟩ := insertSteps (f := f) first front [] hSize
    rw [append_nil, append_nil] at hRun
    exact ⟨sorted, hSorted, hRun⟩

theorem StableSorted.unique {items first second : List α} (hFirst : StableSorted f items first)
  (hSecond : StableSorted f items second) : first = second := by
  have hPerm : first.Perm second := hFirst.perm.trans hSecond.perm.symm
  have hStable : ∀ a, first.filter (tied f a) = second.filter (tied f a) := fun a =>
    (hFirst.stable a).trans (hSecond.stable a).symm
  have hOrdered := hFirst.ordered
  have hOrdered' := hSecond.ordered
  clear hFirst hSecond
  induction first generalizing second with
  | nil => exact hPerm.nil_eq
  | cons a first ih =>
    cases second with
    | nil => exact absurd hPerm.eq_nil (by simp)
    | cons b second =>
      have hSelf : ∀ c : α, ¬f c c := fun c h => not_before_of_before h h
      obtain ⟨ha, hRest⟩ := pairwise_cons.mp hOrdered
      obtain ⟨hb, hRest'⟩ := pairwise_cons.mp hOrdered'
      -- each head stands in the other list, so neither goes before the other
      have hab : ¬f b a := by
        rcases mem_cons.mp (hPerm.mem_iff.mpr mem_cons_self) with h | h
        · rw [h]
          exact hSelf a
        · exact ha b h
      have hba : ¬f a b := by
        rcases mem_cons.mp (hPerm.mem_iff.mp mem_cons_self) with h | h
        · rw [h]
          exact hSelf b
        · exact hb a h
      have hHeads : a = b := by
        have hTies := hStable a
        have haTied : tied f a a = true := tied_iff.mpr ⟨hSelf a, hSelf a⟩
        have hbTied : tied f a b = true := tied_iff.mpr ⟨hba, hab⟩
        rw [filter_cons_of_pos haTied, filter_cons_of_pos hbTied] at hTies
        exact (cons.inj hTies).1
      subst hHeads
      have hTail : first = second := by
        refine ih hPerm.cons_inv (fun c => ?_) hRest hRest'
        have hTies := hStable c
        by_cases hc : tied f c a
        · rw [filter_cons_of_pos hc, filter_cons_of_pos hc] at hTies
          exact (cons.inj hTies).2
        · rw [filter_cons_of_neg hc, filter_cons_of_neg hc] at hTies
          exact hTies
      rw [hTail]

/-- Both sorts give the one stable sort of an array, for the arrays on which their index
arithmetic does not wrap: those with an item, and with an `int` for each index. -/
theorem sorts_agree_iff (items : List α) :
    (∃ sorted, BubbleSort f items = some sorted ∧ InsertionSort f items = some sorted ∧
        ∀ other, StableSorted f items other ↔ other = sorted) ↔
      0 < items.length ∧ items.length ≤ 2 ^ 31 := by
  constructor
  · rintro ⟨sorted, hBubble, hInsertion, _⟩
    constructor
    · by_contra hEmpty
      rw [List.length_eq_zero_iff.mp (Nat.eq_zero_of_not_pos hEmpty), BubbleSort_nil] at hBubble
      cases hBubble
    · by_contra hMany
      rw [InsertionSort_overflow items (Nat.lt_of_not_le hMany)] at hInsertion
      cases hInsertion
  · rintro ⟨hItem, hSize⟩
    obtain ⟨sorted, hSorted, hInsertion⟩ := InsertionSort_sorts (f := f) items hSize
    have hSame : bubbleSort f items = sorted := (bubbleSort_stableSorted items).unique hSorted
    refine ⟨sorted, ?_, hInsertion, fun other => ⟨fun h => h.unique hSorted, fun h => h ▸ hSorted⟩⟩
    rw [BubbleSort_eq items hItem (by omega), hSame]

end Stable

section

instance lessThan_strictWeakOrder : IsStrictWeakOrder Nat fun a b => decide (a < b) = true where
  irrefl a := by simp
  trans a b c := by
    simp only [decide_eq_true_eq]
    exact Nat.lt_trans
  incomp_trans a b c := by
    simp only [decide_eq_true_eq]
    omega

/-- Three numbers, sorted by both. -/
theorem sorts_agree_three :
    ∃ sorted, BubbleSort (fun a b : Nat => decide (a < b)) [3, 1, 2] = some sorted ∧
      InsertionSort (fun a b : Nat => decide (a < b)) [3, 1, 2] = some sorted ∧
      ∀ other, StableSorted (fun a b : Nat => decide (a < b)) [3, 1, 2] other ↔ other = sorted :=
  (sorts_agree_iff [3, 1, 2]).mpr (by decide)

/-- On an empty array `BubbleSort` reads behind the array at once. -/
theorem sorts_disagree_empty :
    InsertionSort (fun a b : Nat => decide (a < b)) [] = some [] ∧
      BubbleSort (fun a b : Nat => decide (a < b)) [] = none :=
  ⟨rfl, BubbleSort_nil⟩

end

end Chip.Sorting
