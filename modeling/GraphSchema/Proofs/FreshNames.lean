import GraphSchema.NameSupply
import Mathlib.Data.List.Nodup
import Mathlib.Data.List.Perm.Subperm

/-
  This file shows that a supply of generated names is one of
  fresh names: as long as its numbers have twenty-six
  digits, the names that it hands out differ from each other
  and from those that are taken.

  Key definitions include:
    * `NameSupply.capacity`
    * `NameSupply.freeNumber`
    * `NameSupply.numbers`

  Key theorems include:
    * `NameSupply.nameAt_inj`
    * `NameSupply.fresh_notMem`
    * `NameSupply.take_fresh`
    * `NameSupply.take_avoiding`
-/

------------------------------------------------------------
-- Numbers of Names
------------------------------------------------------------

namespace GraphSchema

namespace NameSupply

/- How many texts of `k` digits there are. -/
def combinations (k : Nat) : Nat :=
  Nat.pow 32 k

theorem combinations_succ (k : Nat) :
    combinations (k + 1) = combinations k * 32 :=
  rfl

/- How many names there are. -/
def capacity : Nat :=
  combinations width

theorem digitAt_inj
    {m n : Nat}
    (h : digitAt m = digitAt n) : m % 32 = n % 32 := by
  have hDigits :
      ∀ a b : Fin 32,
        alphabet.getD a '0' = alphabet.getD b '0' →
          a = b := by
    decide
  have hEq :=
    hDigits ⟨m % 32, Nat.mod_lt _ (by decide)⟩
      ⟨n % 32, Nat.mod_lt _ (by decide)⟩ h
  exact congrArg Fin.val hEq

/- Numbers with enough digits are told apart by them. -/
theorem lastDigits_inj
    {k m n : Nat}
    (hm : m < combinations k)
    (hn : n < combinations k)
    (h : lastDigits k m = lastDigits k n) : m = n := by
  induction k generalizing m n with
  | zero =>
      exact (Nat.lt_one_iff.mp hm).trans
        (Nat.lt_one_iff.mp hn).symm
  | succ k ih =>
      rw [combinations_succ] at hm hn
      rcases List.append_inj' h rfl with ⟨hInit, hLast⟩
      have hDiv : m / 32 = n / 32 :=
        ih (by omega) (by omega) hInit
      have hMod : m % 32 = n % 32 :=
        digitAt_inj (List.singleton_inj.mp hLast)
      omega

/- Numbers within the capacity have different names. -/
theorem nameAt_inj
    {m n : Nat}
    (hm : m < capacity)
    (hn : n < capacity)
    (h : nameAt m = nameAt n) : m = n :=
  lastDigits_inj hm hn (String.ofList_injective h)

theorem length_nameAt (n : Nat) :
    (nameAt n).length = width := by
  rw [nameAt, String.length_ofList, length_lastDigits]

end NameSupply

end GraphSchema

------------------------------------------------------------
-- Fresh Names
------------------------------------------------------------

namespace GraphSchema

namespace NameSupply

/-
  Of more numbers in a row than there are taken names, one
  has a name that is not taken.
-/
theorem exists_free
    {taken : List String}
    {n : Nat}
    (hCapacity : n + taken.length < capacity) :
    ∃ k,
      n ≤ k ∧ k ≤ n + taken.length ∧ nameAt k ∉ taken := by
  by_contra hNone
  let candidates : List Nat :=
    List.range' n (taken.length + 1)
  have hBound :
      ∀ k ∈ candidates, n ≤ k ∧ k ≤ n + taken.length := by
    intro k hk
    rcases List.mem_range'_1.mp hk with ⟨hLow, hHigh⟩
    omega
  have hTaken : candidates.map nameAt ⊆ taken := by
    intro name hName
    rcases List.mem_map.mp hName with ⟨k, hk, rfl⟩
    rcases hBound k hk with ⟨hLow, hHigh⟩
    by_contra hFree
    exact hNone ⟨k, hLow, hHigh, hFree⟩
  have hDistinct : (candidates.map nameAt).Nodup := by
    apply List.Nodup.map_on _ List.nodup_range'
    intro k hk l hl hEq
    have hkBound := hBound k hk
    have hlBound := hBound l hl
    exact nameAt_inj (by omega) (by omega) hEq
  have hLength := (hDistinct.subperm hTaken).length_le
  rw [List.length_map, List.length_range'] at hLength
  omega

/- The number of the name that is handed out next. -/
def freeNumber (supply : NameSupply) : Nat :=
  firstFree supply.taken supply.taken.length supply.next

/- The supply that remains. -/
def rest (supply : NameSupply) : NameSupply :=
  { supply with next := supply.freeNumber + 1 }

theorem fresh_eq (supply : NameSupply) :
    supply.fresh = (nameAt supply.freeNumber, supply.rest) :=
  rfl

theorem freeNumber_bounds (supply : NameSupply) :
    supply.next ≤ supply.freeNumber ∧
      supply.freeNumber ≤
        supply.next + supply.taken.length :=
  ⟨le_firstFree _ _ _, firstFree_le _ _ _⟩

/- A name that is handed out is not taken. -/
theorem fresh_notMem
    {supply : NameSupply}
    (hCapacity :
      supply.next + supply.taken.length < capacity) :
    supply.fresh.1 ∉ supply.taken := by
  rcases exists_free hCapacity with
    ⟨k, hStart, hReach, hFree⟩
  exact nameAt_firstFree_notMem hStart hReach hFree

end NameSupply

end GraphSchema

------------------------------------------------------------
-- Several Fresh Names
------------------------------------------------------------

namespace GraphSchema

namespace NameSupply

/- The numbers of the next `k` names. -/
def numbers : Nat → NameSupply → List Nat
| 0, _ => []
| k + 1, supply =>
    supply.freeNumber :: numbers k supply.rest

theorem takeAfter_eq
    (k : Nat)
    (names : List String)
    (supply : NameSupply) :
    (takeAfter k names supply).1 =
      names.reverse ++ (numbers k supply).map nameAt := by
  induction k generalizing names supply with
  | zero =>
      simp [takeAfter, numbers]
  | succ k ih =>
      rw [takeAfter, fresh_eq]
      dsimp only
      rw [ih]
      simp [numbers]

theorem take_eq
    (supply : NameSupply)
    (k : Nat) :
    (supply.take k).1 = (numbers k supply).map nameAt :=
  takeAfter_eq k [] supply

/-
  Every name takes one number, and passes over at most as
  many as there are taken names.
-/
theorem bounds_of_mem_numbers
    {k n : Nat}
    {supply : NameSupply}
    (h : n ∈ numbers k supply) :
    supply.next ≤ n ∧
      n < supply.next + k * (supply.taken.length + 1) := by
  induction k generalizing supply with
  | zero =>
      cases h
  | succ k ih =>
      have hFirst := supply.freeNumber_bounds
      rw [Nat.succ_mul]
      rcases List.mem_cons.mp h with rfl | hRest
      · omega
      · have hNext := ih hRest
        dsimp only [rest] at hNext
        omega

/- The supply counts upwards. -/
theorem pairwise_numbers
    (k : Nat)
    (supply : NameSupply) :
    (numbers k supply).Pairwise (· < ·) := by
  induction k generalizing supply with
  | zero =>
      exact .nil
  | succ k ih =>
      refine .cons ?_ (ih supply.rest)
      intro n hn
      exact (bounds_of_mem_numbers hn).1

theorem nameAt_notMem_of_mem_numbers
    {k n : Nat}
    {supply : NameSupply}
    (hCapacity :
      supply.next + k * (supply.taken.length + 1) ≤ capacity)
    (h : n ∈ numbers k supply) :
    nameAt n ∉ supply.taken := by
  induction k generalizing supply with
  | zero =>
      cases h
  | succ k ih =>
      rw [Nat.succ_mul] at hCapacity
      rcases List.mem_cons.mp h with rfl | hRest
      · exact fresh_notMem (by omega)
      · have hFirst := supply.freeNumber_bounds
        have hLeft :
            supply.rest.next +
                k * (supply.rest.taken.length + 1) ≤
              capacity := by
          dsimp only [rest]
          omega
        have hFree : nameAt n ∉ supply.rest.taken :=
          ih hLeft hRest
        exact hFree

/-
  The names that are handed out differ from each other, and
  none of them is taken.
-/
theorem take_fresh
    {supply : NameSupply}
    {k : Nat}
    (hCapacity :
      supply.next + k * (supply.taken.length + 1) ≤
        capacity) :
    (supply.take k).1.Nodup ∧
      ∀ name ∈ (supply.take k).1, name ∉ supply.taken := by
  rw [take_eq]
  constructor
  · have hNumbers :=
      (pairwise_numbers k supply).imp Nat.ne_of_lt
    apply List.Nodup.map_on _ hNumbers
    intro m hm n hn hEq
    have hmBounds := bounds_of_mem_numbers hm
    have hnBounds := bounds_of_mem_numbers hn
    exact nameAt_inj (by omega) (by omega) hEq
  · intro name hName
    rcases List.mem_map.mp hName with ⟨n, hn, rfl⟩
    exact nameAt_notMem_of_mem_numbers hCapacity hn

/-
  A supply that avoids some texts hands out none of them,
  whether they look like generated names or not.
-/
theorem take_avoiding
    {texts : List String}
    {k : Nat}
    (hCapacity : start + k * (texts.length + 1) ≤ capacity) :
    ∀ name ∈ ((avoiding texts).take k).1, name ∉ texts := by
  intro name hName hText
  have hFewer :
      (avoiding texts).taken.length ≤ texts.length :=
    List.length_filter_le _ texts
  have hEnough :
      start + k * ((avoiding texts).taken.length + 1) ≤
        capacity := by
    have hSteps :
        k * ((avoiding texts).taken.length + 1) ≤
          k * (texts.length + 1) :=
      Nat.mul_le_mul_left k (Nat.succ_le_succ hFewer)
    omega
  have hWidth : name.length = width := by
    rw [take_eq] at hName
    rcases List.mem_map.mp hName with ⟨n, _, rfl⟩
    exact length_nameAt n
  exact (take_fresh hEnough).2 name hName
    (List.mem_filter.mpr ⟨hText, decide_eq_true hWidth⟩)

end NameSupply

end GraphSchema
