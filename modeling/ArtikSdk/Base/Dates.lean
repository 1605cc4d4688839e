import ArtikSdk.Base.Time

/-!
# Comparing dates

`artik_time_compare_dates` of `artik_time.c`, field by field from the year down.
-/

namespace ArtikSdk.Time

/-- One of the comparisons, and what follows it. -/
def compareField (x y : UInt32) (rest : Int) : Int := if x > y then 1 else if x < y then -1 else rest

def artikTimeCompareDates (date1 date2 : ArtikTime) : Int :=
  compareField date1.year date2.year (compareField date1.month date2.month (compareField date1.day date2.day
    (compareField date1.hour date2.hour (compareField date1.minute date2.minute (compareField date1.second date2.second
      (compareField date1.msecond date2.msecond 0))))))

/-- The fields that are compared. -/
def ArtikTime.fields (d : ArtikTime) : List UInt32 := [d.year, d.month, d.day, d.hour, d.minute, d.second, d.msecond]

/-- `d` is earlier than `d'`. -/
def ArtikTime.Earlier (d d' : ArtikTime) : Prop := d.fields < d'.fields

instance (d d' : ArtikTime) : Decidable (d.Earlier d') := inferInstanceAs (Decidable (d.fields < d'.fields))

/-! ## The order -/

/-- A comparison follows the lexicographic order of the fields, which is total. -/
structure Orders (compare : ArtikTime → ArtikTime → Int) : Prop where
  earlier : ∀ d d', compare d d' = -1 ↔ d.fields < d'.fields
  same : ∀ d d', compare d d' = 0 ↔ d.fields = d'.fields
  later : ∀ d d', compare d d' = 1 ↔ d'.fields < d.fields
  antisymm : ∀ d d', compare d' d = -compare d d'
  trans : ∀ d d' d'', compare d d' ≤ 0 → compare d' d'' ≤ 0 → compare d d'' ≤ 0
  total : ∀ d d', compare d d' ≤ 0 ∨ compare d' d ≤ 0

/-- The sign of a comparison of lists. -/
def listOrder (xs ys : List UInt32) : Int := if ys < xs then 1 else if xs < ys then -1 else 0

theorem compareField_listOrder (x y : UInt32) (xs ys : List UInt32) :
    compareField x y (listOrder xs ys) = listOrder (x :: xs) (y :: ys) := by
  rw [compareField, listOrder, listOrder]
  simp only [List.cons_lt_cons_iff]
  by_cases more : x > y
  · rw [if_pos more, if_pos (.inl more)]
  · by_cases less : x < y
    · have other : ¬ (y < x ∨ y = x ∧ ys < xs) := by
        rintro (above | ⟨rfl, -⟩)
        · exact more above
        · exact UInt32.lt_irrefl _ less
      rw [if_neg more, if_pos less, if_neg other, if_pos (.inl less)]
    · obtain rfl : y = x := UInt32.le_antisymm (UInt32.not_lt.mp less) (UInt32.not_lt.mp more)
      simp

theorem compareDates_eq (d d' : ArtikTime) : artikTimeCompareDates d d' = listOrder d.fields d'.fields := by
  have none : (0 : Int) = listOrder [] [] := rfl
  rw [artikTimeCompareDates, none]
  simp only [compareField_listOrder]
  rfl

theorem listOrder_cases (xs ys : List UInt32) :
    xs < ys ∧ listOrder xs ys = -1 ∨ xs = ys ∧ listOrder xs ys = 0 ∨ ys < xs ∧ listOrder xs ys = 1 := by
  rw [listOrder]
  by_cases later : ys < xs
  · rw [if_pos later]
    exact .inr (.inr ⟨later, rfl⟩)
  · rw [if_neg later]
    by_cases earlier : xs < ys
    · rw [if_pos earlier]
      exact .inl ⟨earlier, rfl⟩
    · rw [if_neg earlier]
      exact .inr (.inl ⟨List.le_antisymm (List.not_lt.1 later) (List.not_lt.1 earlier), rfl⟩)

theorem listOrder_nonpos (xs ys : List UInt32) : listOrder xs ys ≤ 0 ↔ xs ≤ ys := by
  obtain ⟨less, value⟩ | ⟨rfl, value⟩ | ⟨more, value⟩ := listOrder_cases xs ys
  · rw [value]
    exact iff_of_true (by decide) (List.le_of_lt less)
  · rw [value]
    exact iff_of_true (by decide) (List.le_refl xs)
  · rw [value]
    exact iff_of_false (by decide) (List.not_le.2 more)

/-- The result is positive when the second date is the earlier one. -/
theorem compareDates_pos (date1 date2 : ArtikTime) : 0 < artikTimeCompareDates date1 date2 ↔ date2.Earlier date1 := by
  rw [compareDates_eq, ← Int.not_le, listOrder_nonpos]
  exact List.not_le

theorem compareDates_orders : Orders artikTimeCompareDates where
  earlier d d' := by
    rw [compareDates_eq]
    obtain ⟨less, value⟩ | ⟨same, value⟩ | ⟨more, value⟩ := listOrder_cases d.fields d'.fields
    · exact iff_of_true value less
    · exact iff_of_false (by omega) (by rw [same]; exact List.lt_irrefl _)
    · exact iff_of_false (by omega) (List.lt_asymm more)
  same d d' := by
    rw [compareDates_eq]
    obtain ⟨less, value⟩ | ⟨same, value⟩ | ⟨more, value⟩ := listOrder_cases d.fields d'.fields
    · exact iff_of_false (by omega) (by intro same; rw [same] at less; exact List.lt_irrefl _ less)
    · exact iff_of_true value same
    · exact iff_of_false (by omega) (by intro same; rw [same] at more; exact List.lt_irrefl _ more)
  later d d' := by
    rw [compareDates_eq]
    obtain ⟨less, value⟩ | ⟨same, value⟩ | ⟨more, value⟩ := listOrder_cases d.fields d'.fields
    · exact iff_of_false (by omega) (List.lt_asymm less)
    · exact iff_of_false (by omega) (by rw [same]; exact List.lt_irrefl _)
    · exact iff_of_true value more
  antisymm d d' := by
    rw [compareDates_eq, compareDates_eq]
    obtain ⟨less, value⟩ | ⟨same, value⟩ | ⟨more, value⟩ := listOrder_cases d.fields d'.fields
    · rw [value, listOrder, if_pos less]
      rfl
    · rw [value, same, listOrder, if_neg (List.lt_irrefl _), if_neg (List.lt_irrefl _)]
      rfl
    · rw [value, listOrder, if_neg (List.lt_asymm more), if_pos more]
  trans d d' d'' := by
    rw [compareDates_eq, compareDates_eq, compareDates_eq, listOrder_nonpos, listOrder_nonpos, listOrder_nonpos]
    exact List.le_trans
  total d d' := by
    rw [compareDates_eq, compareDates_eq, listOrder_nonpos, listOrder_nonpos]
    exact List.le_total _ _

end ArtikSdk.Time
