import Mathlib.Data.List.Basic

/-!
# Keys composed of parts

Parts joined by a separator are determined by the whole when the separator is in none of the
parts on one side of it. A printed integer is made of digits and a sign and determines the
integer.
-/

namespace CompositeKeys

section Joined

variable {α : Type} {separator : α} {first second otherFirst otherSecond : List α}

/-- Where the separator is in neither first part, joined parts are equal exactly when the
parts are. -/
theorem joined_first_iff (absent : separator ∉ first) (otherAbsent : separator ∉ otherFirst) :
    first ++ separator :: second = otherFirst ++ separator :: otherSecond ↔
      first = otherFirst ∧ second = otherSecond := by
  constructor
  · intro same
    induction first generalizing otherFirst with
    | nil =>
      cases otherFirst with
      | nil => exact ⟨rfl, (List.cons.inj same).2⟩
      | cons head tail =>
        obtain ⟨rfl, _⟩ := List.cons.inj same
        exact absurd List.mem_cons_self otherAbsent
    | cons char rest inductionHypothesis =>
      cases otherFirst with
      | nil =>
        obtain ⟨rfl, _⟩ := List.cons.inj same
        exact absurd List.mem_cons_self absent
      | cons head tail =>
        obtain ⟨rfl, later⟩ := List.cons.inj same
        obtain ⟨rfl, seconds⟩ := inductionHypothesis
          (fun member => absent (List.mem_cons_of_mem _ member))
          (fun member => otherAbsent (List.mem_cons_of_mem _ member)) later
        exact ⟨rfl, seconds⟩
  · rintro ⟨rfl, rfl⟩
    rfl

/-- Where the separator is in neither second part, joined parts are equal exactly when the
parts are. -/
theorem joined_last_iff (absent : separator ∉ second) (otherAbsent : separator ∉ otherSecond) :
    first ++ separator :: second = otherFirst ++ separator :: otherSecond ↔
      first = otherFirst ∧ second = otherSecond := by
  have reversed (start rest : List α) :
      (start ++ separator :: rest).reverse = rest.reverse ++ separator :: start.reverse := by
    simp
  rw [← List.reverse_inj, reversed, reversed,
    joined_first_iff (by simpa using absent) (by simpa using otherAbsent), List.reverse_inj,
    List.reverse_inj, and_comm]

end Joined

/-- The digits of a natural number determine it. -/
theorem digits_inj {first second : Nat} :
    Nat.toDigits 10 first = Nat.toDigits 10 second ↔ first = second := by
  constructor
  · intro same
    have read := congrArg (fun digits => Nat.ofDigitChars 10 digits 0) same
    simpa only [Nat.ofDigitChars_ten_toDigits] using read
  · rintro rfl
    rfl

/-- A printed integer: the digits of its size, after a sign when it is negative. -/
theorem printed_chars (number : Int) :
    (toString number).toList =
      if 0 ≤ number then Nat.toDigits 10 number.toNat
      else '-' :: Nat.toDigits 10 (-number).toNat := by
  rw [Int.toString_eq_repr, Int.repr_eq_if]
  split
  · exact Nat.toList_repr
  · rw [String.toList_append, Nat.toList_repr]
    rfl

/-- A printed integer has digits and the sign only. -/
theorem printed_mem {number : Int} {char : Char} (member : char ∈ (toString number).toList) :
    char.isDigit = true ∨ char = '-' := by
  have digit {size : Nat} (among : char ∈ Nat.toDigits 10 size) : char.isDigit = true :=
    Nat.isDigit_of_mem_toDigits (by decide) (by decide) among
  rw [printed_chars] at member
  split at member
  · exact .inl (digit member)
  · rcases List.mem_cons.mp member with sign | among
    · exact .inr sign
    · exact .inl (digit among)

/-- The sign is no digit. -/
theorem sign_no_digit (number : Nat) : '-' ∉ Nat.toDigits 10 number := by
  intro member
  have digit := Nat.isDigit_of_mem_toDigits (by decide) (by decide) member
  revert digit
  decide

/-- A printed integer determines it. -/
theorem printed_inj {first second : Int} :
    (toString first).toList = (toString second).toList ↔ first = second := by
  constructor
  · intro same
    rw [printed_chars, printed_chars] at same
    split at same
    · split at same
      · have sizes := digits_inj.mp same
        omega
      · exact absurd (same ▸ List.mem_cons_self) (sign_no_digit first.toNat)
    · split at same
      · exact absurd (same ▸ List.mem_cons_self) (sign_no_digit second.toNat)
      · have sizes := digits_inj.mp (List.cons.inj same).2
        omega
  · rintro rfl
    rfl

end CompositeKeys
