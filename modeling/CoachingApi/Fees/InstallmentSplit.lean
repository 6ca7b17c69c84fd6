import CoachingApi.Fees.FeesService
import CoachingApi.Library.Apportionment

/-!
# What an equal split is, and that a plan accepts it

The split hands out equal shares of the total's paisa. Its installments have labels of
their own, whole amounts that never increase and differ by at most one paisa, and the
sum the plan's own check asks for, so the check never refuses a split.
-/

namespace CoachingApi

open Rounding Apportionment

/-- The installment a split makes at a position. -/
def shareInstallment (totalPaisa : ℤ) (count : ℕ) (firstDueDate intervalDays : Int)
    (position : ℕ) : Installment :=
  { label := s!"Installment {position + 1}"
    amount := (share totalPaisa count position : ℚ) / 100
    dueDate := firstDueDate + position * intervalDays * dayMilliseconds }

/-- A number is read back from its decimal digits, so its text determines it. -/
theorem decimal_injective {first second : ℕ} (same : first.repr = second.repr) : first = second := by
  have digits : Nat.toDigits 10 first = Nat.toDigits 10 second := by
    rw [← Nat.toList_repr, same, Nat.toList_repr]
  have read : Nat.ofDigitChars 10 (Nat.toDigits 10 first) 0 = first :=
    Nat.ofDigitChars_ten_toDigits
  rw [← read, digits, Nat.ofDigitChars_ten_toDigits]

/-- The position of an installment is read from its label. -/
theorem label_injective {first second : ℕ}
    (same : s!"Installment {first + 1}" = s!"Installment {second + 1}") : first = second := by
  have texts : "Installment " ++ (first + 1).repr = "Installment " ++ (second + 1).repr := same
  rw [String.append_right_inj] at texts
  exact Nat.succ_injective (decimal_injective texts)

/-- The rounded paisa of a total that is not negative are not negative. -/
theorem paisa_nonneg {total : ℚ} (nonnegative : 0 ≤ total) : 0 ≤ round (total * 100) := by
  rw [round_half_up]
  apply Int.floor_nonneg.mpr
  linarith

section Split

variable {total : ℚ} {count firstDueDate intervalDays : Int} (nonnegative : 0 ≤ total)
  (positive : 1 ≤ count)

include nonnegative positive

/-- A split of a total that is not negative hands out equal shares of its paisa. -/
theorem split_shares :
    splitEqualInstallments total count firstDueDate intervalDays =
      .ok ((List.range count.toNat).map
        (shareInstallment (round (total * 100)) count.toNat firstDueDate intervalDays)) := by
  have counted : (count.toNat : ℤ) = count := Int.toNat_of_nonneg (by omega)
  have remainder : round (total * 100) - round (total * 100) / count * count =
      round (total * 100) % count := by
    rw [Int.emod_def, mul_comm count]
  unfold splitEqualInstallments
  rw [if_neg (by omega), if_neg (not_lt.mpr nonnegative)]
  simp only [remainder, Except.ok.injEq]
  apply List.map_congr_left
  intro position _
  simp only [shareInstallment, share, counted]

/-- A split adds up to the rounded paisa of the total. -/
theorem split_sum {installments : List Installment}
    (split : splitEqualInstallments total count firstDueDate intervalDays = .ok installments) :
    (installments.map Installment.amount).sum * 100 = round (total * 100) := by
  rw [split_shares nonnegative positive, Except.ok.injEq] at split
  have amounts : installments.map Installment.amount =
      ((List.range count.toNat).map (share (round (total * 100)) count.toNat)).map
        (fun paisa : ℤ => (paisa : ℚ) * (1 / 100)) := by
    rw [← split, List.map_map, List.map_map]
    apply List.map_congr_left
    intro position _
    simp only [Function.comp_apply, shareInstallment]
    ring
  have scaled (units : List ℤ) :
      (units.map (fun paisa : ℤ => (paisa : ℚ) * (1 / 100))).sum = (units.sum : ℚ) * (1 / 100) := by
    induction units with
    | nil => simp
    | cons unit rest inductionHypothesis =>
      simp only [List.map_cons, List.sum_cons, inductionHypothesis]
      push_cast
      ring
  rw [amounts, scaled, shares_sum (round (total * 100)) (by omega)]
  ring

/-- The labels of a split are pairwise distinct. -/
theorem split_labels {installments : List Installment}
    (split : splitEqualInstallments total count firstDueDate intervalDays = .ok installments) :
    (installments.map Installment.label).Nodup := by
  rw [split_shares nonnegative positive, Except.ok.injEq] at split
  rw [← split, List.map_map]
  apply List.nodup_range.map_on
  intro first _ second _ same
  exact label_injective same

/-- A plan that is created from a split passes the sum check. -/
theorem split_accepted (deployment : Deployment) (ambient : TenantContextStore.Ambient)
    (generated : ObjectId) (now : Int) {dto : CreateFeePlanDto} (database : Database)
    (totalled : dto.totalAmount = total) (unlisted : dto.installments.getD [] = [])
    (split : dto.splitInto = some count) (message : String) :
    (FeesService.createPlan deployment ambient generated now dto database).2 ≠
      .error (.badRequest message) := by
  have planned : FeesService.planInstallments now dto =
      .ok ((List.range count.toNat).map
        (shareInstallment (round (total * 100)) count.toNat (dto.firstDueDate.getD now) 30)) := by
    simp only [FeesService.planInstallments, unlisted, split, totalled]
    rw [if_neg (by omega), split_shares nonnegative positive]
  have filled : ((List.range count.toNat).map (shareInstallment (round (total * 100)) count.toNat
      (dto.firstDueDate.getD now) 30)).isEmpty = false := by
    simp
    omega
  have shares : splitEqualInstallments total count (dto.firstDueDate.getD now) 30 = _ :=
    split_shares nonnegative positive
  have summed := split_sum nonnegative positive shares
  unfold FeesService.createPlan
  simp only [planned, filled, Bool.false_eq_true, if_false]
  rw [if_neg (by rw [summed, round_intCast, totalled]; simp)]
  split
  · rename_i thrown refused
    intro same
    exact (TenantModel.create_refused refused).2 message (Except.error.inj same)
  · simp

end Split

/-- A plan as its creation answers it, with the installments that passed the sum check. -/
structure AcceptedPlan (tenantId : String) (now : Int) (dto : CreateFeePlanDto) (plan : FeePlan) :
    Prop where
  owned : plan.tenantId = tenantId
  totalled : plan.totalAmount = dto.totalAmount
  planned : FeesService.planInstallments now dto = .ok plan.installments
  divided : plan.installments ≠ []
  summed : round ((plan.installments.map Installment.amount).sum * 100) =
    round (plan.totalAmount * 100)
  valid : TenantModel.refusedPath plan = none

/-- A creation that answers stores the plan, whose installments passed the sum check. -/
theorem create_plan_ok {deployment : Deployment} {ambient : TenantContextStore.Ambient}
    {tenantId : String} (bound : TenantPlugin.Bound ambient tenantId) {generated : ObjectId}
    {now : Int} {dto : CreateFeePlanDto} {database created : Database} {plan : FeePlan}
    (accepted : FeesService.createPlan deployment ambient generated now dto database =
      (created, .ok plan)) :
    AcceptedPlan tenantId now dto plan ∧
      created = { database with plans := database.plans ++ [plan] } := by
  unfold FeesService.createPlan at accepted
  cases planned : FeesService.planInstallments now dto with
  | error thrown => simp [planned] at accepted
  | ok installments =>
    simp only [planned] at accepted
    split at accepted
    · simp at accepted
    · rename_i filled
      split at accepted
      · simp at accepted
      · rename_i summed
        split at accepted
        · simp at accepted
        · rename_i stored plans result
          obtain ⟨rfl, same⟩ := Prod.mk.inj accepted
          obtain rfl := Except.ok.inj same
          obtain ⟨valid, rfl, _⟩ := TenantModel.create_ok result
          obtain ⟨stamp, unrefused⟩ := TenantModel.validate_ok bound valid
          have divided : installments ≠ [] := by simpa using filled
          refine ⟨?_, rfl⟩
          rw [stamp] at unrefused ⊢
          exact { owned := rfl, totalled := rfl, planned := planned, divided := divided
                  summed := not_not.mp summed, valid := unrefused }

/-- Without explicit installments an accepted plan is a split of its total. -/
theorem AcceptedPlan.split {tenantId : String} {now : Int} {dto : CreateFeePlanDto}
    {plan : FeePlan} (accepted : AcceptedPlan tenantId now dto plan)
    (unlisted : dto.installments.getD [] = []) :
    ∃ count, 1 ≤ count ∧ 0 ≤ dto.totalAmount ∧ splitEqualInstallments dto.totalAmount count
      (dto.firstDueDate.getD now) = .ok plan.installments := by
  have planned := accepted.planned
  unfold FeesService.planInstallments at planned
  cases chosen : dto.splitInto with
  | none =>
    simp only [unlisted, chosen, Except.ok.injEq] at planned
    exact False.elim (accepted.divided planned.symm)
  | some count =>
    simp only [unlisted, chosen] at planned
    split at planned
    · exact False.elim (accepted.divided (Except.ok.inj planned).symm)
    · have whole := planned
      unfold splitEqualInstallments at whole
      split at whole
      · simp at whole
      · rename_i enough
        split at whole
        · simp at whole
        · rename_i nonnegative
          exact ⟨count, by omega, not_lt.mp nonnegative, planned⟩

namespace InstallmentSplit

/-- A split of a total that is not negative into at least one installment has exactly that
many, under distinct labels, of whole paisa that never increase and differ by at most one
paisa. They add up to the rounded paisa of the total, and a plan created with the split is
never refused as a bad request.

Proof: the split is a list of equal shares, read position by position. -/
theorem equal_split_accepted (total : ℚ) (count firstDueDate intervalDays : Int)
    (nonnegative : 0 ≤ total) (positive : 1 ≤ count) :
    ∃ installments,
      splitEqualInstallments total count firstDueDate intervalDays = .ok installments ∧
      (installments.length : ℤ) = count ∧
      (installments.map Installment.label).Nodup ∧
      (∀ installment ∈ installments, ∃ paisa : ℕ, installment.amount * 100 = paisa) ∧
      (installments.map Installment.amount).Pairwise (fun earlier later => later ≤ earlier) ∧
      (∀ first ∈ installments, ∀ second ∈ installments,
        first.amount ≤ second.amount + 1 / 100) ∧
      (installments.map Installment.amount).sum * 100 = ⌊total * 100 + 1 / 2⌋ ∧
      (Whole total → (installments.map Installment.amount).sum = total) ∧
      ∀ deployment ambient generated now dto database message,
        dto.totalAmount = total → dto.installments.getD [] = [] → dto.splitInto = some count →
          (FeesService.createPlan deployment ambient generated now dto database).2 ≠
            .error (.badRequest message) := by
  have split : splitEqualInstallments total count firstDueDate intervalDays = _ :=
    split_shares nonnegative positive
  have summed := split_sum nonnegative positive split
  refine ⟨_, split, ?_, split_labels nonnegative positive split, ?_, ?_, ?_, ?_, ?_, ?_⟩
  · simp
    omega
  · intro installment member
    obtain ⟨position, _, rfl⟩ := List.mem_map.mp member
    have paisaNonneg : 0 ≤ share (round (total * 100)) count.toNat position :=
      share_nonneg (paisa_nonneg nonnegative) position
    obtain ⟨paisa, equal⟩ := Int.eq_ofNat_of_zero_le paisaNonneg
    refine ⟨paisa, ?_⟩
    simp only [shareInstallment, equal]
    push_cast
    ring
  · rw [List.map_map, List.pairwise_map]
    apply List.pairwise_lt_range.imp
    intro earlier later ordered
    have shrinks : share (round (total * 100)) count.toNat later ≤
        share (round (total * 100)) count.toNat earlier := share_antitone ordered.le
    simp only [Function.comp_apply, shareInstallment]
    apply div_le_div_of_nonneg_right _ (by norm_num)
    exact_mod_cast shrinks
  · intro first firstMember second secondMember
    obtain ⟨earlier, _, rfl⟩ := List.mem_map.mp firstMember
    obtain ⟨later, _, rfl⟩ := List.mem_map.mp secondMember
    have close : (share (round (total * 100)) count.toNat earlier : ℚ) ≤
        share (round (total * 100)) count.toNat later + 1 := by
      exact_mod_cast share_close (round (total * 100)) count.toNat earlier later
    simp only [shareInstallment]
    linarith
  · rw [summed, round_half_up]
  · intro whole
    have fixed := to_hundredths_fixed whole
    rw [toHundredths, ← summed] at fixed
    linarith
  · intro deployment ambient generated now dto database message totalled unlisted chosen
    exact split_accepted nonnegative positive deployment ambient generated now database totalled
      unlisted chosen message

/-- Five paisa in seven installments: five of one paisa, and two of none. -/
theorem five_paisa_split :
    ∃ installments, splitEqualInstallments (1 / 20) 7 0 = .ok installments ∧
      installments.map Installment.amount = [1 / 100, 1 / 100, 1 / 100, 1 / 100, 1 / 100, 0, 0] ∧
      (installments.map Installment.label).Nodup := by
  obtain ⟨installments, split, _, labels, _⟩ :=
    equal_split_accepted (1 / 20) 7 0 30 (by norm_num) (by norm_num)
  refine ⟨installments, split, ?_, labels⟩
  rw [split_shares (by norm_num) (by norm_num), Except.ok.injEq] at split
  rw [← split]
  decide +kernel

end InstallmentSplit

end CoachingApi
