import Mathlib.Data.List.Basic
import Mathlib.Data.Nat.Init
import Mathlib.Tactic.Common

/-!
# Lists

Facts about lists of any items. What is left of a list without its repetitions is each item once, at
the place where it first appears: repetitions may be taken out before or after a filter, and part by
part, as long as the later parts are then cleared of what the earlier ones have. A search that tries
one item after the other finds what its only candidate gives, and what it finds may be changed
before or after the search.
-/

namespace CrossArch

section FirstAppearances

variable {α : Type} [BEq α] [LawfulBEq α]

theorem nodup_eraseDups (items : List α) : items.eraseDups.Nodup := by
  induction size : items.length using Nat.strong_induction_on generalizing items with
  | _ size' ih =>
      subst size
      cases items with
      | nil => exact List.nodup_nil
      | cons item later =>
          have shorter := List.length_filter_le (fun other => !other == item) later
          rw [List.eraseDups_cons, List.nodup_cons]
          exact ⟨by simp [List.mem_eraseDups], ih _ (by rw [List.length_cons]; omega) _ rfl⟩

theorem eraseDups_filter (keep : α → Bool) (items : List α) :
    (items.filter keep).eraseDups = items.eraseDups.filter keep := by
  induction size : items.length using Nat.strong_induction_on generalizing items with
  | _ size' ih =>
      subst size
      cases items with
      | nil => rfl
      | cons item later =>
          have shorter := List.length_filter_le (fun other => !other == item) later
          have others := ih _ (Nat.lt_succ_of_le shorter) _ rfl
          rw [List.eraseDups_cons]
          by_cases kept : keep item = true
          · rw [List.filter_cons_of_pos kept, List.filter_cons_of_pos kept, List.eraseDups_cons,
              ← others, List.filter_filter, List.filter_filter]
            simp only [Bool.and_comm]
          · rw [List.filter_cons_of_neg kept, List.filter_cons_of_neg kept, ← others,
              List.filter_filter]
            congr 1
            apply List.filter_congr
            intro other _
            by_cases same : other = item
            · simp [same, kept]
            · simp [same]

theorem eraseDups_append_eq [DecidableEq α] (items more : List α) :
    (items ++ more).eraseDups =
      items.eraseDups ++ more.eraseDups.filter fun item => item ∉ items.eraseDups := by
  rw [List.eraseDups_append, List.removeAll, eraseDups_filter]
  congr 1
  apply List.filter_congr
  intro item _
  simp [List.mem_eraseDups]

end FirstAppearances

section FirstResults

variable {α β γ : Type} {items : List α}

theorem findSome?_eq_map {read : α → Option γ} {other : α → Option β} {change : β → γ}
    (each : ∀ item ∈ items, read item = (other item).map change) :
    items.findSome? read = (items.findSome? other).map change := by
  induction items with
  | nil => rfl
  | cons item later ih =>
      rw [List.forall_mem_cons] at each
      rw [List.findSome?_cons, List.findSome?_cons, each.1, ih each.2]
      cases other item <;> rfl

theorem findSome?_congr {read other : α → Option β}
    (each : ∀ item ∈ items, read item = other item) :
    items.findSome? read = items.findSome? other := by
  have found := @findSome?_eq_map _ _ _ items read other id (by simpa using each)
  simpa using found

/-- If at most one item has a result, what comes behind may be done after the search. -/
theorem findSome?_bind_of_pairwise {read : α → Option β} {further : β → Option γ}
    (apart : items.Pairwise fun item other => (read item).isSome = true → read other = none) :
    items.findSome? (fun item => (read item).bind further) =
      (items.findSome? read).bind further := by
  induction apart with
  | nil => rfl
  | @cons item later first _ ih =>
      rw [List.findSome?_cons, List.findSome?_cons]
      cases found : read item with
      | none => exact ih
      | some result =>
          have others : later.findSome? (fun item => (read item).bind further) = none := by
            apply List.findSome?_eq_none_iff.2
            intro other mem
            rw [first other mem (by rw [found]; rfl), Option.bind_none]
          rw [others]
          simp only [Option.bind_some]
          cases further result <;> rfl

/-- If at most one item has a result, the search finds it wherever the item stands. -/
theorem findSome?_of_unique [DecidableEq α] {read : α → Option β} {candidate : α} {result : β}
    [Decidable (candidate ∈ items)]
    (each : ∀ item ∈ items, read item = if item = candidate then some result else none) :
    items.findSome? read = if candidate ∈ items then some result else none := by
  rw [findSome?_congr each]
  split <;> rename_i mem
  · cases found : items.findSome? fun item => if item = candidate then some result else none with
    | none =>
        have nothing := List.findSome?_eq_none_iff.1 found candidate mem
        simp at nothing
    | some other =>
        rcases List.exists_of_findSome?_eq_some found with ⟨item, -, isCandidate⟩
        split at isCandidate
        · exact isCandidate.symm
        · cases isCandidate
  · apply List.findSome?_eq_none_iff.2
    intro item itemMem
    rw [if_neg]
    rintro rfl
    exact mem itemMem

end FirstResults

theorem getLast?_append_or {α : Type} {front : List α} (nonempty : front ≠ []) (between : List α)
    (before : Option α) :
    (front ++ between).getLast?.or before = between.getLast?.or front.getLast? := by
  rw [List.getLast?_append, Option.or_assoc, List.getLast?_eq_some_getLast nonempty,
    Option.some_or]

end CrossArch
