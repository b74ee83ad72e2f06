import Mathlib.Data.List.Forall2

/-!
Reading from batches. Each request reads on to the first batch with something that suits it, and
what else is in that batch is lost, as is all that was read on the way. So as many requests are
served as there are different batches for them, in the order of the requests.
-/

set_option autoImplicit false

namespace Rehearsal.Batches

variable {M R : Type}

/-- The batches that are left after the first one with something wanted. -/
def rest? (wanted : M -> Bool) : List (List M) -> Option (List (List M))
  | [] => none
  | batch :: batches => if batch.any wanted then some batches else rest? wanted batches

/-- How many requests are served in turn, until one is not. -/
def served (suits : R -> M -> Bool) : List (List M) -> List R -> Nat
  | _, [] => 0
  | batches, request :: requests =>
    match rest? (suits request) batches with
    | none => 0
    | some batches => served suits batches requests + 1

/-- How many would be served if only what suits a request were taken away for it. -/
def keptServed (suits : R -> M -> Bool) : List M -> List R -> Nat
  | _, [] => 0
  | messages, request :: requests =>
    if messages.any (suits request) then
      keptServed suits (messages.eraseP (suits request)) requests + 1
    else 0

def HasSuiting (suits : R -> M -> Bool) (request : R) (batch : List M) : Prop :=
  batch.any (suits request) = true

instance (suits : R -> M -> Bool) (request : R) (batch : List M) :
    Decidable (HasSuiting suits request batch) := inferInstanceAs (Decidable (_ = true))

variable {suits : R -> M -> Bool} {request : R} {requests : List R} {batches left : List (List M)}

theorem length_le_of_rest? {wanted : M -> Bool} (read : rest? wanted batches = some left) :
    left.length ≤ batches.length := by
  induction batches with
  | nil => cases read
  | cons batch batches ih =>
    rw [rest?] at read
    split at read
    · cases read
      exact Nat.le_succ _
    · exact Nat.le_trans (ih read) (Nat.le_succ _)

open List (SublistForall₂)

theorem sublistForall₂_of_cons {A B : Type} {related : A -> B -> Prop} {first : A} {items : List A}
    {others : List B} (embedded : SublistForall₂ related (first :: items) others) :
    SublistForall₂ related items others := by
  generalize joined : first :: items = all at embedded
  induction embedded with
  | nil => cases joined
  | cons _ rest =>
    cases joined
    exact .cons_right rest
  | cons_right _ ih => exact .cons_right (ih joined)

theorem sublistForall₂_cons_iff :
    SublistForall₂ (HasSuiting suits) (request :: requests) batches ↔
      ∃ left, rest? (suits request) batches = some left ∧
        SublistForall₂ (HasSuiting suits) requests left := by
  induction batches with
  | nil =>
    constructor
    · rintro ⟨⟩
    · rintro ⟨left, none, -⟩
      cases none
  | cons batch batches ih =>
    by_cases suiting : batch.any (suits request) = true
    · -- Nothing is gained by leaving a batch that suits to a later request.
      simp only [rest?, suiting, if_true, Option.some.injEq, exists_eq_left']
      constructor
      · rintro (_ | ⟨-, rest⟩ | rest)
        · exact rest
        · exact sublistForall₂_of_cons rest
      · exact .cons suiting
    · simp only [rest?, suiting, if_false, Bool.false_eq_true]
      rw [← ih]
      constructor
      · rintro (_ | ⟨holds, -⟩ | rest)
        · exact absurd holds suiting
        · exact rest
      · exact .cons_right

theorem le_served_iff {count : Nat} :
    count ≤ served suits batches requests ↔ count ≤ requests.length ∧
      SublistForall₂ (HasSuiting suits) (requests.take count) batches := by
  induction requests generalizing batches count with
  | nil =>
    simp only [served, List.length_nil, List.take_nil, Nat.le_zero]
    exact ⟨fun none => ⟨none, .nil⟩, And.left⟩
  | cons request requests ih =>
    cases count with
    | zero => simpa using SublistForall₂.nil
    | succ count =>
      rw [List.take_succ_cons, sublistForall₂_cons_iff, served]
      cases rest? (suits request) batches with
      | none => simp
      | some left => simp [ih]

/-! ## Messages that are kept -/

theorem exists_front_of_rest? {wanted : M -> Bool} (read : rest? wanted batches = some left) :
    ∃ front, batches.flatten = front ++ left.flatten ∧ ∃ message ∈ front, wanted message = true := by
  induction batches with
  | nil => cases read
  | cons batch batches ih =>
    rw [rest?] at read
    split at read
    next suiting =>
      cases read
      exact ⟨batch, List.flatten_cons, List.any_eq_true.mp suiting⟩
    next =>
      obtain ⟨front, joined, message, member, suiting⟩ := ih read
      refine ⟨batch ++ front, by rw [List.flatten_cons, joined, List.append_assoc], message, ?_⟩
      exact ⟨List.mem_append_right _ member, suiting⟩

theorem keptServed_mono {fewer more : List M} (within : fewer.Sublist more) :
    keptServed suits fewer requests ≤ keptServed suits more requests := by
  induction requests generalizing fewer more with
  | nil => exact Nat.le_refl 0
  | cons request requests ih =>
    unfold keptServed
    by_cases suiting : fewer.any (suits request) = true
    · have present : more.any (suits request) = true := by
        obtain ⟨message, member, holds⟩ := List.any_eq_true.mp suiting
        exact List.any_eq_true.mpr ⟨message, within.subset member, holds⟩
      rw [if_pos suiting, if_pos present]
      -- Each side loses the first message that suits, which keeps the one within the other.
      exact Nat.succ_le_succ (ih within.eraseP)
    · rw [if_neg suiting]
      exact Nat.zero_le _

theorem served_le_keptServed :
    served suits batches requests ≤ keptServed suits batches.flatten requests := by
  induction requests generalizing batches with
  | nil => exact Nat.le_refl 0
  | cons request requests ih =>
    rw [served, keptServed]
    cases read : rest? (suits request) batches with
    | none => exact Nat.zero_le _
    | some left =>
      obtain ⟨front, joined, message, member, suiting⟩ := exists_front_of_rest? read
      have present : batches.flatten.any (suits request) = true := by
        rw [joined]
        exact List.any_eq_true.mpr ⟨message, List.mem_append_left _ member, suiting⟩
      -- What suits lies before what is left, so taking it away leaves that untouched.
      have remains : left.flatten.Sublist (batches.flatten.eraseP (suits request)) := by
        rw [joined, List.eraseP_append_left suiting _ member]
        exact List.sublist_append_right _ _
      rw [if_pos present]
      exact Nat.succ_le_succ (Nat.le_trans ih (keptServed_mono remains))

theorem keptServed_le_length {messages : List M} :
    keptServed suits messages requests ≤ requests.length := by
  induction requests generalizing messages with
  | nil => exact Nat.le_refl 0
  | cons request requests ih =>
    rw [keptServed]
    split
    · exact Nat.succ_le_succ ih
    · exact Nat.zero_le _

/-- Nothing that was lost is missed exactly if there are different batches, in the right order, for
all requests that the messages themselves would do for. -/
theorem served_eq_keptServed_iff :
    served suits batches requests = keptServed suits batches.flatten requests ↔
      SublistForall₂ (HasSuiting suits)
        (requests.take (keptServed suits batches.flatten requests)) batches := by
  have most : served suits batches requests ≤ keptServed suits batches.flatten requests :=
    served_le_keptServed
  constructor
  · intro same
    exact (le_served_iff.mp (Nat.le_of_eq same.symm)).2
  · intro embedded
    exact Nat.le_antisymm most (le_served_iff.mpr ⟨keptServed_le_length, embedded⟩)

/-- Two groupings serve alike exactly if they have different batches for the same requests. -/
theorem served_alike_iff {others : List (List M)} :
    served suits batches requests = served suits others requests ↔
      ∀ count ≤ requests.length,
        (SublistForall₂ (HasSuiting suits) (requests.take count) batches ↔
          SublistForall₂ (HasSuiting suits) (requests.take count) others) := by
  have within : ∀ batches, served suits batches requests ≤ requests.length := fun batches =>
    Nat.le_trans served_le_keptServed keptServed_le_length
  constructor
  · intro same count within
    have here : count ≤ served suits batches requests ↔ _ := le_served_iff
    rw [same, le_served_iff] at here
    simpa [within] using here.symm
  · intro alike
    apply Nat.le_antisymm
    · have embedded := (le_served_iff.mp (Nat.le_refl (served suits batches requests))).2
      exact le_served_iff.mpr ⟨within _, (alike _ (within _)).mp embedded⟩
    · have embedded := (le_served_iff.mp (Nat.le_refl (served suits others requests))).2
      exact le_served_iff.mpr ⟨within _, (alike _ (within _)).mpr embedded⟩

end Rehearsal.Batches
