import Mathlib

/-!
# Sorting by number

Entries that are collected number by number, each time in the order in which they
come, are the entries in a stable sort.
-/

namespace EventFormation

variable {α : Type} (number : α → Nat)

/-- Entries in the order of their numbers; those of one number stay in order. -/
def sortedBy (entries : List α) : List α :=
  entries.mergeSort fun first second => number first ≤ number second

theorem sortedBy_perm (entries : List α) : (sortedBy number entries).Perm entries :=
  List.mergeSort_perm entries _

theorem pairwise_sortedBy (entries : List α) :
    (sortedBy number entries).Pairwise fun first second => number first ≤ number second := by
  have sorted : (sortedBy number entries).Pairwise
      fun first second => decide (number first ≤ number second) = true :=
    List.pairwise_mergeSort (by simpa using fun _ _ _ => Nat.le_trans)
      (by simpa using fun _ _ => Nat.le_total _ _) entries
  exact sorted.imp of_decide_eq_true

theorem filter_sortedBy (here : Nat) (entries : List α) :
    (sortedBy number entries).filter (fun entry => number entry = here) =
      entries.filter fun entry => number entry = here := by
  have alike : (entries.filter fun entry => number entry = here).Pairwise
      fun first second => decide (number first ≤ number second) = true := by
    refine List.pairwise_of_forall_mem_list ?_
    intro first firstHere second secondHere
    have same : number first = here := of_decide_eq_true (List.mem_filter.mp firstHere).2
    have other : number second = here := of_decide_eq_true (List.mem_filter.mp secondHere).2
    exact decide_eq_true (by omega)
  have part : (entries.filter fun entry => number entry = here).Sublist
      (sortedBy number entries) :=
    List.sublist_mergeSort (by simpa using fun _ _ _ => Nat.le_trans)
      (by simpa using fun _ _ => Nat.le_total _ _) alike List.filter_sublist
  have within := part.filter fun entry => number entry = here
  rw [List.filter_filter] at within
  simp only [Bool.and_self] at within
  have count := ((sortedBy_perm number entries).filter fun entry => number entry = here).length_eq
  exact (within.eq_of_length count.symm).symm

/-- Entries in order are those of small numbers and then the others. -/
theorem filter_lt_append_filter {entries : List α} (bound : Nat)
    (sorted : entries.Pairwise fun first second => number first ≤ number second) :
    (entries.filter fun entry => number entry < bound) ++
      (entries.filter fun entry => !decide (number entry < bound)) = entries := by
  induction entries with
  | nil => rfl
  | cons entry rest induction =>
      obtain ⟨least, sortedRest⟩ := List.pairwise_cons.mp sorted
      by_cases early : number entry < bound
      · simp [early, induction sortedRest]
      · have noneEarly : (rest.filter fun entry => number entry < bound) = [] := by
          refine List.filter_eq_nil_iff.mpr ?_
          intro other member below
          have after := least other member
          have before : number other < bound := of_decide_eq_true below
          omega
        have allLate := induction sortedRest
        rw [noneEarly, List.nil_append] at allLate
        simp [early, noneEarly, allLate]

/-- Entries in order are their groups, number by number. -/
theorem flatMap_filter_of_sorted (first count : Nat) {entries : List α}
    (sorted : entries.Pairwise fun first second => number first ≤ number second)
    (inside : ∀ entry ∈ entries, first ≤ number entry ∧ number entry < first + count) :
    ((List.range' first count).flatMap fun index =>
      entries.filter fun entry => number entry = index) = entries := by
  induction count generalizing entries with
  | zero =>
      have none : entries = [] := by
        refine List.eq_nil_iff_forall_not_mem.mpr ?_
        intro entry member
        have bounds := inside entry member
        omega
      rw [none]
      simp
  | succ count induction =>
      let early := entries.filter fun entry => decide (number entry < first + count)
      have insideEarly : ∀ entry ∈ early,
          first ≤ number entry ∧ number entry < first + count := by
        intro entry member
        obtain ⟨old, before⟩ := List.mem_filter.mp member
        exact ⟨(inside entry old).1, by simpa using before⟩
      have grouped := induction (sorted.filter _) insideEarly
      have sameEarly : ∀ index ∈ List.range' first count,
          (entries.filter fun entry => number entry = index) =
            early.filter fun entry => number entry = index := by
        intro index member
        have range := List.mem_range'_1.mp member
        rw [List.filter_filter]
        apply List.filter_congr
        intro entry _
        by_cases here : number entry = index
        · simp [here, range.2]
        · simp [here]
      have last : (entries.filter fun entry => number entry = first + count) =
          entries.filter fun entry => !decide (number entry < first + count) := by
        apply List.filter_congr
        intro entry member
        have bounds := inside entry member
        rw [← decide_not]
        exact decide_eq_decide.mpr (by omega)
      rw [List.range'_1_concat, List.flatMap_append, List.flatMap_singleton, last,
        List.flatMap_congr sameEarly, grouped]
      exact filter_lt_append_filter number (first + count) sorted

section

variable (first count : Nat) {entries : List α}
  (inside : ∀ entry ∈ entries, first ≤ number entry ∧ number entry < first + count)
include inside

/-- Collecting entries number by number sorts them. -/
theorem flatMap_filter_eq_sortedBy :
    ((List.range' first count).flatMap fun index =>
      entries.filter fun entry => number entry = index) = sortedBy number entries := by
  have insideSorted : ∀ entry ∈ sortedBy number entries,
      first ≤ number entry ∧ number entry < first + count :=
    fun entry member => inside entry ((sortedBy_perm number entries).mem_iff.mp member)
  have grouped := flatMap_filter_of_sorted number first count (pairwise_sortedBy number entries)
    insideSorted
  simp only [filter_sortedBy] at grouped
  exact grouped

theorem flatMap_filter_perm :
    ((List.range' first count).flatMap fun index =>
      entries.filter fun entry => number entry = index).Perm entries := by
  rw [flatMap_filter_eq_sortedBy number first count inside]
  exact sortedBy_perm number entries

end

end EventFormation
