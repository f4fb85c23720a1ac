import EventFormation.Proofs.Grouping

/-!
# Connected components

Hits that are close to each other are linked, and so are hits with a chain of
links between them.  While no component is longer than the span, gathering
readouts one by one yields exactly the connected components, whatever the
order.  Whether hits make a component is then decided by what lies within the
span around any one of them.
-/

namespace EventFormation

namespace Limits

/-- A chain of close hits leads from one hit to the other. -/
def Linked (limits : Limits) (hits : Hits) : Readout → Readout → Prop :=
  Relation.ReflTransGen fun first second =>
    first ∈ hits ∧ second ∈ hits ∧ limits.Close first second

open Classical in
/-- The hits that are linked with a hit. -/
noncomputable def component (limits : Limits) (hits : Hits) (hit : Readout) : Hits :=
  hits.filter (limits.Linked hits hit)

/-- The connected components of hits, each once. -/
noncomputable def components (limits : Limits) (hits : Hits) : Grouping :=
  (hits.map (limits.component hits)).dedup

/-- No component takes more time than the span. -/
def Compact (limits : Limits) (hits : Hits) : Prop :=
  ∀ first ∈ hits, ∀ second ∈ hits, limits.Linked hits first second →
    second.time.toNat ≤ first.time.toNat + limits.span

variable {limits : Limits} {hits : Hits} {first second readout : Readout}

theorem Linked.symm (linked : limits.Linked hits first second) :
    limits.Linked hits second first := by
  induction linked with
  | refl => exact Relation.ReflTransGen.refl
  | tail _ step induction =>
      obtain ⟨sourceMember, targetMember, close⟩ := step
      exact induction.head ⟨targetMember, sourceMember, (limits.close_comm _ _).mp close⟩

theorem Linked.mono {more : Hits} (subset : hits ⊆ more)
    (linked : limits.Linked hits first second) : limits.Linked more first second := by
  refine Relation.ReflTransGen.mono ?_ first second linked
  rintro one other ⟨oneMember, otherMember, close⟩
  exact ⟨subset oneMember, subset otherMember, close⟩

theorem Compact.mono {more : Hits} (subset : hits ⊆ more) (compact : limits.Compact more) :
    limits.Compact hits := by
  intro one oneMember other otherMember linked
  exact compact one (subset oneMember) other (subset otherMember) (linked.mono subset)

theorem mem_component :
    second ∈ limits.component hits first ↔ second ∈ hits ∧ limits.Linked hits first second := by
  classical
  unfold component
  exact Multiset.mem_filter

theorem self_mem_component (member : first ∈ hits) : first ∈ limits.component hits first :=
  mem_component.mpr ⟨member, Relation.ReflTransGen.refl⟩

theorem component_eq_of_linked (linked : limits.Linked hits first second) :
    limits.component hits first = limits.component hits second := by
  classical
  unfold component
  refine Multiset.filter_congr ?_
  intro other _
  exact ⟨linked.symm.trans, linked.trans⟩

theorem component_eq_of_mem (member : second ∈ limits.component hits first) :
    limits.component hits second = limits.component hits first :=
  (component_eq_of_linked (mem_component.mp member).2).symm

theorem mem_components {group : Hits} :
    group ∈ limits.components hits ↔ ∃ hit ∈ hits, limits.component hits hit = group := by
  rw [components, Multiset.mem_dedup, Multiset.mem_map]

theorem nodup_components : (limits.components hits).Nodup :=
  Multiset.nodup_dedup _

/-- Components that are chosen by a property have the hits whose components
have it. -/
theorem sum_filter_components (property : Hits → Prop) [DecidablePred property] :
    ((limits.components hits).filter property).sum =
      hits.filter fun hit => property (limits.component hits hit) := by
  classical
  ext hit
  have others : ∀ group, group ≠ limits.component hits hit →
      group ∈ (limits.components hits).filter property → group.count hit = 0 := by
    intro group different member
    obtain ⟨source, -, rfl⟩ := mem_components.mp (Multiset.mem_of_mem_filter member)
    refine Multiset.count_eq_zero.mpr ?_
    intro inside
    exact different (component_eq_of_mem inside).symm
  have counted := Multiset.sum_map_eq_nsmul_single (limits.component hits hit) others
  have own : (limits.component hits hit).count hit = hits.count hit :=
    Multiset.count_filter_of_pos Relation.ReflTransGen.refl
  have total : ((limits.components hits).filter property).sum.count hit =
      (((limits.components hits).filter property).map (Multiset.count hit)).sum := by
    conv_lhs => rw [← Multiset.map_id ((limits.components hits).filter property)]
    exact Multiset.count_sum
  rw [total, counted, own, Multiset.count_filter, Multiset.count_filter, smul_eq_mul]
  by_cases chosen : property (limits.component hits hit)
  · rw [if_pos chosen, if_pos chosen]
    by_cases member : hit ∈ hits
    · rw [Multiset.count_eq_one_of_mem nodup_components
        (mem_components.mpr ⟨hit, member, rfl⟩), Nat.one_mul]
    · rw [Multiset.count_eq_zero.mpr member, Nat.mul_zero]
  · rw [if_neg chosen, if_neg chosen, Nat.zero_mul]

theorem close_self (readout : Readout) : limits.Close readout readout := by
  simp [Close, apart, InEllipse]

theorem InEllipse.le {x y : Nat} (wide : 0 < limits.dx.toNat) (high : 0 < limits.dy.toNat)
    (inside : limits.InEllipse x y) : x ≤ limits.dx.toNat ∧ y ≤ limits.dy.toNat := by
  unfold InEllipse at inside
  constructor
  · have bound : x * x * (limits.dy.toNat * limits.dy.toNat) ≤
        limits.dx.toNat * limits.dx.toNat * (limits.dy.toNat * limits.dy.toNat) := by omega
    exact Nat.mul_self_le_mul_self_iff.mp
      (Nat.le_of_mul_le_mul_right bound (Nat.mul_pos high high))
  · have bound : y * y * (limits.dx.toNat * limits.dx.toNat) ≤
        limits.dy.toNat * limits.dy.toNat * (limits.dx.toNat * limits.dx.toNat) := by
      rw [Nat.mul_comm (limits.dy.toNat * limits.dy.toNat)]
      omega
    exact Nat.mul_self_le_mul_self_iff.mp
      (Nat.le_of_mul_le_mul_right bound (Nat.mul_pos wide wide))

section

variable (wide : 0 < limits.dx.toNat) (high : 0 < limits.dy.toNat)
include wide high

theorem joins_iff_close {group : Hits}
    (within : ∀ hit ∈ group, readout.time.toNat ≤ hit.time.toNat + limits.span) :
    limits.Joins group readout ↔ ∃ hit ∈ group, limits.Close hit readout := by
  constructor
  · rintro ⟨-, -, -, -, -, -, -, close⟩
    exact close
  · rintro ⟨hit, member, close⟩
    obtain ⟨near, inside⟩ := close
    obtain ⟨column, row⟩ := inside.le wide high
    unfold apart at near column row
    refine ⟨⟨hit, member, ?_⟩, ⟨hit, member, ?_⟩, within, ⟨hit, member, ?_⟩, ⟨hit, member, ?_⟩,
      ⟨hit, member, ?_⟩, ⟨hit, member, ?_⟩, ⟨hit, member, near, inside⟩⟩
    all_goals omega

end

/-- A hit is linked with a new readout if its component has a hit close to it. -/
theorem linked_cons_iff (member : first ∈ hits) :
    limits.Linked (readout ::ₘ hits) first readout ↔
      ∃ hit ∈ limits.component hits first, limits.Close hit readout := by
  constructor
  · intro linked
    induction linked using Relation.ReflTransGen.head_induction_on with
    | refl => exact ⟨readout, self_mem_component member, close_self readout⟩
    | @head source target step _ induction =>
        obtain ⟨-, targetMember, close⟩ := step
        rcases Multiset.mem_cons.mp targetMember with rfl | old
        · exact ⟨source, self_mem_component member, close⟩
        · obtain ⟨hit, hitMember, hitClose⟩ := induction old
          have linked : limits.Linked hits source target :=
            Relation.ReflTransGen.single ⟨member, old, close⟩
          rw [component_eq_of_linked linked]
          exact ⟨hit, hitMember, hitClose⟩
  · rintro ⟨hit, hitMember, close⟩
    obtain ⟨inHits, linked⟩ := mem_component.mp hitMember
    exact (linked.mono (Multiset.subset_cons hits readout)).tail
      ⟨Multiset.mem_cons_of_mem inHits, Multiset.mem_cons_self readout hits, close⟩

theorem component_cons_of_not_linked (apart : ¬limits.Linked (readout ::ₘ hits) first readout) :
    limits.component (readout ::ₘ hits) first = limits.component hits first := by
  classical
  have same : ∀ other, limits.Linked (readout ::ₘ hits) first other ↔
      limits.Linked hits first other := by
    intro other
    constructor
    · intro linked
      induction linked with
      | refl => exact Relation.ReflTransGen.refl
      | tail before step induction =>
          obtain ⟨sourceMember, targetMember, close⟩ := step
          refine induction.tail ⟨?_, ?_, close⟩
          · rcases Multiset.mem_cons.mp sourceMember with rfl | old
            · exact (apart before).elim
            · exact old
          · rcases Multiset.mem_cons.mp targetMember with rfl | old
            · exact (apart (before.tail ⟨sourceMember, targetMember, close⟩)).elim
            · exact old
    · exact Linked.mono (Multiset.subset_cons hits readout)
  unfold component
  rw [Multiset.filter_cons_of_neg _ apart]
  exact Multiset.filter_congr fun other _ => same other

/-- The component of a new readout has it and the components that it joins. -/
theorem component_cons_self (property : Hits → Prop) [DecidablePred property]
    (joins : ∀ hit ∈ hits, property (limits.component hits hit) ↔
      limits.Linked (readout ::ₘ hits) hit readout) :
    limits.component (readout ::ₘ hits) readout =
      readout ::ₘ hits.filter fun hit => property (limits.component hits hit) := by
  classical
  have self : limits.Linked (readout ::ₘ hits) readout readout := Relation.ReflTransGen.refl
  rw [component, Multiset.filter_cons_of_pos _ self]
  congr 1
  refine Multiset.filter_congr ?_
  intro hit member
  rw [joins hit member]
  exact ⟨Linked.symm, Linked.symm⟩

section

variable (wide : 0 < limits.dx.toNat) (high : 0 < limits.dy.toNat)
include wide high

/-- Gathering a readout keeps groups the connected components. -/
theorem gather_components (compact : limits.Compact (readout ::ₘ hits)) :
    limits.gather (limits.components hits) readout = limits.components (readout ::ₘ hits) := by
  have linkedIff : ∀ hit ∈ hits, limits.Joins (limits.component hits hit) readout ↔
      limits.Linked (readout ::ₘ hits) hit readout := by
    intro hit member
    rw [linked_cons_iff member]
    constructor
    · rintro ⟨-, -, -, -, -, -, -, close⟩
      exact close
    · intro close
      refine (joins_iff_close wide high ?_).mpr close
      intro other otherMember
      obtain ⟨inHits, linked⟩ := mem_component.mp otherMember
      have through := (linked.mono (Multiset.subset_cons hits readout)).symm.trans
        ((linked_cons_iff member).mpr close)
      exact compact other (Multiset.mem_cons_of_mem inHits) readout
        (Multiset.mem_cons_self readout hits) through
  have fused := component_cons_self (fun group => limits.Joins group readout) linkedIff
  rw [← sum_filter_components fun group => limits.Joins group readout] at fused
  unfold gather
  rw [← fused]
  refine (Multiset.Nodup.ext ?_ nodup_components).mpr ?_
  · refine Multiset.nodup_cons.mpr ⟨?_, nodup_components.filter _⟩
    intro member
    obtain ⟨old, refused⟩ := Multiset.mem_filter.mp member
    obtain ⟨source, sourceMember, same⟩ := mem_components.mp old
    have inside : readout ∈ limits.component hits source := by
      rw [same]
      exact self_mem_component (Multiset.mem_cons_self readout hits)
    rw [← same, linkedIff source sourceMember, linked_cons_iff sourceMember] at refused
    exact refused ⟨readout, inside, close_self readout⟩
  · intro group
    rw [Multiset.mem_cons, Multiset.mem_filter, mem_components, mem_components]
    constructor
    · rintro (rfl | ⟨⟨source, member, rfl⟩, refused⟩)
      · exact ⟨readout, Multiset.mem_cons_self readout hits, rfl⟩
      · rw [linkedIff source member] at refused
        exact ⟨source, Multiset.mem_cons_of_mem member, component_cons_of_not_linked refused⟩
    · rintro ⟨source, member, rfl⟩
      by_cases linked : limits.Linked (readout ::ₘ hits) source readout
      · exact .inl (component_eq_of_linked linked)
      · rcases Multiset.mem_cons.mp member with rfl | old
        · exact (linked Relation.ReflTransGen.refl).elim
        · rw [component_cons_of_not_linked linked]
          exact .inr ⟨⟨source, old, rfl⟩, fun joins => linked ((linkedIff source old).mp joins)⟩

/-- Gathering readouts in any order yields the connected components. -/
theorem gatherAll_components (readouts : List Readout)
    (compact : limits.Compact (readouts : Hits)) :
    limits.gatherAll 0 readouts = limits.components (readouts : Hits) := by
  induction readouts using List.reverseRecOn with
  | nil => rfl
  | append_singleton readouts readout induction =>
      have whole : ((readouts ++ [readout] : List Readout) : Hits) =
          readout ::ₘ (readouts : Hits) :=
        Multiset.coe_eq_coe.mpr (List.perm_append_singleton readout readouts)
      rw [whole] at compact ⊢
      rw [gatherAll_append, induction (compact.mono (Multiset.subset_cons _ _)), gatherAll_cons,
        gatherAll_nil, gather_components wide high compact]

end

/-- A component does not change when hits outside of it are left out. -/
theorem component_filter {property : Readout → Prop} [DecidablePred property]
    (inside : ∀ hit ∈ limits.component hits first, property hit) :
    limits.component (hits.filter property) first = limits.component hits first := by
  classical
  have kept : ∀ hit ∈ hits, limits.Linked hits first hit → hit ∈ hits.filter property := by
    intro hit member linked
    exact Multiset.mem_filter.mpr ⟨member, inside hit (mem_component.mpr ⟨member, linked⟩)⟩
  have same : ∀ other, limits.Linked (hits.filter property) first other ↔
      limits.Linked hits first other := by
    intro other
    constructor
    · exact Linked.mono (Multiset.subset_of_le (Multiset.filter_le property hits))
    · intro linked
      induction linked with
      | refl => exact Relation.ReflTransGen.refl
      | tail before step induction =>
          obtain ⟨sourceMember, targetMember, close⟩ := step
          exact induction.tail ⟨kept _ sourceMember before,
            kept _ targetMember (before.tail ⟨sourceMember, targetMember, close⟩), close⟩
  unfold component
  rw [Multiset.filter_filter]
  refine Multiset.filter_congr ?_
  intro other member
  rw [same other]
  refine ⟨And.left, fun linked => ⟨linked, ?_⟩⟩
  exact inside other (mem_component.mpr ⟨member, linked⟩)

/-- Components of interest can be told from the hits within the span around one
of their hits. -/
theorem components_filter {property : Readout → Prop} [DecidablePred property]
    {interest : Hits → Prop} [DecidablePred interest] (compact : limits.Compact hits)
    (reach : ∀ group, interest group → group ≠ 0 → ∃ hit ∈ group, ∀ other ∈ hits,
      hit.time.toNat ≤ other.time.toNat + limits.span →
        other.time.toNat ≤ hit.time.toNat + limits.span → property other) :
    (limits.components (hits.filter property)).filter interest =
      (limits.components hits).filter interest := by
  have isLocal : ∀ hit ∈ hits, (∀ other ∈ hits,
      hit.time.toNat ≤ other.time.toNat + limits.span →
        other.time.toNat ≤ hit.time.toNat + limits.span → property other) →
      limits.component (hits.filter property) hit = limits.component hits hit ∧ property hit := by
    intro hit member around
    have inside : ∀ other ∈ limits.component hits hit, property other := by
      intro other otherMember
      obtain ⟨inHits, linked⟩ := mem_component.mp otherMember
      exact around other inHits (compact other inHits hit member linked.symm)
        (compact hit member other inHits linked)
    exact ⟨component_filter inside, inside hit (self_mem_component member)⟩
  refine (Multiset.Nodup.ext (nodup_components.filter _) (nodup_components.filter _)).mpr ?_
  intro group
  rw [Multiset.mem_filter, Multiset.mem_filter, mem_components, mem_components]
  constructor
  · rintro ⟨⟨source, sourceMember, rfl⟩, interesting⟩
    refine ⟨?_, interesting⟩
    have occupied : limits.component (hits.filter property) source ≠ 0 := fun empty =>
      Multiset.notMem_zero source (empty ▸ self_mem_component sourceMember)
    obtain ⟨hit, hitMember, around⟩ := reach _ interesting occupied
    have inHits := Multiset.mem_of_mem_filter (mem_component.mp hitMember).1
    refine ⟨hit, inHits, ?_⟩
    rw [← (isLocal hit inHits around).1, component_eq_of_mem hitMember]
  · rintro ⟨⟨source, sourceMember, rfl⟩, interesting⟩
    refine ⟨?_, interesting⟩
    have occupied : limits.component hits source ≠ 0 := fun empty =>
      Multiset.notMem_zero source (empty ▸ self_mem_component sourceMember)
    obtain ⟨hit, hitMember, around⟩ := reach _ interesting occupied
    have inHits := (mem_component.mp hitMember).1
    obtain ⟨same, has⟩ := isLocal hit inHits around
    exact ⟨hit, Multiset.mem_filter.mpr ⟨inHits, has⟩,
      same.trans (component_eq_of_mem hitMember)⟩

end Limits

end EventFormation
