import FtyDiscovery.Base.Entries
import FtyDiscovery.Jobs.Contacts

/-! The MIB that the assets job selects where the request names none, and the one that the mibs
job lists first. -/

namespace FtyDiscovery.Jobs.Recommendation

open Base Snmp MibsReader

variable {env : Env} {sorting : Mibs.Sorting}

def LeastIsBest (mibs : MibList) : Prop :=
  ∀ least, mibs.toList.head? = some least → ∀ mib ∈ mibs, Mibs.index least ≤ Mibs.index mib

def LeastIsAhead (mibs : MibList) : Prop :=
  ∀ least, mibs.toList.head? = some least → ∀ mib ∈ mibs, mib = least ∨ Mibs.index least < Mibs.index mib

def Stable (sorting : Mibs.Sorting) : Prop :=
  ∀ mibs first second, Mibs.index first = Mibs.index second → [first, second].Sublist mibs →
    [first, second].Sublist (sorting.sort mibs)

theorem head_sort_iff {mibs : List Text} {mib : Text} (distinct : mibs.Nodup) (member : mib ∈ mibs) :
    (sorting.sort mibs).head? = some mib ↔
      (∀ other ∈ mibs, Mibs.index mib ≤ Mibs.index other) ∧
        ∀ other ∈ mibs, Mibs.index other = Mibs.index mib → other = mib ∨
          [mib, other].Sublist (sorting.sort mibs) := by
  have perm := sorting.perm mibs
  have ordered := sorting.ordered mibs
  have unique := perm.nodup_iff.mpr distinct
  cases sorted : sorting.sort mibs with
  | nil =>
    rw [sorted] at perm
    rw [perm.symm.eq_nil] at member
    cases member
  | cons first rest =>
    rw [sorted] at perm ordered unique
    rw [List.head?_cons, Option.some.injEq]
    constructor
    · intro same
      subst same
      constructor
      · intro other found
        rcases List.mem_cons.mp (perm.mem_iff.mpr found) with rfl | behind
        · exact Nat.le_refl _
        · have unbeaten := List.rel_of_pairwise_cons ordered behind
          simpa [Mibs.sortMibs] using unbeaten
      · intro other found _
        rcases List.mem_cons.mp (perm.mem_iff.mpr found) with rfl | behind
        · exact .inl rfl
        · exact .inr (List.Sublist.cons_cons first (List.singleton_sublist.mpr behind))
    · intro ⟨best, ties⟩
      have here : first ∈ mibs := perm.mem_iff.mp List.mem_cons_self
      rcases List.mem_cons.mp (perm.mem_iff.mpr member) with same | behind
      · exact same.symm
      · have unbeaten := List.rel_of_pairwise_cons ordered behind
        have better := best first here
        have equal : Mibs.index first = Mibs.index mib := by
          simp only [Mibs.sortMibs, decide_eq_false_iff_not] at unbeaten
          omega
        rcases ties first here equal with same | later
        · exact same
        · -- The least would stand before the first element.
          cases later with
          | cons _ inside =>
            have twice := (List.nodup_cons.mp unique).1
            exact (twice (inside.subset (by simp))).elim
          | cons_cons _ _ => rfl

theorem toList_nodup (mibs : MibList) : mibs.toList.Nodup := Entries.nodup_of_ordered Std.ExtTreeSet.ordered_toList

theorem head_of_stable {least : Text} {rest : List Text} (stable : Stable sorting)
    (distinct : (least :: rest).Nodup) :
    (sorting.sort (least :: rest)).head? = some least ↔ ∀ mib ∈ least :: rest, Mibs.index least ≤ Mibs.index mib := by
  rw [head_sort_iff distinct List.mem_cons_self]
  constructor
  · intro ⟨best, _⟩
    exact best
  · intro best
    refine ⟨best, fun mib member same => ?_⟩
    rcases List.mem_cons.mp member with here | behind
    · exact .inl here
    · right
      apply stable _ least mib same.symm
      exact List.Sublist.cons_cons least (List.singleton_sublist.mpr behind)

theorem stable_stable : Stable .stable := by
  intro mibs first second same before
  apply List.pair_sublist_mergeSort _ _ _ before
  · intro l m r left right
    simp only [Mibs.sortMibs, Bool.not_eq_true', decide_eq_false_iff_not] at *
    omega
  · intro l r
    simp only [Mibs.sortMibs, Bool.or_eq_true, Bool.not_eq_true', decide_eq_false_iff_not]
    omega
  · simp [Mibs.sortMibs, same]

def preferring (mib : Text) : Mibs.Sorting where
  sort mibs := Mibs.Sorting.stable.sort (if mib ∈ mibs then mib :: mibs.erase mib else mibs)
  perm mibs := by
    apply (Mibs.Sorting.stable.perm _).trans
    split
    next member => exact (List.perm_cons_erase member).symm
    next => exact .refl _
  ordered mibs := Mibs.Sorting.stable.ordered _

/-- Whatever the sort does with elements of one priority, a MIB comes first only where all others
have a worse one. -/
theorem head_of_every_sorting {mibs : List Text} {least : Text} (distinct : mibs.Nodup) (member : least ∈ mibs) :
    (∀ sorting : Mibs.Sorting, (sorting.sort mibs).head? = some least) ↔
      ∀ mib ∈ mibs, mib = least ∨ Mibs.index least < Mibs.index mib := by
  constructor
  · intro first mib found
    obtain ⟨best, -⟩ := (head_sort_iff distinct member).mp (first .stable)
    rcases Nat.lt_or_eq_of_le (best mib found) with worse | same
    · exact .inr worse
    -- A sort that prefers the other has that one in front, so the two are the same.
    · have front : ((preferring mib).sort mibs).head? = some mib := by
        have whole : mibs.Perm (mib :: mibs.erase mib) := List.perm_cons_erase found
        simp only [preferring, if_pos found]
        rw [head_of_stable stable_stable (whole.nodup_iff.mp distinct)]
        intro other listed
        rw [← same]
        exact best other (whole.mem_iff.mpr listed)
      rw [first (preferring mib)] at front
      exact .inl (Option.some.inj front).symm
  · intro ahead sorting
    rw [head_sort_iff distinct member]
    constructor
    · intro mib found
      rcases ahead mib found with rfl | worse
      · exact Nat.le_refl _
      · exact Nat.le_of_lt worse
    · intro mib found same
      rcases ahead mib found with here | worse
      · exact .inl here
      · omega

/-- Where both jobs read one set, the MIB that the assets job selects is the first of the list of
the mibs job, whatever the sort does with equal elements, exactly when every other MIB of the set
has a worse priority than its least; with a stable sort, exactly when none has a better one. -/
theorem selects_recommended_iff {requests requests' : Nat} {input params : Commands.Assets.In}
    {input' : Commands.Mibs.In} {events events' : List Contact} {mibs : MibList} {out : Commands.Mibs.Out}
    (snmp : input.protocol = "nut_snmp".toList) (unnamed : input.settings.mib = [])
    (selected : Assets.settle env requests input = ⟨events, .ok params⟩)
    (listed : Mibs.run env sorting requests' input' = ⟨events', .ok out⟩)
    (read : ∀ sess, .session sess ∈ events →
      MibsReader.read env.lib (env.peer sess) false env.tryAll requests = .ok (.ok mibs))
    (read' : ∀ sess, .session sess ∈ events' →
      MibsReader.read env.lib (env.peer sess) true env.tryAll requests' = .ok (.ok mibs)) :
    ((∀ sorting' out', Mibs.run env sorting' requests' input' = ⟨events', .ok out'⟩ →
        out'.head? = some params.settings.mib) ↔ LeastIsAhead mibs) ∧
      (Stable sorting → (out.head? = some params.settings.mib ↔ LeastIsBest mibs)) := by
  obtain ⟨sess', found', rfl, read_ok', sorted⟩ := Mibs.run_ok listed
  rw [read' sess' List.mem_cons_self] at read_ok'
  obtain rfl := Except.ok.inj (Except.ok.inj read_ok')
  have outputs (sorting' : Mibs.Sorting) {out' : Commands.Mibs.Out}
      (ok : Mibs.run env sorting' requests' input' = ⟨[.session sess'], .ok out'⟩) : out' = sorting'.sort mibs.toList := by
    rw [sorted sorting'] at ok
    exact (Except.ok.inj (congrArg Traced.result ok)).symm
  obtain ⟨sess, found, rfl, read_ok, least⟩ := Assets.settle_selects snmp selected
  rw [read sess List.mem_cons_self] at read_ok
  obtain rfl := Except.ok.inj (Except.ok.inj read_ok)
  have first : mibs.toList.head? = some params.settings.mib := least unnamed
  constructor
  · simp only [LeastIsAhead, first, Option.some.injEq, forall_eq', ← Std.ExtTreeSet.mem_toList]
    rw [← head_of_every_sorting (toList_nodup mibs) (List.mem_of_mem_head? first)]
    constructor
    · intro all sorting'
      exact all sorting' _ (sorted sorting')
    · intro all sorting' out' ok
      rw [outputs sorting' ok]
      exact all sorting'
  · intro stable
    simp only [LeastIsBest, first, Option.some.injEq, forall_eq', ← Std.ExtTreeSet.mem_toList]
    rw [outputs sorting listed]
    have distinct := toList_nodup mibs
    cases members : mibs.toList with
    | nil => simp [members] at first
    | cons least rest =>
      rw [members] at first distinct
      obtain rfl := Option.some.inj first
      exact head_of_stable stable distinct

def xups : Text := "XUPS-MIB::xupsIdentModel.0".toList

def mgUps : Text := "MG-SNMP-UPS-MIB::upsmgIdentFamilyName.0".toList

def mibsInput : Commands.Mibs.In where
  address := "ups".toList
  community := "public".toList

def assetsInput : Commands.Assets.In where
  address := "ups".toList
  protocol := "nut_snmp".toList
  settings := { community := "public".toList }

theorem xups_selects_recommended :
    ∃ params events out events', Assets.settle (probedEnv [xups]) 1 assetsInput = ⟨events, .ok params⟩ ∧
      Mibs.run (probedEnv [xups]) .stable 1 mibsInput = ⟨events', .ok out⟩ ∧
      ((∀ sorting' out', Mibs.run (probedEnv [xups]) sorting' 1 mibsInput = ⟨events', .ok out'⟩ →
          out'.head? = some params.settings.mib) ↔ LeastIsAhead ((∅ : MibList).insert "XUPS-MIB".toList)) ∧
      (out.head? = some params.settings.mib ↔ LeastIsBest ((∅ : MibList).insert "XUPS-MIB".toList)) := by
  obtain ⟨sess, params, selected⟩ : ∃ sess params, Assets.settle (probedEnv [xups]) 1 assetsInput =
      ⟨[.session sess], .ok params⟩ := ⟨_, _, rfl⟩
  obtain ⟨sess', out, listed⟩ : ∃ sess' out, Mibs.run (probedEnv [xups]) .stable 1 mibsInput =
      ⟨[.session sess'], .ok out⟩ := ⟨_, _, rfl⟩
  obtain ⟨every, stable⟩ := selects_recommended_iff rfl rfl selected listed (fun _ _ => rfl) (fun _ _ => rfl)
  exact ⟨params, _, out, _, selected, listed, every, stable stable_stable⟩

theorem mgUps_selected_xups_recommended :
    ∃ params sess out sess', Assets.settle (probedEnv [mgUps, xups]) 1 assetsInput = ⟨[.session sess], .ok params⟩ ∧
      Mibs.run (probedEnv [mgUps, xups]) .stable 1 mibsInput = ⟨[.session sess'], .ok out⟩ ∧
      MibsReader.read (probedEnv [mgUps, xups]).lib ((probedEnv [mgUps, xups]).peer sess) false false 1 =
        MibsReader.read (probedEnv [mgUps, xups]).lib ((probedEnv [mgUps, xups]).peer sess') true false 1 ∧
      params.settings.mib = "MG-SNMP-UPS-MIB".toList ∧ out.head? = some "XUPS-MIB".toList ∧
      out.head? ≠ some params.settings.mib := by
  obtain ⟨sess, params, selected, mib⟩ : ∃ sess params,
      Assets.settle (probedEnv [mgUps, xups]) 1 assetsInput = ⟨[.session sess], .ok params⟩ ∧
        params.settings.mib = "MG-SNMP-UPS-MIB".toList := ⟨_, _, rfl, rfl⟩
  obtain ⟨sess', listed⟩ : ∃ sess', Mibs.run (probedEnv [mgUps, xups]) .stable 1 mibsInput =
      ⟨[.session sess'], .ok (Mibs.Sorting.stable.sort ["MG-SNMP-UPS-MIB".toList, "XUPS-MIB".toList])⟩ := ⟨_, rfl⟩
  have first : (Mibs.Sorting.stable.sort ["MG-SNMP-UPS-MIB".toList, "XUPS-MIB".toList]).head? =
      some "XUPS-MIB".toList :=
    (head_sort_iff (by decide) (by decide)).mpr ⟨by decide, fun other member same => .inl (by
      revert other
      decide)⟩
  refine ⟨params, sess, _, sess', selected, listed, rfl, mib, first, ?_⟩
  rw [first, mib]
  decide

end FtyDiscovery.Jobs.Recommendation
