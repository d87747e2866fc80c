import EntityStore.Placement.Scheme

/-!
# All targets of a scheme

The place of a key is one of all targets of its scheme (`HashScheme.place_mem_broadcast`): its
partition is below the number of partitions in each dimension.
-/

namespace EntityStore

namespace TargetSet

theorem Ascending.nodup {s : TargetSet} (h : s.Ascending) : s.Nodup := by
  refine List.Pairwise.imp (fun {a b} hlt hab => ?_) h
  have hself : b.cmp b = .eq := Std.ReflCmp.compare_self
  rw [hab, hself] at hlt
  cases hlt

/-- A set is known by its members. -/
theorem Ascending.eq_of_mem_iff {a b : TargetSet} (ha : a.Ascending) (hb : b.Ascending)
    (h : ∀ t, t ∈ a ↔ t ∈ b) : a = b := by
  refine List.Perm.eq_of_pairwise (fun x y _ _ hxy hyx => ?_) ha hb
    ((List.perm_ext_iff_of_nodup ha.nodup hb.nodup).2 h)
  cases hxy.symm.trans (Std.OrientedCmp.gt_iff_lt.2 hyx)

/-- A list without repeats is a set of as many targets. -/
theorem ofList_perm {l : List Target} (h : l.Nodup) : (ofList l).Perm l :=
  (List.perm_ext_iff_of_nodup (ascending_ofList l).nodup h).2 fun _ => mem_ofList

end TargetSet

theorem Dimension.nameAt_mem_names {d : Dimension} {i : Nat} (h : i < d.count) :
    d.nameAt i ∈ d.names :=
  List.mem_map_of_mem (List.mem_range.2 h)

namespace HashScheme

/-- The targets of a scheme are its databases, each with each of its tables. -/
theorem mem_broadcast {s : HashScheme} {t : Target} :
    t ∈ s.broadcast ↔ t.database ∈ s.database.names ∧ t.table ∈ s.table.names := by
  rw [broadcast, TargetSet.mem_ofList, List.mem_flatMap]
  constructor
  · rintro ⟨d, hd, h⟩
    obtain ⟨n, hn, rfl⟩ := List.mem_map.1 h
    exact ⟨hd, hn⟩
  · rintro ⟨hd, hn⟩
    exact ⟨t.database, hd, List.mem_map.2 ⟨t.table, hn, rfl⟩⟩

theorem place_mem_broadcast (s : HashScheme) (v : Int64) : s.place v ∈ s.broadcast :=
  mem_broadcast.2
    ⟨Dimension.nameAt_mem_names (Dimension.indexOf_lt_count s.database_valid v),
      Dimension.nameAt_mem_names (Dimension.indexOf_lt_count s.table_valid v)⟩

end HashScheme

end EntityStore
