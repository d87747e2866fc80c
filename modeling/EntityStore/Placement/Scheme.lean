import EntityStore.Placement.Target
import EntityStore.Text.Quoted

/-!
# Placement by residues

A logical table is split in two dimensions, over databases and over tables. A row with the integer
key `v` lies in the partition `v mod base` of each dimension that is partitioned, with the least
non-negative residue. Only an equality with the key can be narrowed to one target; any other
comparison may concern every target.
-/

namespace EntityStore

/-- The partitioning of one dimension. -/
structure Dimension where
  /-- The number of partitions. -/
  base : UInt64
  /-- The name, or what the names of the partitions begin with. -/
  defaultName : String
  /-- Whether the dimension is partitioned. -/
  isSharding : Bool
deriving DecidableEq, Inhabited

namespace Dimension

/-- A dimension of `base` partitions. -/
def sharded (name : String) (base : UInt64) : Dimension := ⟨base, name, true⟩

/-- A dimension that is not partitioned. -/
def single (name : String) : Dimension := ⟨1, name, false⟩

/-- The name of a partition. -/
def nameAt (d : Dimension) (i : Nat) : String :=
  if d.isSharding then d.defaultName ++ "_" ++ toString i else d.defaultName

/-- The number of partitions; one if the dimension is not partitioned. -/
def count (d : Dimension) : Nat := if d.isSharding then d.base.toNat else 1

/-- The names of all partitions. -/
def names (d : Dimension) : List String := (List.range d.count).map d.nameAt

/-- What a reader is shown of the dimension. -/
def display (d : Dimension) : String :=
  Describe.struct "Pattern" [("base", toString d.base.toNat),
    ("default_name", Text.quoted d.defaultName), ("is_sharding", Describe.bool d.isSharding)]

/-- Whether the dimension has a partition for every key. -/
def Valid (d : Dimension) : Prop := d.isSharding = true → d.base ≠ 0

instance (d : Dimension) : Decidable d.Valid :=
  inferInstanceAs (Decidable (d.isSharding = true → d.base ≠ 0))

/-- The partition of a key. -/
def indexOf (d : Dimension) (v : Int64) : Nat :=
  if d.isSharding then (v.toInt % d.base.toNat).toNat else 0

theorem indexOf_lt_count {d : Dimension} (h : d.Valid) (v : Int64) : d.indexOf v < d.count := by
  unfold indexOf count
  split
  · next hs =>
    have hpos : 0 < d.base.toNat := by
      rcases Nat.eq_zero_or_pos d.base.toNat with hz | hp
      · exact absurd (UInt64.toNat_inj.1 (by simpa using hz)) (h hs)
      · exact hp
    have := Int.emod_lt_of_pos v.toInt (Int.natCast_pos.2 hpos)
    have := Int.emod_nonneg v.toInt (b := (d.base.toNat : Int)) (by omega)
    omega
  · omega

end Dimension

/-- A placement scheme: the key it splits by and its two dimensions. -/
structure HashScheme where
  /-- The field the rows are split by. -/
  key : String
  database : Dimension
  /-- The tables of a database. -/
  table : Dimension
  key_ne : key ≠ ""
  /-- Every key has a database. -/
  database_valid : database.Valid
  /-- Every key has a table. -/
  table_valid : table.Valid
deriving DecidableEq

namespace HashScheme

/-- The entry of the configuration in which a dimension has no partitions. -/
def baseProblem (dimension : String) : ConfigProblem :=
  ⟨"sharding." ++ dimension ++ ".base", "partition count must be positive"⟩

/-- What is wrong with an empty key. -/
def keyProblem : ConfigProblem := ⟨"sharding.sharding_key", "sharding key is empty"⟩

/-- The scheme with a given key and dimensions, unless it would leave a key without a place. -/
def make (key : String) (database table : Dimension) : Except ConfigError HashScheme :=
  if hk : key = "" then .error (.invalid keyProblem)
  else if hd : database.Valid then
    if ht : table.Valid then .ok ⟨key, database, table, hk, hd, ht⟩
    else .error (.invalid (baseProblem "table"))
  else .error (.invalid (baseProblem "database"))

def broadcast (s : HashScheme) : TargetSet :=
  TargetSet.ofList
    (s.database.names.flatMap fun d => s.table.names.map fun t => ⟨d, t⟩)

/-- The target of the rows with a given key. -/
def place (s : HashScheme) (v : Int64) : Target :=
  ⟨s.database.nameAt (s.database.indexOf v), s.table.nameAt (s.table.indexOf v)⟩

/-- The targets that may hold a row whose key compares in a given way with a value. -/
def targets (s : HashScheme) (op : Comparison) (v : Int64) : TargetSet :=
  match op with
  | .eq => [s.place v]
  | _ => s.broadcast

theorem ascending_broadcast (s : HashScheme) : s.broadcast.Ascending :=
  TargetSet.ascending_ofList _

theorem ascending_targets (s : HashScheme) (op : Comparison) (v : Int64) :
    (s.targets op v).Ascending := by
  cases op with
  | eq => exact TargetSet.ascending_singleton _
  | lt => exact s.ascending_broadcast
  | gt => exact s.ascending_broadcast

/-- The placement of the rows, which refuses no comparison. -/
def placement (s : HashScheme) : Placement where
  key := s.key
  targets op v := .ok (s.targets op v)
  broadcast _ := s.broadcast
  display :=
    Describe.struct "HashSharding" [("sharding_key", Text.quoted s.key),
      ("database", s.database.display), ("table", s.table.display)]
  targets_ascending h := by
    cases h
    exact s.ascending_targets _ _
  broadcast_ascending := s.ascending_broadcast

instance : Coe HashScheme Placement := ⟨placement⟩

instance : Coe (Option HashScheme) (Option Placement) := ⟨Option.map placement⟩

end HashScheme

end EntityStore
