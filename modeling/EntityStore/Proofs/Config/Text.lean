import EntityStore.Config.Text
import EntityStore.Proofs.Json.Records
import EntityStore.Proofs.Time.Duration

/-!
# Configurations are read back

What is written of a duration, of a dimension, of a placement scheme and of the replicas is returned,
each from what is written of its parts. So a configuration is read from its own text
(`Config.parse?_toJsonText`), whatever its entries are and whether or not they are valid.
-/

namespace EntityStore

open Json

theorem Duration.returns_toJsonText (d : Duration) :
    Returns Duration.ofJson? d.toJsonText d :=
  ⟨_, reads_quote d.text, d.parse?_text⟩

theorem Dimension.returns_toJsonText (d : Dimension) :
    Returns Dimension.ofJson? d.toJsonText d := by
  have hlt : d.base.toNat < UInt64.size := d.base.toNat_lt
  obtain ⟨base, hbase, hbase'⟩ := returns_natBelow hlt
  obtain ⟨name, hname, hname'⟩ := returns_text d.defaultName
  obtain ⟨sharded, hsharded, hsharded'⟩ := returns_bool d.isSharding
  let es : List Entry := [⟨"base", some ⟨_, base, hbase⟩⟩, ⟨"default_name", some ⟨_, name, hname⟩⟩,
    ⟨"is_sharding", some ⟨_, sharded, hsharded⟩⟩]
  have hfields : fields? ["base", "default_name", "is_sharding"] _ =
      some [some base, some name, some sharded] := fields?_entries es (by simp [es])
  refine returns_entries es ?_
  rw [ofJson?, hfields]
  simp [hbase', hname', hsharded']

theorem PlacementConfig.returns_toJsonText (p : PlacementConfig) :
    Returns PlacementConfig.ofJson? p.toJsonText p := by
  obtain ⟨key, hkey, hkey'⟩ := returns_text p.key
  obtain ⟨database, hdatabase, hdatabase'⟩ := p.database.returns_toJsonText
  obtain ⟨table, htable, htable'⟩ := p.table.returns_toJsonText
  let es : List Entry := [⟨"sharding_key", some ⟨_, key, hkey⟩⟩,
    ⟨"database", some ⟨_, database, hdatabase⟩⟩, ⟨"table", some ⟨_, table, htable⟩⟩]
  have hfields : fields? ["sharding_key", "database", "table"] _ =
      some [some key, some database, some table] := fields?_entries es (by simp [es])
  refine returns_entries es ?_
  rw [ofJson?, hfields]
  simp [hkey', hdatabase', htable']

theorem ReplicaConfig.returns_toJsonText (r : ReplicaConfig) :
    Returns ReplicaConfig.ofJson? r.toJsonText r := by
  obtain ⟨dsn, hdsn, hdsn'⟩ := returns_text r.dsn
  obtain ⟨interval, hinterval, hinterval'⟩ := r.interval.returns_toJsonText
  obtain ⟨timeout, htimeout, htimeout'⟩ := r.timeout.returns_toJsonText
  let es : List Entry := [⟨"dsn", some ⟨_, dsn, hdsn⟩⟩,
    ⟨"interval", some ⟨_, interval, hinterval⟩⟩, ⟨"timeout", some ⟨_, timeout, htimeout⟩⟩]
  have hfields : fields? ["dsn", "interval", "timeout"] _ =
      some [some dsn, some interval, some timeout] := fields?_entries es (by simp [es])
  refine returns_entries es ?_
  rw [ofJson?, hfields]
  simp [hdsn', hinterval', htimeout']

namespace Config

theorem entryIfSet_eq {α : Type} {write : α → String} {o : Option α} {written : Option Written}
    (h : written.map (·.text) = o.map write) (name : String) :
    entryIfSet name write o = (written.map fun w => (name, w.text)).toList := by
  have hpair := congrArg (Option.map (Prod.mk name)) h
  rw [Option.map_map, Option.map_map] at hpair
  rw [← Function.comp_def, hpair]
  cases o <;> rfl

theorem returns_toJsonText (c : Config) : Returns Config.ofJson? c.toJsonText c := by
  obtain ⟨connection, hconnection, hconnection'⟩ := returns_text c.connection
  obtain ⟨dialect, hdialect, hdialect'⟩ := returns_choice c.dialect.ofName?_name
  obtain ⟨materializer, hmaterializer, hmaterializer'⟩ := returns_choice c.materializer.ofName?_name
  obtain ⟨timeout, htimeout, htimeout'⟩ :=
    exists_optional Duration.returns_toJsonText rfl c.defaultTimeout
  obtain ⟨placement, hplacement, hplacement'⟩ :=
    exists_optional PlacementConfig.returns_toJsonText rfl c.placement
  obtain ⟨replicas, hreplicas, hreplicas'⟩ :=
    exists_optional ReplicaConfig.returns_toJsonText rfl c.replicas
  obtain ⟨interceptors, hinterceptors, hinterceptors'⟩ :=
    returns_list (fun b => returns_choice (BuiltinInterceptor.ofName?_name b)) c.interceptors
  let es : List Entry := [⟨"connection", some ⟨_, connection, hconnection⟩⟩,
    ⟨"dialect", some ⟨_, dialect, hdialect⟩⟩, ⟨"materializer", some ⟨_, materializer, hmaterializer⟩⟩,
    ⟨"default_timeout", timeout⟩, ⟨"sharding", placement⟩, ⟨"replicas", replicas⟩,
    ⟨"interceptors", some ⟨_, interceptors, hinterceptors⟩⟩]
  have hfields : fields? entries _ = some [some connection, some dialect, some materializer,
      timeout.map (·.value), placement.map (·.value), replicas.map (·.value), some interceptors] :=
    fields?_entries es (by simp [es])
  have htext : c.toJsonText =
      objectText (es.filterMap fun e => e.written.map fun w => (e.key, w.text)) := by
    rw [toJsonText, entryIfSet_eq htimeout, entryIfSet_eq hplacement, entryIfSet_eq hreplicas]
    cases timeout <;> cases placement <;> cases replicas <;> rfl
  rw [htext]
  refine returns_entries es ?_
  rw [ofJson?, hfields]
  simp [hconnection', hdialect', hmaterializer', htimeout', hplacement',
    hreplicas', hinterceptors']

/-- A configuration is read from its own text. -/
theorem parse?_toJsonText (c : Config) : parse? c.toJsonText = some c := by
  obtain ⟨j, hreads, hread⟩ := c.returns_toJsonText
  rw [parse?, parse?_of_reads hreads]
  exact hread

end Config

end EntityStore
