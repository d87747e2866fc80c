import EntityStore.Model.Registry

/-!
# Shared table models

Any number of look-ups go on at the same time (`Lookups`). Each first reads the registry beside the
others; one that does not find its model waits until it has the registry for itself, and meanwhile
others that missed the same model may register it.

1. In a valid registry every type is kept once, with the model of its description, and the models are
   counted (`Registry.Valid`). Registering keeps this and only adds to the end (`Valid.register`,
   `Registry.models_prefix_register`).
2. What a look-up was told stays true when models are added (`Registry.Tells.mono`), so wherever all
   look-ups were told the truth (`Lookups.Valid`), they are after each step (`Lookups.Valid.step`).
3. A valid registry tells one thing about a type (`Registry.Valid.eq_of_tells`), so all look-ups of a
   type share one model, or fail in one way (`Lookups.model_shared`).
-/

namespace EntityStore

open TableModel (ofDescriptor)

theorem getElem?_of_prefix {α : Type} {l l' : List α} {i : Nat} {a : α} (h : l <+: l')
    (hi : l[i]? = some a) : l'[i]? = some a := by
  obtain ⟨rest, rfl⟩ := h
  obtain ⟨hlt, -⟩ := List.getElem?_eq_some_iff.1 hi
  rw [List.getElem?_append_left hlt, hi]

namespace Registry

variable {r r' : Registry} {t : MappedType} {f g : Found}

structure Valid (r : Registry) : Prop where
  counted : r.parses = r.size
  nodup : (r.models.map (·.1)).Nodup
  parsed : ∀ entry ∈ r.models, ofDescriptor entry.1.descriptor = .ok entry.2

theorem valid_empty : Valid {} := ⟨rfl, List.nodup_nil, nofun⟩

/-- A registry tells a look-up the truth: the model is kept where it says, or there is none. -/
def Tells (r : Registry) (t : MappedType) : Except SchemaError Found → Prop
  | .ok f => r.models[f.place]? = some (t, f.model)
  | .error e => ofDescriptor t.descriptor = .error e

/-! ## Looking -/

theorem tells_of_peek (h : r.peek t = some f) : r.Tells t (.ok f) := by
  obtain ⟨⟨i, m⟩, hfind, rfl⟩ := Option.map_eq_some_iff.1 h
  unfold find? at hfind
  split at hfind
  · next j hj =>
    obtain ⟨hlt, heq, -⟩ := List.findIdx?_eq_some_iff_getElem.1 hj
    rw [List.getElem?_eq_getElem hlt, Option.map_some, Option.some.injEq, Prod.mk.injEq] at hfind
    obtain ⟨rfl, rfl⟩ := hfind
    rw [Tells, List.getElem?_eq_getElem hlt, ← beq_iff_eq.1 heq]
  · cases hfind

theorem not_mem_of_peek (h : r.peek t = none) : t ∉ r.models.map (·.1) := by
  have hnone := Option.map_eq_none_iff.1 h
  intro hmem
  obtain ⟨entry, hentry, rfl⟩ := List.mem_map.1 hmem
  unfold find? at hnone
  split at hnone
  · next j hj =>
    obtain ⟨hlt, -⟩ := List.findIdx?_eq_some_iff_getElem.1 hj
    simp [List.getElem?_eq_getElem hlt] at hnone
  · next hj =>
    have hne := List.findIdx?_eq_none_iff.1 hj entry hentry
    simp at hne

theorem Tells.mono {a : Except SchemaError Found} (h : r.Tells t a)
    (hr : r.models <+: r'.models) : r'.Tells t a := by
  cases a with
  | error e => exact h
  | ok f => exact getElem?_of_prefix hr h

namespace Valid

theorem eq_of_tells (hr : r.Valid) (hf : r.Tells t (.ok f)) (hg : r.Tells t (.ok g)) :
    f.place = g.place ∧ f.model = g.model := by
  have hplace : ∀ {f : Found}, r.Tells t (.ok f) → (r.models.map (·.1))[f.place]? = some t := by
    intro f hf
    rw [List.getElem?_map, hf]
    rfl
  obtain ⟨hlt, -⟩ := List.getElem?_eq_some_iff.1 (hplace hf)
  have heq : f.place = g.place :=
    (List.getElem?_inj hlt hr.nodup).1 ((hplace hf).trans (hplace hg).symm)
  rw [Tells, heq, hg] at hf
  exact ⟨heq, (Prod.mk.inj (Option.some.inj hf)).2.symm⟩

/-- The model a look-up is told is the one of the type's description. -/
theorem model_of_tells (hr : r.Valid) {a : Except SchemaError Found} (h : r.Tells t a) :
    a.map (·.model) = ofDescriptor t.descriptor := by
  cases a with
  | error e => exact h.symm
  | ok f => exact (hr.parsed (t, f.model) (List.mem_of_getElem? h)).symm

theorem eq_error_of_tells (hr : r.Valid) {a : Except SchemaError Found} {e : SchemaError}
    (ht : ofDescriptor t.descriptor = .error e) (h : r.Tells t a) : a = .error e := by
  have hmodel := hr.model_of_tells h
  rw [ht] at hmodel
  cases a with
  | error e' => rw [Except.error.inj hmodel]
  | ok f => cases hmodel

theorem not_mem (hr : r.Valid) {e : SchemaError} (h : ofDescriptor t.descriptor = .error e) :
    t ∉ r.models.map (·.1) := by
  intro hmem
  obtain ⟨entry, hentry, rfl⟩ := List.mem_map.1 hmem
  rw [hr.parsed entry hentry] at h
  cases h

end Valid

/-! ## Registering -/

/-- What registering does: the model is there, or it is added at the end, or there is none. -/
theorem register_cases (r : Registry) (t : MappedType) :
    (∃ f, r.peek t = some f ∧ r.register t = (.ok f, r)) ∨
    (∃ m, r.peek t = none ∧ ofDescriptor t.descriptor = .ok m ∧
      r.register t = (.ok ⟨r.size, m, true⟩, ⟨r.models ++ [(t, m)], r.parses + 1⟩)) ∨
    (∃ e, r.peek t = none ∧ ofDescriptor t.descriptor = .error e ∧
      r.register t = (.error e, r)) := by
  unfold register
  cases hp : r.peek t with
  | some f => exact .inl ⟨f, rfl, rfl⟩
  | none =>
    cases hd : ofDescriptor t.descriptor with
    | ok m => exact .inr (.inl ⟨m, rfl, rfl, rfl⟩)
    | error e => exact .inr (.inr ⟨e, rfl, rfl, rfl⟩)

theorem models_prefix_register (r : Registry) (t : MappedType) :
    r.models <+: (r.register t).2.models := by
  obtain ⟨f, -, h⟩ | ⟨m, -, -, h⟩ | ⟨e, -, -, h⟩ := r.register_cases t <;> simp [h]

theorem tells_register (r : Registry) (t : MappedType) :
    (r.register t).2.Tells t (r.register t).1 := by
  obtain ⟨f, hp, h⟩ | ⟨m, -, -, h⟩ | ⟨e, -, hd, h⟩ := r.register_cases t <;> rw [h]
  · exact tells_of_peek hp
  · exact List.getElem?_concat_length
  · exact hd

theorem Valid.register (hr : r.Valid) (t : MappedType) : (r.register t).2.Valid := by
  obtain ⟨f, -, h⟩ | ⟨m, hp, hd, h⟩ | ⟨e, -, -, h⟩ := r.register_cases t <;> rw [h]
  · exact hr
  · refine ⟨?_, ?_, ?_⟩
    · simp [size, hr.counted]
    · rw [List.map_append, List.map_singleton]
      refine List.nodup_append.2 ⟨hr.nodup, List.pairwise_singleton _ t, ?_⟩
      intro k hk l hl heq
      rw [List.mem_singleton] at hl
      rw [heq, hl] at hk
      exact not_mem_of_peek hp hk
    · intro entry hentry
      rcases List.mem_append.1 hentry with hold | hnew
      · exact hr.parsed entry hold
      · rw [List.mem_singleton.1 hnew]
        exact hd
  · exact hr

/-- A look-up that nobody comes in between does as well without its first look. -/
theorem get_eq_register (r : Registry) (t : MappedType) : r.get t = r.register t := by
  unfold get
  cases h : r.peek t with
  | some f => simp [Registry.register, h]
  | none => rfl

theorem Valid.get (hr : r.Valid) (t : MappedType) : (r.get t).2.Valid := by
  rw [get_eq_register]
  exact hr.register t

/-- A model that a look-up has found is found again, and is then not new. -/
theorem Valid.get_again (hr : r.Valid) (h : r.get t = (.ok f, r')) :
    r'.get t = (.ok { f with isNew := false }, r') := by
  have hr' : r'.Valid := by simpa [h] using hr.get t
  have htells : r'.Tells t (.ok f) := by simpa [← get_eq_register, h] using tells_register r t
  rw [Registry.get]
  cases hp : r'.peek t with
  | none =>
    have hmem := List.mem_map_of_mem (f := (·.1)) (List.mem_of_getElem? htells)
    exact absurd hmem (not_mem_of_peek hp)
  | some g =>
    obtain ⟨hplace, hmodel⟩ := hr'.eq_of_tells htells (tells_of_peek hp)
    obtain ⟨_, -, rfl⟩ := Option.map_eq_some_iff.1 hp
    rw [hplace, hmodel]

theorem Valid.map_model_get (hr : r.Valid) (t : MappedType) :
    (r.get t).1.map (·.model) = ofDescriptor t.descriptor := by
  rw [get_eq_register]
  exact (hr.register t).model_of_tells (tells_register r t)

end Registry

/-! ## Look-ups at the same time -/

/-- How far a look-up has come. -/
inductive Stage where
  /-- It has not looked yet. -/
  | begun
  /-- It did not find the model and waits to have the registry for itself. -/
  | missed
  | ended (a : Except SchemaError Registry.Found)

structure Lookup where
  /-- The type whose model is asked for. -/
  type : MappedType
  stage : Stage

/-- A registry and all look-ups so far. -/
structure Lookups where
  registry : Registry := {}
  calls : List Lookup := []

namespace Lookups

/-- What happens next. -/
inductive Event where
  /-- A look-up begins. -/
  | call (t : MappedType)
  /-- A look-up reads the registry. -/
  | look (place : Nat)
  /-- A look-up has the registry for itself. -/
  | enter (place : Nat)

def looked (r : Registry) (t : MappedType) : Stage :=
  match r.peek t with
  | some f => .ended (.ok f)
  | none => .missed

/-- What an event changes; nothing if the look-up is not at that point. -/
def step (x : Lookups) : Event → Lookups
  | .call t => { x with calls := x.calls ++ [⟨t, .begun⟩] }
  | .look i =>
    match x.calls[i]? with
    | some ⟨t, .begun⟩ => { x with calls := x.calls.set i ⟨t, looked x.registry t⟩ }
    | _ => x
  | .enter i =>
    match x.calls[i]? with
    | some ⟨t, .missed⟩ =>
      ⟨(x.registry.register t).2, x.calls.set i ⟨t, .ended (x.registry.register t).1⟩⟩
    | _ => x

def after (events : List Event) : Lookups := events.foldl step {}

theorem after_append (before rest : List Event) :
    after (before ++ rest) = rest.foldl step (after before) :=
  List.foldl_append ..

variable {x : Lookups}

theorem step_look {i : Nat} {t : MappedType} (h : x.calls[i]? = some ⟨t, .begun⟩) :
    x.step (.look i) = { x with calls := x.calls.set i ⟨t, looked x.registry t⟩ } := by
  simp only [step, h]

theorem step_enter {i : Nat} {t : MappedType} (h : x.calls[i]? = some ⟨t, .missed⟩) :
    x.step (.enter i) =
      ⟨(x.registry.register t).2, x.calls.set i ⟨t, .ended (x.registry.register t).1⟩⟩ := by
  simp only [step, h]

/-- A look-up that nobody comes in between is `Registry.get`. -/
theorem get_alone {i : Nat} {t : MappedType} (h : x.calls[i]? = some ⟨t, .begun⟩) :
    (x.step (.look i)).step (.enter i) =
      ⟨(x.registry.get t).2, x.calls.set i ⟨t, .ended (x.registry.get t).1⟩⟩ := by
  obtain ⟨hlt, -⟩ := List.getElem?_eq_some_iff.1 h
  rw [step_look h]
  cases hp : x.registry.peek t with
  | some f => simp [step, looked, Registry.get, hp, hlt]
  | none =>
    have hmissed : (x.calls.set i ⟨t, looked x.registry t⟩)[i]? = some ⟨t, .missed⟩ := by
      rw [looked, hp, List.getElem?_set_self hlt]
    rw [step_enter hmissed]
    simp only [Registry.get, hp, List.set_set]

/-- A look-up has ended once both of its turns have come. -/
theorem exists_ended {i : Nat} {c : Lookup} (h : x.calls[i]? = some c) :
    ∃ a, ((x.step (.look i)).step (.enter i)).calls[i]? = some ⟨c.type, .ended a⟩ := by
  obtain ⟨hlt, -⟩ := List.getElem?_eq_some_iff.1 h
  obtain ⟨t, stage⟩ := c
  cases stage with
  | begun =>
    rw [get_alone h]
    exact ⟨_, List.getElem?_set_self hlt⟩
  | missed =>
    have hlook : x.step (.look i) = x := by simp only [step, h]
    rw [hlook, step_enter h]
    exact ⟨_, List.getElem?_set_self hlt⟩
  | ended a =>
    have hlook : x.step (.look i) = x := by simp only [step, h]
    have henter : x.step (.enter i) = x := by simp only [step, h]
    rw [hlook, henter]
    exact ⟨a, h⟩

/-! ## What every step keeps -/

/-- The registry is valid and every look-up that has ended was told the truth. -/
structure Valid (x : Lookups) : Prop where
  registry : x.registry.Valid
  told : ∀ c ∈ x.calls, ∀ a, c.stage = .ended a → x.registry.Tells c.type a

theorem valid_empty : Valid {} := ⟨Registry.valid_empty, nofun⟩

theorem Valid.set (hx : x.Valid) {r : Registry} (hr : r.Valid)
    (hgrown : x.registry.models <+: r.models) {c : Lookup}
    (hc : ∀ a, c.stage = .ended a → r.Tells c.type a) (i : Nat) :
    Valid ⟨r, x.calls.set i c⟩ := by
  refine ⟨hr, fun d hd a ha => ?_⟩
  rcases List.mem_or_eq_of_mem_set hd with hold | rfl
  -- What the others were told is still true, since models are only added.
  · exact (hx.told d hold a ha).mono hgrown
  · exact hc a ha

theorem tells_looked {r : Registry} {t : MappedType} {a : Except SchemaError Registry.Found}
    (h : looked r t = .ended a) : r.Tells t a := by
  unfold looked at h
  split at h
  · next f hp =>
    cases h
    exact Registry.tells_of_peek hp
  · cases h

theorem Valid.step (hx : x.Valid) (e : Event) : (x.step e).Valid := by
  unfold Lookups.step
  cases e with
  | call t =>
    refine ⟨hx.registry, fun c hc a ha => ?_⟩
    rcases List.mem_append.1 hc with hold | hnew
    · exact hx.told c hold a ha
    · rw [List.mem_singleton.1 hnew] at ha
      cases ha
  | look i =>
    dsimp only
    split
    · exact hx.set hx.registry List.prefix_rfl (fun a ha => tells_looked ha) i
    · exact hx
  | enter i =>
    dsimp only
    split
    · -- Another look-up may have registered the model since this one missed it; `register` finds it.
      next t _ =>
      refine hx.set (hx.registry.register t) (x.registry.models_prefix_register t) ?_ i
      intro a ha
      cases ha
      exact x.registry.tells_register t
    · exact hx

theorem models_prefix_step (x : Lookups) (e : Event) :
    x.registry.models <+: (x.step e).registry.models := by
  unfold Lookups.step
  cases e with
  | call t => exact List.prefix_rfl
  | look i =>
    dsimp only
    split <;> exact List.prefix_rfl
  | enter i =>
    dsimp only
    split
    · exact x.registry.models_prefix_register _
    · exact List.prefix_rfl

/-! ## What every run keeps -/

theorem Valid.run (hx : x.Valid) (events : List Event) : (events.foldl Lookups.step x).Valid := by
  induction events generalizing x with
  | nil => exact hx
  | cons e rest ih => exact ih (hx.step e)

theorem models_prefix_run (x : Lookups) (events : List Event) :
    x.registry.models <+: (events.foldl step x).registry.models := by
  induction events generalizing x with
  | nil => exact List.prefix_rfl
  | cons e rest ih => exact (x.models_prefix_step e).trans (ih _)

theorem valid_after (events : List Event) : (after events).Valid := valid_empty.run events

theorem models_prefix_after (before rest : List Event) :
    (after before).registry.models <+: (after (before ++ rest)).registry.models := by
  rw [after_append]
  exact models_prefix_run _ rest

/-- However any number of look-ups interleave, models are counted once for each type that is kept, are
those of the types' descriptions and are never replaced. Every look-up ends with its turns, as parsing
the description does. One that succeeds is told the place of the model that is kept from then on, and
all look-ups of its type that ever succeed are told the same. A type without a model is not kept, and
all its look-ups fail alike. -/
theorem model_shared (before rest : List Event) :
    (after before).registry.parses = (after before).registry.size ∧
    ((after before).registry.models.map (·.1)).Nodup ∧
    (∀ entry ∈ (after before).registry.models, ofDescriptor entry.1.descriptor = .ok entry.2) ∧
    (∀ (i : Nat) entry, (after before).registry.models[i]? = some entry →
      (after (before ++ rest)).registry.models[i]? = some entry) ∧
    (∀ (i : Nat) c, (after before).calls[i]? = some c →
      ∃ a, (after (before ++ [.look i, .enter i])).calls[i]? = some ⟨c.type, .ended a⟩) ∧
    (∀ c ∈ (after before).calls, ∀ a, c.stage = .ended a →
      a.map (·.model) = ofDescriptor c.type.descriptor) ∧
    (∀ c ∈ (after before).calls, ∀ f, c.stage = .ended (.ok f) →
      (after (before ++ rest)).registry.models[f.place]? = some (c.type, f.model) ∧
      ∀ d ∈ (after (before ++ rest)).calls, ∀ g, d.type = c.type → d.stage = .ended (.ok g) →
        g.place = f.place ∧ g.model = f.model) ∧
    ∀ t e, ofDescriptor t.descriptor = .error e →
      t ∉ (after before).registry.models.map (·.1) ∧
      ∀ c ∈ (after before).calls, c.type = t → ∀ a, c.stage = .ended a → a = .error e := by
  have hbefore := valid_after before
  have hrest := valid_after (before ++ rest)
  have hgrown := models_prefix_after before rest
  refine ⟨hbefore.registry.counted, hbefore.registry.nodup, hbefore.registry.parsed,
    fun i entry h => getElem?_of_prefix hgrown h, fun i c h => ?_,
    fun c hc a ha => hbefore.registry.model_of_tells (hbefore.told c hc a ha),
    fun c hc f hf => ?_, fun t e ht => ?_⟩
  · rw [after_append]
    exact exists_ended h
  · have hkept : (after (before ++ rest)).registry.Tells c.type (.ok f) :=
      (hbefore.told c hc _ hf).mono hgrown
    refine ⟨hkept, fun d hd g htype hg => ?_⟩
    have htold := hrest.told d hd _ hg
    rw [htype] at htold
    exact hrest.registry.eq_of_tells htold hkept
  · refine ⟨hbefore.registry.not_mem ht, ?_⟩
    rintro c hc rfl a ha
    exact hbefore.registry.eq_error_of_tells ht (hbefore.told c hc a ha)

/-- Two look-ups of one type that both missed its model: the second to have the registry for itself
finds the model of the first. -/
example :
    let account : MappedType := .described 0 (.record "Account" [⟨"balance", none, .int, false⟩])
    let x := after [.call account, .call account, .look 0, .look 1, .enter 1, .enter 0]
    x.registry.parses = 1 ∧ x.calls.map (·.stage) =
      [.ended (.ok ⟨0, ⟨"account", [⟨"balance", "balance", "balance", .int, false, 0⟩]⟩, false⟩),
        .ended (.ok ⟨0, ⟨"account", [⟨"balance", "balance", "balance", .int, false, 0⟩]⟩, true⟩)] :=
  ⟨rfl, rfl⟩

end Lookups

end EntityStore
