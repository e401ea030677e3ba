import Mathlib.Data.Set.Card
import TopicBus.Registry

/-!
# One name for each kind, and one kind for each name

A registry is changed by nothing but registrations. Each of them adds at most one binding,
between a kind and a name that are both unbound until then, and none takes a binding back. The
pair goes into two maps, which stay mirror images of each other. So after any registrations,
however many of them were refused, the kinds that are bound and the names that are bound
correspond to each other, and a handle that was given out once is the handle of its topic ever
after.
-/

namespace TopicBus.Registry

/-! ## Maps -/

section Maps

variable {α β : Type} [DecidableEq α] {entries : List (α × β)} {key other : α} {value : β}

private theorem lookup_cons_of_ne {entry : α × β} (different : other ≠ entry.1) :
    (entry :: entries).lookup other = entries.lookup other := by
  rw [List.lookup_cons, beq_false_of_ne different]

theorem lookup_withEntry :
    (withEntry key value entries).lookup other =
      if other = key then some value else entries.lookup other := by
  induction entries with
  | nil =>
      by_cases same : other = key
      · simp [withEntry, same]
      · simp [withEntry, lookup_cons_of_ne, same]
  | cons entry rest inductionHypothesis =>
      by_cases first : key = entry.1
      · subst first
        rw [withEntry, if_pos rfl]
        by_cases same : other = entry.1
        · simp [same]
        · simp [lookup_cons_of_ne, same]
      · rw [withEntry, if_neg first]
        by_cases here : other = entry.1
        · subst here
          rw [List.lookup_cons, List.lookup_cons]
          simp [Ne.symm first]
        · simp [lookup_cons_of_ne, here, inductionHypothesis]

/-- A new key comes last. -/
theorem withEntry_of_absent (absent : entries.lookup key = none) :
    withEntry key value entries = entries ++ [(key, value)] := by
  induction entries with
  | nil => rfl
  | cons entry rest inductionHypothesis =>
      have different : key ≠ entry.1 := by
        simpa using List.lookup_eq_none_iff.mp absent entry List.mem_cons_self
      have restAbsent : rest.lookup key = none := by
        simpa [List.lookup_cons, different] using absent
      rw [withEntry, if_neg different, inductionHypothesis restAbsent, List.cons_append]

theorem not_mem_keys (absent : entries.lookup key = none) : key ∉ entries.map Prod.fst := by
  intro member
  obtain ⟨entry, inEntries, same⟩ := List.mem_map.mp member
  have different := List.lookup_eq_none_iff.mp absent entry inEntries
  simp [same] at different

theorem nodup_keys_withEntry (keys : (entries.map Prod.fst).Nodup)
    (absent : entries.lookup key = none) :
    ((withEntry key value entries).map Prod.fst).Nodup := by
  rw [withEntry_of_absent absent, List.map_append]
  apply List.nodup_append.mpr
  refine ⟨keys, List.nodup_singleton key, ?_⟩
  intro first inEntries second inLast same
  obtain rfl : second = key := List.mem_singleton.mp inLast
  exact not_mem_keys absent (same ▸ inEntries)

theorem mem_of_lookup_eq_some (found : entries.lookup key = some value) :
    (key, value) ∈ entries := by
  obtain ⟨before, after, shape, _⟩ := List.lookup_eq_some_iff.mp found
  rw [shape]
  exact List.mem_append_right before List.mem_cons_self

/-- Where no key repeats, every entry is the one that its key leads to. -/
theorem lookup_eq_some_iff_mem (keys : (entries.map Prod.fst).Nodup) :
    entries.lookup key = some value ↔ (key, value) ∈ entries := by
  constructor
  · exact mem_of_lookup_eq_some
  · intro member
    obtain ⟨before, after, shape⟩ := List.append_of_mem member
    apply List.lookup_eq_some_iff.mpr
    refine ⟨before, after, shape, ?_⟩
    intro earlier inFront
    rw [shape, List.map_append, List.map_cons, List.nodup_append] at keys
    have inKeys : earlier.1 ∈ before.map Prod.fst := List.mem_map_of_mem inFront
    have different := keys.2.2 _ inKeys _ List.mem_cons_self
    simpa using different.symm

theorem encard_keys (keys : (entries.map Prod.fst).Nodup) :
    {key | ∃ value, entries.lookup key = some value}.encard = entries.length := by
  have members : {key | ∃ value, entries.lookup key = some value} =
      ((entries.map Prod.fst).toFinset : Set α) := by
    ext key
    simp [lookup_eq_some_iff_mem keys]
  rw [members, Set.encard_coe_eq_coe_finsetCard, List.toFinset_card_of_nodup keys, List.length_map]

end Maps

variable {κ : Type} {registry : Registry κ} {kind other : κ} {name bound : String}

/-- The two maps hold the same bindings, and neither of them has two for one key. -/
structure IsOneToOne (registry : Registry κ) : Prop where
  mirrored : registry.byName = registry.byKind.map Prod.swap
  kinds : (registry.byKind.map Prod.fst).Nodup
  names : (registry.byName.map Prod.fst).Nodup

theorem isOneToOne_empty : (empty : Registry κ).IsOneToOne :=
  ⟨rfl, List.nodup_nil, List.nodup_nil⟩

/-- There are as many bound names as bindings. -/
theorem IsOneToOne.encard_names (oneToOne : registry.IsOneToOne) :
    {name | ∃ kind, registry.kindOf? name = some kind}.encard = registry.size :=
  encard_keys oneToOne.names

variable [DecidableEq κ]

/-- There are as many bound kinds as bindings. -/
theorem IsOneToOne.encard_kinds (oneToOne : registry.IsOneToOne) :
    {kind | ∃ name, registry.lookup? kind = some name}.encard = registry.size := by
  have sameSize : registry.size = registry.byKind.length := by
    rw [size, oneToOne.mirrored, List.length_map]
  rw [sameSize]
  exact encard_keys oneToOne.kinds

theorem IsOneToOne.kindOf?_eq_some_iff (oneToOne : registry.IsOneToOne) :
    registry.kindOf? name = some kind ↔ registry.lookup? kind = some name := by
  unfold kindOf? lookup?
  rw [lookup_eq_some_iff_mem oneToOne.names, lookup_eq_some_iff_mem oneToOne.kinds,
    oneToOne.mirrored]
  exact List.mem_map_swap kind name registry.byKind

/-- Two kinds that are found under one name are one kind. -/
theorem IsOneToOne.kind_eq (oneToOne : registry.IsOneToOne)
    (found : registry.lookup? kind = some name) (foundToo : registry.lookup? other = some name) :
    kind = other := by
  have holder := oneToOne.kindOf?_eq_some_iff.mpr found
  have holderToo := oneToOne.kindOf?_eq_some_iff.mpr foundToo
  rw [holder] at holderToo
  exact Option.some.inj holderToo

/-! ## What a registration does -/

/-- What a registration can come to: the answer to it, and the registry afterwards. -/
inductive Registers (registry : Registry κ) (kind : κ) (name : String) :
    Except (RegistryFault κ) (Topic κ) → Registry κ → Prop
  | again (found : registry.lookup? kind = some name) :
      Registers registry kind name (.ok ⟨kind, name⟩) registry
  | kindTaken {bound : String} (found : registry.lookup? kind = some bound)
      (different : bound ≠ name) :
      Registers registry kind name (.error (.typeTaken kind bound)) registry
  | nameTaken {holder : κ} (unbound : registry.lookup? kind = none)
      (found : registry.kindOf? name = some holder) :
      Registers registry kind name (.error (.nameTaken name holder)) registry
  | added (unbound : registry.lookup? kind = none) (free : registry.kindOf? name = none) :
      Registers registry kind name (.ok ⟨kind, name⟩)
        ⟨withEntry kind name registry.byKind, withEntry name kind registry.byName⟩

theorem register_registers {answer : Except (RegistryFault κ) (Topic κ)} {after : Registry κ}
    (registering : registry.register kind name = (answer, after)) :
    registry.Registers kind name answer after := by
  unfold register at registering
  cases looked : registry.lookup? kind with
  | some bound =>
      by_cases same : bound = name
      · subst same
        simp only [looked, if_true] at registering
        cases registering
        exact .again looked
      · simp only [looked, same, if_false] at registering
        cases registering
        exact .kindTaken looked same
  | none =>
      cases held : registry.kindOf? name with
      | some holder =>
          simp only [looked, held] at registering
          cases registering
          exact .nameTaken looked held
      | none =>
          simp only [looked, held] at registering
          cases registering
          exact .added looked held

theorem isOneToOne_register (oneToOne : registry.IsOneToOne) (kind : κ) (name : String) :
    (registry.register kind name).2.IsOneToOne := by
  cases registering : registry.register kind name with
  | mk answer after =>
      cases register_registers registering with
      | again found => exact oneToOne
      | kindTaken found different => exact oneToOne
      | nameTaken unbound found => exact oneToOne
      | added unbound free =>
          refine ⟨?_, nodup_keys_withEntry oneToOne.kinds unbound,
            nodup_keys_withEntry oneToOne.names free⟩
          -- Both keys are new, so the pair comes last in either map.
          rw [withEntry_of_absent unbound, withEntry_of_absent free, oneToOne.mirrored,
            List.map_append]
          rfl

theorem lookup?_register_of_some (found : registry.lookup? other = some bound) (kind : κ)
    (name : String) : (registry.register kind name).2.lookup? other = some bound := by
  cases registering : registry.register kind name with
  | mk answer after =>
      cases register_registers registering with
      | again found => assumption
      | kindTaken found different => assumption
      | nameTaken unbound found => assumption
      | added unbound free =>
          have different : other ≠ kind := by
            rintro rfl
            rw [unbound] at found
            cases found
          rw [lookup?, lookup_withEntry, if_neg different]
          exact found

/-- A registration that succeeds has the kind bound to the name in the end. -/
theorem lookup?_register_of_ok {topic : Topic κ}
    (succeeds : (registry.register kind name).1 = .ok topic) :
    topic = ⟨kind, name⟩ ∧ (registry.register kind name).2.lookup? kind = some name := by
  cases registering : registry.register kind name with
  | mk answer after =>
      rw [registering] at succeeds
      cases register_registers registering with
      | again found =>
          cases succeeds
          exact ⟨rfl, found⟩
      | kindTaken found different => cases succeeds
      | nameTaken unbound found => cases succeeds
      | added unbound free =>
          cases succeeds
          refine ⟨rfl, ?_⟩
          rw [lookup?, lookup_withEntry, if_pos rfl]

/-! ## After any registrations -/

/-- The registry after some registrations, each of which may succeed or be refused. -/
def after (registry : Registry κ) (calls : List (κ × String)) : Registry κ :=
  calls.foldl (fun registry call => (registry.register call.1 call.2).2) registry

theorem IsOneToOne.after (oneToOne : registry.IsOneToOne) (calls : List (κ × String)) :
    (registry.after calls).IsOneToOne := by
  induction calls generalizing registry with
  | nil => exact oneToOne
  | cons call rest inductionHypothesis =>
      exact inductionHypothesis (isOneToOne_register oneToOne call.1 call.2)

theorem lookup?_after (found : registry.lookup? kind = some name) (calls : List (κ × String)) :
    (registry.after calls).lookup? kind = some name := by
  induction calls generalizing registry with
  | nil => exact found
  | cons call rest inductionHypothesis =>
      exact inductionHypothesis (lookup?_register_of_some found call.1 call.2)

/-! ## Kinds and names correspond -/

theorem nameOf_eq_ok_iff : registry.nameOf kind = .ok name ↔ registry.lookup? kind = some name := by
  unfold nameOf
  cases registry.lookup? kind with
  | none => simp
  | some bound => simp

/-- A handle is that of a topic just if it has the kind that is asked for and the name that this
kind is bound to. -/
theorem topic_eq_ok_iff {topic : Topic κ} :
    registry.topic kind = .ok topic ↔
      registry.lookup? kind = some topic.name ∧ topic.kind = kind := by
  unfold Registry.topic nameOf
  cases registry.lookup? kind with
  | none => simp [Except.map]
  | some name =>
      obtain ⟨topicKind, topicName⟩ := topic
      simp only [Except.map, Except.ok.injEq, Topic.mk.injEq, Option.some.injEq]
      constructor
      · rintro ⟨rfl, rfl⟩
        exact ⟨rfl, rfl⟩
      · rintro ⟨rfl, rfl⟩
        exact ⟨rfl, rfl⟩

/-- After any registrations, successful and refused ones in any order, the bound kinds and the
bound names correspond to each other one to one, a kind has a handle and an empty payload just
if it has a name, and the registry is as large as either side. No registration that follows
changes what was bound before, so a handle keeps naming the topic of its kind, whether it was
given out by a registration or looked up. -/
theorem one_to_one_after (calls later : List (κ × String)) :
    let registry : Registry κ := empty.after calls
    let final := registry.after later
    (∀ kind name, registry.nameOf kind = .ok name ↔ registry.kindOf? name = some kind) ∧
      (∀ kind topic, registry.topic kind = .ok topic ↔
        registry.nameOf kind = .ok topic.name ∧ topic.kind = kind) ∧
      (∀ {π : Type} (emptyOf : κ → π) kind payload,
        registry.allocateWith emptyOf kind = .ok payload ↔
          (∃ name, registry.nameOf kind = .ok name) ∧ payload = emptyOf kind) ∧
      (∀ kind other name, registry.nameOf kind = .ok name → registry.nameOf other = .ok name →
        kind = other) ∧
      (∀ name other kind, registry.kindOf? name = some kind → registry.kindOf? other = some kind →
        name = other) ∧
      {kind | ∃ name, registry.nameOf kind = .ok name}.encard = registry.size ∧
      {name | ∃ kind, registry.kindOf? name = some kind}.encard = registry.size ∧
      (registry.isEmpty = true ↔ registry.size = 0) ∧
      -- What is bound stays bound as it is.
      (∀ kind name, registry.nameOf kind = .ok name →
        final.nameOf kind = .ok name ∧ final.kindOf? name = some kind) ∧
      (∀ kind topic, registry.topic kind = .ok topic → final.topic kind = .ok topic) ∧
      ∀ kind name topic, (registry.register kind name).1 = .ok topic →
        topic.name = name ∧
          ((registry.register kind name).2.after later).topic kind = .ok topic := by
  intro registry final
  have oneToOne : registry.IsOneToOne := isOneToOne_empty.after calls
  have oneToOneLater : final.IsOneToOne := oneToOne.after later
  refine ⟨?_, ?_, ?_, ?_, ?_, ?_, oneToOne.encard_names, ?_, ?_, ?_, ?_⟩
  · intro kind name
    rw [nameOf_eq_ok_iff, oneToOne.kindOf?_eq_some_iff]
  · intro kind topic
    rw [topic_eq_ok_iff, nameOf_eq_ok_iff]
  · intro π emptyOf kind payload
    simp only [nameOf_eq_ok_iff]
    unfold allocateWith Registry.topic nameOf
    cases registry.lookup? kind with
    | none => simp [Except.map]
    | some name => simp [Except.map, eq_comm]
  · intro kind other name found foundToo
    exact oneToOne.kind_eq (nameOf_eq_ok_iff.mp found) (nameOf_eq_ok_iff.mp foundToo)
  · intro name other kind held heldToo
    have found := oneToOne.kindOf?_eq_some_iff.mp held
    have foundToo := oneToOne.kindOf?_eq_some_iff.mp heldToo
    rw [found] at foundToo
    exact Option.some.inj foundToo
  · simp only [nameOf_eq_ok_iff]
    exact oneToOne.encard_kinds
  · exact beq_iff_eq
  · intro kind name found
    have kept := lookup?_after (nameOf_eq_ok_iff.mp found) later
    exact ⟨nameOf_eq_ok_iff.mpr kept, oneToOneLater.kindOf?_eq_some_iff.mpr kept⟩
  · intro kind topic found
    obtain ⟨looked, sameKind⟩ := topic_eq_ok_iff.mp found
    exact topic_eq_ok_iff.mpr ⟨lookup?_after looked later, sameKind⟩
  · intro kind name topic succeeds
    obtain ⟨rfl, looked⟩ := lookup?_register_of_ok succeeds
    exact ⟨rfl, topic_eq_ok_iff.mpr ⟨lookup?_after looked later, rfl⟩⟩

/-- A pair with one side taken, by a kind or by a name, leaves nothing behind on the other side. -/
example :
    let registry := (empty : Registry).after
      [(.unit, "a"), (.text, "a"), (.unit, "b"), (.text, "b"), (.unit, "a")]
    registry.lookup? .text = some "b" ∧ registry.kindOf? "a" = some .unit ∧ registry.size = 2 := by
  decide

end TopicBus.Registry
