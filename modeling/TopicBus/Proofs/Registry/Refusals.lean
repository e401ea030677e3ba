import TopicBus.Proofs.Registry.Bindings

/-!
# What a registration answers, and what it leaves behind

The answer to a registration is decided by what its kind and its name are bound to when it is
made. It succeeds if they are bound to each other or both are unbound. Otherwise it names the
other topic of the kind, and only if the kind has none the other kind of the name. Whatever is
asked of the registry afterwards, a registration can be noticed only if its pair was fresh: a
repeated one and a refused one leave everything as it was.
-/

namespace TopicBus.Registry

/-! ## Questions -/

/-- What a registry can be asked, registrations included. -/
inductive Request (κ : Type)
  | register (kind : κ) (name : String)
  | nameOf (kind : κ)
  | topic (kind : κ)
  | allocate (kind : κ)
  | kindOf (name : String)
  | size
  | isEmpty

/-- What a registry answers, with empty payloads of a given type. -/
inductive Answer (κ π : Type)
  | topic (result : Except (RegistryFault κ) (Topic κ))
  | name (result : Except (RegistryFault κ) String)
  | payload (result : Except (RegistryFault κ) π)
  | kind (result : Option κ)
  | size (count : Nat)
  | isEmpty (result : Bool)

variable {κ π : Type} [DecidableEq κ]

/-- The answer to a request, and the registry afterwards. -/
def answer (emptyOf : κ → π) (registry : Registry κ) : Request κ → Answer κ π × Registry κ
  | .register kind name =>
      (.topic (registry.register kind name).1, (registry.register kind name).2)
  | .nameOf kind => (.name (registry.nameOf kind), registry)
  | .topic kind => (.topic (registry.topic kind), registry)
  | .allocate kind => (.payload (registry.allocateWith emptyOf kind), registry)
  | .kindOf name => (.kind (registry.kindOf? name), registry)
  | .size => (.size registry.size, registry)
  | .isEmpty => (.isEmpty registry.isEmpty, registry)

/-- The answers to requests that are made one after another. -/
def answers (emptyOf : κ → π) : Registry κ → List (Request κ) → List (Answer κ π)
  | _, [] => []
  | registry, request :: rest =>
      (registry.answer emptyOf request).1 ::
        answers emptyOf (registry.answer emptyOf request).2 rest

/-! ## Fresh pairs -/

/-- Neither side of the pair is bound. -/
def IsFresh (registry : Registry κ) (kind : κ) (name : String) : Prop :=
  (∀ bound, registry.nameOf kind ≠ .ok bound) ∧ registry.kindOf? name = none

variable {registry : Registry κ} {kind holder : κ} {name bound : String}

theorem nameOf_ne_ok_iff :
    (∀ bound, registry.nameOf kind ≠ .ok bound) ↔ registry.lookup? kind = none := by
  simp only [ne_eq, nameOf_eq_ok_iff, Option.eq_none_iff_forall_not_mem, Option.mem_def]

/-- Only a fresh pair changes the registry. -/
theorem register_of_not_isFresh (stale : ¬ registry.IsFresh kind name) :
    (registry.register kind name).2 = registry := by
  cases registering : registry.register kind name with
  | mk result later =>
      cases register_registers registering with
      | again found => rfl
      | kindTaken found different => rfl
      | nameTaken unbound found => rfl
      | added unbound free => exact absurd ⟨nameOf_ne_ok_iff.mpr unbound, free⟩ stale

/-- A fresh pair is bound in the end. -/
theorem nameOf_register_of_isFresh (fresh : registry.IsFresh kind name) :
    (registry.register kind name).2.nameOf kind = .ok name := by
  have unbound : registry.lookup? kind = none := nameOf_ne_ok_iff.mp fresh.1
  have succeeds : (registry.register kind name).1 = .ok ⟨kind, name⟩ := by
    simp only [register, unbound, fresh.2]
  exact nameOf_eq_ok_iff.mpr (lookup?_register_of_ok succeeds).2

/-- A registration can be noticed afterwards just if its pair was fresh. -/
theorem answers_register_iff (emptyOf : κ → π) (registry : Registry κ) (kind : κ) (name : String) :
    (∀ requests, (registry.register kind name).2.answers emptyOf requests =
        registry.answers emptyOf requests) ↔
      ¬ registry.IsFresh kind name := by
  constructor
  · intro unnoticed fresh
    have bound := nameOf_register_of_isFresh fresh
    have asked := unnoticed [.nameOf kind]
    simp only [answers, answer, List.cons.injEq, Answer.name.injEq, and_true] at asked
    exact fresh.1 name (asked ▸ bound)
  · intro stale requests
    rw [register_of_not_isFresh stale]

/-! ## The answer to a registration -/

theorem IsOneToOne.register_eq_ok_iff (oneToOne : registry.IsOneToOne) :
    (∃ topic, (registry.register kind name).1 = .ok topic) ↔
      (registry.nameOf kind = .ok name ∧ registry.kindOf? name = some kind) ∨
        registry.IsFresh kind name := by
  cases registering : registry.register kind name with
  | mk result later =>
      rw [oneToOne.kindOf?_eq_some_iff, nameOf_eq_ok_iff, and_self, IsFresh, nameOf_ne_ok_iff]
      cases register_registers registering with
      | again found => simp [found]
      | kindTaken found different => simp [found, different]
      | nameTaken unbound found => simp [unbound, found]
      | added unbound free => simp [unbound, free]

theorem register_of_kind_bound (found : registry.nameOf kind = .ok bound)
    (different : bound ≠ name) :
    (registry.register kind name).1 = .error (.typeTaken kind bound) := by
  simp only [register, nameOf_eq_ok_iff.mp found, different, if_false]

theorem IsOneToOne.register_of_name_bound (oneToOne : registry.IsOneToOne)
    (noOther : ∀ bound, registry.nameOf kind = .ok bound → bound = name)
    (held : registry.kindOf? name = some holder) (different : holder ≠ kind) :
    (registry.register kind name).1 = .error (.nameTaken name holder) := by
  have unbound : registry.lookup? kind = none := by
    rw [← nameOf_ne_ok_iff]
    intro bound found
    -- The kind would be bound to this very name, which has another holder.
    obtain rfl := noOther bound found
    have holds := oneToOne.kindOf?_eq_some_iff.mpr (nameOf_eq_ok_iff.mp found)
    rw [held] at holds
    exact different (Option.some.inj holds)
  simp only [register, unbound, held]

/-- After any registrations, the next one succeeds exactly if its kind and its name are bound to
each other or are both unbound. A kind that is bound to another name is reported with that name,
whoever holds the wanted one; otherwise a name that is bound to another kind is reported with
that kind. No request that is made later, and no sequence of them, is answered otherwise than
without the registration, unless the pair was fresh. -/
theorem register_answered (emptyOf : κ → π) (calls : List (κ × String)) (kind : κ) (name : String) :
    let registry : Registry κ := empty.after calls
    let result := (registry.register kind name).1
    let later := (registry.register kind name).2
    ((∃ topic, result = .ok topic) ↔
        (registry.nameOf kind = .ok name ∧ registry.kindOf? name = some kind) ∨
          ((∀ bound, registry.nameOf kind ≠ .ok bound) ∧ registry.kindOf? name = none)) ∧
      (∀ bound, registry.nameOf kind = .ok bound → bound ≠ name →
        result = .error (.typeTaken kind bound)) ∧
      (∀ holder, (∀ bound, registry.nameOf kind = .ok bound → bound = name) →
        registry.kindOf? name = some holder → holder ≠ kind →
        result = .error (.nameTaken name holder)) ∧
      ((∀ requests, later.answers emptyOf requests = registry.answers emptyOf requests) ↔
        ¬ registry.IsFresh kind name) := by
  intro registry result later
  have oneToOne : registry.IsOneToOne := isOneToOne_empty.after calls
  refine ⟨oneToOne.register_eq_ok_iff, ?_, ?_, answers_register_iff emptyOf registry kind name⟩
  · intro bound found different
    exact register_of_kind_bound found different
  · intro holder noOther held different
    exact oneToOne.register_of_name_bound noOther held different

end TopicBus.Registry
