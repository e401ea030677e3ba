import TopicBus.Proofs.Registry.Bindings

/-!
# Lists of registrations

Pairs that are registered one after another into an empty registry are all accepted just if no
two of them contradict each other, that is, have one side in common and not the other. Then the
registry holds exactly the pairs of the list, so neither their order nor any repetition matters.
A list with a contradiction is refused as a whole, with the fault of the first pair that
contradicts one before it.
-/

namespace TopicBus.Registry

variable {κ : Type}

/-! ## Contradictions -/

/-- No kind stands with two names, and no name with two kinds. -/
def AreConsistent (pairs : List (κ × String)) : Prop :=
  ∀ first ∈ pairs, ∀ second ∈ pairs, first.1 = second.1 ↔ first.2 = second.2

/-- The fault of a pair that contradicts one before it: the other name of its kind if there is
one, otherwise the other kind of its name. -/
inductive Contradicts (before : List (κ × String)) (pair : κ × String) : RegistryFault κ → Prop
  | kindTaken {bound : String} (there : (pair.1, bound) ∈ before) (different : bound ≠ pair.2) :
      Contradicts before pair (.typeTaken pair.1 bound)
  | nameTaken {holder : κ} (unbound : ∀ bound, (pair.1, bound) ∉ before)
      (there : (holder, pair.2) ∈ before) (different : holder ≠ pair.1) :
      Contradicts before pair (.nameTaken pair.2 holder)

section Consistency

variable {pairs others before : List (κ × String)} {pair : κ × String}

theorem AreConsistent.mono (consistent : AreConsistent pairs)
    (subset : ∀ pair ∈ others, pair ∈ pairs) : AreConsistent others := by
  intro first inFront second behind
  exact consistent first (subset first inFront) second (subset second behind)

theorem areConsistent_append_singleton_iff :
    AreConsistent (before ++ [pair]) ↔
      AreConsistent before ∧ ∀ other ∈ before, other.1 = pair.1 ↔ other.2 = pair.2 := by
  constructor
  · intro consistent
    have last : pair ∈ before ++ [pair] := List.mem_append_right before List.mem_cons_self
    refine ⟨consistent.mono fun other member => List.mem_append_left [pair] member, ?_⟩
    intro other member
    exact consistent other (List.mem_append_left [pair] member) pair last
  · rintro ⟨consistent, agrees⟩ first inFront second behind
    rcases List.mem_append.mp inFront with firstBefore | firstLast
    · rcases List.mem_append.mp behind with secondBefore | secondLast
      · exact consistent first firstBefore second secondBefore
      · obtain rfl := List.mem_singleton.mp secondLast
        exact agrees first firstBefore
    · obtain rfl := List.mem_singleton.mp firstLast
      rcases List.mem_append.mp behind with secondBefore | secondLast
      · rw [eq_comm, agrees second secondBefore, eq_comm]
      · obtain rfl := List.mem_singleton.mp secondLast
        simp

/-- A list with a contradiction has a first pair that contradicts one before it. -/
theorem exists_first_contradiction (inconsistent : ¬ AreConsistent pairs) :
    ∃ before pair rest, pairs = before ++ pair :: rest ∧ AreConsistent before ∧
      ¬ AreConsistent (before ++ [pair]) := by
  induction pairs using List.reverseRecOn with
  | nil => exact absurd (fun _ member => absurd member List.not_mem_nil) inconsistent
  | append_singleton front last inductionHypothesis =>
      by_cases consistent : AreConsistent front
      · exact ⟨front, last, [], rfl, consistent, inconsistent⟩
      · obtain ⟨before, pair, rest, shape, first⟩ := inductionHypothesis consistent
        refine ⟨before, pair, rest ++ [last], ?_, first⟩
        rw [shape, List.append_assoc, List.cons_append]

end Consistency

variable [DecidableEq κ] {registry : Registry κ} {pairs before rest : List (κ × String)}
  {pair : κ × String} {fault : RegistryFault κ}

/-! ## One pair -/

/-- The registry binds exactly the pairs of a list. -/
def Holds (registry : Registry κ) (pairs : List (κ × String)) : Prop :=
  ∀ kind name, registry.lookup? kind = some name ↔ (kind, name) ∈ pairs

theorem holds_empty : (empty : Registry κ).Holds [] := by
  intro kind name
  simp [lookup?, empty]

theorem Holds.lookup?_eq_none_iff (holds : registry.Holds pairs) {kind : κ} :
    registry.lookup? kind = none ↔ ∀ name, (kind, name) ∉ pairs := by
  simp only [Option.eq_none_iff_forall_ne_some, ne_eq, holds kind]

/-- A pair that agrees with all before it is accepted and added to them. -/
theorem Holds.register_of_agrees (holds : registry.Holds before) (oneToOne : registry.IsOneToOne)
    (agrees : ∀ other ∈ before, other.1 = pair.1 ↔ other.2 = pair.2) :
    (∃ topic, (registry.register pair.1 pair.2).1 = .ok topic) ∧
      (registry.register pair.1 pair.2).2.Holds (before ++ [pair]) := by
  cases registering : registry.register pair.1 pair.2 with
  | mk answer later =>
      cases register_registers registering with
      | again found =>
          refine ⟨⟨_, rfl⟩, fun kind name => ?_⟩
          have there : pair ∈ before := (holds _ _).mp found
          rw [holds kind name, List.mem_append, List.mem_singleton]
          constructor
          · exact Or.inl
          · rintro (member | rfl)
            · exact member
            · exact there
      | kindTaken found different =>
          exact absurd ((agrees _ ((holds _ _).mp found)).mp rfl) different
      | nameTaken unbound found =>
          have there := (holds _ _).mp (oneToOne.kindOf?_eq_some_iff.mp found)
          have same := (agrees _ there).mpr rfl
          exact absurd (same ▸ there) (holds.lookup?_eq_none_iff.mp unbound pair.2)
      | added unbound free =>
          refine ⟨⟨_, rfl⟩, fun kind name => ?_⟩
          rw [lookup?, lookup_withEntry, List.mem_append, List.mem_singleton]
          by_cases same : kind = pair.1
          · have absent := holds.lookup?_eq_none_iff.mp unbound name
            rw [if_pos same, same]
            simp [absent, Prod.ext_iff, eq_comm]
          · rw [if_neg same, ← lookup?, holds kind name]
            simp [Prod.ext_iff, same]

/-- A pair that disagrees with one before it is refused with its contradiction. -/
theorem Holds.register_of_disagrees (holds : registry.Holds before)
    (oneToOne : registry.IsOneToOne)
    (disagrees : ¬ ∀ other ∈ before, other.1 = pair.1 ↔ other.2 = pair.2) :
    ∃ fault, (registry.register pair.1 pair.2).1 = .error fault ∧
      Contradicts before pair fault := by
  cases registering : registry.register pair.1 pair.2 with
  | mk answer later =>
      cases register_registers registering with
      | kindTaken found different => exact ⟨_, rfl, .kindTaken ((holds _ _).mp found) different⟩
      | nameTaken unbound found =>
          have there := (holds _ _).mp (oneToOne.kindOf?_eq_some_iff.mp found)
          have absent := holds.lookup?_eq_none_iff.mp unbound
          refine ⟨_, rfl, .nameTaken absent there ?_⟩
          rintro rfl
          exact absent pair.2 there
      | again found =>
          refine absurd (fun other member => ?_) disagrees
          -- The pair is bound, so another one with either side is the same pair.
          have bound := (holds other.1 other.2).mpr member
          constructor
          · intro same
            rw [same, found] at bound
            exact (Option.some.inj bound).symm
          · intro same
            rw [same] at bound
            exact oneToOne.kind_eq bound found
      | added unbound free =>
          refine absurd (fun other member => ?_) disagrees
          have bound := (holds other.1 other.2).mpr member
          constructor
          · intro same
            rw [same, unbound] at bound
            cases bound
          · intro same
            have held := oneToOne.kindOf?_eq_some_iff.mpr bound
            rw [same, free] at held
            cases held

/-! ## Runs of registrations -/

/-- The answers to registrations that are made one after another, whether they succeed or not. -/
def replies : Registry κ → List (κ × String) → List (Except (RegistryFault κ) (Topic κ))
  | _, [] => []
  | registry, pair :: rest =>
      (registry.register pair.1 pair.2).1 :: replies (registry.register pair.1 pair.2).2 rest

theorem after_append (registry : Registry κ) (before rest : List (κ × String)) :
    registry.after (before ++ rest) = (registry.after before).after rest :=
  List.foldl_append

theorem replies_append (registry : Registry κ) (before rest : List (κ × String)) :
    registry.replies (before ++ rest) =
      registry.replies before ++ (registry.after before).replies rest := by
  induction before generalizing registry with
  | nil => rfl
  | cons pair more inductionHypothesis =>
      exact congrArg (_ :: ·) (inductionHypothesis (registry.register pair.1 pair.2).2)

/-- The list goes on after a pair that is accepted. -/
theorem registerAll_cons_of_ok {topic : Topic κ}
    (accepted : (registry.register pair.1 pair.2).1 = .ok topic) :
    registry.registerAll (pair :: rest) =
      (registry.register pair.1 pair.2).2.registerAll rest := by
  rw [registerAll]
  cases registering : registry.register pair.1 pair.2 with
  | mk answer later =>
      rw [registering] at accepted
      cases accepted
      rfl

theorem registerAll_cons_of_error
    (refused : (registry.register pair.1 pair.2).1 = .error fault) :
    registry.registerAll (pair :: rest) = .error fault := by
  rw [registerAll]
  cases registering : registry.register pair.1 pair.2 with
  | mk answer later =>
      rw [registering] at refused
      cases refused
      rfl

/-- If all pairs are accepted, the registry of the list is the one after them. -/
theorem registerAll_of_accepted
    (accepted : ∀ reply ∈ registry.replies pairs, ∃ topic, reply = .ok topic) :
    registry.registerAll pairs = .ok (registry.after pairs) := by
  induction pairs generalizing registry with
  | nil => rfl
  | cons pair rest inductionHypothesis =>
      obtain ⟨topic, first⟩ := accepted _ List.mem_cons_self
      rw [registerAll_cons_of_ok first]
      exact inductionHypothesis fun reply member =>
        accepted reply (List.mem_cons_of_mem _ member)

/-- The first pair that is refused decides the fault of the list. -/
theorem registerAll_of_refused
    (accepted : ∀ reply ∈ registry.replies before, ∃ topic, reply = .ok topic)
    (refused : ((registry.after before).register pair.1 pair.2).1 = .error fault) :
    registry.registerAll (before ++ pair :: rest) = .error fault := by
  induction before generalizing registry with
  | nil => exact registerAll_cons_of_error refused
  | cons other more inductionHypothesis =>
      obtain ⟨topic, first⟩ := accepted _ List.mem_cons_self
      rw [List.cons_append, registerAll_cons_of_ok first]
      exact inductionHypothesis
        (fun reply member => accepted reply (List.mem_cons_of_mem _ member)) refused

/-- Pairs without contradictions are all accepted, and afterwards the registry binds exactly
them. -/
theorem AreConsistent.accepted_and_held (consistent : AreConsistent pairs) :
    (∀ reply ∈ (empty : Registry κ).replies pairs, ∃ topic, reply = .ok topic) ∧
      (empty.after pairs).Holds pairs := by
  induction pairs using List.reverseRecOn with
  | nil => exact ⟨fun _ member => absurd member List.not_mem_nil, holds_empty⟩
  | append_singleton before pair inductionHypothesis =>
      obtain ⟨consistent, agrees⟩ := areConsistent_append_singleton_iff.mp consistent
      obtain ⟨accepted, holds⟩ := inductionHypothesis consistent
      have oneToOne : (empty.after before).IsOneToOne := isOneToOne_empty.after before
      obtain ⟨last, held⟩ := holds.register_of_agrees oneToOne agrees
      rw [replies_append, after_append]
      refine ⟨fun reply member => ?_, held⟩
      rcases List.mem_append.mp member with earlier | final
      · exact accepted reply earlier
      · obtain rfl : reply = ((empty.after before).register pair.1 pair.2).1 :=
          List.mem_singleton.mp final
        exact last

/-- Registries that bind the same pairs answer the same and are of one size. -/
theorem IsOneToOne.eq_of_holds {other : Registry κ} (oneToOne : registry.IsOneToOne)
    (oneToOneToo : other.IsOneToOne)
    (same : ∀ kind name, registry.lookup? kind = some name ↔ other.lookup? kind = some name) :
    (∀ kind, registry.nameOf kind = other.nameOf kind) ∧
      (∀ name, registry.kindOf? name = other.kindOf? name) ∧ registry.size = other.size := by
  have kinds : ∀ kind, registry.lookup? kind = other.lookup? kind :=
    fun kind => Option.ext (same kind)
  have names : ∀ name, registry.kindOf? name = other.kindOf? name := by
    intro name
    refine Option.ext fun kind => ?_
    rw [oneToOne.kindOf?_eq_some_iff, oneToOneToo.kindOf?_eq_some_iff, same]
  refine ⟨fun kind => ?_, names, ?_⟩
  · rw [nameOf, nameOf, kinds kind]
  · have size := oneToOne.encard_kinds
    simp only [kinds] at size
    rw [oneToOneToo.encard_kinds] at size
    exact_mod_cast size.symm

/-- Pairs that are registered in order into an empty registry are all accepted if and only if
they have no contradiction. Then the list form gives the registry after them, which binds
exactly these pairs; and every list of the same pairs, in any order and with any of them
repeated, gives one with the same names, the same kinds and the same size. With a contradiction
the list form fails with the fault of the first pair that contradicts one before it. -/
theorem listed_in_any_order (pairs : List (κ × String)) :
    ((∀ reply ∈ (empty : Registry κ).replies pairs, ∃ topic, reply = .ok topic) ↔
        AreConsistent pairs) ∧
      (AreConsistent pairs →
        ofPairs pairs = .ok (empty.after pairs) ∧
          (∀ kind name, (empty.after pairs).nameOf kind = .ok name ↔ (kind, name) ∈ pairs) ∧
          ∀ others, (∀ pair, pair ∈ others ↔ pair ∈ pairs) →
            (∀ reply ∈ (empty : Registry κ).replies others, ∃ topic, reply = .ok topic) ∧
              ofPairs others = .ok (empty.after others) ∧
              (∀ kind, (empty.after others).nameOf kind = (empty.after pairs).nameOf kind) ∧
              (∀ name, (empty.after others).kindOf? name = (empty.after pairs).kindOf? name) ∧
              (empty.after others).size = (empty.after pairs).size) ∧
      (¬ AreConsistent pairs →
        ∃ before pair rest fault, pairs = before ++ pair :: rest ∧ AreConsistent before ∧
          Contradicts before pair fault ∧
          ((empty.after before).register pair.1 pair.2).1 = .error fault ∧
          ofPairs pairs = .error fault) := by
  -- Of an inconsistent list, the front before the first contradiction is accepted.
  have refused (inconsistent : ¬ AreConsistent pairs) :
      ∃ before pair rest fault, pairs = before ++ pair :: rest ∧ AreConsistent before ∧
        Contradicts before pair fault ∧
        ((empty.after before).register pair.1 pair.2).1 = .error fault := by
    obtain ⟨before, pair, rest, shape, consistent, contradiction⟩ :=
      exists_first_contradiction inconsistent
    obtain ⟨_, holds⟩ := consistent.accepted_and_held
    have disagrees : ¬ ∀ other ∈ before, other.1 = pair.1 ↔ other.2 = pair.2 := by
      intro agrees
      exact contradiction (areConsistent_append_singleton_iff.mpr ⟨consistent, agrees⟩)
    obtain ⟨fault, answer, contradicts⟩ :=
      holds.register_of_disagrees (isOneToOne_empty.after before) disagrees
    exact ⟨before, pair, rest, fault, shape, consistent, contradicts, answer⟩
  refine ⟨⟨fun accepted => ?_, fun consistent => consistent.accepted_and_held.1⟩, ?_, ?_⟩
  · by_contra inconsistent
    obtain ⟨before, pair, rest, fault, rfl, _, _, answer⟩ := refused inconsistent
    rw [replies_append] at accepted
    obtain ⟨topic, succeeds⟩ := accepted _ (List.mem_append_right _ List.mem_cons_self)
    rw [answer] at succeeds
    cases succeeds
  · intro consistent
    obtain ⟨accepted, holds⟩ := consistent.accepted_and_held
    refine ⟨registerAll_of_accepted accepted, fun kind name => ?_, fun others alike => ?_⟩
    · rw [nameOf_eq_ok_iff, holds kind name]
    · obtain ⟨acceptedToo, holdsToo⟩ :=
        (consistent.mono fun pair member => (alike pair).mp member).accepted_and_held
      refine ⟨acceptedToo, registerAll_of_accepted acceptedToo, ?_⟩
      apply (isOneToOne_empty.after others).eq_of_holds (isOneToOne_empty.after pairs)
      intro kind name
      rw [holdsToo kind name, holds kind name, alike]
  · intro inconsistent
    obtain ⟨before, pair, rest, fault, shape, consistent, contradicts, answer⟩ :=
      refused inconsistent
    refine ⟨before, pair, rest, fault, shape, consistent, contradicts, answer, ?_⟩
    rw [shape]
    exact registerAll_of_refused consistent.accepted_and_held.1 answer

/-- Of a pair that contradicts two others, one on either side, the other name of its kind is
reported. -/
example : ofPairs [(Payload.Kind.unit, "a"), (.text, "b"), (.unit, "a"), (.text, "a")] =
    .error (.typeTaken .text "b") := by
  rfl

end TopicBus.Registry
