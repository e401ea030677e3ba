import TopicBus.Bus.System

/-!
# Runs of a bus

A run is a list of actions done one after another. Its moves tell what was answered and what has
happened, and where the bus was brought. Two runs one after another are one run of their
actions.
-/

namespace TopicBus

/-- An action with the reply to it, what has happened, and the bus after it. -/
structure Move where
  action : Action
  reply : Reply
  events : List Event
  after : System

namespace System

/-- The bus after an action. -/
def next (system : System) (action : Action) : System :=
  (system.act action).2.1

/-- The bus after a run of actions. -/
def after (system : System) (actions : List Action) : System :=
  actions.foldl next system

/-- The moves of a run of actions. -/
def run (system : System) : List Action → List Move
  | [] => []
  | action :: rest =>
      let (reply, moved, events) := system.act action
      ⟨action, reply, events, moved⟩ :: moved.run rest

/-- What happens in a run of actions. -/
def events (system : System) (actions : List Action) : List Event :=
  (system.run actions).flatMap Move.events

/-- What is seen along a run, action by action, in order. -/
def seenAlong {α : Type} (seen? : System → Action → Option α) (system : System) :
    List Action → List α
  | [] => []
  | action :: rest => (seen? system action).toList ++ (system.next action).seenAlong seen? rest

/-! ## Runs one after another -/

@[simp]
theorem after_nil (system : System) : system.after [] = system :=
  rfl

@[simp]
theorem after_cons (system : System) (action : Action) (rest : List Action) :
    system.after (action :: rest) = (system.next action).after rest :=
  rfl

@[simp]
theorem after_append (system : System) (first second : List Action) :
    system.after (first ++ second) = (system.after first).after second :=
  List.foldl_append

/-- What every action keeps holds after any run. -/
theorem after_of_next (Holds : System → Prop)
    (keeps : ∀ (system : System) (action : Action), Holds system → Holds (system.next action))
    {system : System} (holds : Holds system) (actions : List Action) :
    Holds (system.after actions) := by
  induction actions generalizing system with
  | nil => exact holds
  | cons action rest inductionHypothesis => exact inductionHypothesis (keeps system action holds)

/-- The moves of a longer run begin with those of a shorter one. -/
theorem run_append (system : System) (first second : List Action) :
    system.run (first ++ second) = system.run first ++ (system.after first).run second := by
  induction first generalizing system with
  | nil => rfl
  | cons action rest inductionHypothesis =>
      simp only [List.cons_append, run, after_cons, inductionHypothesis]
      rfl

@[simp]
theorem events_nil (system : System) : system.events [] = [] :=
  rfl

@[simp]
theorem events_append (system : System) (first second : List Action) :
    system.events (first ++ second) =
      system.events first ++ (system.after first).events second := by
  simp only [events, run_append, List.flatMap_append]

/-- A run makes happen what its first action and the rest of it do. -/
theorem events_cons (system : System) (action : Action) (rest : List Action) :
    system.events (action :: rest) = (system.act action).2.2 ++ (system.next action).events rest :=
  rfl

end System

end TopicBus
