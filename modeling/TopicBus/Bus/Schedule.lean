import TopicBus.Bus.System

/-!
# Giving tasks their turns

A schedule is a bus whose tasks stand in two lines: those that have a turn to come, in the order
in which they became able to move, and those that wait. The first task of the first line goes on
until it has to wait too, or until it has used up its turn, which sends it back to the end of
its line. Once no task can move, only time helps: it passes from one timer to the next. At every
instant the application comes first, and the tasks whose timers are due at that instant come
after it.
-/

namespace TopicBus

/-- A bus with its tasks. A task that closes an instance is none of them: it belongs to the
application. -/
structure Schedule where
  system : System
  /-- The tasks that have a turn to come. The first one may be in the middle of its turn. -/
  ready : List Task
  /-- The tasks that wait, the one that has waited longest first. -/
  waiting : List Task
  /-- How many steps that count the first task has made in its turn. -/
  used : Nat

namespace Schedule

/-- The bus over a registry, without tasks. -/
def ofRegistry (registry : Registry) : Schedule where
  system := .ofRegistry registry
  ready := []
  waiting := []
  used := 0

/-! ## Turns -/

/-- The tasks that an action starts, in the order of their first turns. -/
def started : Action → List Task
  | .openPublisher n => [.drain n, .pump n]
  | .openConsumer n => [.pollLoop n]
  | _ => []

/-- The tasks of a list that do not have their turns yet. -/
def fresh (schedule : Schedule) (tasks : List Task) : List Task :=
  tasks.filter fun task => task ∉ schedule.ready && task ∉ schedule.waiting

/-- Gives a turn to every waiting task that can move by now. -/
def wake (schedule : Schedule) : Schedule :=
  let canMove (task : Task) : Bool := (schedule.system.step? task).isSome
  { schedule with
    ready := schedule.ready ++ schedule.waiting.filter canMove
    waiting := schedule.waiting.filter fun task => !canMove task }

/-- The schedule with the bus after something was done to it. A notice that is owed for that is
given before any task has its turn. -/
def follow (schedule : Schedule) (system : System) : Schedule :=
  let (_, system, _) := system.act (.step .notify)
  { schedule with system := system }.wake

/-- Does something to the bus. -/
def act (schedule : Schedule) (action : Action) : Reply × Schedule × List Event :=
  let (reply, system, events) := schedule.system.act action
  let woken := schedule.follow system
  (reply, { woken with ready := woken.ready ++ schedule.fresh (started action) }, events)

/-- How many steps that count a task may make in one turn. -/
def turnLength : Nat := 128

/-- One step of the first task that has a turn, or the end of its turn. -/
def turn? (schedule : Schedule) : Option (Schedule × List Event) :=
  match schedule.ready with
  | [] => none
  | task :: others =>
      -- A task that has used its turn up goes to the end of the line, also if it could move.
      if turnLength ≤ schedule.used then
        some ({ schedule with ready := others ++ [task], used := 0 }, [])
      else
        match schedule.system.step? task with
        | none =>
            some
              ({ schedule with ready := others, waiting := schedule.waiting ++ [task], used := 0 },
                [])
        | some (system, events) =>
            let used := if schedule.system.counts task then schedule.used + 1 else schedule.used
            some ({ schedule with used := used }.follow system, events)

/-- Lets the tasks move at most so many times. -/
def turns : Nat → Schedule → Schedule × List Event
  | 0, schedule => (schedule, [])
  | fuel + 1, schedule =>
      match schedule.turn? with
      | none => (schedule, [])
      | some (schedule, events) =>
          let (schedule, later) := turns fuel schedule
          (schedule, events ++ later)

/-- The sum of the sizes of some things. -/
def total {α : Type} (size : α → Nat) (things : List α) : Nat :=
  things.foldl (fun sum thing => sum + size thing) 0

/-- What waits in a publisher, plus a handful of steps for its beginning and its end. -/
def publisherEffort (publisher : Publisher) : Nat :=
  let awaited :=
    match publisher.drain with
    | .running awaited => awaited.length
    | _ => 0
  publisher.outbox.queue.length + publisher.reports.queue.length + awaited + 8

/-- The outcomes that are left in the script of a consumer. -/
def plannedPolls (consumer : Consumer) : Nat :=
  match consumer.source with
  | .scripted script => script.polls.length
  | _ => 0

/-- More steps than the tasks of a bus can make before time passes: every message is handled by
a few steps of a pump and a drain, and every record by a few steps of each poll loop, and no
more turns can end than are begun by these steps. -/
def effort (system : System) : Nat :=
  let publishing := total publisherEffort system.publishers
  let consuming (consumer : Consumer) : Nat :=
    publishing + system.broker.appended.length + plannedPolls consumer + 8
  16 * (publishing + total consuming system.consumers)

/-- Lets the tasks go on until each of them waits. -/
def settle (schedule : Schedule) : Schedule × List Event :=
  turns (effort schedule.system) schedule

/-! ## Closes that the application waits for -/

/-- Lets a close go on, for at most so many steps. -/
def proceed (close : Task) : Nat → Schedule → Schedule × List Event
  | 0, schedule => (schedule, [])
  | fuel + 1, schedule =>
      match schedule.system.step? close with
      | none => (schedule, [])
      | some (system, events) =>
          let (schedule, later) := proceed close fuel (schedule.follow system)
          (schedule, events ++ later)

/-- How many steps a close has at most. -/
def closeSteps : Nat := 3

/-- Lets a close go on, and the other tasks whenever it has to wait, until it is over or nothing
can move. -/
def settleAround (close : Task) : Nat → Schedule → Schedule × List Event
  | 0, schedule => (schedule, [])
  | rounds + 1, schedule =>
      let (schedule, events) := proceed close closeSteps schedule
      if schedule.system.isOver close then (schedule, events)
      else
        let (schedule, others) := schedule.settle
        if (schedule.system.step? close).isSome then
          let (schedule, later) := settleAround close rounds schedule
          (schedule, events ++ others ++ later)
        else (schedule, events ++ others)

/-! ## Time -/

/-- The milliseconds until the next timer, if there is one. -/
def untilTimer? (system : System) : Option Nat :=
  let timers :=
    system.publishers.flatMap Publisher.timers ++ system.consumers.flatMap Consumer.timers
  ((timers.filter fun timer => system.now < timer).map fun timer => timer - system.now).min?

/-- Lets the tasks go on, and around a close that the application waits for if there is one. -/
def rest (close : Option Task) (schedule : Schedule) : Schedule × List Event :=
  match close with
  | none => schedule.settle
  | some close => schedule.settleAround close (closeSteps + 1)

/-- Lets time pass from timer to timer, for the given number of milliseconds, unless the close
that the application waits for is over before. The tasks go on at every timer before the end; at
the end it is the application's turn. -/
def elapse (close : Option Task) (schedule : Schedule) (remaining : Nat) : Schedule × List Event :=
  let (settled, moved) := rest close schedule
  if close.any settled.system.isOver then (settled, moved)
  else
    match untilTimer? settled.system with
    | none => passing settled moved
    | some wait =>
        -- A timer at the very end belongs to the application, which comes before the tasks.
        if 0 < wait ∧ wait < remaining then
          let (_, atTimer, _) := settled.act (.pass wait)
          let (ended, later) := elapse close atTimer (remaining - wait)
          (ended, moved ++ later)
        else passing settled moved
termination_by remaining
where
  /-- All the time passes, and no timer is met before its end. -/
  passing (schedule : Schedule) (events : List Event) : Schedule × List Event :=
    let (_, ended, _) := schedule.act (.pass remaining)
    (ended, events)

end Schedule

end TopicBus
