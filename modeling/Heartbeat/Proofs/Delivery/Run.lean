import Mathlib.Order.Defs.Unbundled
import Heartbeat.Delivery.Step

/-!
# Running a delivery

What a composite delivery does to a world is put together from what its parts do:
one equation for each way of composing deliveries and for each elementary one.

Many statements about a run compare only the world before it with the world after
it.  `Moves relation delivery` says that every run of the delivery leads from a
world to a related one.  For a preorder it follows part by part, so a relation has
to be checked for the elementary deliveries only.
-/

namespace Heartbeat

set_option autoImplicit false

namespace Delivery

variable {result other : Type}

/-! ## Equations -/

theorem run_bind (first : Delivery result) (next : result → Delivery other) (world : World) :
    (first >>= next).run.run world = match first.run.run world with
      | (.ok value, later) => (next value).run.run later
      | (.error failure, later) => (.error failure, later) := by
  rw [ExceptT.run_bind, StateT.run_bind]
  rcases first.run.run world with ⟨_ | _, later⟩ <;> rfl

/-- Behind a part that returns, the rest runs on from what that part leaves. -/
theorem run_bind_of_ok {first : Delivery result} {value : result} {world later : World}
    (returned : first.run.run world = (.ok value, later)) (next : result → Delivery other) :
    (first >>= next).run.run world = (next value).run.run later := by
  rw [run_bind, returned]

/-- Behind an attempt the rest runs on in any case, and is told how the attempt ended. -/
theorem run_attempt_bind (delivery : Delivery result)
    (next : Except Failure result → Delivery other) (world : World) :
    (attempt delivery >>= next).run.run world
      = (next (delivery.run.run world).1).run.run (delivery.run.run world).2 :=
  run_bind_of_ok rfl next

theorem run_get_bind (next : World → Delivery result) (world : World) :
    ((get : Delivery World) >>= next).run.run world = (next world).run.run world := rfl

theorem run_modify_bind (change : World → World) (next : Unit → Delivery result) (world : World) :
    ((modify change : Delivery Unit) >>= next).run.run world = (next ()).run.run (change world) := rfl

theorem run_ofExcept (outcome : Except Failure result) (world : World) :
    (ofExcept outcome : Delivery result).run.run world = (outcome, world) := by
  cases outcome <;> rfl

theorem run_ofExcept_bind (outcome : Except Failure result) (next : result → Delivery other)
    (world : World) :
    ((ofExcept outcome : Delivery result) >>= next).run.run world = match outcome with
      | .ok value => (next value).run.run world
      | .error failure => (.error failure, world) := by
  cases outcome <;> rfl

theorem run_failIf (failure : Option Failure) (world : World) :
    (failIf failure).run.run world
      = (match failure with
        | none => .ok ()
        | some failure => .error failure, world) := by
  cases failure <;> rfl

theorem run_tryCatch (delivery : Delivery result) (handler : Failure → Delivery result)
    (world : World) :
    (tryCatch delivery handler).run.run world = match delivery.run.run world with
      | (.ok value, later) => (.ok value, later)
      | (.error failure, later) => (handler failure).run.run later := by
  show (ExceptT.tryCatch delivery handler).run.run world = _
  have started : StateT.run delivery world = delivery.run.run world := rfl
  rw [ExceptT.tryCatch, ExceptT.run_mk, StateT.run_bind, started]
  rcases delivery.run.run world with ⟨_ | _, later⟩ <;> rfl

/-- An ordinary failure goes to the handler, and everything else passes. -/
theorem run_absorbing (delivery : Delivery result) (handler : Failure → Delivery result)
    (world : World) :
    (absorbing delivery handler).run.run world = match delivery.run.run world with
      | (.ok value, later) => (.ok value, later)
      | (.error failure, later) =>
        if failure.isOrdinary then (handler failure).run.run later else (.error failure, later) := by
  rw [absorbing, run_tryCatch]
  split
  · rfl
  · split <;> rfl

/-- Where the handler always returns, only a request to stop gets past it. -/
theorem not_isOrdinary_of_absorbing {delivery : Delivery result}
    {handler : Failure → Delivery result}
    (returns : ∀ failure world, ∃ value, ((handler failure).run.run world).1 = .ok value)
    {world : World} {failure : Failure}
    (failed : ((absorbing delivery handler).run.run world).1 = .error failure) :
    failure.isOrdinary = false := by
  rw [run_absorbing] at failed
  generalize delivery.run.run world = done at failed
  rcases done with ⟨cause | value, later⟩
  · by_cases ordinary : cause.isOrdinary = true
    · obtain ⟨value, returned⟩ := returns cause later
      simp only [if_pos ordinary, returned] at failed
      cases failed
    · simp only [if_neg ordinary, Except.error.injEq] at failed
      rwa [← failed, ← Bool.not_eq_true]
  · cases failed

/-! ## What a run keeps -/

/-- Every run of a delivery leads from a world to a related one. -/
def Moves (relation : World → World → Prop) (delivery : Delivery result) : Prop :=
  ∀ world, relation world (delivery.run.run world).2

namespace Moves

variable {relation : World → World → Prop} [IsPreorder World relation]

theorem pure (value : result) : Moves relation (pure value) := fun world => refl_of relation world

theorem throw (failure : Failure) : Moves relation (throw failure : Delivery result) :=
  fun world => refl_of relation world

omit [IsPreorder World relation] in
/-- What holds after the first part of a delivery, and is kept by the relation, holds
after a second part that keeps the relation. -/
theorem reach_bind (reach : World → Prop)
    (stable : ∀ found later, reach found → relation found later → reach later)
    {first : Delivery result} {next : result → Delivery other} {world : World}
    (start : reach (first.run.run world).2) (goes : ∀ value, Moves relation (next value)) :
    reach ((first >>= next).run.run world).2 := by
  rw [run_bind]
  generalize first.run.run world = done at start ⊢
  rcases done with ⟨failure | value, later⟩
  · exact start
  · exact stable _ _ start (goes value later)

omit [IsPreorder World relation] in
/-- The same after a handler. -/
theorem reach_tryCatch (reach : World → Prop)
    (stable : ∀ found later, reach found → relation found later → reach later)
    {delivery : Delivery result} {handler : Failure → Delivery result} {world : World}
    (start : reach (delivery.run.run world).2)
    (handles : ∀ failure, Moves relation (handler failure)) :
    reach ((tryCatch delivery handler).run.run world).2 := by
  rw [run_tryCatch]
  generalize delivery.run.run world = done at start ⊢
  rcases done with ⟨failure | value, later⟩
  · exact stable _ _ start (handles failure later)
  · exact start

theorem bind {first : Delivery result} {next : result → Delivery other}
    (moves : Moves relation first) (goes : ∀ value, Moves relation (next value)) :
    Moves relation (first >>= next) :=
  fun world => reach_bind (relation world) (fun _ _ => trans_of relation) (moves world) goes

/-- A first part that is done under a condition only. -/
theorem ite_bind {condition : Prop} [Decidable condition] {first : Delivery other}
    {next : Delivery result} (moves : Moves relation first) (goes : Moves relation next) :
    Moves relation (if condition then first >>= fun _ => next else next) := by
  split
  · exact .bind moves fun _ => goes
  · exact goes

omit [IsPreorder World relation] in
theorem get_bind {next : World → Delivery result} (goes : ∀ world, Moves relation (next world)) :
    Moves relation ((get : Delivery World) >>= next) := fun world => goes world world

omit [IsPreorder World relation] in
theorem modify {change : World → World} (changes : ∀ world, relation world (change world)) :
    Moves relation (modify change) := changes

theorem ofExcept (outcome : Except Failure result) :
    Moves relation (ofExcept outcome : Delivery result) := by
  intro world
  rw [run_ofExcept]
  exact refl_of relation world

theorem failIf (failure : Option Failure) : Moves relation (failIf failure) := by
  intro world
  rw [run_failIf]
  exact refl_of relation world

theorem failOn (operation : Troubles → Option Failure) : Moves relation (failOn operation) :=
  .get_bind fun _ => .failIf _

theorem tryCatch {delivery : Delivery result} {handler : Failure → Delivery result}
    (moves : Moves relation delivery) (handles : ∀ failure, Moves relation (handler failure)) :
    Moves relation (tryCatch delivery handler) :=
  fun world => reach_tryCatch (relation world) (fun _ _ => trans_of relation) (moves world) handles

/-- What an absorbing delivery adds to the delivery that it absorbs failures of. -/
theorem reach_absorbing (reach : World → Prop)
    (stable : ∀ found later, reach found → relation found later → reach later)
    {delivery : Delivery result} {handler : Failure → Delivery result} {world : World}
    (start : reach (delivery.run.run world).2)
    (handles : ∀ failure, Moves relation (handler failure)) :
    reach ((absorbing delivery handler).run.run world).2 := by
  refine reach_tryCatch reach stable start fun failure => ?_
  split
  · exact handles failure
  · exact .throw failure

theorem absorbing {delivery : Delivery result} {handler : Failure → Delivery result}
    (moves : Moves relation delivery) (handles : ∀ failure, Moves relation (handler failure)) :
    Moves relation (absorbing delivery handler) :=
  fun world => reach_absorbing (relation world) (fun _ _ => trans_of relation) (moves world) handles

end Moves

end Delivery

/-! ## Records -/

namespace Sink

open Delivery

/-- What a sink does with a record is up to its canonical form. -/
theorem run_withEntry (logger : LoggerName) (record : Record) (deliver : Bytes → Delivery Unit)
    (world : World) :
    (withEntry logger record deliver).run.run world
      = match record.encode with
        | .ok entry => (deliver entry).run.run world
        | .error failure =>
          if failure.isEncoding then (.ok (), world.logged ⟨logger, .encodeFailed failure⟩)
          else (.error failure, world) := by
  rw [withEntry]
  cases record.encode with
  | ok entry => rfl
  | error failure =>
      by_cases encoding : failure.isEncoding = true
      · simp only [if_pos encoding]
        rfl
      · simp only [if_neg encoding]
        rfl

end Sink

end Heartbeat
