import ArbEngine.Lib.Outcome

/-!
# Consumers of a feed

A consumer takes items one by one, emits something for each, and ends with the first item it
fails on. What it had emitted until then stays emitted, so a failure is not the whole answer.

`FollowsFeed` says that with a specification `Heard` of what is emitted for an item and `Stops` of
the items it fails on. `follows_of_item` brings it down to single items.
-/

namespace Feed

variable {α β : Type}

/-- What was emitted, and how it ended. -/
structure Consumed (β : Type) where
  emitted : List β
  outcome : Outcome Unit
deriving Repr, DecidableEq

def consume (f : α → Outcome (List β)) : List α → Consumed β
  | [] => ⟨[], .ok ()⟩
  | a :: as =>
      match f a with
      | .ok emitted =>
          let rest := consume f as
          ⟨emitted ++ rest.emitted, rest.outcome⟩
      | .err msg => ⟨[], .err msg⟩
      | .panic => ⟨[], .panic⟩

/-- How the consumer ended: it has heard all, or an item stopped it. -/
inductive Ends (Stops : α → Prop) : List α → Outcome Unit → Prop
  | all : Ends Stops [] (.ok ())
  | stopped {a : α} {as : List α} {o : Outcome Unit} (stops : Stops a) (fails : o ≠ .ok ()) :
      Ends Stops (a :: as) o

/-- The items up to the first on which the consumer stops are heard, in their order, and nothing
    else is. -/
def FollowsFeed (Heard : α → List β → Prop) (Stops : α → Prop) (as : List α)
    (consumed : Consumed β) : Prop :=
  ∃ before rest heard, as = before ++ rest ∧ List.Forall₂ Heard before heard ∧
    consumed.emitted = heard.flatten ∧ Ends Stops rest consumed.outcome

variable {f : α → Outcome (List β)} {Heard : α → List β → Prop} {Stops : α → Prop}

theorem consume_cons {a : α} {emitted : List β} (h : f a = .ok emitted) (as : List α) :
    consume f (a :: as) = ⟨emitted ++ (consume f as).emitted, (consume f as).outcome⟩ := by
  simp only [consume, h]

theorem consume_stopped {a : α} (fails : ∀ emitted, f a ≠ .ok emitted) (as : List α) :
    (consume f (a :: as)).emitted = [] ∧ (consume f (a :: as)).outcome ≠ .ok () := by
  cases h : f a with
  | ok emitted => exact absurd h (fails emitted)
  | err msg => simp [consume, h]
  | panic => simp [consume, h]

/-- **A consumer that handles each item as specified follows the feed.** -/
theorem follows_of_item (heard : ∀ a emitted, f a = .ok emitted → Heard a emitted)
    (stops : ∀ a, (∀ emitted, f a ≠ .ok emitted) → Stops a) (as : List α) :
    FollowsFeed Heard Stops as (consume f as) := by
  induction as with
  | nil => exact ⟨[], [], [], rfl, .nil, rfl, .all⟩
  | cons a as ih =>
    by_cases ok : ∃ emitted, f a = .ok emitted
    · obtain ⟨emitted, ha⟩ := ok
      obtain ⟨before, rest, later, split, each, all, ends⟩ := ih
      refine ⟨a :: before, rest, emitted :: later, ?_, .cons (heard a emitted ha) each, ?_, ?_⟩
      · rw [split, List.cons_append]
      · rw [consume_cons ha, all, List.flatten_cons]
      · rw [consume_cons ha]
        exact ends
    · have fails : ∀ emitted, f a ≠ .ok emitted := fun emitted h => ok ⟨emitted, h⟩
      obtain ⟨nothing, failed⟩ := consume_stopped fails as
      exact ⟨[], a :: as, [], rfl, .nil, nothing, .stopped (stops a fails) failed⟩

/-- Everything that is emitted was heard of an item. -/
theorem FollowsFeed.mem {as : List α} {consumed : Consumed β} {b : β}
    (follows : FollowsFeed Heard Stops as consumed) (hb : b ∈ consumed.emitted) :
    ∃ a ∈ as, ∃ emitted, Heard a emitted ∧ b ∈ emitted := by
  obtain ⟨before, rest, heard, rfl, each, all, -⟩ := follows
  rw [all] at hb
  clear all
  induction each with
  | nil => cases hb
  | @cons a emitted _ _ first _ ih =>
    rw [List.flatten_cons, List.mem_append] at hb
    rcases hb with hb | hb
    · exact ⟨a, List.mem_cons_self, emitted, first, hb⟩
    · obtain ⟨a', ha', rest⟩ := ih hb
      exact ⟨a', List.mem_cons_of_mem a ha', rest⟩

/-- **Where a consumer ends is determined**, if no item is both heard and stopped on: it has heard
    all of them exactly if it stops on none. -/
theorem FollowsFeed.ok_iff {as : List α} {consumed : Consumed β}
    (follows : FollowsFeed Heard Stops as consumed)
    (apart : ∀ a emitted, Heard a emitted → ¬Stops a) :
    consumed.outcome = .ok () ↔ ∀ a ∈ as, ¬Stops a := by
  obtain ⟨before, rest, heard, rfl, each, -, ends⟩ := follows
  obtain ⟨emitted, outcome⟩ := consumed
  have goes : ∀ a ∈ before, ¬Stops a := by
    clear ends
    induction each with
    | nil => exact List.forall_mem_nil _
    | cons first _ ih => exact List.forall_mem_cons.mpr ⟨apart _ _ first, ih⟩
  constructor
  · intro ok a ha
    cases ends with
    | all =>
      rw [List.append_nil] at ha
      exact goes a ha
    | stopped stops fails => exact absurd ok fails
  · intro never
    cases ends with
    | all => rfl
    | stopped stops fails =>
      exact absurd stops (never _ (List.mem_append_right before List.mem_cons_self))

end Feed
