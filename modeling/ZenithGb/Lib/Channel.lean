import Mathlib.Data.Nat.Notation

/-!
# Bounded channels

A channel holds at most `cap` messages, oldest first. Sending to a full channel and receiving from
an empty one give nothing: whether the party then waits or goes on is the party's business. What was
sent and what was received are not part of the channel; `Carries` relates them to what is in it.

## Main results

* `Channel.send_eq_none`, `Channel.receive_eq_none` — when a party has to wait
* `Channel.Carries.send`, `Channel.Carries.receive` — nothing is lost, doubled or reordered
-/

universe u

/-- A queue of at most `cap` messages. -/
structure Channel (cap : ℕ) (α : Type u) where
  /-- What is waiting, oldest first. -/
  queue : List α
  bounded : queue.length ≤ cap

namespace Channel

variable {cap : ℕ} {α : Type u} {c c' : Channel cap α} {a : α} {sent received : List α}

def empty : Channel cap α := ⟨[], Nat.zero_le cap⟩

/-- Put a message at the end, if there is room. -/
def send (a : α) (c : Channel cap α) : Option (Channel cap α) :=
  if h : c.queue.length < cap then
    some ⟨c.queue ++ [a], by rw [List.length_append]; exact h⟩
  else none

/-- Take the oldest message, if there is one. -/
def receive : Channel cap α → Option (α × Channel cap α)
  | ⟨[], _⟩ => none
  | ⟨a :: queue, h⟩ => some (a, ⟨queue, Nat.le_of_succ_le h⟩)

@[simp] theorem empty_queue : (empty : Channel cap α).queue = [] := rfl

theorem send_eq_some : c.send a = some c' ↔ c.queue.length < cap ∧ c'.queue = c.queue ++ [a] := by
  rw [send]
  split
  · rename_i hroom
    constructor
    · intro h
      cases h
      exact ⟨hroom, rfl⟩
    · rintro ⟨-, hqueue⟩
      obtain ⟨queue, hbounded⟩ := c'
      cases hqueue
      rfl
  · rename_i hfull
    exact iff_of_false (by simp) fun h => hfull h.1

/-- A message cannot be sent exactly when the channel is full. -/
theorem send_eq_none : c.send a = none ↔ c.queue.length = cap := by
  have hle := c.bounded
  rw [send]
  split
  · exact iff_of_false (by simp) (by omega)
  · exact iff_of_true rfl (by omega)

theorem receive_eq_some : c.receive = some (a, c') ↔ c.queue = a :: c'.queue := by
  obtain ⟨queue, hbounded⟩ := c
  obtain ⟨queue', hbounded'⟩ := c'
  cases queue with
  | nil => simp [receive]
  | cons b queue => simp [receive]

/-- There is nothing to receive exactly when the channel is empty. -/
theorem receive_eq_none : c.receive = none ↔ c.queue = [] := by
  obtain ⟨queue, hbounded⟩ := c
  cases queue with
  | nil => simp [receive]
  | cons b queue => simp [receive]

/-! ### What a channel carries -/

/-- Everything that was sent was received or is waiting, in the order it was sent. -/
def Carries (c : Channel cap α) (sent received : List α) : Prop := sent = received ++ c.queue

theorem carries_empty : (empty : Channel cap α).Carries [] [] := rfl

theorem Carries.send (h : c.Carries sent received) (hs : c.send a = some c') :
    c'.Carries (sent ++ [a]) received := by
  rw [Carries, (send_eq_some.mp hs).2, h, List.append_assoc]

theorem Carries.receive (h : c.Carries sent received) (hr : c.receive = some (a, c')) :
    c'.Carries sent (received ++ [a]) := by
  rw [Carries, h, receive_eq_some.mp hr, List.append_assoc]
  rfl

/-- A sender that waits is at most the capacity ahead. -/
theorem Carries.length_le (h : c.Carries sent received) :
    sent.length ≤ received.length + cap := by
  have hle := c.bounded
  rw [h, List.length_append]
  omega

end Channel
