import Mathlib.Data.List.Basic

/-!
# Channels

A channel that delivers messages in the order they were sent, none twice, until
it breaks: from some message on everything is lost (`cut`). The messages that
arrive are a sublist of those that were sent, and each operation keeps that:

* `sublist_send`, `sublist_cut` — what is in flight afterwards was in flight
  before or was sent now;
* `inFlight_receive`, `receive_eq_none` — receiving takes the first message, if
  there is one.
-/

/-- The messages in flight, the next one to arrive first. -/
structure Channel (α : Type*) where
  inFlight : List α := []
  isCut : Bool := false

namespace Channel

variable {α : Type*} {channel : Channel α}

/-- Messages are sent; a broken channel loses them. -/
def send (messages : List α) (channel : Channel α) : Channel α :=
  if channel.isCut then channel
  else { channel with inFlight := channel.inFlight ++ messages }

/-- The first message arrives. -/
def receive (channel : Channel α) : Option (α × Channel α) :=
  match channel.inFlight with
  | [] => none
  | message :: messages => some (message, { channel with inFlight := messages })

/-- The channel breaks, with the first `keep` messages still to arrive. -/
def cut (keep : Nat) (channel : Channel α) : Channel α :=
  { inFlight := channel.inFlight.take keep, isCut := true }

/-- What is sent is in flight, or lost if the connection is cut. -/
theorem sublist_send (messages : List α) :
    (channel.send messages).inFlight.Sublist (channel.inFlight ++ messages) := by
  unfold send
  split
  · exact List.sublist_append_left _ _
  · exact List.Sublist.refl _

/-- A cut loses messages, and changes no order. -/
theorem sublist_cut (keep : Nat) : (channel.cut keep).inFlight.Sublist channel.inFlight :=
  List.take_sublist keep channel.inFlight

/-- The message that was sent first arrives first. -/
theorem inFlight_receive {message : α} {rest : Channel α}
    (h : channel.receive = some (message, rest)) :
    channel.inFlight = message :: rest.inFlight := by
  unfold receive at h
  split at h
  · exact nomatch h
  · rename_i hInFlight
    obtain ⟨rfl, rfl⟩ := Prod.mk.inj (Option.some.inj h)
    exact hInFlight

/-- A message that arrives does not repair a connection. -/
theorem isCut_receive {message : α} {rest : Channel α}
    (h : channel.receive = some (message, rest)) : rest.isCut = channel.isCut := by
  unfold receive at h
  split at h
  · exact nomatch h
  · obtain ⟨rfl, rfl⟩ := Prod.mk.inj (Option.some.inj h)
    rfl

/-- Nothing arrives only if nothing is in flight. -/
theorem receive_eq_none (h : channel.receive = none) : channel.inFlight = [] := by
  unfold receive at h
  split at h
  · assumption
  · exact nomatch h

end Channel
