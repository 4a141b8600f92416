import ShuffleMint.Execute
import ShuffleMint.Migration
import ShuffleMint.Reply

/-!
# Runs of a mint

After a mint is set up on an empty store it takes transactions one after the other. The chain undoes
a transaction that fails, so a run is told by those that succeed, each with its response. A store is
reachable if some run ends in it.
-/

namespace ShuffleMint

/-- What a mint that is set up can receive. -/
inductive Transaction where
  | command (call : Call) (command : Command)
  | reply (id : Nat) (result : CreationResult)
  | migration

namespace CallState

/-- A step of a call that has asked nothing yet. What it asks is forgotten at its end. -/
def fresh {α : Type} (step : Step CallState α) : Step Store α := fun s =>
  let (outcome, after) := step ⟨s, []⟩
  (outcome, after.store)

end CallState

namespace Transaction

/-- Carries a transaction out. What it writes before it fails stays written. -/
def perform : Transaction → Step Store Response
  | command call c => CallState.fresh (call.execute c)
  | reply id result => receiveReply id result
  | migration => migrate

/-- The store after a transaction that the chain undoes when it fails. -/
def commit (t : Transaction) (s : Store) : Store :=
  match t.perform s with
  | (.ok _, after) => after
  | (.error _, _) => s

end Transaction

/-- A transaction that succeeded, and its response. -/
structure Event where
  transaction : Transaction
  response : Response

/-- The runs from a store to another, told by their events, the oldest first. -/
inductive Run (start : Store) : List Event → Store → Prop where
  | start : Run start [] start
  | next {events : List Event} {s s' : Store} {t : Transaction} {r : Response} :
    Run start events s → t.perform s = (.ok r, s') → Run start (events ++ [⟨t, r⟩]) s'

/-- A store that a setup leaves, started from nothing. -/
def Founded (s : Store) : Prop :=
  ∃ (setup : Setup) (env : Env) (sender : Address) (response : Response),
    setup.run env sender Store.empty = (.ok response, s)

/-- A store at the end of a run of a mint. -/
def Reachable (s : Store) : Prop := ∃ start events, Founded start ∧ Run start events s

namespace Reachable

theorem of_founded {s : Store} (h : Founded s) : Reachable s := ⟨s, [], h, .start⟩

theorem perform {s s' : Store} {t : Transaction} {r : Response} (h : Reachable s)
    (taken : t.perform s = (.ok r, s')) : Reachable s' :=
  let ⟨start, events, founded, run⟩ := h
  ⟨start, events ++ [⟨t, r⟩], founded, run.next taken⟩

/-- What every setup establishes and every successful transaction keeps holds of every reachable
store. -/
theorem induct {p : Store → Prop} (founded : ∀ s, Founded s → p s)
    (kept : ∀ (t : Transaction) (r : Response) (s s' : Store), Reachable s → p s →
      t.perform s = (.ok r, s') → p s')
    {s : Store} (h : Reachable s) : p s := by
  obtain ⟨start, events, origin, run⟩ := h
  induction run with
  | start => exact founded _ origin
  | next earlier taken ih => exact kept _ _ _ _ ⟨_, _, origin, earlier⟩ ih taken

end Reachable

end ShuffleMint
