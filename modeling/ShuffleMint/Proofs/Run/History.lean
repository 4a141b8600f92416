import ShuffleMint.Proofs.Run.Advance

/-!
# Histories

A run tells its events. Played again from its first store, every event is taken in the store that
the events before it have left, and runs that follow one another have their histories one after the
other.
-/

namespace ShuffleMint

/-- A transaction that succeeds is committed. -/
theorem Transaction.commit_of_ok {transaction : Transaction} {s t : Store} {r : Response}
    (h : transaction.perform s = (.ok r, t)) : transaction.commit s = t := by
  rw [commit, h]

/-- A transaction whose outcome is a success has succeeded with a response. -/
theorem Transaction.exists_of_isOk {transaction : Transaction} {s : Store}
    (h : (transaction.perform s).1.isOk = true) :
    ∃ r t, transaction.perform s = (.ok r, t) := by
  cases hperform : transaction.perform s with
  | mk outcome t =>
    rw [hperform] at h
    cases outcome with
    | ok r => exact ⟨r, t, rfl⟩
    | error e => cases h

/-- The events of a run from a store, each with the store in which it was taken. -/
def Store.replay (s : Store) : List Event → List (Store × Event)
  | [] => []
  | e :: rest => (s, e) :: (e.transaction.commit s).replay rest

namespace Run

variable {start middle s : Store} {first second events : List Event}

/-- What is replayed after a run is replayed from its last store. -/
theorem replay_append (h : Run start events s) (more : List Event) :
    start.replay (events ++ more) = start.replay events ++ s.replay more := by
  induction h generalizing more with
  | start => rfl
  | @next events m t transaction r _ hperform ih =>
    have hlast : m.replay (⟨transaction, r⟩ :: more) =
        m.replay [⟨transaction, r⟩] ++ t.replay more := by
      simp only [Store.replay, Transaction.commit_of_ok hperform, List.singleton_append]
    rw [List.append_assoc, List.singleton_append, ih, ih, hlast, List.append_assoc]

/-- The last event of a run is taken in the store before it. -/
theorem replay_next (h : Run start events s) (e : Event) :
    start.replay (events ++ [e]) = start.replay events ++ [(s, e)] := by
  rw [h.replay_append]
  rfl

/-- What is summed up over the events of a run grows by what its last event adds. -/
theorem sum_replay_next (h : Run start events s) (amount : Store × Event → Nat) (e : Event) :
    ((start.replay (events ++ [e])).map amount).sum =
      ((start.replay events).map amount).sum + amount (s, e) := by
  rw [h.replay_next, List.map_append, List.sum_append, List.map_singleton, List.sum_singleton]

/-- Every event of a run was taken in a store that the run passes, and left the next one. -/
theorem exists_of_mem_replay (h : Run start events s) {taken : Store} {e : Event}
    (he : (taken, e) ∈ start.replay events) : ∃ earlier, Run start earlier taken ∧
      e.transaction.perform taken = (.ok e.response, e.transaction.commit taken) := by
  induction h with
  | start => cases he
  | @next events m t transaction r hrun hperform ih =>
    rw [hrun.replay_next, List.mem_append, List.mem_singleton] at he
    rcases he with he | hlast
    · exact ih he
    · obtain ⟨rfl, rfl⟩ := Prod.mk.inj hlast
      exact ⟨events, hrun, by rw [Transaction.commit_of_ok hperform]; exact hperform⟩

/-- Runs that follow one another are one run. -/
theorem append (h : Run start first middle) (h' : Run middle second s) :
    Run start (first ++ second) s := by
  induction h' with
  | start => rwa [List.append_nil]
  | next _ hperform ih =>
    rw [← List.append_assoc]
    exact ih.next hperform

/-- A run is told apart by its events: from one store they lead to one store. -/
theorem eq_of_events {t : Store} (h : Run start events s) (h' : Run start events t) : s = t := by
  induction h generalizing t with
  | start =>
    generalize hevents : [] = none at h'
    cases h' with
    | start => rfl
    | next => simp at hevents
  | @next events m u transaction r _ hperform ih =>
    generalize hevents : events ++ [⟨transaction, r⟩] = all at h'
    cases h' with
    | start => simp at hevents
    | @next events' m' _ transaction' r' hrun' hperform' =>
      obtain ⟨rfl, hlast⟩ := List.append_inj' hevents rfl
      obtain ⟨rfl, rfl⟩ := Event.mk.inj (List.singleton_inj.mp hlast)
      obtain rfl := ih hrun'
      exact (Prod.mk.inj (hperform.symm.trans hperform')).2

/-- A run whose events are those of an earlier part and a later one passes the store between them.
-/
theorem split (h : Run start (first ++ second) s) :
    ∃ middle, Run start first middle ∧ Run middle second s := by
  generalize hevents : first ++ second = all at h
  induction h generalizing second with
  | start =>
    obtain ⟨rfl, rfl⟩ := List.append_eq_nil_iff.mp hevents
    exact ⟨start, .start, .start⟩
  | @next events m t transaction r hrun hperform ih =>
    rcases List.eq_nil_or_concat second with rfl | ⟨earlier, e, rfl⟩
    · rw [List.append_nil] at hevents
      rw [hevents]
      exact ⟨t, hrun.next hperform, .start⟩
    · rw [List.concat_eq_append, ← List.append_assoc] at hevents
      obtain ⟨hearlier, hlast⟩ := List.append_inj' hevents rfl
      obtain ⟨middle, hfirst, hsecond⟩ := ih hearlier
      rw [List.concat_eq_append, List.singleton_inj.mp hlast]
      exact ⟨middle, hfirst, hsecond.next hperform⟩

end Run

/-- What comes of transactions taken one after the other, those that fail undone: the events of
those that succeed, and the last store. -/
def Store.play (s : Store) : List Transaction → List Event × Store
  | [] => ([], s)
  | transaction :: rest =>
    match transaction.perform s with
    | (.ok r, t) => (⟨transaction, r⟩ :: (t.play rest).1, (t.play rest).2)
    | (.error _, _) => s.play rest

/-- Transactions taken one after the other make a run, whichever they are. -/
theorem Store.run_play (s : Store) (transactions : List Transaction) :
    Run s (s.play transactions).1 (s.play transactions).2 := by
  induction transactions generalizing s with
  | nil => exact .start
  | cons transaction rest ih =>
    rw [play]
    split
    · next r t hperform => exact (Run.start.next hperform).append (ih t)
    · exact ih s

/-- Transactions all of which succeed are the transactions of the events, in their order. -/
theorem Store.map_transaction_play (s : Store) {transactions : List Transaction}
    (h : (s.play transactions).1.length = transactions.length) :
    (s.play transactions).1.map Event.transaction = transactions := by
  have hsome (s : Store) (transactions : List Transaction) :
      ((s.play transactions).1.map Event.transaction).Sublist transactions := by
    induction transactions generalizing s with
    | nil => exact List.Sublist.refl _
    | cons transaction rest ih =>
      rw [play]
      split
      · next r t _ => exact (ih t).cons_cons _
      · exact (ih s).cons _
  exact (hsome s transactions).eq_of_length (by rw [List.length_map, h])

/-- A setup on an empty store that succeeds founds a mint. -/
theorem Founded.of_isOk {setup : Setup} {env : Env} {sender : Address}
    (h : (setup.run env sender Store.empty).1.isOk = true) :
    Founded (setup.run env sender Store.empty).2 := by
  cases hrun : setup.run env sender Store.empty with
  | mk outcome s =>
    rw [hrun] at h
    cases outcome with
    | ok r => exact ⟨setup, env, sender, r, hrun⟩
    | error e => cases h

/-!
## A first sale

A mint of three tokens of one collection holds its revenue in escrow, a quarter of it for a guild
and the rest for the owner. Once the contract of the collection is there, a buyer mints a token for
its price.
-/

namespace FirstSale

/-- The setup of the mint. -/
def setup : Setup where
  admin := none
  maintainer := none
  airdropper := none
  whitelist := none
  startTime := 10
  endTime := none
  mintCap := 1
  bundleCap := 1
  mintPrice := 100
  bundlePrice := 100
  denom := "ustars"
  collectionCode := 7
  escrowFunds := true
  bundleEnabled := true
  collections := [⟨"Gold", "GLD", "ipfs://gold", 3⟩]
  royalties := ⟨[⟨"owner", 7500, true⟩, ⟨"guild", 2500, false⟩], []⟩
  airdropperPlan := none
  whitelistPlan := none

/-- Collaborators of which there is none. -/
def nobody : Answers where
  whitelistStatus _ _ _ := .error .noContract
  promisedMints _ _ _ := .error .noContract
  promisedTokens _ _ _ := .error .noContract
  assignedTokens _ _ _ _ := .error .noContract
  pageBudget := 0

/-- A call of a sender with coins at an instant after the start. -/
def call (sender : Address) (funds : List Coin) : Call :=
  ⟨⟨20, 2, none, "mint"⟩, sender, funds, nobody⟩

/-- The store that the setup leaves. -/
def founded : Store := (setup.run ⟨5, 1, none, "mint"⟩ "admin" Store.empty).2

/-- A buyer mints a token for its price. -/
def purchase : Transaction := .command (call "buyer" [⟨"ustars", 100⟩]) (.mint false none)

/-- The reply that tells the address of the collection's contract, and the purchase. -/
def transactions : List Transaction :=
  [.reply 101 (.succeeded (some [10, 4, 103, 111, 108, 100])), purchase]

/-- The events of the sale. -/
def events : List Event := (founded.play transactions).1

/-- The store after the sale. -/
def sold : Store := (founded.play transactions).2

/-- The setup succeeds. -/
theorem founded_founded : Founded founded := Founded.of_isOk (by decide +kernel)

/-- The reply and the purchase make a run, in which both succeed. -/
theorem run_events : Run founded events sold ∧ events.length = 2 :=
  ⟨founded.run_play transactions, by decide +kernel⟩

end FirstSale

end ShuffleMint
