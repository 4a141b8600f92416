import ShuffleMint.Proofs.SortedMap.Insertion
import ShuffleMint.Proofs.Text.ByteOrder
import ShuffleMint.Query

/-!
# Listings are read to their end

A listing shows the entries of a map, a page at a time. Whoever follows it asks for the next page by
the last key received, until a page is empty. The entries after the last one of a page are what the
page has left over, so each page continues where the one before it has ended, whatever its size. The
key a reader goes by is the one that an entry shows; it has to be the one that the entry is stored
under.
-/

namespace ShuffleMint

variable {κ ν ε : Type} [Key κ]

namespace SortedMap

/-- What comes after a key is in the order of the map. -/
theorem ascending_after (m : SortedMap κ ν) (start : Option κ) : Ascending (m.after start) := by
  cases start with
  | none => exact m.ascending
  | some k => exact m.ascending.filter _

/-- An entry that comes after a key is an entry of the map. -/
theorem mem_of_mem_after {m : SortedMap κ ν} {start : Option κ} {e : κ × ν}
    (h : e ∈ m.after start) : e ∈ m.entries := by
  cases start with
  | none => exact h
  | some k => exact (List.mem_filter.mp h).1

/-- What comes after an entry is found among what comes after an earlier start. -/
theorem after_eq_filter_after {m : SortedMap κ ν} {start : Option κ} {e : κ × ν}
    (h : e ∈ m.after start) :
    m.after (some e.1) = (m.after start).filter fun other => Key.before e.1 other.1 := by
  cases start with
  | none => rfl
  | some k =>
    have hbefore : Key.before k e.1 = true := (List.mem_filter.mp h).2
    simp only [after, List.filter_filter]
    refine List.filter_congr fun other _ => ?_
    cases hother : Key.before e.1 other.1 with
    | false => rfl
    | true => simp [Key.trans _ _ _ hbefore hother]

/-- What comes after the last entry of a page is what the page has left over. -/
theorem after_of_after_eq {m : SortedMap κ ν} {start : Option κ} {page rest : List (κ × ν)}
    {last : κ × ν} (h : m.after start = page ++ last :: rest) : m.after (some last.1) = rest := by
  have hascending : Ascending (page ++ last :: rest) := h ▸ m.ascending_after start
  obtain ⟨-, hlast, hacross⟩ := List.pairwise_append.mp hascending
  have hpage : (page.filter fun other => Key.before last.1 other.1) = [] := by
    refine List.filter_eq_nil_iff.mpr fun other hother hafter => ?_
    have hbefore := hacross other hother last List.mem_cons_self
    exact absurd rfl (Key.ne_of_before (Key.trans _ _ _ hbefore hafter))
  have hrest : (rest.filter fun other => Key.before last.1 other.1) = rest :=
    List.filter_eq_self.mpr fun _ => List.rel_of_pairwise_cons hlast
  have hmem : last ∈ m.after start := by simp [h]
  rw [after_eq_filter_after hmem, h, List.filter_append, hpage, List.nil_append,
    List.filter_cons_of_neg (by simp [Key.irrefl]), hrest]

/-- In an order that is the one of the keys, what comes after a key is what the order puts after
it. -/
theorem after_eq_filter {order : κ → κ → Prop} [DecidableRel order]
    (horder : ∀ a b, Key.before a b = true ↔ order a b) (m : SortedMap κ ν) (start : Option κ) :
    m.after start = m.entries.filter fun e => start.all fun k => order k e.1 := by
  cases start with
  | none => simp [after]
  | some k => exact List.filter_congr fun e _ => by simp [← horder]

end SortedMap

/-- A page has room for an entry unless it is asked to have none. -/
theorem Page.size_pos {limit : Option Nat} (hlimit : ∀ n ∈ limit, 1 ≤ n) : 0 < size limit := by
  cases limit with
  | none => decide
  | some n => exact Nat.lt_min.mpr ⟨hlimit n rfl, by decide⟩

/-- A listing: how a page is asked for and answered, which part of the store it lists, what it shows
of an entry, and the key that a reader takes from what is shown. -/
structure Listing (κ ν ε : Type) [Key κ] where
  query : Option κ → Option Nat → Query
  answer : List ε → QueryAnswer
  part : Store → SortedMap κ ν
  shown : κ × ν → ε
  key : ε → κ

namespace Listing

/-- How often each address has minted on a channel. -/
def mintCounts (channel : ListedChannel) : Listing Address Nat (Address × Nat) where
  query := .mintCounts channel
  answer := .mintCounts
  part s := s.trackers.of channel.channel
  shown := id
  key := Prod.fst

/-- What each address has in escrow. -/
def balances : Listing Address Nat (Address × Nat) where
  query := .balances
  answer := .balances
  part := Store.balances
  shown := id
  key := Prod.fst

/-- The collections. -/
def collections : Listing Nat Collection Collection where
  query := .collections
  answer := .collections
  part := Store.collections
  shown := Prod.snd
  key := Collection.id

/-- The supplies of the collections. -/
def supplies : Listing Nat Supply CollectionSupply where
  query := .supplies
  answer := .supplies
  part := Store.supplies
  shown e := ⟨e.1, e.2.total, e.2.issued, e.2.total - e.2.issued⟩
  key := CollectionSupply.collection

/-- Asked for a page from a valid start on, a store answers what the map has there. -/
def Served (l : Listing κ ν ε) (s : Store) (valid : κ → Prop) : Prop :=
  ∀ start limit, (∀ k ∈ start, valid k) → s.query (l.query start limit) =
    .ok (l.answer (((l.part s).page start (Page.size limit)).map l.shown))

/-- A listing is followed from a start on, and these are the entries received: none where the page
is empty, and otherwise those of the page and what is received from its last key on. -/
inductive Reads (l : Listing κ ν ε) (s : Store) (limit : Option Nat) : Option κ → List ε → Prop where
  | stop {start : Option κ} (hpage : s.query (l.query start limit) = .ok (l.answer [])) :
    Reads l s limit start []
  | more {start : Option κ} {page rest : List ε} {last : ε}
      (hpage : s.query (l.query start limit) = .ok (l.answer (page ++ [last])))
      (hrest : Reads l s limit (some (l.key last)) rest) :
    Reads l s limit start (page ++ [last] ++ rest)

/-- Each page of a listing has the first entries strictly after its start in an order, thirty unless
asked otherwise and never more than a hundred. Any valid key is a start. -/
structure Paged (l : Listing κ ν ε) (s : Store) (order : κ → κ → Prop) [DecidableRel order]
    (valid : κ → Prop) : Prop where
  ascending : (l.part s).keys.Pairwise order
  page : ∀ start limit, (∀ k ∈ start, valid k) → s.query (l.query start limit) = .ok (l.answer
    ((((l.part s).entries.filter fun e => start.all fun k => order k e.1).take
      (min (limit.getD 30) 100)).map l.shown))

/-- Moreover, with pages of any size, whoever follows the listing comes to its end and receives
every entry once, in the order. -/
structure Complete (l : Listing κ ν ε) (s : Store) (order : κ → κ → Prop) [DecidableRel order]
    (valid : κ → Prop) : Prop extends Paged l s order valid where
  read : ∀ limit, (∀ n ∈ limit, 1 ≤ n) → ∀ received,
    l.Reads s limit none received ↔ received = (l.part s).entries.map l.shown

/-! ## Following a listing -/

section

variable {l : Listing κ ν ε} {s : Store} {limit : Option Nat} {valid : κ → Prop}
  (hserved : l.Served s valid) (hlimit : ∀ n ∈ limit, 1 ≤ n)
  (hkey : ∀ e ∈ (l.part s).entries, l.key (l.shown e) = e.1)
  (hvalid : ∀ e ∈ (l.part s).entries, valid e.1)

include hserved hlimit hkey hvalid

/-- Whoever follows a listing can come to its end. -/
theorem reads_after {start : Option κ} (hstart : ∀ k ∈ start, valid k) :
    l.Reads s limit start (((l.part s).after start).map l.shown) := by
  -- What is left after the start gets shorter with every page.
  induction hleft : ((l.part s).after start).length using Nat.strong_induction_on
    generalizing start with
  | _ left ih =>
    have hfirst := hserved start limit hstart
    rcases List.eq_nil_or_concat' ((l.part s).page start (Page.size limit)) with
      hnone | ⟨shown, last, hsome⟩
    · rw [hnone] at hfirst
      have hend : (l.part s).after start = [] :=
        (List.take_eq_nil_iff.mp hnone).resolve_left (Nat.ne_of_gt (Page.size_pos hlimit))
      rw [hend]
      exact .stop hfirst
    · obtain ⟨rest, hrest⟩ : ∃ rest, (l.part s).after start = shown ++ last :: rest := by
        refine ⟨((l.part s).after start).drop (Page.size limit), ?_⟩
        rw [List.append_cons, ← hsome, SortedMap.page, List.take_append_drop]
      have hafter : last ∈ (l.part s).after start := by simp [hrest]
      have hlast : last ∈ (l.part s).entries := SortedMap.mem_of_mem_after hafter
      rw [hsome, List.map_append, List.map_singleton] at hfirst
      have hnext := SortedMap.after_of_after_eq hrest
      have hshorter : rest.length < left := by
        rw [← hleft, hrest, List.length_append, List.length_cons]
        omega
      have hothers : l.Reads s limit (some last.1) (((l.part s).after (some last.1)).map l.shown) :=
        ih rest.length hshorter (by simpa using hvalid last hlast) (by rw [hnext])
      rw [hnext, ← hkey last hlast] at hothers
      rw [hrest, List.append_cons, List.map_append, List.map_append]
      exact .more hfirst hothers

end

/-- There is only one way to follow a listing. -/
theorem Reads.unique {l : Listing κ ν ε} {s : Store} {limit : Option Nat} {start : Option κ}
    {received others : List ε} (hanswer : Function.Injective l.answer)
    (h : l.Reads s limit start received) (h' : l.Reads s limit start others) :
    received = others := by
  have same {start : Option κ} {page page' : List ε}
      (hpage : s.query (l.query start limit) = .ok (l.answer page))
      (hpage' : s.query (l.query start limit) = .ok (l.answer page')) : page = page' :=
    hanswer (Except.ok.inj (hpage.symm.trans hpage'))
  induction h generalizing others with
  | stop hpage =>
    cases h' with
    | stop _ => rfl
    | more hpage' _ => exact absurd (same hpage hpage') (by simp)
  | more hpage _ ih =>
    cases h' with
    | stop hpage' => exact absurd (same hpage hpage') (by simp)
    | more hpage' hrest' =>
      obtain ⟨rfl, hlast⟩ := List.append_inj' (same hpage hpage') rfl
      obtain rfl := List.singleton_inj.mp hlast
      rw [ih hrest']

section

variable {l : Listing κ ν ε} {s : Store} {order : κ → κ → Prop} [DecidableRel order]
  {valid : κ → Prop} (hserved : l.Served s valid)
  (horder : ∀ a b, Key.before a b = true ↔ order a b)

include hserved horder

/-- A listing that is served is paged in any order that is the one of the keys. -/
theorem Served.paged : l.Paged s order valid where
  ascending := (l.part s).ascending_keys.imp fun h => (horder _ _).mp h
  page start limit hstart := by
    rw [hserved start limit hstart, SortedMap.page, SortedMap.after_eq_filter horder]
    rfl

/-- It is complete when each entry shows the key that it is stored under. -/
theorem Served.complete (hanswer : Function.Injective l.answer)
    (hkey : ∀ e ∈ (l.part s).entries, l.key (l.shown e) = e.1)
    (hvalid : ∀ e ∈ (l.part s).entries, valid e.1) : l.Complete s order valid where
  toPaged := hserved.paged horder
  read limit hlimit received := by
    have hreads : l.Reads s limit none ((l.part s).entries.map l.shown) :=
      reads_after hserved hlimit hkey hvalid nofun
    constructor
    · exact fun h => h.unique hanswer hreads
    · rintro rfl
      exact hreads

end

end Listing

/-! ## The listings of a mint -/

/-- Every address that is listed with a count or a balance is taken as it stands. -/
structure Store.AddressesValid (s : Store) : Prop where
  counted : ∀ channel : ListedChannel, ∀ k ∈ (s.trackers.of channel.channel).keys,
    validateAddress k = .ok k
  held : ∀ k ∈ s.balances.keys, validateAddress k = .ok k

/-- The keys of addresses are in the order of their bytes. -/
theorem before_iff_utf8Bytes_lt (a b : Address) :
    Key.before a b = true ↔ utf8Bytes a < utf8Bytes b := by
  rw [utf8Bytes_lt_iff]
  exact decide_eq_true_iff

/-- The keys of collections are in the order of the numbers. -/
theorem before_iff_lt (a b : Nat) : Key.before a b = true ↔ a < b := decide_eq_true_iff

/-- Supplies of which no more is issued than there is are listed with what is left of each. -/
theorem Store.supplyListing_eq_ok {entries : List (Nat × Supply)}
    (h : ∀ e ∈ entries, e.2.issued ≤ e.2.total) :
    supplyListing entries = .ok (entries.map Listing.supplies.shown) := by
  induction entries with
  | nil => rfl
  | cons e rest ih =>
    have hremaining : e.2.remaining = .ok (e.2.total - e.2.issued) :=
      if_pos (h e List.mem_cons_self)
    rw [supplyListing, hremaining, ih fun e he => h e (List.mem_cons_of_mem _ he)]
    rfl

namespace Listing

variable {s : Store}

/-- Counts are served from any address on. -/
theorem served_mintCounts (channel : ListedChannel) : (mintCounts channel).Served s IsAddress := by
  intro start limit hstart
  rw [mintCounts, Store.query, validateAddress?_eq_ok_iff.mpr ⟨rfl, hstart⟩, List.map_id]
  rfl

/-- So are balances. -/
theorem served_balances : balances.Served s IsAddress := by
  intro start limit hstart
  rw [balances, Store.query, validateAddress?_eq_ok_iff.mpr ⟨rfl, hstart⟩, List.map_id]
  rfl

/-- Collections are served from any number on. -/
theorem served_collections : collections.Served s fun _ => True := fun _ _ _ => rfl

/-- So are supplies of which no more is issued than there is. -/
theorem served_supplies (h : ∀ e ∈ s.supplies.entries, e.2.issued ≤ e.2.total) :
    supplies.Served s fun _ => True := by
  intro start limit _
  have hpage : ∀ e ∈ s.supplies.page start (Page.size limit), e.2.issued ≤ e.2.total :=
    fun e he => h e (SortedMap.mem_of_mem_after (List.mem_of_mem_take he))
  rw [supplies, Store.query, Store.supplyListing_eq_ok hpage]
  rfl

/-- The supplies of a store are listed completely where no more is issued than there is. -/
theorem complete_supplies (h : ∀ e ∈ s.supplies.entries, e.2.issued ≤ e.2.total) :
    supplies.Complete s (· < ·) fun _ => True :=
  (served_supplies h).complete before_iff_lt (fun _ _ => QueryAnswer.supplies.inj) (fun _ _ => rfl)
    fun _ _ => trivial

end Listing

/-- The listings of a store are complete. Counts and balances are listed by the bytes of the address
and collections by number; collections are followed by the number they show, which has to be the one
they are stored under, and supplies are listed where no more is issued than there is. -/
theorem listings_complete {s : Store} (h : s.AddressesValid) :
    (∀ channel, (Listing.mintCounts channel).Complete s
      (fun a b => utf8Bytes a < utf8Bytes b) IsAddress) ∧
    Listing.balances.Complete s (fun a b => utf8Bytes a < utf8Bytes b) IsAddress ∧
    (Listing.collections.Paged s (· < ·) fun _ => True) ∧
    ((∀ e ∈ s.collections.entries, e.2.id = e.1) →
      Listing.collections.Complete s (· < ·) fun _ => True) ∧
    ((∀ e ∈ s.supplies.entries, e.2.issued ≤ e.2.total) →
      Listing.supplies.Complete s (· < ·) fun _ => True) := by
  refine ⟨fun channel => ?counts, ?balances, ?pages, fun hfiled => ?collections,
    Listing.complete_supplies⟩
  case counts =>
    refine (Listing.served_mintCounts channel).complete before_iff_utf8Bytes_lt
      (fun _ _ => QueryAnswer.mintCounts.inj) (fun _ _ => rfl) fun e he => ?_
    exact ⟨e.1, h.counted channel e.1 (List.mem_map_of_mem he)⟩
  case balances =>
    refine Listing.served_balances.complete before_iff_utf8Bytes_lt
      (fun _ _ => QueryAnswer.balances.inj) (fun _ _ => rfl) fun e he => ?_
    exact ⟨e.1, h.held e.1 (List.mem_map_of_mem he)⟩
  case pages => exact Listing.served_collections.paged before_iff_lt
  case collections =>
    exact Listing.served_collections.complete before_iff_lt
      (fun _ _ => QueryAnswer.collections.inj) hfiled fun _ _ => trivial

namespace Listed

/-- A store with two minters, two collections and what they have. -/
def store : Store :=
  { Store.empty with
    collections := SortedMap.ofList [(101, ⟨101, 3, "alpha", "ALPHA", "ipfs://alpha"⟩),
      (102, ⟨102, 1, "beta", "BETA", "ipfs://beta"⟩)]
    supplies := SortedMap.ofList [(101, ⟨3, 2⟩), (102, ⟨1, 1⟩)]
    trackers := { Trackers.empty with publicSale := SortedMap.ofList [("alice", 1), ("bob", 2)] }
    balances := SortedMap.ofList [("alice", 100), ("bob", 50)] }

/-- A store with a supply of which more is issued than there is. -/
def oversold : Store := { Store.empty with supplies := SortedMap.ofList [(101, ⟨1, 2⟩)] }

/-- A store with a collection that shows another number than the one it is stored under. -/
def misfiled : Store :=
  { Store.empty with
    collections := SortedMap.ofList [(105, ⟨101, 3, "alpha", "ALPHA", "ipfs://alpha"⟩)] }

/-- A collection that shows an earlier number than its own is shown again by the next page. -/
theorem not_reads_misfiled {start : Option Nat} (hstart : start = none ∨ start = some 101)
    (received : List Collection) : ¬ Listing.collections.Reads misfiled (some 1) start received := by
  have hagain : misfiled.query (.collections start (some 1)) =
      .ok (.collections [⟨101, 3, "alpha", "ALPHA", "ipfs://alpha"⟩]) := by
    rcases hstart with rfl | rfl <;> rfl
  intro h
  induction h with
  | stop hpage => cases hpage.symm.trans hagain
  | @more _ page _ last hpage _ ih =>
    have hlast : page ++ [last] = [] ++ [⟨101, 3, "alpha", "ALPHA", "ipfs://alpha"⟩] :=
      QueryAnswer.collections.inj (Except.ok.inj (hpage.symm.trans hagain))
    obtain rfl := List.singleton_inj.mp (List.append_inj' hlast rfl).2
    exact ih (.inr rfl) rfl

end Listed

/-- From a store with two minters and two collections, the pages of one entry each that follow one
another list both balances, both collections and both supplies. -/
theorem listings_complete_two :
    Listed.store.AddressesValid ∧
      Listing.balances.Reads Listed.store (some 1) none [("alice", 100), ("bob", 50)] ∧
      (∃ alpha beta, alpha.name = "alpha" ∧ beta.name = "beta" ∧
        Listing.collections.Reads Listed.store (some 1) none [alpha, beta]) ∧
      Listing.supplies.Reads Listed.store (some 1) none [⟨101, 3, 2, 1⟩, ⟨102, 1, 1, 0⟩] := by
  have hvalid : Listed.store.AddressesValid :=
    ⟨fun channel => by cases channel <;> decide +kernel, by decide +kernel⟩
  have hone : ∀ n ∈ some 1, 1 ≤ n := by decide
  obtain ⟨-, hbalances, -, hcollections, hsupplies⟩ := listings_complete hvalid
  refine ⟨hvalid, (hbalances.read (some 1) hone _).mpr rfl, ⟨_, _, ?_, ?_,
    ((hcollections (by decide)).read (some 1) hone _).mpr rfl⟩,
    ((hsupplies (by decide)).read (some 1) hone _).mpr rfl⟩
  · rfl
  · rfl

/-- A listing of supplies is no answer where more is issued than there is, and collections that are
stored under other numbers than they show are followed without end. -/
theorem not_listings_complete :
    Listed.oversold.AddressesValid ∧
      (∀ listing, Listed.oversold.query (.supplies none none) ≠ .ok (.supplies listing)) ∧
      Listed.misfiled.AddressesValid ∧
      ∀ received, ¬ Listing.collections.Reads Listed.misfiled (some 1) none received := by
  refine ⟨⟨fun channel => by cases channel <;> decide, by decide⟩, fun listing => ?_,
    ⟨fun channel => by cases channel <;> decide, by decide⟩, Listed.not_reads_misfiled (.inl rfl)⟩
  exact nofun

end ShuffleMint
