import Mathlib.Data.List.Basic
import Mathlib.Data.List.Nodup
import ShuffleMint.Proofs.Store.Access

/-!
# Reading a listing page by page

The airdropper yields its assigned tokens in pages. A page starts after the last token of the one
before it, and a page that is not full is the last. Of a listing in strict order nothing is lost and
nothing is read twice. The tokens after the last token of a prefix are the rest of the listing, so
each page continues where the previous one ended. A listing that ends with a full page costs one
more question, whose answer is empty.
-/

namespace ShuffleMint

namespace Token

/-- No token comes before itself. -/
@[simp] theorem not_before_self (t : Token) : t.before t = false := by
  simp [before]

/-- Of two tokens at most one comes before the other. -/
theorem not_before_of_before {a b : Token} (hab : a.before b = true) : b.before a = false := by
  simp only [before, Bool.or_eq_true, Bool.and_eq_true, decide_eq_true_eq, beq_iff_eq] at hab
  simp only [before, Bool.or_eq_false_iff, Bool.and_eq_false_iff, decide_eq_false_iff_not,
    beq_eq_false_iff_ne]
  omega

/-- A listing in strict order lists no token twice. -/
theorem nodup_of_pairwise_before {tokens : List Token}
    (hsorted : tokens.Pairwise fun a b => a.before b = true) : tokens.Nodup :=
  hsorted.imp fun {a b} hab heq => by
    rw [heq, not_before_self] at hab
    exact Bool.false_ne_true hab

/-- What comes after the last token of a prefix is the rest of the listing. -/
theorem filter_after_prefix {shown rest : List Token}
    (hsorted : (shown ++ rest).Pairwise fun a b => a.before b = true) :
    ((shown ++ rest).filter fun t => shown.getLast?.all (·.before t)) = rest := by
  obtain ⟨hshown, -, hacross⟩ := List.pairwise_append.1 hsorted
  rcases List.eq_nil_or_concat' shown with rfl | ⟨earlier, last, rfl⟩
  · simp
  · have hearlier : ∀ t ∈ earlier, t.before last = true := fun t ht =>
      (List.pairwise_append.1 hshown).2.2 t ht last (List.mem_singleton_self last)
    have hnone : ((earlier ++ [last]).filter fun t => last.before t) = [] := by
      refine List.filter_eq_nil_iff.2 fun t ht => ?_
      rcases List.mem_append.1 ht with ht | ht
      · simp [not_before_of_before (hearlier t ht)]
      · simp [List.mem_singleton.1 ht]
    have hall : (rest.filter fun t => last.before t) = rest :=
      List.filter_eq_self.2 fun t ht => hacross last (by simp) t ht
    simp only [List.getLast?_concat, Option.all_some]
    rw [List.filter_append, hnone, hall, List.nil_append]

end Token

/-- The answers of an airdropper that keeps a fixed listing: to a question for a page, the first
tokens after its start. -/
def Answers.Lists (answers : Answers) (contract : Address) (listed : List Token) : Prop :=
  ∀ asked start limit, answers.assignedTokens asked contract start limit =
    .ok ((listed.filter fun t => start.all (·.before t)).take limit)

/-- The answers of a lone airdropper with a listing, to a call that may read so many pages. -/
def Answers.ofListing (listed : List Token) (pageBudget : Nat) : Answers where
  whitelistStatus _ _ _ := .error .noContract
  promisedMints _ _ _ := .error .noContract
  promisedTokens _ _ _ := .error .noContract
  assignedTokens _ _ start limit := .ok ((listed.filter fun t => start.all (·.before t)).take limit)
  pageBudget := pageBudget

namespace Airdropper

/-- The question for the page with an index: it starts after the tokens of the pages before it. -/
def pageQuestion (contract : Address) (listed : List Token) (page : Nat) : Question :=
  ⟨contract, .assignedTokens (listed.take (page * pageSize)).getLast? pageSize⟩

/-- The questions that read a listing to its end. -/
def pageQuestions (contract : Address) (listed : List Token) : List Question :=
  (List.range (listed.length / pageSize + 1)).map (pageQuestion contract listed)

/-- The questions from a page on: the one for it, then those from the next page on. -/
theorem drop_pageQuestions (contract : Address) {listed : List Token} {page : Nat}
    (hpage : page ≤ listed.length / pageSize) :
    (pageQuestions contract listed).drop page =
      pageQuestion contract listed page :: (pageQuestions contract listed).drop (page + 1) := by
  rw [List.drop_eq_getElem_cons (by simp [pageQuestions]; omega)]
  simp [pageQuestions]

/-- The last token of a full page is the last of all tokens up to it. -/
theorem getLast?_page {listed : List Token} {page : Nat}
    (hfull : (page + 1) * pageSize ≤ listed.length) :
    ((listed.drop (page * pageSize)).take pageSize).getLast? =
      (listed.take ((page + 1) * pageSize)).getLast? := by
  rw [Nat.succ_mul] at hfull
  have hne : (listed.drop (page * pageSize)).take pageSize ≠ [] := by
    have hsize : 0 < pageSize := by decide
    rw [← List.length_pos_iff, List.length_take, List.length_drop]
    omega
  rw [Nat.succ_mul, List.take_add, List.getLast?_append_of_ne_nil _ hne]

section

variable {answers : Answers} {contract : Address} {listed : List Token}
  (hsorted : listed.Pairwise fun a b => a.before b = true) (hlists : answers.Lists contract listed)

include hsorted hlists

/-- The answer to the question for a page is the page. -/
theorem ask_pageQuestion (page : Nat) (s : CallState) :
    CallState.ask (pageQuestion contract listed page)
        (fun asked => answers.assignedTokens asked contract
          (listed.take (page * pageSize)).getLast? pageSize) s =
      (.ok ((listed.drop (page * pageSize)).take pageSize),
        { s with asked := s.asked ++ [pageQuestion contract listed page] }) := by
  have hpage : answers.assignedTokens s.asked contract
      (listed.take (page * pageSize)).getLast? pageSize =
        .ok ((listed.drop (page * pageSize)).take pageSize) := by
    have hrest := Token.filter_after_prefix
      ((List.take_append_drop (page * pageSize) listed).symm ▸ hsorted)
    rw [List.take_append_drop] at hrest
    rw [hlists, hrest]
  exact CallState.ask_of_ok hpage

/-- Reading on from a page yields the rest of the listing, with one question for each page that is
left, unless there are more of them than may still be read. -/
theorem assignedAfter_page (pages page : Nat) (hpage : page * pageSize ≤ listed.length)
    (s : CallState) :
    assignedAfter answers contract pages (listed.take (page * pageSize)).getLast? s =
      (if listed.length / pageSize < page + pages
        then .ok (listed.drop (page * pageSize)) else .error .exhausted,
      { s with asked := s.asked ++ ((pageQuestions contract listed).drop page).take pages }) := by
  have hsize : 0 < pageSize := by decide
  have hle : page ≤ listed.length / pageSize := (Nat.le_div_iff_mul_le hsize).2 hpage
  induction pages generalizing page s with
  | zero =>
    rw [if_neg (by omega), List.take_zero, List.append_nil]
    rfl
  | succ pages ih =>
    have hmul : (page + 1) * pageSize = page * pageSize + pageSize := Nat.succ_mul _ _
    have hask := ask_pageQuestion hsorted hlists page s
    rw [pageQuestion] at hask
    rw [assignedAfter, Step.bind_of_ok hask, ← pageQuestion, drop_pageQuestions contract hle,
      List.take_succ_cons]
    by_cases hfull : (page + 1) * pageSize ≤ listed.length
    · -- a full page: the next one starts after its last token
      have hrest : (listed.drop (page * pageSize)).take pageSize ++
          listed.drop ((page + 1) * pageSize) = listed.drop (page * pageSize) := by
        rw [hmul, ← List.drop_drop, List.take_append_drop]
      have hread := ih (page + 1) hfull
        { s with asked := s.asked ++ [pageQuestion contract listed page] }
        ((Nat.le_div_iff_mul_le hsize).2 hfull)
      rw [if_neg (by simp; omega), getLast?_page hfull]
      rw [show page + 1 + pages = page + (pages + 1) by omega] at hread
      split_ifs at hread ⊢
      · rw [Step.bind_of_ok hread]
        simp [hrest]
      · rw [Step.bind_of_error hread]
        simp
    · -- a page that is not full is the last
      have hlast : listed.length / pageSize = page :=
        Nat.div_eq_of_lt_le hpage (by omega)
      have hshort : (listed.drop (page * pageSize)).length < pageSize := by
        rw [List.length_drop]
        omega
      have hnone : (pageQuestions contract listed).drop (page + 1) = [] := by
        simp [pageQuestions, hlast]
      rw [List.take_of_length_le (Nat.le_of_lt hshort), if_pos hshort, if_pos (by omega),
        hnone, List.take_nil]
      rfl

end

/-- The assigned tokens of an airdropper that keeps a listing in strict order are the listing, each
token once, read with one question for every full page and one more. The listing determines what is
asked. Only a call that may not read as many pages ends before that. -/
theorem assignedTokens_eq_listed {answers : Answers} {contract : Address} {listed : List Token}
    (hsorted : listed.Pairwise fun a b => a.before b = true)
    (hlists : answers.Lists contract listed) (s : CallState) :
    listed.Nodup ∧ (pageQuestions contract listed).length = listed.length / 30 + 1 ∧
    assignedTokens answers contract s =
      (if listed.length / 30 < answers.pageBudget then .ok listed else .error .exhausted,
      { s with asked := s.asked ++ (pageQuestions contract listed).take answers.pageBudget }) := by
  refine ⟨Token.nodup_of_pairwise_before hsorted, by simp [pageQuestions, pageSize], ?_⟩
  have hread := assignedAfter_page hsorted hlists answers.pageBudget 0 (by simp) s
  rw [Nat.zero_mul, List.take_zero, List.drop_zero, List.drop_zero, Nat.zero_add] at hread
  exact hread

/-- A listing of thirty tokens is read with two questions, the second of which finds nothing. -/
theorem assignedTokens_eq_listed_full_page :
    let listed := (List.range 30).map fun number => Token.mk 1 (number + 1)
    let answers := Answers.ofListing listed 5
    let s : CallState := ⟨Store.empty, []⟩
    (listed.Pairwise fun a b => a.before b = true) ∧ answers.Lists "airdropper" listed ∧
      assignedTokens answers "airdropper" s = (.ok listed,
        { s with asked := [⟨"airdropper", .assignedTokens none 30⟩,
          ⟨"airdropper", .assignedTokens (some ⟨1, 30⟩) 30⟩] }) := by
  intro listed answers s
  have hsorted : listed.Pairwise fun a b => a.before b = true := by decide +kernel
  have hlists : answers.Lists "airdropper" listed := fun _ _ _ => rfl
  refine ⟨hsorted, hlists, ?_⟩
  rw [(assignedTokens_eq_listed hsorted hlists s).2.2]
  decide +kernel

end Airdropper

end ShuffleMint
