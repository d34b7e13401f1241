import Mathlib.Data.List.Forall2
import SearchQuery.Proofs.Search.Rulebook

/-!
# Calls that bring in rules

Rules come into a book one call at a time.  A call gives a rule outright, or it has
two places for a rule and must give one in just one of them.  A call that gives none
or two is turned down, and the book stays as it was.  So behind any calls the book
has the rules of those that were taken up, each once and in the order of the calls.
Rules come in at the end alone, so a token that was claimed once is claimed by the
same rule whatever is called for later.
-/

namespace SearchQuery

universe u

inductive Registration (Scope : Type u) where
  | add (rule : Rule Scope)
  | tryAdd (first second : Option (Rule Scope))

variable {Scope : Type u}

namespace Registration

def given : Registration Scope → List (Rule Scope)
  | .add rule => [rule]
  | .tryAdd first second => first.toList ++ second.toList

/-- What a call is answered.  It must give one rule. -/
def answer (call : Registration Scope) : Except RegistrationError Unit :=
  match call.given with
  | [] => .error .missing
  | [_] => .ok ()
  | _ :: _ :: _ => .error .ambiguous

end Registration

namespace Rulebook

def respond (book : Rulebook Scope) :
    Registration Scope → Except RegistrationError Unit × Rulebook Scope
  | .add rule => (.ok (), book.add rule)
  | .tryAdd first second => book.tryAdd first second

def run (book : Rulebook Scope) :
    List (Registration Scope) → List (Except RegistrationError Unit) × Rulebook Scope
  | [] => ([], book)
  | call :: calls =>
      ((book.respond call).1 :: ((book.respond call).2.run calls).1,
        ((book.respond call).2.run calls).2)

/-!
## One call
-/

theorem respond_cases (book : Rulebook Scope) (call : Registration Scope) :
    (∃ rule, call.given = [rule] ∧ call.answer = .ok () ∧
        book.respond call = (.ok (), book.add rule)) ∨
      ∃ error, call.answer = .error error ∧ book.respond call = (.error error, book) := by
  cases call with
  | add rule =>
      exact Or.inl ⟨rule, rfl, rfl, rfl⟩
  | tryAdd first second =>
      cases first with
      | none =>
          cases second with
          | none =>
              exact Or.inr ⟨.missing, rfl, rfl⟩
          | some rule =>
              exact Or.inl ⟨rule, rfl, rfl, rfl⟩
      | some rule =>
          cases second with
          | none =>
              exact Or.inl ⟨rule, rfl, rfl, rfl⟩
          | some other =>
              exact Or.inr ⟨.ambiguous, rfl, rfl⟩

theorem respond_fst (book : Rulebook Scope) (call : Registration Scope) :
    (book.respond call).1 = call.answer := by
  rcases book.respond_cases call with ⟨rule, -, hanswer, hrespond⟩ | ⟨error, hanswer, hrespond⟩
  · rw [hrespond, hanswer]
  · rw [hrespond, hanswer]

theorem respond_of_answer_error (book : Rulebook Scope) {call : Registration Scope}
    {error : RegistrationError} (h : call.answer = .error error) :
    book.respond call = (.error error, book) := by
  rcases book.respond_cases call with ⟨rule, -, hanswer, -⟩ | ⟨error', hanswer, hrespond⟩
  · rw [hanswer] at h
    cases h
  · rw [hanswer] at h
    cases h
    exact hrespond

/-!
## All calls
-/

theorem run_append (book : Rulebook Scope) (calls more : List (Registration Scope)) :
    book.run (calls ++ more) =
      ((book.run calls).1 ++ ((book.run calls).2.run more).1,
        ((book.run calls).2.run more).2) := by
  induction calls generalizing book with
  | nil =>
      rfl
  | cons call calls ih =>
      simp only [List.cons_append, run, ih]

theorem run_fst (book : Rulebook Scope) (calls : List (Registration Scope)) :
    (book.run calls).1 = calls.map Registration.answer := by
  induction calls generalizing book with
  | nil =>
      rfl
  | cons call calls ih =>
      rw [run, List.map_cons, respond_fst, ih]

/-- The book grows at the end, by one rule for each call that is taken up. -/
theorem exists_rules_run (book : Rulebook Scope) (calls : List (Registration Scope)) :
    ∃ added, (book.run calls).2.rules = book.rules ++ added ∧
      List.Forall₂ (fun call rule => call.given = [rule])
        (calls.filter fun call => call.answer.isOk) added := by
  induction calls generalizing book with
  | nil =>
      exact ⟨[], (List.append_nil _).symm, List.Forall₂.nil⟩
  | cons call calls ih =>
      rcases book.respond_cases call with
        ⟨rule, hgiven, hanswer, hrespond⟩ | ⟨error, hanswer, hrespond⟩
      · rcases ih (book.add rule) with ⟨added, hrules, hadded⟩
        refine ⟨rule :: added, ?_, ?_⟩
        · rw [run, hrespond]
          rw [hrules, rules_add, List.append_assoc, List.singleton_append]
        · rw [List.filter_cons_of_pos (by rw [hanswer]; rfl)]
          exact List.Forall₂.cons hgiven hadded
      · rcases ih book with ⟨added, hrules, hadded⟩
        refine ⟨added, ?_, ?_⟩
        · rw [run, hrespond]
          exact hrules
        · rw [List.filter_cons_of_neg (by rw [hanswer]; exact Bool.false_ne_true)]
          exact hadded

theorem rules_prefix_run (book : Rulebook Scope) (calls : List (Registration Scope)) :
    book.rules <+: (book.run calls).2.rules := by
  rcases book.exists_rules_run calls with ⟨added, hrules, -⟩
  exact ⟨added, hrules.symm⟩

/-- Whatever is called for on an empty book, a call is answered by what it gives alone, the
book has one rule for each call that was taken up, in the order of the calls, and a call
that is turned down leaves the book as it was.  The book claims a token by the first of
these rules that claims it, with the scope that this rule leaves, and it claims nothing
just if they all decline.  What it claims is claimed alike whatever is called for later. -/
theorem run_empty_rules_and_claims (calls : List (Registration Scope)) :
    let book := (empty.run calls).2
    (empty.run calls).1 = calls.map Registration.answer ∧
      List.Forall₂ (fun call rule => call.given = [rule])
        (calls.filter fun call => call.answer.isOk) book.rules ∧
      (∀ call error, call.answer = .error error → (empty.run (calls ++ [call])).2 = book) ∧
      ∀ token scope,
        (∀ rule left, book.claim? token scope = some (rule, left) ↔
          book.FirstClaims rule token scope left) ∧
        (book.claim? token scope = none ↔ book.Declines token scope) ∧
        ∀ more claim, book.claim? token scope = some claim →
          (empty.run (calls ++ more)).2.claim? token scope = some claim := by
  intro book
  refine ⟨run_fst empty calls, ?_, ?_, ?_⟩
  · rcases empty.exists_rules_run calls with ⟨added, hrules, hadded⟩
    rw [rules_empty, List.nil_append] at hrules
    rw [hrules]
    exact hadded
  · intro call error herror
    rw [run_append, run, run, book.respond_of_answer_error herror]
  · intro token scope
    refine ⟨fun rule left => claim?_eq_some_iff, claim?_eq_none_iff, ?_⟩
    intro more claim hclaim
    rw [run_append]
    exact claim?_of_prefix (book.rules_prefix_run more) hclaim

example (first second : Rule Scope) :
    empty.run [.tryAdd none none, .tryAdd none (some second),
        .tryAdd (some first) (some second), .add first] =
      ([.error .missing, .ok (), .error .ambiguous, .ok ()], { rules := [second, first] }) := by
  rfl

end Rulebook

end SearchQuery
