import SearchQuery.CommandLine.Session
import SearchQuery.Proofs.CommandLine.Options

/-!
# A conversation is one command after the other

A conversation prints, behind each prompt, what the command would print that has
the line without the white space around it for its only query.  It ends at the
first line that says so or that is no text, and nothing behind that line is heard.
-/

namespace SearchQuery

/-!
## Lines
-/

/-- The lines of the input: a line feed ends each of them, but need not end the last. -/
inductive CutsInto : List UInt8 → List (List UInt8) → Prop where
  | done : CutsInto [] []
  | last {line : List UInt8} (hfeed : 10 ∉ line) (hne : line ≠ []) : CutsInto line [line]
  | fed {line rest : List UInt8} {lines : List (List UInt8)} (hfeed : 10 ∉ line)
      (hrest : CutsInto rest lines) : CutsInto (line ++ 10 :: rest) (line :: lines)

namespace Session

theorem lines_append_feed {line : List UInt8} (rest : List UInt8) (h : 10 ∉ line) :
    lines (line ++ 10 :: rest) = line :: lines rest := by
  induction line with
  | nil =>
      simp [lines]
  | cons byte line ih =>
      simp only [List.mem_cons, not_or] at h
      have hbyte : byte ≠ 10 := fun heq => h.1 heq.symm
      simp [lines, hbyte, ih h.2]

theorem cutsInto_lines (input : List UInt8) : CutsInto input (lines input) := by
  induction input with
  | nil =>
      exact .done
  | cons byte bytes ih =>
      by_cases hbyte : byte = 10
      · subst hbyte
        have hcuts := CutsInto.fed List.not_mem_nil ih
        simpa [lines] using hcuts
      · have hfeed : ∀ {line : List UInt8}, 10 ∉ line → 10 ∉ byte :: line := by
          intro line hline
          simp [hline, Ne.symm hbyte]
        simp only [lines, hbyte, if_false]
        generalize lines bytes = cut at ih
        cases ih with
        | done =>
            exact .last (hfeed List.not_mem_nil) (List.cons_ne_nil _ _)
        | last hline hne =>
            exact .last (hfeed hline) (List.cons_ne_nil _ _)
        | fed hline hrest =>
            exact .fed (hfeed hline) hrest

theorem lines_append (input tail : List UInt8) :
    ∃ more, lines (input ++ 10 :: tail) = lines input ++ more := by
  have hcuts := cutsInto_lines input
  generalize lines input = cut at hcuts
  induction hcuts with
  | done =>
      exact ⟨lines (10 :: tail), rfl⟩
  | last hfeed hne =>
      exact ⟨lines tail, lines_append_feed tail hfeed⟩
  | @fed line rest cut hfeed hrest ih =>
      rcases ih with ⟨more, hmore⟩
      refine ⟨more, ?_⟩
      rw [List.append_assoc, List.cons_append, lines_append_feed _ hfeed, hmore]
      rfl

/-!
## What is heard
-/

def heard? (line : List UInt8) : Option Text :=
  (decode? line).map Text.trim

/-- A line ends the conversation if it says so or is no text. -/
def ends (line : List UInt8) : Bool :=
  match heard? line with
  | none => true
  | some query => decide (query = "/bye")

def leaveCode (line : List UInt8) : Nat :=
  if (heard? line).isNone then 1 else 0

/-- What is printed for a line, if `print` is what is printed for a query.  Nothing is
printed for a blank line. -/
def printed (print : Text → Text) (line : List UInt8) : Text :=
  match heard? line with
  | none => []
  | some query => if query = [] then [] else print query

theorem reply_eq (session : Session) (line : List UInt8) :
    session.reply line =
      match heard? line with
      | none => .leave 1
      | some query =>
          if query = [] then .answer { output := [], log := [], code := 0 }
          else if query = "/bye" then .leave 0
          else .answer (session.answer query) := by
  unfold reply heard?
  cases decode? line <;> rfl

theorem reply_of_ends (session : Session) {line : List UInt8} (h : ends line = true) :
    session.reply line = .leave (leaveCode line) := by
  rw [reply_eq]
  unfold ends at h
  unfold leaveCode
  cases hheard : heard? line with
  | none =>
      rfl
  | some query =>
      rw [hheard] at h
      have hbye : query = "/bye" := of_decide_eq_true h
      subst hbye
      rfl

theorem reply_of_not_ends (session : Session) {line : List UInt8} (h : ends line = false) :
    ∃ answer, session.reply line = .answer answer ∧
      answer.output = printed (fun query => (session.answer query).output) line := by
  rw [reply_eq]
  unfold ends at h
  unfold printed
  cases hheard : heard? line with
  | none =>
      rw [hheard] at h
      cases h
  | some query =>
      rw [hheard] at h
      have hstays : ¬ query = "/bye" := of_decide_eq_false h
      by_cases hblank : query = []
      · exact ⟨{ output := [], log := [], code := 0 }, if_pos hblank, (if_pos hblank).symm⟩
      · refine ⟨session.answer query, ?_, (if_neg hblank).symm⟩
        simp only [if_neg hblank, if_neg hstays]

/-!
## The conversation
-/

theorem converse_of_ends (session : Session) {line : List UInt8}
    (lines : List (List UInt8)) (h : ends line = true) :
    session.converse (line :: lines) = { code := leaveCode line, output := prompt } := by
  rw [converse, session.reply_of_ends h]

theorem converse_of_not_ends (session : Session) {line : List UInt8}
    (lines : List (List UInt8)) (h : ends line = false) :
    session.converse (line :: lines) =
      { code := (session.converse lines).code
        output := prompt ++ printed (fun query => (session.answer query).output) line ++
          (session.converse lines).output } := by
  rcases session.reply_of_not_ends h with ⟨answer, hreply, houtput⟩
  rw [converse, hreply, ← houtput]

theorem converse_eq (session : Session) (lines : List (List UInt8)) :
    session.converse lines =
      { code := ((lines.find? ends).map leaveCode).getD 0
        output := ((lines.takeWhile fun line => !ends line).flatMap fun line =>
          prompt ++ printed (fun query => (session.answer query).output) line) ++ prompt } := by
  induction lines with
  | nil =>
      rfl
  | cons line lines ih =>
      cases hends : ends line with
      | true =>
          rw [session.converse_of_ends lines hends]
          simp [hends]
      | false =>
          rw [session.converse_of_not_ends lines hends, ih]
          simp [hends]

theorem converse_append (session : Session) {lines : List (List UInt8)}
    (more : List (List UInt8)) (h : ∃ line ∈ lines, ends line = true) :
    session.converse (lines ++ more) = session.converse lines := by
  induction lines with
  | nil =>
      rcases h with ⟨line, hline, -⟩
      cases hline
  | cons line lines ih =>
      cases hends : ends line with
      | true =>
          rw [List.cons_append, session.converse_of_ends _ hends,
            session.converse_of_ends _ hends]
      | false =>
          have hlater : ∃ line ∈ lines, ends line = true := by
            simpa [hends] using h
          rw [List.cons_append, session.converse_of_not_ends _ hends,
            session.converse_of_not_ends _ hends, ih hlater]

end Session

/-!
## The commands
-/

theorem Options.session_adding {options : Options} {today day : Date} (words : List Text)
    (hday : options.today = none → day = today) :
    (options.adding words).session day = options.session today := by
  unfold adding session
  cases htoday : options.today with
  | none =>
      rw [hday htoday]
  | some reference =>
      rfl

section

variable {arguments : List Text} {options : Options} {today day : Date}

theorem run_of_no_words (hoptions : Options.ofArguments arguments = .ok options)
    (hwords : options.words = []) (input : List UInt8) :
    run today arguments input = (options.session today).converse (Session.lines input) := by
  simp [run, hoptions, hwords]

theorem output_run_asking (hoptions : Options.ofArguments arguments = .ok options)
    (hwords : options.words = []) (hday : options.today = none → day = today)
    (query : Text) (input : List UInt8) :
    (run day (Options.asking arguments query) input).output =
      ((options.session today).answer query).output := by
  have hquery : (options.adding [query]).query = query := by
    simp [Options.query, Options.adding, hwords, Text.joinWith]
  have hnot : (options.adding [query]).words.isEmpty = false := by
    simp [Options.adding]
  simp only [run, Options.ofArguments_asking query hoptions hwords, hnot, hquery,
    Options.session_adding [query] hday]
  rfl

/-- Options without words start a conversation over the lines of the input.  It prints for a
line what the same options print with the line, without the white space around it, as their
only word; it ends at the first line that says so or is no text, with an error in the latter
case; and nothing behind that line counts. -/
theorem run_answers_each_line (hoptions : Options.ofArguments arguments = .ok options)
    (hwords : options.words = []) (hday : options.today = none → day = today)
    (input : List UInt8) :
    CutsInto input (Session.lines input) ∧
      (∀ query, Options.ofArguments (Options.asking arguments query) =
        .ok { options with words := [query] }) ∧
      run today arguments input =
        { code := (((Session.lines input).find? Session.ends).map Session.leaveCode).getD 0
          output :=
            (((Session.lines input).takeWhile fun line => !Session.ends line).flatMap fun line =>
              Session.prompt ++ Session.printed (fun query =>
                (run day (Options.asking arguments query) []).output) line) ++
            Session.prompt } ∧
      ∀ tail, (∃ line ∈ Session.lines input, Session.ends line = true) →
        run today arguments (input ++ 10 :: tail) = run today arguments input := by
  refine ⟨Session.cutsInto_lines input, ?_, ?_, ?_⟩
  · intro query
    rw [Options.ofArguments_asking query hoptions hwords, Options.adding, hwords]
    rfl
  · have hprint : (fun query => (run day (Options.asking arguments query) []).output) =
        fun query => ((options.session today).answer query).output :=
      funext fun query => output_run_asking hoptions hwords hday query []
    rw [run_of_no_words hoptions hwords, Session.converse_eq, hprint]
  · intro tail hends
    rcases Session.lines_append input tail with ⟨more, hmore⟩
    rw [run_of_no_words hoptions hwords, run_of_no_words hoptions hwords, hmore,
      Session.converse_append _ more hends]

end

def taskArguments : List Text :=
  ["--search", "tasks", "--today=2016-01-01"]

def taskReference : Date :=
  ⟨2016, 1, 1, by decide⟩

def taskOptions : Options :=
  { Options.unset with stock := some .tasks, today := some taskReference }

def taskInput : List UInt8 :=
  [32, 99, 97, 116, 58, 120, 13, 10, 13, 10, 47, 98, 121, 101, 10, 255]

theorem ofArguments_taskArguments : Options.ofArguments taskArguments = .ok taskOptions := by
  have hsearch : Argument.ofText "--search" = .long "search" none := by
    decide
  have hvalue : ("tasks" : Text).head? ≠ some '-' := by
    decide
  have htoday : Argument.ofText "--today=2016-01-01" = .long "today" (some "2016-01-01") := by
    decide
  have htasks : Options.unset.set "search" "tasks" =
      .ok { Options.unset with stock := some .tasks } :=
    rfl
  have hreference : Options.set { Options.unset with stock := some .tasks } "today" "2016-01-01" =
      .ok taskOptions :=
    rfl
  simp only [taskArguments, Options.ofArguments, Options.readFrom, hsearch, hvalue, htoday,
    htasks, hreference, Except.bind, true_or, if_true, if_false]

theorem run_answers_each_line_tasks :
    Options.ofArguments taskArguments = .ok taskOptions ∧ taskOptions.words = [] ∧
      taskOptions.today ≠ none ∧
      run ⟨2026, 1, 31, by decide⟩ taskArguments taskInput =
        { code := 0
          output := Session.prompt ++
            (run ⟨2026, 2, 1, by decide⟩ (Options.asking taskArguments "cat:x") []).output ++
            Session.prompt ++ Session.prompt } := by
  have hlines : Session.lines taskInput =
      [[32, 99, 97, 116, 58, 120, 13], [13], [47, 98, 121, 101], [255]] := by
    rfl
  have hquery : Session.heard? [32, 99, 97, 116, 58, 120, 13] = some "cat:x" := by
    rfl
  have hblank : Session.heard? [13] = some [] := by
    rfl
  have hbye : Session.heard? [47, 98, 121, 101] = some "/bye" := by
    rfl
  have hday : taskOptions.today = none →
      (⟨2026, 2, 1, by decide⟩ : Date) = ⟨2026, 1, 31, by decide⟩ := nofun
  rcases run_answers_each_line ofArguments_taskArguments rfl hday taskInput with
    ⟨-, -, hrun, -⟩
  refine ⟨ofArguments_taskArguments, rfl, nofun, ?_⟩
  rw [hrun, hlines]
  simp [Session.ends, Session.leaveCode, Session.printed, hquery, hblank, hbye]

end SearchQuery
