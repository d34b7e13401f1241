import SearchQuery.CommandLine.Options
import SearchQuery.Proofs.Text.Blank

/-!
# A query behind the options

What stands behind a double hyphen is words, whatever it looks like.  So options
that come without words can be given a query of any kind, as a word of its own.
-/

namespace SearchQuery

namespace Options

def front (arguments : List Text) : List Text :=
  arguments.takeWhile (· ≠ ['-', '-'])

/-- The same options, with the query as their only word. -/
def asking (arguments : List Text) (query : Text) : List Text :=
  front arguments ++ [['-', '-'], query]

def adding (words : List Text) (options : Options) : Options :=
  { options with words := options.words ++ words }

theorem ofText_eq_ending_iff {argument : Text} :
    Argument.ofText argument = .ending ↔ argument = ['-', '-'] := by
  fun_cases Argument.ofText argument <;> simp_all

theorem map_bind (read : Except UsageError Options)
    (next : Options → Except UsageError Options) (change : Options → Options) :
    (read.bind next).map change = read.bind fun options => (next options).map change := by
  cases read <;> rfl

/-- A double hyphen behind the arguments adds the words behind it.  An option that
still waits for its value does not take the double hyphen for it. -/
theorem readFrom_append_ending (options : Options) (words : List Text)
    {arguments : List Text} (h : ['-', '-'] ∉ arguments) :
    readFrom options (arguments ++ ['-', '-'] :: words) =
      (readFrom options arguments).map (adding words) := by
  fun_induction readFrom options arguments with
  | case1 options =>
      simp [readFrom, Argument.ofText, Except.map, adding]
  | case2 options argument rest t hword ih =>
      simp only [List.mem_cons, not_or] at h
      simp only [List.cons_append, readFrom, hword]
      exact ih h.2
  | case3 options argument rest hending =>
      simp [ofText_eq_ending_iff.mp hending] at h
  | case4 options argument rest hshort ih =>
      simp only [List.mem_cons, not_or] at h
      simp only [List.cons_append, readFrom, hshort, if_true, map_bind, ih _ h.2]
  | case5 options argument rest name hshort hname =>
      simp only [List.cons_append, readFrom, hshort, hname, if_false, Except.map]
  | case6 options argument rest name value hlong ih =>
      simp only [List.mem_cons, not_or] at h
      simp only [List.cons_append, readFrom, hlong, map_bind, ih _ h.2]
  | case7 options argument name hlong hname =>
      simp only [List.cons_append, List.nil_append, readFrom, hlong, hname, if_true,
        List.head?_cons, Except.map]
  | case8 options argument name hlong hname value rest hvalue =>
      simp only [List.cons_append, readFrom, hlong, hname, if_true, hvalue, Except.map]
  | case9 options argument name hlong hname value rest hvalue ih =>
      simp only [List.mem_cons, not_or] at h
      simp only [List.cons_append, readFrom, hlong, hname, if_true, hvalue, if_false,
        map_bind, ih _ h.2.2]
  | case10 options argument rest name hlong hname ih =>
      simp only [List.mem_cons, not_or] at h
      simp only [List.cons_append, readFrom, hlong, hname, if_false, map_bind, ih _ h.2]

theorem ending_not_mem_front (arguments : List Text) : ['-', '-'] ∉ front arguments := by
  intro hmem
  simpa using List.mem_takeWhile_imp hmem

theorem ofArguments_front {arguments : List Text} {options : Options}
    (hoptions : ofArguments arguments = .ok options) (hwords : options.words = []) :
    ofArguments (front arguments) = .ok options := by
  by_cases hmem : ['-', '-'] ∈ arguments
  · rcases List.eq_append_cons_of_mem hmem with ⟨before, words, rfl, hbefore⟩
    rw [front, Text.takeWhile_ne_append words hbefore]
    rw [ofArguments, readFrom_append_ending unset words hbefore] at hoptions
    cases hread : readFrom unset before with
    | error error =>
        rw [hread] at hoptions
        cases hoptions
    | ok read =>
        rw [hread] at hoptions
        cases hoptions
        rcases List.append_eq_nil_iff.mp hwords with ⟨-, hnone⟩
        rw [ofArguments, hread, hnone]
        simp [adding]
  · rw [front, Text.takeWhile_ne_of_not_mem hmem, hoptions]

theorem ofArguments_asking {arguments : List Text} {options : Options} (query : Text)
    (hoptions : ofArguments arguments = .ok options) (hwords : options.words = []) :
    ofArguments (asking arguments query) = .ok (options.adding [query]) := by
  have hfront := ofArguments_front hoptions hwords
  rw [ofArguments] at hfront
  rw [asking, ofArguments, readFrom_append_ending unset _ (ending_not_mem_front arguments),
    hfront]
  rfl

end Options

end SearchQuery
