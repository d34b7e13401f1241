import SearchQuery.Search.ChainRule
import SearchQuery.Search.Compile
import SearchQuery.Search.DateRule

/-!
# Searches in stock

Three searches over filter chains: jobs by date, number and name; receipts by
the day of the check, the day of posting, the amount and the number of the
check; tasks by category, priority, due date and name.  A date rule infers years
left out from the reference date.
-/

namespace SearchQuery

inductive Stock where
  | jobs
  | receipts
  | tasks
  deriving DecidableEq, Repr

namespace Stock

def name : Stock → Text
  | jobs => "jobs"
  | receipts => "receipts"
  | tasks => "tasks"

def all : List Stock :=
  [jobs, receipts, tasks]

def ofName? (t : Text) : Option Stock :=
  all.find? fun stock => stock.name = t

/-!
## Columns
-/

def jobDate : Column := ⟨"jobs", "date"⟩
def jobId : Column := ⟨"jobs", "id"⟩
def jobName : Column := ⟨"jobs", "name"⟩

def checkDate : Column := ⟨"receipts", "check_date"⟩
def postDate : Column := ⟨"receipts", "post_date"⟩
def receiptAmount : Column := ⟨"receipts", "amount"⟩
def checkNumber : Column := ⟨"receipts", "check_no"⟩

def taskName : Column := ⟨"tasks", "name"⟩
def taskPriority : Column := ⟨"tasks", "priority"⟩
def taskDueDate : Column := ⟨"tasks", "due_date"⟩
def categoryName : Column := ⟨"categories", "name"⟩

/-!
## Searches
-/

def dateRule (column : Column) (reference : Date) : DateRule Chain :=
  { field := column, reference := some reference }

def jobSearch (reference : Date) : Search Chain :=
  { name := "JobSearch"
    rulebook :=
      { rules :=
          [(dateRule jobDate reference).toRule reference,
            ChainRule.found "id" (Pattern.number "id") jobId] }
    fallback := some (Fallback.containing jobName)
    reporting := true }

def receiptSearch (reference : Date) : Search Chain :=
  { name := "ReceiptSearch"
    rulebook :=
      { rules :=
          [(dateRule checkDate reference).toRule reference,
            { dateRule postDate reference with
              label := some "posted", quoting := some Quoting.ansi }.toRule reference,
            ChainRule.found "amount" (Pattern.amount "amount") receiptAmount] }
    fallback := some (Fallback.verbatim checkNumber)
    reporting := true }

def taskSearch : Search Chain :=
  { name := "TaskSearch"
    rulebook :=
      { rules :=
          [ChainRule.labelled "category" "cat" (some "categories") categoryName,
            ChainRule.compared "priority" "prio" taskPriority,
            ChainRule.dated "due" taskDueDate] }
    fallback := some (Fallback.containing taskName)
    reporting := true }

def search (stock : Stock) (reference : Date) : Search Chain :=
  match stock with
  | jobs => jobSearch reference
  | receipts => receiptSearch reference
  | tasks => taskSearch

end Stock

end SearchQuery
