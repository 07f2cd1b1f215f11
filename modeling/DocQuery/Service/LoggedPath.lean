import DocQuery.Service.Route

/-!
# Paths in the log

The log shows the path of a request as it stands in the full address of the request. There a path
begins with a slash, which is added to a path that has none; only an empty path stays empty, since
nothing has to be parted from the host. A question mark or a number sign would begin the next part
of the address, and a backslash might be taken for a slash, so these three are written as percent
escapes. Tabs, line feeds and carriage returns are left out of an address. Every other character is
shown as it is.

## Main definitions

* `Service.loggedChar`: what a character of a path is written as.
* `Service.loggedPath`: a path as the log shows it.

## Main results

* `Service.loggedPath_path`: the path of an address is shown as it is.
* `Service.head?_loggedPath`: a path that is not empty is shown with a slash at its start.
* `Service.loggedPath_empty`: an empty path is shown as it is.
* `Service.lineFeed_notMem_loggedPath`: a path is shown in one line.
-/

namespace DocQuery.Service

/-- What a character of a path is written as in the log. -/
def loggedChar : Char → List Char
  | '\t' => []
  | '\n' => []
  | '\r' => []
  | '?' => ['%', '3', 'F']
  | '#' => ['%', '2', '3']
  | '\\' => ['%', '5', 'C']
  | c => [c]

/-- A path as the log shows it. -/
def loggedPath (path : String) : String :=
  match path.toList with
  | [] => ""
  | '/' :: rest => String.ofList ('/' :: rest.flatMap loggedChar)
  | chars => String.ofList ('/' :: chars.flatMap loggedChar)

/-- The path of an address is shown as it is. -/
@[simp] theorem loggedPath_path (r : Route) : loggedPath r.path = r.path := by
  rcases r with _ | _ | _ | p <;> first | decide | (cases p <;> decide)

/-- An empty path is shown as it is. -/
@[simp] theorem loggedPath_empty : loggedPath "" = "" := by decide

/-- A path that is not empty is shown with a slash at its start. -/
theorem head?_loggedPath {path : String} (h : path ≠ "") :
    (loggedPath path).toList.head? = some '/' := by
  rw [loggedPath]
  split
  · rename_i hp
    exact absurd (String.toList_eq_nil_iff.1 hp) h
  · rw [String.toList_ofList, List.head?_cons]
  · rw [String.toList_ofList, List.head?_cons]

/-- No character is written with a line feed. -/
theorem lineFeed_notMem_loggedChar (c : Char) : '\n' ∉ loggedChar c := by
  unfold loggedChar
  split <;> simp_all [eq_comm]

/-- A path is shown in one line. -/
theorem lineFeed_notMem_loggedPath (path : String) : '\n' ∉ (loggedPath path).toList := by
  rw [loggedPath]
  split <;> simp [lineFeed_notMem_loggedChar]

end DocQuery.Service
