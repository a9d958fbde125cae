import LargeFiles.Http.Url
import LargeFiles.Proofs.List
import LargeFiles.Proofs.Text.Percent

/-!
# Queries

A query is written with an ampersand between its parts, each of which is a name, an equals sign and
a value.

* `query_withQuery`          what is added to a query goes after what was given before;
* `eq_of_query_withQuery`    the value that is given last can be told from the query.
-/

namespace LargeFiles.Http.Url

/-- A name and a value of a query. -/
def writePair (pair : String × String) : List Char :=
  Text.Percent.encodeForm pair.1.toList ++ ['='] ++ Text.Percent.encodeForm pair.2.toList

/-- The parts of a query with the signs between them. -/
def joinQuery : List (List Char) → Option String
  | [] => none
  | all => some (String.ofList (List.intercalate ['&'] all))

/-- The parts of a query are joined by ampersands. -/
theorem joinQuery_of_ne_nil {parts : List (List Char)} (some : parts ≠ []) :
    joinQuery parts = .some (String.ofList (List.intercalate ['&'] parts)) := by
  cases parts with
  | nil => exact absurd rfl some
  | cons first rest => rfl

/-- Pairs are added after the query that is there, unless it is empty. -/
theorem query_withQuery (url : Url) (pairs : List (String × String)) :
    (url.withQuery pairs).query =
      joinQuery ((url.query.filter (!·.isEmpty)).toList.map String.toList ++
        pairs.map writePair) := by
  have written : (pairs.map fun pair => Text.Percent.encodeForm pair.1.toList ++ ['='] ++
      Text.Percent.encodeForm pair.2.toList) = pairs.map writePair := rfl
  simp only [withQuery, written]
  cases (url.query.filter (!·.isEmpty)).toList.map String.toList ++ pairs.map writePair with
  | nil => rfl
  | cons part parts => rfl

/-- What a query ends in can be told from the query. -/
theorem joinQuery_concat_inj {parts : List (List Char)} {a b : List Char}
    (same : joinQuery (parts ++ [a]) = joinQuery (parts ++ [b])) : a = b := by
  rw [joinQuery_of_ne_nil (by simp), joinQuery_of_ne_nil (by simp), Option.some.injEq,
    String.ofList_inj] at same
  by_cases none : parts = []
  · simpa [none, List.intercalate_singleton] using same
  · rw [intercalate_concat none, intercalate_concat none] at same
    simpa using same

/-- A query with one more part is another one. -/
theorem joinQuery_concat_ne (parts : List (List Char)) (a : List Char) :
    joinQuery (parts ++ [a]) ≠ joinQuery parts := by
  rw [joinQuery_of_ne_nil (by simp)]
  by_cases none : parts = []
  · simp [none, joinQuery]
  · rw [joinQuery_of_ne_nil none, intercalate_concat none, Ne, Option.some.injEq,
      String.ofList_inj]
    intro same
    -- One more part makes the query longer, by the sign before it at least.
    have length := congrArg List.length same
    simp at length

/-- The value of the last name in a query, if it is given, can be told from the query. -/
theorem eq_of_query_withQuery {url : Url} {pairs : List (String × String)} {name : String}
    {a b : Option String}
    (same : (url.withQuery (pairs ++ a.toList.map fun value => (name, value))).query =
      (url.withQuery (pairs ++ b.toList.map fun value => (name, value))).query) : a = b := by
  simp only [query_withQuery, List.map_append, ← List.append_assoc] at same
  generalize _ ++ pairs.map writePair = front at same
  cases a with
  | none =>
    cases b with
    | none => rfl
    | some b =>
      simp only [Option.toList_none, List.map_nil, List.append_nil] at same
      -- With a value the query has one part more.
      exact absurd same.symm (joinQuery_concat_ne front (writePair (name, b)))
  | some a =>
    cases b with
    | none =>
      simp only [Option.toList_none, List.map_nil, List.append_nil] at same
      exact absurd same (joinQuery_concat_ne front (writePair (name, a)))
    | some b =>
      -- The last part is the same, and so is what was encoded there.
      have written : writePair (name, a) = writePair (name, b) := joinQuery_concat_inj same
      have values := Text.Percent.encodeForm_injective (List.append_cancel_left written)
      exact congrArg some (String.toList_injective values)

end LargeFiles.Http.Url
