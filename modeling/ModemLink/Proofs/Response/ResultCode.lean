import ModemLink.Response

/-!
# Final result codes

The token lists of a table that `TokenTable.validate` accepts mean what they say: a line is a final
result code if it is no longer than a line may be and begins with a token (`matchesAny_iff`), and no
line is a result code both for success and for failure (`isError_eq_false_of_isSuccess`).
-/

namespace ModemLink.TokenTable

variable {Handler : Type} {table : TokenTable Handler} {tokens requestTokens : List Text}
  {token line : Text}

theorem size_le_of_isPrefix (h : token <+: line) : token.size ≤ line.size := by
  obtain ⟨rest, rfl⟩ := h
  rw [Text.size_append]
  exact Nat.le_add_right _ _

/-- Whether a line that is not too long begins with one of the tokens. -/
def Opens (tokens : List Text) (line : Text) : Prop :=
  line.size ≤ Limits.line ∧ ∃ token ∈ tokens, token <+: line

instance (tokens : List Text) (line : Text) : Decidable (Opens tokens line) :=
  inferInstanceAs (Decidable (_ ∧ _))

theorem opens_append {first second : List Text} :
    Opens (first ++ second) line ↔ Opens first line ∨ Opens second line := by
  simp only [Opens, List.mem_append, or_and_right, exists_or, and_or_left]

/-- Empty tokens match nothing, and neither do tokens longer than a line, so the others are all that
there is to say. -/
theorem matchesAny_iff (hne : ∀ token ∈ tokens, token ≠ []) :
    matchesAny line tokens = true ↔ Opens tokens line := by
  -- a line that is not bounded is empty or too long, and no token begins it
  by_cases hbounded : line.Bounded
  · simp only [matchesAny, Text.startsWithAny, Text.guarded, hbounded, if_true, List.any_eq_true,
      Bool.and_eq_true, decide_eq_true_eq, Text.beginsWith_iff]
    refine ⟨fun ⟨token, hmem, _, hprefix⟩ => ⟨hbounded.2, token, hmem, hprefix⟩, ?_⟩
    rintro ⟨hsize, token, hmem, hprefix⟩
    exact ⟨token, hmem, ⟨hne token hmem, Nat.le_trans (size_le_of_isPrefix hprefix) hsize⟩, hprefix⟩
  · simp only [matchesAny, Text.startsWithAny, Text.guarded, hbounded, if_false]
    refine ⟨nofun, ?_⟩
    rintro ⟨hsize, token, hmem, hprefix⟩
    refine absurd ⟨?_, hsize⟩ hbounded
    rintro rfl
    exact hne token hmem (List.prefix_nil.mp hprefix)

/-! ## Tables that are accepted -/

theorem checkSuccesses_eq_ok :
    table.checkSuccesses tokens = .ok () ↔
      ∀ success ∈ tokens, success ≠ [] ∧ ∀ error ∈ table.errors, overlap success error = false := by
  unfold checkSuccesses
  split
  next hall => simpa [List.all_eq_true] using hall
  next hall =>
    refine iff_of_false nofun fun h => hall ?_
    simpa [List.all_eq_true] using h

/-- What an accepted table is known to be. -/
theorem of_validate (h : table.validate = .ok ()) :
    (∀ error ∈ table.errors, error ≠ []) ∧
      table.checkSuccesses table.successes = .ok () ∧
      table.checkSuccesses table.extraSuccesses = .ok () := by
  unfold validate at h
  split at h
  · cases h
  split at h
  · cases h
  next hany =>
    split at h
    · cases h
    -- the check for empty tokens is about all lists, so about the error tokens, too
    have herrors : ∀ error ∈ table.errors, error ≠ [] := by
      rintro error hmem rfl
      refine hany (List.any_eq_true.mpr ⟨[], ?_, by simp⟩)
      simp [TokenTable.tokens, hmem]
    cases hsuccesses : table.checkSuccesses table.successes with
    | error failure =>
        rw [hsuccesses] at h
        cases h
    | ok _ =>
        rw [hsuccesses] at h
        exact ⟨herrors, rfl, h⟩

variable (hvalid : table.validate = .ok ())
  (htokens : table.checkSuccesses requestTokens = .ok ())

include hvalid

theorem isError_iff : table.isError line = true ↔ Opens table.errors line :=
  matchesAny_iff (of_validate hvalid).1

include htokens

/-- Every success token is checked. -/
theorem checkSuccesses_all :
    table.checkSuccesses (table.extraSuccesses ++ requestTokens ++ table.successes) = .ok () := by
  obtain ⟨-, hsuccesses, hextra⟩ := of_validate hvalid
  rw [checkSuccesses_eq_ok] at *
  simp only [List.forall_mem_append]
  exact ⟨⟨hextra, htokens⟩, hsuccesses⟩

theorem isSuccess_iff :
    table.isSuccess requestTokens line = true ↔
      Opens (table.extraSuccesses ++ requestTokens ++ table.successes) line := by
  have hall := checkSuccesses_eq_ok.mp (checkSuccesses_all hvalid htokens)
  simp only [List.forall_mem_append] at hall
  rw [isSuccess, Bool.or_eq_true, Bool.or_eq_true,
    matchesAny_iff fun token hmem => (hall.1.1 token hmem).1,
    matchesAny_iff fun token hmem => (hall.1.2 token hmem).1,
    matchesAny_iff fun token hmem => (hall.2 token hmem).1, opens_append, opens_append]

/-- No line is both a success and a failure, so it does not matter which is looked for first. -/
theorem isError_eq_false_of_isSuccess (h : table.isSuccess requestTokens line = true) :
    table.isError line = false := by
  obtain ⟨-, success, hsuccess, hbegins⟩ := (isSuccess_iff hvalid htokens).mp h
  refine Bool.eq_false_iff.mpr fun herror => ?_
  obtain ⟨-, error, hmem, hother⟩ := (isError_iff hvalid).mp herror
  -- of two tokens that the line begins with, one begins with the other
  have hoverlap : overlap success error = true := by
    rw [overlap, Bool.or_eq_true, Text.beginsWith_iff, Text.beginsWith_iff]
    exact List.prefix_or_prefix_of_prefix hother hbegins
  have hall := checkSuccesses_eq_ok.mp (checkSuccesses_all hvalid htokens) success hsuccess
  rw [hall.2 error hmem] at hoverlap
  cases hoverlap

end ModemLink.TokenTable
