import ModemLink.Text.Basic

/-!
# Fields

A response carries its values as fields between delimiters.  A reader takes one field after the
other and gets the rest of the text with each.  Taking a field of exhausted text is an error: that
is how a reader tells a missing field from an empty one.
-/

namespace ModemLink.Text

/-- Why no field could be taken. -/
inductive FieldError where
  /-- There is no delimiter to look for, or the text is empty or too long. -/
  | badParameter
  /-- The rest would begin inside the delimiter, because that is longer than one byte. -/
  | insideDelimiter
  deriving DecidableEq, Repr

/-- The text before the first delimiter. -/
def beforeDelimiter (delimiters : List Char) (s : Text) : Text :=
  s.takeWhile fun c => !delimiters.contains c

/-- The text from the first delimiter on; empty if there is none. -/
def fromDelimiter (delimiters : List Char) (s : Text) : Text :=
  s.dropWhile fun c => !delimiters.contains c

/-- Cutting at the first delimiter loses nothing. -/
theorem beforeDelimiter_append_fromDelimiter (delimiters : List Char) (s : Text) :
    s.beforeDelimiter delimiters ++ s.fromDelimiter delimiters = s :=
  List.takeWhile_append_dropWhile

/-- Take the field before the first of `delimiters`.  The rest begins one byte after the start of
that delimiter.  Without any, the whole text is the last field. -/
def takeFieldBefore (delimiters : List Char) (s : Text) : Except FieldError (Text × Text) :=
  if delimiters = [] ∨ ¬ s.Bounded then
    .error .badParameter
  else
    match s.fromDelimiter delimiters with
    | [] => .ok (s, [])
    | delimiter :: rest =>
        if delimiter.utf8Size = 1 then .ok (s.beforeDelimiter delimiters, rest)
        else .error .insideDelimiter

def takeField (s : Text) : Except TextError (Text × Text) :=
  s.guarded <| match s.fromDelimiter [','] with
    | [] => .ok (s, [])
    | _ :: rest => .ok (s.beforeDelimiter [','], rest)

/-- The comma is one byte long, so the rest never begins inside of it. -/
theorem takeField_eq_takeFieldBefore (s : Text) :
    s.takeField = (s.takeFieldBefore [',']).mapError fun _ => .badParameter := by
  unfold takeField takeFieldBefore guarded
  by_cases h : s.Bounded
  · simp only [h, if_true, not_true, or_false, List.cons_ne_nil, if_false]
    cases hd : s.fromDelimiter [','] with
    | nil => rfl
    | cons d rest =>
      have hcomma : d = ',' := by
        have := List.head?_dropWhile_not (fun c => !([','] : List Char).contains c) s
        unfold fromDelimiter at hd
        rw [hd] at this
        simpa using this
      subst hcomma
      rfl
  · rw [if_neg h, if_pos (.inr h)]
    rfl

end ModemLink.Text
