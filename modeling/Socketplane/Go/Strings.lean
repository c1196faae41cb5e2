import Mathlib.Data.List.TakeDrop

/-! # Text functions of Go's `strings`, `regexp` and `strconv` packages

`strings.HasPrefix`, `strings.Trim`, `Split` of a `regexp` that is one literal
character, which is what the daemon compiles (`"/"` and `"="`), and the decimal
conversions of `strconv`. Go indexes
strings by byte; a text is a list of characters here, which cuts at the same
places for the ASCII separators used, since no byte of a multi-byte character is
ASCII.
-/

namespace Regexp

/-- `regexp.MustCompile(sep).Split(s, n)` on the characters of `s`, for a one-character
literal `sep` and `n > 0`: the pieces of `s` between occurrences of `sep`, at most
`n` of them, the last one holding the rest of the text. -/
def Split.pieces (sep : Char) : Nat → List Char → List (List Char)
  | 0, _ => []
  | 1, s => [s]
  | n + 2, s =>
      match s.span (· ≠ sep) with
      | (piece, _ :: rest) => piece :: pieces sep (n + 1) rest
      | (piece, []) => [piece]

def Split (sep : Char) (s : String) (n : Nat) : List String :=
  (Split.pieces sep n s.toList).map String.ofList

variable {sep : Char}

theorem span_of_not_mem {s : List Char} (h : sep ∉ s) : s.span (· ≠ sep) = (s, []) := by
  rw [List.span_eq_takeWhile_dropWhile]
  induction s with
  | nil => rfl
  | cons c cs ih =>
      have hc : c ≠ sep := fun hc => h (by simp [hc])
      have hrest : sep ∉ cs := fun hx => h (by simp [hx])
      obtain ⟨h₁, h₂⟩ := Prod.mk.inj (ih hrest)
      have hp : decide (c ≠ sep) = true := decide_eq_true hc
      rw [List.takeWhile_cons, List.dropWhile_cons, if_pos hp, if_pos hp, h₁, h₂]

theorem span_append_sep {piece rest : List Char} (h : sep ∉ piece) :
    (piece ++ sep :: rest).span (· ≠ sep) = (piece, sep :: rest) := by
  rw [List.span_eq_takeWhile_dropWhile]
  induction piece with
  | nil =>
      rw [List.nil_append, List.takeWhile_cons, List.dropWhile_cons, if_neg (by simp),
        if_neg (by simp)]
  | cons c cs ih =>
      have hc : c ≠ sep := fun hc => h (by simp [hc])
      have hrest : sep ∉ cs := fun hx => h (by simp [hx])
      obtain ⟨h₁, h₂⟩ := Prod.mk.inj (ih hrest)
      have hp : decide (c ≠ sep) = true := decide_eq_true hc
      rw [List.cons_append, List.takeWhile_cons, List.dropWhile_cons, if_pos hp, if_pos hp, h₁, h₂]

theorem takeWhile_append_sep {piece rest : List Char} (h : sep ∉ piece) :
    (piece ++ sep :: rest).takeWhile (· ≠ sep) = piece := by
  have hspan : (piece ++ sep :: rest).span (· ≠ sep) = (piece, sep :: rest) := span_append_sep h
  rw [List.span_eq_takeWhile_dropWhile] at hspan
  exact (Prod.mk.inj hspan).1

theorem takeWhile_of_not_mem {s : List Char} (h : sep ∉ s) : s.takeWhile (· ≠ sep) = s := by
  have hspan := span_of_not_mem h
  rw [List.span_eq_takeWhile_dropWhile] at hspan
  exact (Prod.mk.inj hspan).1

theorem pieces_of_not_mem {s : List Char} (h : sep ∉ s) {n : Nat} (hn : 0 < n) :
    Split.pieces sep n s = [s] := by
  match n, hn with
  | 1, _ => rfl
  | n + 2, _ => rw [Split.pieces, span_of_not_mem h]

theorem pieces_append_sep {piece rest : List Char} (h : sep ∉ piece) (n : Nat) :
    Split.pieces sep (n + 2) (piece ++ sep :: rest) = piece :: Split.pieces sep (n + 1) rest := by
  rw [Split.pieces, span_append_sep h]

theorem getElem?_zero_pieces (n : Nat) (s : List Char) :
    (Split.pieces sep (n + 2) s)[0]? = some (s.takeWhile (· ≠ sep)) := by
  rw [Split.pieces, List.span_eq_takeWhile_dropWhile]
  split
  · next h => obtain ⟨rfl, -⟩ := Prod.mk.inj h; rfl
  · next h => obtain ⟨rfl, -⟩ := Prod.mk.inj h; rfl

end Regexp

namespace Strings

/-- Whether `s` begins with `pre`. -/
def HasPrefix (s pre : String) : Bool := pre.toList.isPrefixOf s.toList

/-- `s` without the leading and trailing characters of `cutset`. -/
def Trim (s cutset : String) : String :=
  String.ofList ((s.toList.dropWhile (· ∈ cutset.toList)).reverse.dropWhile
    (· ∈ cutset.toList)).reverse

end Strings

namespace Strconv

/-- `strconv.Itoa`: `i` in decimal, with a leading `-` when negative. -/
def Itoa (i : Int) : String := toString i

/-- `strconv.Atoi` with its error dropped, as the daemon calls it: the value of an
optionally negative decimal text, `0` for any other text. -/
def Atoi (s : String) : Int := s.toInt?.getD 0

end Strconv
