import Conformance.Files.Path
import Mathlib.Data.String.Basic

/-!
# The segments of a path

The text of a path is cut at its slashes. What the pieces are is said in terms of the list of its
characters, so that the segments of a path that is given can be computed.

## Main statements

- `Path.segments_eq` — the segments of a path
-/

namespace Conformance

namespace Path

open String

theorem utf8Len_concat (l : List Char) (c : Char) : utf8Len (l ++ [c]) = utf8Len l + c.utf8Size := by
  rw [utf8Len_append, utf8Len_cons, utf8Len_nil, Nat.zero_add]

/-- What is between the slashes in the rest of a text, where some pieces are done and a part of the next one
has been read. -/
theorem splitOnAux_slash (l m r : List Char) (done : List String) :
    splitOnAux (ofList (l ++ m ++ r)) "/" ⟨utf8Len l⟩ ⟨utf8Len (l ++ m)⟩ 0 done =
      done.reverse ++ (List.splitOnPPrepend (· == '/') r m.reverse).map ofList := by
  -- the induction is on what is still to be read: `l` is done, and `m` is the part of the next piece
  induction r generalizing l m done with
  | nil =>
    rw [splitOnAux, if_pos ((atEnd_of_valid _ _).mpr rfl), utf8Len_append]
    dsimp only
    rw [extract_of_valid]
    simp
  | cons c r ih =>
    have hslash : Pos.Raw.get "/" 0 = '/' := by decide +kernel
    have hmore : ¬ Pos.Raw.atEnd (ofList (l ++ m ++ c :: r)) ⟨utf8Len (l ++ m)⟩ = true :=
      mt (atEnd_of_valid (l ++ m) (c :: r)).mp (List.cons_ne_nil c r)
    have hget : Pos.Raw.get (ofList (l ++ m ++ c :: r)) ⟨utf8Len (l ++ m)⟩ = c := get_of_valid ..
    have hnext : Pos.Raw.next (ofList (l ++ m ++ c :: r)) ⟨utf8Len (l ++ m)⟩ =
        ⟨utf8Len (l ++ m ++ [c])⟩ := by
      rw [utf8Len_concat]
      exact next_of_valid ..
    rw [splitOnAux, if_neg hmore, hget, hslash]
    by_cases hc : c = '/'
    · subst hc
      have hpast : Pos.Raw.next "/" 0 = ⟨1⟩ := by decide +kernel
      have hend : Pos.Raw.atEnd "/" ⟨1⟩ = true := by decide +kernel
      have hback : Pos.Raw.unoffsetBy ⟨utf8Len (l ++ m ++ ['/'])⟩ ⟨1⟩ = ⟨utf8Len l + utf8Len m⟩ := by
        rw [utf8Len_concat, utf8Len_append]
        rfl
      have hrest := ih (l ++ m ++ ['/']) [] (ofList m :: done)
      rw [List.append_nil, List.append_assoc (l ++ m), List.singleton_append] at hrest
      rw [if_pos (beq_self_eq_true _), hnext, hpast]
      dsimp only
      rw [if_pos hend, hback, extract_of_valid, hrest, List.splitOnPPrepend_cons_pos (by rfl)]
      simp
    · have hne : (c == '/') = false := by simpa using hc
      have hrest := ih l (m ++ [c]) done
      rw [← List.append_assoc, List.append_assoc (l ++ m), List.singleton_append] at hrest
      rw [if_neg (Bool.eq_false_iff.mp hne), List.splitOnPPrepend_cons_neg (p := (· == '/')) hne]
      have hsame : Pos.Raw.unoffsetBy ⟨utf8Len (l ++ m)⟩ 0 = ⟨utf8Len (l ++ m)⟩ := rfl
      rw [hsame, hnext, hrest]
      simp

/-- The segments of a path are the nonempty texts between its slashes. -/
theorem segments_eq (path : String) : segments path =
    ((path.toList.splitOnP (· == '/')).map ofList).filter fun s => !s.isEmpty := by
  have hsplit := splitOnAux_slash [] [] path.toList []
  have hlist : ofList ([] ++ [] ++ path.toList) = path := ofList_toList
  rw [hlist] at hsplit
  unfold segments splitOn
  rw [if_neg (by decide)]
  exact congrArg _ hsplit

end Path

end Conformance
