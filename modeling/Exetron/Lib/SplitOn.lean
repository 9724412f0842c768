import Mathlib.Data.String.Basic

/-!
# Splitting a text

`String.splitOn` at a separator of one character is the splitting of the list of characters.
-/

namespace Exetron.Lib

open String

/-- What is read and unread of a text is at the positions that the lengths give. -/
theorem splitOnAux_single (sep : Char) (l m r : List Char) (parts : List String) :
    String.splitOnAux (ofList (l ++ m ++ r)) (ofList [sep]) ⟨utf8Len l⟩ ⟨utf8Len l + utf8Len m⟩ 0
        parts =
      parts.reverse ++ (List.splitOnPPrepend (· == sep) r m.reverse).map ofList := by
  have sepGet : Pos.Raw.get (ofList [sep]) 0 = sep := by simpa using get_of_valid [] [sep]
  have sepNext : Pos.Raw.next (ofList [sep]) 0 = ⟨utf8Len [sep]⟩ := by
    simpa using next_of_valid [] sep []
  unfold String.splitOnAux
  simp only [List.append_assoc, atEnd_iff, rawEndPos_ofList, utf8Len_append, Pos.Raw.mk_le_mk,
    Nat.add_le_add_iff_left, (by omega : utf8Len m + utf8Len r ≤ utf8Len m ↔ utf8Len r = 0),
    utf8Len_eq_zero, List.reverse_cons]
  split
  · rename_i ended
    subst ended
    have last := extract_of_valid l m []
    simpa using last
  · rename_i more
    obtain ⟨c, r, rfl⟩ := List.exists_cons_of_ne_nil more
    have get : Pos.Raw.get (ofList (l ++ (m ++ c :: r))) ⟨utf8Len l + utf8Len m⟩ = c := by
      simpa [-ofList_append] using get_of_valid (l ++ m) (c :: r)
    have next : Pos.Raw.next (ofList (l ++ (m ++ c :: r))) ⟨utf8Len l + utf8Len m⟩ =
        ⟨utf8Len l + utf8Len m + c.utf8Size⟩ := by
      simpa [-ofList_append] using next_of_valid (l ++ m) c r
    have part : Pos.Raw.extract (ofList (l ++ (m ++ c :: r))) ⟨utf8Len l⟩
        ⟨utf8Len l + utf8Len m⟩ = ofList m := by
      simpa [-ofList_append] using extract_of_valid l m (c :: r)
    rw [get, sepGet]
    by_cases here : c = sep
    · subst here
      have back : Pos.Raw.unoffsetBy ⟨utf8Len l + utf8Len m + c.utf8Size⟩ ⟨utf8Len [c]⟩ =
          ⟨utf8Len l + utf8Len m⟩ := by
        simp [Pos.Raw.unoffsetBy]
      simp only [BEq.rfl, sepNext, next, if_pos, back, part]
      have rest := splitOnAux_single c (l ++ m ++ [c]) [] r (ofList m :: parts)
      simpa [Nat.add_assoc, List.splitOnPPrepend_cons_eq_if] using rest
    · have back : Pos.Raw.unoffsetBy ⟨utf8Len l + utf8Len m⟩ 0 = ⟨utf8Len l + utf8Len m⟩ := by
        simp [Pos.Raw.unoffsetBy]
      simp only [beq_iff_eq, here, if_false, back, next]
      have rest := splitOnAux_single sep l (m ++ [c]) r parts
      simpa [Nat.add_assoc, List.splitOnPPrepend_cons_eq_if, here] using rest
termination_by r.length

theorem splitOn_single (s : String) (sep : Char) :
    s.splitOn (ofList [sep]) = (s.toList.splitOn sep).map ofList := by
  have written : (ofList [sep] == "") = false := by simp
  have whole := splitOnAux_single sep [] [] s.toList []
  rw [String.splitOn, written, List.splitOn]
  simpa using whole

end Exetron.Lib
