import Provision.Json.Reader
import Provision.Proofs.Json.Lexing

/-!
Reading back what the printer writes. On the tokens of a document the reader either delivers the
document or, exactly when the containers around its innermost value are too many, refuses it.
-/

namespace Provision.Json

namespace Reader

theorem run_cons {state : State} {t : Token} (next : State) (rest : List Token)
    (h : step state t = some next) : run state (t :: rest) = run next rest := by
  simp [run, h]

theorem run_cons_eq_none {state : State} {t : Token} (rest : List Token)
    (h : step state t = none) : run state (t :: rest) = none := by
  simp [run, h]

/-- The first item of an array is read like any other, since no item begins with the end of the
array. -/
theorem run_firstItem (j : Json) (rest : List Json) (stack : List Frame) (after : List Token) :
    run (.firstItem stack) (tokensOfItemsBefore after (j :: rest)) =
      run (.value (.array [] :: stack)) (tokensOfItemsBefore after (j :: rest)) := by
  cases rest <;> cases j <;> rfl

theorem run_firstKey (member : String × Json) (rest : List (String × Json)) (stack : List Frame)
    (after : List Token) :
    run (.firstKey stack) (tokensOfMembersBefore after (member :: rest)) =
      run (.nextKey [] stack) (tokensOfMembersBefore after (member :: rest)) := by
  cases rest <;> rfl

/-- A container has room when there is room for its first content and for the others. -/
theorem room_for_both {α : Type} (around first others : Nat) (result : Option α) :
    (if around + 1 + first ≤ maxDepth then
      if around + (others + 1) ≤ maxDepth then result else none
      else none) =
      if around + (max first others + 1) ≤ maxDepth then result else none := by
  by_cases room : around + (max first others + 1) ≤ maxDepth
  · rw [if_pos room, if_pos (by omega), if_pos (by omega)]
  · rw [if_neg room]
    split
    · rw [if_neg (by omega)]
    · rfl

theorem run_scalar {j : Json} {t : Token} {stack : List Frame} (after : List Token)
    (room : stack.length ≤ maxDepth) (flat : j.depth = 0)
    (h : step (.value stack) t = some (deliver j stack)) :
    run (.value stack) (t :: after) =
      if stack.length + j.depth ≤ maxDepth then run (deliver j stack) after else none := by
  rw [flat, Nat.add_zero, if_pos room]
  exact run_cons _ after h

mutual

/-- The reader delivers a document where there is room for its containers, and refuses it where
there is not. -/
theorem run_tokensBefore (j : Json) (stack : List Frame) (after : List Token)
    (room : stack.length ≤ maxDepth) :
    run (.value stack) (tokensBefore after j) =
      if stack.length + j.depth ≤ maxDepth then run (deliver j stack) after else none := by
  cases j with
  | null => exact run_scalar after room rfl rfl
  | boolean b => exact run_scalar after room rfl rfl
  | number n => exact run_scalar after room rfl rfl
  | string s => exact run_scalar after room rfl rfl
  | array items =>
    rw [tokensBefore, depth]
    by_cases more : stack.length < maxDepth
    · rw [run_cons (.firstItem stack) _ (by simp [step, begin?, more])]
      cases items with
      | nil =>
        rw [depthOfAll, if_pos (by omega)]
        exact run_cons _ after rfl
      | cons j rest =>
        rw [run_firstItem]
        exact run_tokensOfItems j rest [] stack after more
    · rw [run_cons_eq_none _ (by simp [step, begin?, more]), if_neg (by omega)]
  | object members =>
    rw [tokensBefore, depth]
    by_cases more : stack.length < maxDepth
    · rw [run_cons (.firstKey stack) _ (by simp [step, begin?, more])]
      cases members with
      | nil =>
        rw [depthOfMembers, if_pos (by omega)]
        exact run_cons _ after rfl
      | cons member rest =>
        rw [run_firstKey]
        exact run_tokensOfMembers member rest [] stack after more
    · rw [run_cons_eq_none _ (by simp [step, begin?, more]), if_neg (by omega)]
termination_by sizeOf j

theorem run_tokensOfItems (j : Json) (rest done : List Json) (stack : List Frame)
    (after : List Token) (room : stack.length < maxDepth) :
    run (.value (.array done :: stack)) (tokensOfItemsBefore (.closeArray :: after) (j :: rest)) =
      if stack.length + (depthOfAll (j :: rest) + 1) ≤ maxDepth then
        run (deliver (.array (done.reverse ++ j :: rest)) stack) after
      else none := by
  cases rest with
  | nil =>
    rw [tokensOfItemsBefore, run_tokensBefore j (.array done :: stack) _ room]
    have bound : (Frame.array done :: stack).length + j.depth ≤ maxDepth ↔
        stack.length + (depthOfAll [j] + 1) ≤ maxDepth := by
      simp only [List.length_cons, depthOfAll]
      omega
    simp only [bound]
    rw [deliver, run_cons (deliver (.array (j :: done).reverse) stack) after rfl,
      List.reverse_cons]
  | cons next more =>
    rw [tokensOfItemsBefore, run_tokensBefore j (.array done :: stack) _ room, deliver,
      run_cons (.value (.array (j :: done) :: stack)) _ rfl,
      run_tokensOfItems next more (j :: done) stack after room, List.reverse_cons,
      List.append_assoc, List.singleton_append]
    · exact room_for_both stack.length j.depth (depthOfAll (next :: more)) _
    · simp
termination_by sizeOf (j :: rest)

theorem run_tokensOfMembers (member : String × Json) (rest done : List (String × Json))
    (stack : List Frame) (after : List Token) (room : stack.length < maxDepth) :
    run (.nextKey done stack) (tokensOfMembersBefore (.closeObject :: after) (member :: rest)) =
      if stack.length + (depthOfMembers (member :: rest) + 1) ≤ maxDepth then
        run (deliver (.object (done.reverse ++ member :: rest)) stack) after
      else none := by
  obtain ⟨key, j⟩ := member
  cases rest with
  | nil =>
    rw [tokensOfMembersBefore, run_cons (.colon done key stack) _ rfl,
      run_cons (.value (.object done key :: stack)) _ rfl,
      run_tokensBefore j (.object done key :: stack) _ room]
    have bound : (Frame.object done key :: stack).length + j.depth ≤ maxDepth ↔
        stack.length + (depthOfMembers [(key, j)] + 1) ≤ maxDepth := by
      simp only [List.length_cons, depthOfMembers]
      omega
    simp only [bound]
    rw [deliver, run_cons (deliver (.object ((key, j) :: done).reverse) stack) after rfl,
      List.reverse_cons]
  | cons next more =>
    rw [tokensOfMembersBefore, run_cons (.colon done key stack) _ rfl,
      run_cons (.value (.object done key :: stack)) _ rfl,
      run_tokensBefore j (.object done key :: stack) _ room, deliver,
      run_cons (.nextKey ((key, j) :: done) stack) _ rfl,
      run_tokensOfMembers next more ((key, j) :: done) stack after room, List.reverse_cons,
      List.append_assoc, List.singleton_append]
    · exact room_for_both stack.length j.depth (depthOfMembers (next :: more)) _
    · simp
termination_by sizeOf (member :: rest)

end

end Reader

/-- A printed document is read back as it was, or refused when its arrays and objects are nested
too deep. -/
theorem read?_print (j : Json) (integral : j.IsIntegral) :
    read? j.print = if j.depth ≤ maxDepth then some j else none := by
  rw [read?, lex_print j integral, Option.bind_some, ofTokens?,
    Reader.run_tokensBefore j [] [] (Nat.zero_le _), List.length_nil, Nat.zero_add]
  by_cases room : j.depth ≤ maxDepth
  · simp only [if_pos room]
    rfl
  · simp only [if_neg room]

end Provision.Json
