import NeoPG.Search.Safety

/-!
# Which keys an answer at the prompt fetches

An answer to `show_prompt` that does not quit lists record numbers separated by blanks and
commas.  `show_prompt` collects, in order, the tokens whose `atoi` lies in `1..numdesc`, re-asks
when there are none or more than `DIM (numarray) = 50`, and fetches the records they name with
one `keyserver_get`.  Before any of that, it tests `atoi` of the whole answer, which reads the
number at its head, and lets the search go on without fetching when that number is not a
record number: that is the prompt's `N)ext` choice, and it takes every answer whose head is no
record number, whatever follows the head.

`answerNumbers` is the list of valid numbers of an answer.  `collectNumbers_eq` computes the
collecting loop from it, and **`promptAnswer_selection`** is the whole answer: for every answer
that does not quit, the prompt fetches exactly `answerNumbers` when the head number is valid and
there are 1 to 50 of them, re-asks when there are none or too many, and fetches nothing,
without re-asking, when the head number is not valid, whatever follows it.
-/

namespace NeoPG

/-- The record numbers an answer lists, in order: the `atoi` values in `1..numdesc` of its tokens
split at blanks and commas. -/
def answerNumbers (longBits : Nat) (numdesc : Int) (answer : CStr) : List Int :=
  ((strsepTokens [' ', ','] answer).map (atoi longBits)).filter fun n => 1 ≤ n ∧ n ≤ numdesc

/-- The collecting loop keeps the valid numbers, in order, unless there are more than fit in
`numarray`. -/
lemma collectNumbers_eq (longBits : Nat) (numdesc : Int) :
    ∀ (toks : List CStr) (acc : List Int), acc.length ≤ numarrayDim →
      collectNumbers longBits numdesc toks acc =
        let v := (toks.map (atoi longBits)).filter fun n => 1 ≤ n ∧ n ≤ numdesc
        if acc.length + v.length ≤ numarrayDim then some (acc ++ v) else none
  | [], acc, h => by simp [collectNumbers, h]
  | tok :: rest, acc, h => by
    simp only [collectNumbers, List.map_cons]
    by_cases hv : 1 ≤ atoi longBits tok ∧ atoi longBits tok ≤ numdesc
    · rw [if_pos hv, List.filter_cons_of_pos (by simpa using hv), List.length_cons]
      by_cases hfull : numarrayDim ≤ acc.length
      · rw [if_pos hfull, if_neg (by omega)]
      · rw [if_neg hfull, collectNumbers_eq longBits numdesc rest (acc ++ [atoi longBits tok])
          (by simp only [List.length_append, List.length_singleton]; omega)]
        simp only [List.length_append, List.length_singleton, List.append_assoc,
          List.singleton_append, Nat.add_assoc, Nat.add_comm 1]
    · rw [if_neg hv, List.filter_cons_of_neg (by simpa using hv)]
      exact collectNumbers_eq longBits numdesc rest acc h

section Answer

variable {S : Type} (opts : SearchOpts) (env : SearchEnv S) (desc : Option DescArray)
  (numdesc : Int)

/-- **What an answer does.**  For every answer that does not start with `q`, `Q` or Ctrl-D:
when `atoi` of the answer is a record number, the prompt re-asks ("Too many keys selected")
when the answer lists more than 50 record numbers, re-asks when it lists none, and otherwise
fetches exactly the records it lists, in order; when `atoi` of the answer is not a record
number, it returns without fetching and without re-asking, whatever the rest of the answer
lists. -/
theorem promptAnswer_selection (answer : CStr) (s : Session)
    (again : Session → Except Fault (Session × Option GpgErr))
    (hq : answer.head? ≠ some 'q' ∧ answer.head? ≠ some 'Q' ∧
      answer.head? ≠ some '\x04') :
    promptAnswer opts env desc numdesc answer s again =
      if 1 ≤ atoi env.parse.longBits answer ∧ atoi env.parse.longBits answer ≤ numdesc then
        if numarrayDim < (answerNumbers env.parse.longBits numdesc answer).length then
          again (s.emit .tooMany)
        else if answerNumbers env.parse.longBits numdesc answer = [] then again s
        else getSelection opts env desc numdesc (answerNumbers env.parse.longBits numdesc answer) s
      else .ok (s, none) := by
  obtain ⟨hq, hQ, hd⟩ := hq
  unfold promptAnswer
  simp only [hd, if_false, hq, hQ, or_self]
  rw [collectNumbers_eq _ numdesc _ [] (by simp [numarrayDim])]
  simp only [List.length_nil, Nat.zero_add, List.nil_append]
  unfold answerNumbers
  by_cases hgate : 1 ≤ atoi env.parse.longBits answer ∧ atoi env.parse.longBits answer ≤ numdesc
  · rw [if_pos hgate, if_pos hgate]
    by_cases hmany : numarrayDim < (((strsepTokens [' ', ','] answer).map
        (atoi env.parse.longBits)).filter fun n => 1 ≤ n ∧ n ≤ numdesc).length
    · rw [if_neg (Nat.not_le.mpr hmany), if_pos hmany]
    · rw [if_pos (Nat.not_lt.mp hmany), if_neg hmany]
      split <;> simp_all
  · rw [if_neg hgate, if_neg hgate]

end Answer

/-- The answer `1 3` to a prompt over three records fetches records 1 and 3. -/
theorem promptAnswer_selection_twoRecords :
    promptAnswer (demoOpts false false 64) demoEnv none 3 "1 3".toList ⟨1, [], 0, 0, []⟩
        (fun s => .ok (s, some .canceled)) =
      getSelection (demoOpts false false 64) demoEnv none 3 [1, 3] ⟨1, [], 0, 0, []⟩ :=
  (promptAnswer_selection _ _ _ _ _ _ _ ⟨by decide, by decide, by decide⟩).trans rfl

/-- The answer `x,2` to a prompt over two records lists record 2, but its head number is `0`:
the prompt returns without fetching and without asking again, as for the `N)ext` choice. -/
theorem promptAnswer_selection_invalidHead :
    let s : Session := ⟨1, [], 0, 0, []⟩
    promptAnswer (demoOpts false false 64) demoEnv none 2 "x,2".toList s
        (fun s => .ok (s, some .canceled)) = .ok (s, none) ∧
      answerNumbers 64 2 "x,2".toList = [2] :=
  ⟨rfl, by decide⟩

end NeoPG
