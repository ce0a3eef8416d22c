import NeoPG.Search.Keyrec

/-!
# Decoding a user id in place

A `uid:` line carries its user id %-encoded.  `parse_keyrec` decodes it where it stands: `tok`
reads the field and `userid[i]` writes over it, since "de-%-encoding is always smaller than the
original string".  The loop is

    while (*tok)
      if (tok[0] == '%' && tok[1] && tok[2]) { userid[i] = hextobyte or '?'; i++; tok += 3; }
      else userid[i++] = *tok++;

and it is modelled here as a step on `UidDecode`: the bytes from `userid` on, the write index
`i`, and the read offset `j = tok - userid`.  `Keyrec.lean` describes the decoding out of place,
as `percentDecode`; this module proves that the loop computes it.

`UidDecode.Inv` is the loop invariant: the write index never passes the read offset, the bytes
from the read offset on are still the field's, and the bytes written, followed by the decoding of
the bytes still to read, are the decoding of the whole field.  `uidDecodeStep_inv` is the step
lemma and `uidDecodeRun_inv` the run lemma.  **`uidDecode_inPlace`** is the result: no state of
the loop has `i > j`, so no write lands on a byte still to be read, and after at most
`strlen (tok)` turns the loop stops at the terminator with `i <= strlen (tok)` and
`userid[0..i)` the out-of-place decoding.
-/

namespace NeoPG

/-- The byte an escape `%ab` becomes: `hextobyte`'s, or `?` when it returns `-1`. -/
def escapeByte (a b : Char) : Char :=
  match hextobyte a b with
  | some c => Char.ofNat c
  | none => '?'

@[simp] lemma percentDecode_nil : percentDecode [] = [] := rfl

lemma percentDecode_escape (a b : Char) (rest : CStr) :
    percentDecode ('%' :: a :: b :: rest) = escapeByte a b :: percentDecode rest := rfl

/-- A byte that does not start an escape with two bytes after it is copied. -/
lemma percentDecode_copy {c : Char} {rest : CStr} (h : c = '%' → rest.length < 2) :
    percentDecode (c :: rest) = c :: percentDecode rest := by
  by_cases hc : c = '%'
  · subst hc
    match rest, h rfl with
    | [], _ | [_], _ => rfl
  · rw [percentDecode.eq_2]
    intro _ _ _ h'
    exact absurd h' hc

/-! ## The loop -/

/-- The loop's state: the bytes from `userid` on, the write index `i`, and the read offset
`tok - userid`. -/
structure UidDecode where
  buf : List Char
  i : Nat
  j : Nat

namespace UidDecode

/-- `tok[k]`. -/
def tok (s : UidDecode) (k : Nat) : Char := (s.buf.drop s.j).getD k '\x00'

/-- One turn of the loop; `none` when `*tok` is the terminator and the loop stops. -/
def step (s : UidDecode) : Option UidDecode :=
  if s.tok 0 = '\x00' then none
  else if s.tok 0 = '%' ∧ s.tok 1 ≠ '\x00' ∧ s.tok 2 ≠ '\x00' then
    some ⟨s.buf.set s.i (escapeByte (s.tok 1) (s.tok 2)), s.i + 1, s.j + 3⟩
  else some ⟨s.buf.set s.i (s.tok 0), s.i + 1, s.j + 1⟩

/-- At most `n` turns of the loop: fewer when it stops. -/
def run : Nat → UidDecode → UidDecode
  | 0, s => s
  | n + 1, s =>
    match s.step with
    | none => s
    | some s' => run n s'

/-- `userid = tok; i = 0` on a field `f` (without its terminator), which the line continues after
the terminator with `after`. -/
def start (f after : CStr) : UidDecode := ⟨f ++ '\x00' :: after, 0, 0⟩

/-! ## The invariant -/

/-- The loop invariant on a field `f`. -/
structure Inv (f after : CStr) (s : UidDecode) : Prop where
  i_le_j : s.i ≤ s.j
  j_le : s.j ≤ f.length
  length : s.buf.length = f.length + 1 + after.length
  /-- The bytes from `tok` on are still those of the line. -/
  unread : s.buf.drop s.j = f.drop s.j ++ '\x00' :: after
  /-- What has been written, then the decoding of what is left, is the decoding of `f`. -/
  decoded : s.buf.take s.i ++ percentDecode (f.drop s.j) = percentDecode f

lemma inv_start (f after : CStr) : (start f after).Inv f after :=
  ⟨le_rfl, Nat.zero_le _, by simp [start]; omega, rfl, rfl⟩

variable {f after : CStr} {s s' : UidDecode}

/-- Under the invariant, `tok[k]` reads the rest of the field, then its terminator. -/
lemma Inv.tok_eq (h : s.Inv f after) (k : Nat) :
    s.tok k = (f.drop s.j ++ '\x00' :: after).getD k '\x00' := by
  rw [tok, h.unread]

/-- Writing at `i` keeps the bytes from any later offset on, and extends what has been
written. -/
lemma set_write (h : s.Inv f after) {c : Char} {j' : Nat} (hj : s.i < j') :
    (s.buf.set s.i c).drop j' = s.buf.drop j' ∧
      (s.buf.set s.i c).take (s.i + 1) = s.buf.take s.i ++ [c] := by
  have hi : s.i < s.buf.length := by have := h.j_le; have := h.length; have := h.i_le_j; omega
  refine ⟨List.drop_set_of_lt _ _ hj, ?_⟩
  rw [List.set_eq_take_append_cons_drop, if_pos hi, List.take_append_eq_append_take]
  simp [Nat.min_eq_left hi.le]

lemma ne_nul_of_mem_drop (hf : '\x00' ∉ f) {j : Nat} {c : Char} (hc : c ∈ f.drop j) :
    c ≠ '\x00' :=
  fun h => hf (h ▸ List.mem_of_mem_drop hc)

/-- A turn that writes `x` and reads `n` bytes keeps the invariant, when `x` is what the
decoding of the rest starts with and the rest after those bytes decodes to the remainder. -/
lemma Inv.advance (h : s.Inv f after) {n : Nat} {x : Char} (hn : 0 < n)
    (hr : n ≤ (f.drop s.j).length)
    (hx : x :: percentDecode (f.drop (s.j + n)) = percentDecode (f.drop s.j)) :
    Inv f after ⟨s.buf.set s.i x, s.i + 1, s.j + n⟩ := by
  have hi := h.i_le_j
  obtain ⟨hdrop, htake⟩ := set_write h (c := x) (show s.i < s.j + n by omega)
  have hr' : n ≤ f.length - s.j := by simpa using hr
  refine ⟨show s.i + 1 ≤ s.j + n by omega, show s.j + n ≤ f.length by omega,
    by simpa using h.length, ?_, ?_⟩
  · rw [hdrop, ← List.drop_drop, h.unread, List.drop_append_of_le_length hr, List.drop_drop]
  · rw [htake, List.append_assoc, List.singleton_append, hx, h.decoded]

/-- **One turn.**  On a field without NUL, a turn keeps the invariant and moves `tok` on. -/
lemma Inv.step_some (hf : '\x00' ∉ f) (h : s.Inv f after) (hs : s.step = some s') :
    s'.Inv f after ∧ s.j < s'.j := by
  have hnul : ∀ c ∈ f.drop s.j, c ≠ '\x00' := fun _ => ne_nul_of_mem_drop hf
  have hdrop : ∀ k, f.drop (s.j + k) = (f.drop s.j).drop k := fun k => (List.drop_drop _ _ _).symm
  unfold step at hs
  simp only [h.tok_eq] at hs
  rcases hr : f.drop s.j with _ | ⟨c, _ | ⟨a, _ | ⟨b, r⟩⟩⟩ <;> rw [hr] at hs hnul hdrop
  · -- the terminator: the loop stops
    simp at hs
  all_goals
    have hc := hnul _ (List.mem_cons_self _ _)
    have hr1 : 1 ≤ (f.drop s.j).length := by simp [hr]
  · -- the last byte: copied
    simp only [List.singleton_append, List.getD_cons_zero, hc, if_false, List.getD_cons_succ,
      ne_eq, not_true_eq_false, and_false, false_and, Option.some.injEq] at hs
    subst hs
    refine ⟨h.advance Nat.one_pos hr1 ?_, Nat.lt_succ_self _⟩
    rw [hdrop 1, hr]
    exact (percentDecode_copy (by simp)).symm
  · -- one byte before the last: copied, `tok[2]` being the terminator
    simp only [List.cons_append, List.nil_append, List.getD_cons_zero, hc, if_false,
      List.getD_cons_succ, ne_eq, not_true_eq_false, and_false, false_and,
      Option.some.injEq] at hs
    subst hs
    refine ⟨h.advance Nat.one_pos hr1 ?_, Nat.lt_succ_self _⟩
    rw [hdrop 1, hr]
    exact (percentDecode_copy (by simp)).symm
  · have ha := hnul a (by simp)
    have hb := hnul b (by simp)
    by_cases hp : c = '%'
    · -- an escape: decoded, three bytes read
      subst hp
      simp only [List.cons_append, List.getD_cons_zero, hc, if_false, List.getD_cons_succ, ha,
        hb, ne_eq, not_false_eq_true, and_self, if_true, Option.some.injEq] at hs
      subst hs
      refine ⟨h.advance (by decide) (by simp [hr]) ?_, by simp⟩
      rw [hdrop 3, hr]
      exact (percentDecode_escape a b r).symm
    · -- any other byte: copied
      simp only [List.cons_append, List.getD_cons_zero, hc, hp, if_false, false_and,
        Option.some.injEq] at hs
      subst hs
      refine ⟨h.advance Nat.one_pos hr1 ?_, Nat.lt_succ_self _⟩
      rw [hdrop 1, hr]
      exact (percentDecode_copy (absurd · hp)).symm

/-- The loop stops exactly at the terminator. -/
lemma Inv.step_eq_none (hf : '\x00' ∉ f) (h : s.Inv f after) :
    s.step = none ↔ s.j = f.length := by
  have hj := h.j_le
  unfold step
  rw [h.tok_eq]
  rcases hr : f.drop s.j with _ | ⟨c, r⟩
  · have := List.drop_eq_nil_iff.mp hr
    simp only [List.nil_append, List.getD_cons_zero, if_true, true_iff]
    omega
  · have hc := ne_nul_of_mem_drop hf (hr ▸ List.mem_cons_self c r)
    have hlt : s.j < f.length := by
      have := congrArg List.length hr
      simp only [List.length_drop, List.length_cons] at this
      omega
    simp only [List.cons_append, List.getD_cons_zero, hc, if_false]
    split_ifs <;> simp <;> omega

/-- **The run.**  From a state with the invariant, every number of turns keeps it, and `n` turns
read at least `n` bytes of the field, or all of it. -/
lemma Inv.run (hf : '\x00' ∉ f) :
    ∀ (n : Nat) {s : UidDecode}, s.Inv f after →
      (s.run n).Inv f after ∧ min (s.j + n) f.length ≤ (s.run n).j
  | 0, s, h => ⟨h, by rw [UidDecode.run]; omega⟩
  | n + 1, s, h => by
    rcases hs : s.step with _ | s' <;> rw [UidDecode.run, hs] <;> dsimp only
    · have := (h.step_eq_none hf).mp hs
      exact ⟨h, by omega⟩
    · obtain ⟨h', hj⟩ := h.step_some hf hs
      obtain ⟨hr, hr'⟩ := Inv.run hf n h'
      exact ⟨hr, by omega⟩

end UidDecode

/-- **The in-place decoder.**  On a `uid:` field `f` without NUL, followed by its terminator and
any bytes `after`: at every turn the write index is at most the read offset and the bytes from the
read offset on are still the field's, so no write lands on a byte still to be read; after at most
`strlen (tok)` turns the loop has stopped, with `i <= strlen (tok)` and `userid[0..i)` equal to
the out-of-place decoding `percentDecode f`. -/
theorem uidDecode_inPlace (f after : CStr) (hf : '\x00' ∉ f) :
    (∀ n, let s := (UidDecode.start f after).run n
      s.i ≤ s.j ∧ s.buf.drop s.j = f.drop s.j ++ '\x00' :: after) ∧
    let s := (UidDecode.start f after).run f.length
    s.step = none ∧ s.i ≤ f.length ∧ s.buf.take s.i = percentDecode f := by
  have hrun := fun n => (UidDecode.inv_start f after).run hf n
  refine ⟨fun n => ⟨(hrun n).1.i_le_j, (hrun n).1.unread⟩, ?_⟩
  obtain ⟨h, hj⟩ := hrun f.length
  have hend : ((UidDecode.start f after).run f.length).j = f.length := by
    have := h.j_le
    rw [show (UidDecode.start f after).j = 0 from rfl, Nat.zero_add, min_self] at hj
    omega
  refine ⟨(h.step_eq_none hf).mpr hend, by have := h.i_le_j; omega, ?_⟩
  simpa [hend] using h.decoded

/-- The field `a%41%4`: the escape `%41` becomes `A`, and the `%4` cut short by the terminator is
copied. -/
theorem uidDecode_inPlace_cutEscape :
    let s := (UidDecode.start "a%41%4".toList []).run 6
    s.step = none ∧ s.buf.take s.i = "aA%4".toList :=
  have h := (uidDecode_inPlace "a%41%4".toList [] (by decide)).2
  ⟨h.1, h.2.2.trans (by decide)⟩

end NeoPG
